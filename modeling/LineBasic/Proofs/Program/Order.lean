import LineBasic.Program.Record

/-!
The lines of a program are in ascending order, whatever way they came in.
-/
namespace LineBasic.Listing

variable {p p' : Listing}

def Ascending (lines : List Line) : Prop := lines.Pairwise fun a b => a.number < b.number

def ofLines (lines : List Line) (modified : Bool) : Listing := ⟨lines, lines.length, modified, rfl⟩

@[simp] theorem ofLinesLines (lines : List Line) (modified : Bool) :
    (ofLines lines modified).lines = lines := rfl

theorem sameLines {q : Listing} (lines : p.lines = q.lines) (modified : p.modified = q.modified) :
    p = q := by
  obtain ⟨_, _, _, counted⟩ := p
  obtain ⟨_, _, _, counted'⟩ := q
  cases lines
  cases modified
  cases counted.trans counted'.symm
  rfl

theorem sizeLength (p : Listing) : p.size = p.lines.length := p.counted

theorem sizeZero : p.size = 0 ↔ p.lines = [] := by
  rw [sizeLength, List.length_eq_zero_iff]

section Lines

variable {l m : Line} {lines : List Line}

theorem insertLineMember : m ∈ insertLine l lines ↔ m = l ∨ m ∈ lines := by
  induction lines with
  | nil => simp [insertLine]
  | cons k rest ih =>
      unfold insertLine
      split
      · exact List.mem_cons
      · rw [List.mem_cons, ih, List.mem_cons, or_left_comm]

theorem insertLineAscending (ordered : Ascending lines) (new : ∀ k ∈ lines, k.number ≠ l.number) :
    Ascending (insertLine l lines) := by
  induction lines with
  | nil => exact List.pairwise_singleton _ l
  | cons k rest ih =>
      obtain ⟨above, tail⟩ := List.pairwise_cons.mp ordered
      have apart := new k (by simp)
      unfold insertLine
      split
      · rename_i below
        refine List.pairwise_cons.mpr ⟨fun m member => ?_, ordered⟩
        rcases List.mem_cons.mp member with rfl | inside
        · exact below
        · exact Int.lt_trans below (above m inside)
      · have later := ih tail fun k inside => new k (by simp [inside])
        refine List.pairwise_cons.mpr ⟨fun m member => ?_, later⟩
        rcases insertLineMember.mp member with rfl | inside
        · omega
        · exact above m inside

theorem replaceLineNumbers : (replaceLine l lines).map Line.number = lines.map Line.number := by
  induction lines with
  | nil => rfl
  | cons k rest ih =>
      unfold replaceLine
      split
      · rename_i same
        rw [List.map_cons, List.map_cons, same]
      · rw [List.map_cons, List.map_cons, ih]

theorem ascendingNumbers : Ascending lines ↔ (lines.map Line.number).Pairwise (· < ·) :=
  List.pairwise_map.symm

theorem replaceLineMember (member : m ∈ replaceLine l lines) : m = l ∨ m ∈ lines := by
  induction lines with
  | nil => cases member
  | cons k rest ih =>
      unfold replaceLine at member
      split at member
      · rcases List.mem_cons.mp member with rfl | inside
        · exact .inl rfl
        · exact .inr (by simp [inside])
      · rcases List.mem_cons.mp member with rfl | inside
        · exact .inr (by simp)
        · rcases ih inside with rfl | old
          · exact .inl rfl
          · exact .inr (by simp [old])

theorem replaceLineExact (ordered : Ascending lines) (there : ∃ k ∈ lines, k.number = l.number) :
    m ∈ replaceLine l lines ↔ m = l ∨ (m ∈ lines ∧ m.number ≠ l.number) := by
  induction lines with
  | nil =>
      obtain ⟨_, member, _⟩ := there
      cases member
  | cons k rest ih =>
      obtain ⟨above, tail⟩ := List.pairwise_cons.mp ordered
      unfold replaceLine
      split
      · rename_i same
        have others : m ∈ rest → m.number ≠ l.number := by
          intro inside
          have next := above m inside
          omega
        rw [List.mem_cons, List.mem_cons]
        refine or_congr_right ⟨fun inside => ⟨.inr inside, others inside⟩, ?_⟩
        rintro ⟨rfl | inside, apart⟩
        · exact absurd same apart
        · exact inside
      · rename_i apart
        have later : ∃ k ∈ rest, k.number = l.number := by
          obtain ⟨k', member, same⟩ := there
          rcases List.mem_cons.mp member with rfl | inside
          · exact absurd same apart
          · exact ⟨k', inside, same⟩
        rw [List.mem_cons, ih tail later, List.mem_cons]
        constructor
        · rintro (rfl | rfl | ⟨inside, other⟩)
          · exact .inr ⟨.inl rfl, apart⟩
          · exact .inl rfl
          · exact .inr ⟨.inr inside, other⟩
        · rintro (rfl | ⟨rfl | inside, other⟩)
          · exact .inr (.inl rfl)
          · exact .inl rfl
          · exact .inr (.inr ⟨inside, other⟩)

end Lines

section Changes

variable {l m : Line} {n : Int}

theorem hasLine : p.has n = true ↔ ∃ l ∈ p.lines, l.number = n := by
  simp [has]

theorem hasNoLine (absent : ¬ p.has n = true) : ∀ l ∈ p.lines, l.number ≠ n := by
  intro l member same
  exact absent (hasLine.mpr ⟨l, member, same⟩)

@[simp] theorem putModified : (p.put l).modified = true := by
  unfold put
  split <;> rfl

theorem putLines {q : Listing} (same : p.lines = q.lines) : (p.put l).lines = (q.put l).lines := by
  have there : p.has l.number = q.has l.number := by simp only [has, same]
  unfold put
  rw [there]
  split
  · exact congrArg (replaceLine l) same
  · exact congrArg (insertLine l) same

theorem putMember (member : m ∈ (p.put l).lines) : m = l ∨ m ∈ p.lines := by
  unfold put at member
  split at member
  · exact replaceLineMember member
  · exact insertLineMember.mp member

theorem putExact (ordered : Ascending p.lines) :
    m ∈ (p.put l).lines ↔ m = l ∨ (m ∈ p.lines ∧ m.number ≠ l.number) := by
  unfold put
  split
  · rename_i found
    exact replaceLineExact ordered (hasLine.mp found)
  · rename_i absent
    have others := hasNoLine absent
    rw [insertLineMember]
    exact or_congr_right ⟨fun inside => ⟨inside, others m inside⟩, fun inside => inside.1⟩

theorem putAscending (ordered : Ascending p.lines) : Ascending (p.put l).lines := by
  unfold put
  split
  · rw [ascendingNumbers, replaceLineNumbers]
    exact ascendingNumbers.mp ordered
  · rename_i absent
    exact insertLineAscending ordered (hasNoLine absent)

theorem deleteSublist (p : Listing) (n : Int) : (p.delete n).2.lines.Sublist p.lines := by
  unfold delete
  split
  · exact List.eraseP_sublist
  · exact List.Sublist.refl _

theorem deleteAscending (n : Int) (ordered : Ascending p.lines) :
    Ascending (p.delete n).2.lines :=
  ordered.sublist (deleteSublist p n)

theorem eraseFirst {lines : List Line} (ordered : Ascending lines) :
    (lines.eraseP fun l => l.number == n) = lines.filter fun l => l.number != n := by
  induction lines with
  | nil => rfl
  | cons k rest ih =>
      obtain ⟨above, tail⟩ := List.pairwise_cons.mp ordered
      by_cases same : k.number = n
      · have others : ∀ l ∈ rest, l.number ≠ n := by
          intro l inside
          have next := above l inside
          omega
        have kept : rest.filter (fun l => l.number != n) = rest :=
          List.filter_eq_self.mpr fun l inside => by simpa using others l inside
        simp [same, kept]
      · simp [same, ih tail]

theorem deleteLines (ordered : Ascending p.lines) (n : Int) :
    (p.delete n).2.lines = p.lines.filter fun l => l.number != n := by
  unfold delete
  split
  · exact eraseFirst ordered
  · rename_i absent
    have others := hasNoLine absent
    exact (List.filter_eq_self.mpr fun l member => by simpa using others l member).symm

theorem deleteExact (ordered : Ascending p.lines) :
    l ∈ (p.delete n).2.lines ↔ l ∈ p.lines ∧ l.number ≠ n := by
  rw [deleteLines ordered]
  simp

@[simp] theorem deleteAllCons (l : Line) (rest : List Line) :
    p.deleteAll (l :: rest) = (p.delete l.number).2.deleteAll rest := rfl

theorem deleteAllAscending (ls : List Line) (ordered : Ascending p.lines) :
    Ascending (p.deleteAll ls).lines := by
  induction ls generalizing p with
  | nil => exact ordered
  | cons l rest ih => exact ih (deleteAscending _ ordered)

@[simp] theorem deleteFound (p : Listing) (n : Int) : (p.delete n).1 = p.has n := by
  unfold delete
  split
  · rename_i found
    exact found.symm
  · rename_i absent
    exact (Bool.eq_false_iff.mpr absent).symm

theorem deleteNothing (absent : p.has n = false) : p.delete n = (false, p) := by
  unfold delete
  rw [dif_neg (by simp [absent])]

@[simp] theorem deleteModified (p : Listing) (n : Int) :
    (p.delete n).2.modified = (p.has n || p.modified) := by
  unfold delete
  split
  · rename_i found
    rw [found, Bool.true_or]
  · rename_i absent
    rw [Bool.eq_false_iff.mpr absent, Bool.false_or]

theorem setAscending {text : String} (ok : p.set n text = .ok p') (ordered : Ascending p.lines) :
    Ascending p'.lines := by
  unfold set at ok
  simp only at ok
  split at ok
  · cases ok
  · split at ok <;> cases ok
    · exact deleteAscending n ordered
    · exact putAscending ordered

end Changes

theorem addRecordsAscending {n : Nat} {records : List String}
    (ok : p.addRecords n records = .ok p') (ordered : Ascending p.lines) : Ascending p'.lines := by
  induction records generalizing p n with
  | nil =>
      cases ok
      exact ordered
  | cons r rest ih =>
      rw [addRecords] at ok
      split at ok
      · cases ok
      · split at ok
        · exact ih ok ordered
        · split at ok
          · cases ok
          · split at ok
            · exact ih ok ordered
            · split at ok
              · cases ok
              · rename_i q stored
                exact ih ok (setAscending stored ordered)

theorem loadAscending {text : String} (ok : load text = .ok p) : Ascending p.lines := by
  unfold load at ok
  cases added : empty.addRecords 1 (records text) with
  | error f =>
      rw [added] at ok
      cases ok
  | ok q =>
      rw [added] at ok
      cases ok
      have ordered : Ascending q.lines := addRecordsAscending (p := empty) added List.Pairwise.nil
      exact ordered

end LineBasic.Listing
