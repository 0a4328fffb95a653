import LineBasic.Proofs.Program.Records

/-!
A program that is saved and loaded again. Its lines come back as they were, as long as each of them
is written in fewer bytes than a record may have; one that is written in more cannot be loaded.
-/
namespace LineBasic

open Text

/- A line as every program has it: a positive number of 64 bits and a text without white space at
its ends. -/
structure Line.Sound (l : Line) : Prop where
  positive : 0 < l.number
  fits : l.number ≤ maxInteger
  trimmed : Trimmed l.text.toList
  nonempty : l.text ≠ ""

namespace Listing

variable {p q : Listing} {l : Line} {ls lines : List Line} {k : Nat}

/- The programs there are: a new or a cleared one, one in which a line is set or deleted, and one
that is loaded. Line numbers have 64 bits. -/
inductive Edited : Listing → Prop where
  | new : Edited empty
  | set {p q : Listing} {n : Int64} {text : String} (before : Edited p)
      (done : p.set n.toInt text = .ok q) : Edited q
  | delete {p : Listing} (n : Int64) (before : Edited p) : Edited (p.delete n.toInt).2
  | load {p : Listing} {text : String} (done : load text = .ok p) : Edited p

section Soundness

theorem setSound {n : Int64} {text : String} (done : p.set n.toInt text = .ok q)
    (sound : ∀ l ∈ p.lines, l.Sound) : ∀ l ∈ q.lines, l.Sound := by
  intro l member
  unfold set at done
  simp only at done
  split at done
  · cases done
  · rename_i positive
    split at done <;> cases done
    · exact sound l ((deleteSublist p n.toInt).subset member)
    · rename_i solid
      rcases putMember member with rfl | old
      · have small : n.toInt ≤ maxInteger := n.toInt_le
        refine ⟨Int.not_le.mp positive, small, ?_, by simpa using solid⟩
        rw [trim, String.toList_ofList]
        exact trimTrimmed _
      · exact sound l old

theorem addRecordsSound {rs : List String} (ok : p.addRecords k rs = .ok q)
    (sound : ∀ l ∈ p.lines, l.Sound) : ∀ l ∈ q.lines, l.Sound := by
  induction rs generalizing p k with
  | nil =>
      cases ok
      exact sound
  | cons r rs ih =>
      rcases Nat.lt_or_ge r.utf8ByteSize recordLimit with short | long
      · rcases recordKinds r with silent | ⟨n, t, numbered, nonempty⟩ | bad
        · rw [addSilent short silent] at ok
          exact ih ok sound
        · rw [addLine short numbered nonempty] at ok
          obtain ⟨positive, fits, trimmed, _⟩ := numbered.facts
          refine ih ok fun l member => ?_
          rcases putMember member with rfl | old
          · exact ⟨positive, fits, trimmed, nonempty⟩
          · exact sound l old
        · obtain ⟨shown, refused⟩ : ∃ shown, p.addRecords k (r :: rs) = _ := addBad short bad
          rw [refused] at ok
          cases ok
      · rw [addLong long] at ok
        cases ok

theorem loadSound {text : String} (done : load text = .ok p) : ∀ l ∈ p.lines, l.Sound := by
  obtain ⟨q, added, rfl⟩ := loadAdded done
  exact addRecordsSound (p := empty) (q := q) added (by simp [empty])

theorem Edited.sound (edited : Edited p) : ∀ l ∈ p.lines, l.Sound := by
  induction edited with
  | new => simp [empty]
  | set before done ih => exact setSound done ih
  | delete n before ih => exact fun l member => ih l ((deleteSublist _ n.toInt).subset member)
  | load done => exact loadSound done

theorem Edited.ascending (edited : Edited p) : Ascending p.lines := by
  induction edited with
  | new => exact List.Pairwise.nil
  | set before done ih => exact setAscending done ih
  | delete n before ih => exact deleteAscending n.toInt ih
  | load done => exact loadAscending done

end Soundness

section Writing

theorem shownNumbered (sound : l.Sound) : Numbered l.shown l.number l.text := by
  have whole : l.shown.toList = [] ++ (toString l.number).toList ++ ' ' :: l.text.toList := by
    simp [Line.shown]
  have value := writtenValue sound.positive
  have text : String.ofList (trimChars (' ' :: l.text.toList)) = l.text := by
    have blank : Blank [' '] := by simp [Blank, isSpace]
    rw [← List.singleton_append, trimAfter blank, trimSame sound.trimmed, String.ofList_toList]
  have numbered := Numbered.mk whole (by simp [Blank]) (writtenNonempty sound.positive)
    (writtenAllDigits sound.positive) (by simp) (by have := sound.positive; omega)
    (by rw [value]; exact sound.fits)
  rw [value, text] at numbered
  exact numbered

theorem shownPlain (sound : l.Sound) (plain : '\n' ∉ l.text.toList) : '\n' ∉ l.shown.toList := by
  have digits : '\n' ∉ (toString l.number).toList := by
    intro member
    cases writtenAllDigits sound.positive _ member
  rw [Line.shown, String.toList_append, String.toList_append]
  simp only [List.mem_append, not_or]
  exact ⟨⟨digits, by decide⟩, plain⟩

theorem recordsSaved (plain : ∀ l ∈ ls, '\n' ∉ l.shown.toList) :
    recordsOf (String.join (ls.map fun l => l.shown ++ "\n")) = ls.map Line.shown ++ [""] := by
  induction ls with
  | nil => rfl
  | cons l ls ih =>
      obtain ⟨first, others⟩ := List.forall_mem_cons.mp plain
      have rest := ih others
      rw [recordsOf] at rest ⊢
      have whole : (String.join ((l :: ls).map fun l => l.shown ++ "\n")).toList =
          l.shown.toList ++ '\n' :: (String.join (ls.map fun l => l.shown ++ "\n")).toList := by
        simp [String.toList_join]
      rw [whole, List.splitOn_append_cons_self_of_not_mem first, List.map_cons, rest]
      simp

end Writing

section Reading

theorem putLast (below : ∀ m ∈ p.lines, m.number < l.number) :
    (p.put l).lines = p.lines ++ [l] := by
  have last : ∀ {lines : List Line}, (∀ m ∈ lines, m.number < l.number) →
      insertLine l lines = lines ++ [l] := by
    intro lines below
    induction lines with
    | nil => rfl
    | cons m rest ih =>
        obtain ⟨first, others⟩ := List.forall_mem_cons.mp below
        rw [insertLine, if_neg (by omega), ih others]
        rfl
  have absent : ¬ p.has l.number = true := by
    rw [hasLine]
    rintro ⟨m, member, same⟩
    have lower := below m member
    omega
  unfold put
  rw [if_neg absent]
  exact last below

theorem addSaved (sound : ∀ l ∈ ls, l.Sound) (ordered : Ascending (p.lines ++ ls))
    (short : ∀ l ∈ ls, l.shown.utf8ByteSize < recordLimit) :
    ∃ q, p.addRecords k (ls.map Line.shown) = .ok q ∧ q.lines = p.lines ++ ls := by
  induction ls generalizing p k with
  | nil => exact ⟨p, rfl, by simp⟩
  | cons l ls ih =>
      obtain ⟨first, others⟩ := List.forall_mem_cons.mp sound
      have last : (p.put l).lines = p.lines ++ [l] :=
        putLast fun m member => (List.pairwise_append.mp ordered).2.2 m member l (by simp)
      rw [← List.singleton_append, ← List.append_assoc, ← last] at ordered
      obtain ⟨q, added, same⟩ := @ih (p.put l) (k + 1) others ordered
        (List.forall_mem_cons.mp short).2
      refine ⟨q, ?_, by simp [same, last]⟩
      rw [List.map_cons, addLine (short l (by simp)) (shownNumbered first) first.nonempty]
      exact added

theorem addSavedLong (sound : ∀ l ∈ ls, l.Sound)
    (long : ∃ l ∈ ls, recordLimit ≤ l.shown.utf8ByteSize) :
    p.addRecords k (ls.map Line.shown) = .error .recordTooLong := by
  induction ls generalizing p k with
  | nil => simp at long
  | cons l ls ih =>
      obtain ⟨first, others⟩ := List.forall_mem_cons.mp sound
      rw [List.map_cons]
      by_cases here : recordLimit ≤ l.shown.utf8ByteSize
      · exact addLong here
      · have later : ∃ m ∈ ls, recordLimit ≤ m.shown.utf8ByteSize := by
          simpa [here] using long
        rw [addLine (Nat.not_le.mp here) (shownNumbered first) first.nonempty]
        exact ih others later

end Reading

theorem savedProgramLoads (edited : Edited p) (plain : ∀ l ∈ p.lines, '\n' ∉ l.text.toList) :
    ((∀ l ∈ p.lines, l.shown.utf8ByteSize ≤ 65535) → load p.save = .ok p.saved) ∧
      ((∃ l ∈ p.lines, 65535 < l.shown.utf8ByteSize) → load p.save = .error .recordTooLong) := by
  have sound := edited.sound
  have read : load p.save = (empty.addRecords 1 (p.lines.map Line.shown)).map saved := by
    rw [loadRecords, save,
      recordsSaved fun l member => shownPlain (sound l member) (plain l member), addRecordsEmpty]
  rw [read]
  constructor
  · intro short
    obtain ⟨q, added, same⟩ := addSaved (p := empty) (k := 1) sound edited.ascending
      fun l member => Nat.lt_succ_of_le (short l member)
    rw [added]
    exact congrArg Except.ok (sameLines same rfl)
  · intro long
    rw [addSavedLong sound long]
    rfl

def wide (n : Nat) : Listing := ofLines [⟨1, String.ofList (List.replicate n 'A')⟩] true

theorem wideSize (n : Nat) : ∀ l ∈ (wide n).lines, l.shown.utf8ByteSize = n + 2 := by
  have letters : (String.ofList (List.replicate n 'A')).utf8ByteSize = n := by
    induction n with
    | zero => rfl
    | succ n ih =>
        have one : (String.singleton 'A').utf8ByteSize = 1 := by decide
        rw [List.replicate_succ, String.ofList_cons, String.utf8ByteSize_append, ih, one,
          Nat.add_comm]
  intro l member
  rw [List.mem_singleton.mp member, Line.shown, String.utf8ByteSize_append, letters, Nat.add_comm]
  rfl

theorem wideEdited {n : Nat} (positive : 0 < n) : Edited (wide n) := by
  have trimmed : Trimmed (String.ofList (List.replicate n 'A')).toList := by
    rw [String.toList_ofList]
    constructor
    · intro c first
      rw [List.eq_of_mem_replicate (List.mem_of_head? first)]
      rfl
    · intro c last
      rw [List.eq_of_mem_replicate (List.mem_of_getLast? last)]
      rfl
  have nonempty : String.ofList (List.replicate n 'A') ≠ "" := by
    intro same
    have long := congrArg String.length same
    simp at long
    omega
  exact .set (n := 1) .new (setTrimmed (n := 1) (by decide) trimmed nonempty)

theorem widePlain (n : Nat) : ∀ l ∈ (wide n).lines, '\n' ∉ l.text.toList := by
  intro l member
  rw [List.mem_singleton.mp member, String.toList_ofList]
  intro newline
  cases List.eq_of_mem_replicate newline

theorem widestProgramLoads :
    load (wide 65533).save = .ok (wide 65533).saved ∧
      load (wide 65534).save = .error .recordTooLong := by
  constructor
  · refine (savedProgramLoads (wideEdited (by decide)) (widePlain 65533)).1 ?_
    intro l member
    rw [wideSize 65533 l member]
  · have member : ⟨1, String.ofList (List.replicate 65534 'A')⟩ ∈ (wide 65534).lines :=
      List.mem_singleton.mpr rfl
    refine (savedProgramLoads (wideEdited (by decide)) (widePlain 65534)).2 ⟨_, member, ?_⟩
    rw [wideSize 65534 _ member]
    decide

end Listing

end LineBasic
