import Mathlib.Data.List.Dedup
import Mathlib.Data.List.Sort
import LineBasic.Proofs.Program.Records

/-!
A program as an ordered map from line numbers to texts. Whatever has been set, deleted and cleared,
a line is there exactly if the last edit about its number set it to a text. So edits of different
lines can be made in any order.
-/
namespace LineBasic.Listing

open Text

inductive Edit where
  | set (number : Int) (text : String)
  | delete (number : Int)
  | clear
  deriving DecidableEq, Repr

def attempt (p : Listing) : Edit → Except LineNumberFault Listing
  | .set n text => p.set n text
  | .delete n => .ok (p.delete n).2
  | .clear => .ok .empty

def edit (p : Listing) (e : Edit) : Listing :=
  match p.attempt e with
  | .ok changed => changed
  | .error _ => p

def replay : List Edit → Listing
  | [] => .empty
  | e :: past => (replay past).edit e

section Spec

def Edit.number? : Edit → Option Int
  | .set n _ => some n
  | .delete n => some n
  | .clear => none

def Edit.concerns (n : Int) (e : Edit) : Bool := e.number?.all (· == n)

def Edit.leaves? : Edit → Option String
  | .set n text => if 0 < n ∧ isBlank text = false then some (trim text) else none
  | _ => none

def lastEdit (n : Int) (past : List Edit) : Option Edit := past.find? (Edit.concerns n)

def lastText (n : Int) (past : List Edit) : Option String := (lastEdit n past).bind Edit.leaves?

def linesLeft (past : List Edit) : Nat :=
  ((past.filterMap Edit.number?).dedup.filter fun n => (lastText n past).isSome).length

structure Reflects (p : Listing) (past : List Edit) : Prop where
  ascending : Ascending p.lines
  sound : ∀ l ∈ p.lines, 0 < l.number ∧ l.text ≠ "" ∧ Trimmed l.text.toList
  size : p.size = p.lines.length
  counter : p.size = linesLeft past
  member (n : Int) (t : String) : (⟨n, t⟩ : Line) ∈ p.lines ↔ lastText n past = some t
  lookup (n : Int) : p.lookup? n = lastText n past
  present (n : Int) : p.has n = (lastText n past).isSome
  deleted (n : Int) : (p.delete n).1 = (lastText n past).isSome
  bounds : p.lines = [] ∧ p.bounds = (0, 0) ∨
    ∃ first last, p.lines.head? = some first ∧ p.lines.getLast? = some last ∧
      p.bounds = (first.number, last.number) ∧
      ∀ l ∈ p.lines, first.number ≤ l.number ∧ l.number ≤ last.number
  between (low high : Int) : Ascending (p.between low high) ∧
    ∀ l, l ∈ p.between low high ↔ l ∈ p.lines ∧ low ≤ l.number ∧ l.number ≤ high
  -- a walk may stop at the first line above the range
  walked (low high : Int) : p.between low high =
    (p.lines.takeWhile fun l => l.number ≤ high).filter fun l => low ≤ l.number

end Spec

section Orders

variable {lines others : List Line} {low high : Int}

theorem ascendingSame (ordered : Ascending lines) (ordered' : Ascending others)
    (same : ∀ n t, (⟨n, t⟩ : Line) ∈ lines ↔ (⟨n, t⟩ : Line) ∈ others) : lines = others := by
  have irrefl : Std.Irrefl fun a b : Line => a.number < b.number := ⟨fun _ => Int.lt_irrefl _⟩
  have antisymm : Std.Antisymm fun a b : Line => a.number < b.number :=
    ⟨fun _ _ below above => absurd above (Int.lt_asymm below)⟩
  exact ordered.eq_of_mem_iff ordered' fun l => same l.number l.text

theorem ascendingUnique {l m : Line} (ordered : Ascending lines) (left : l ∈ lines)
    (right : m ∈ lines) (same : l.number = m.number) : l = m := by
  induction lines with
  | nil => cases left
  | cons k rest ih =>
      obtain ⟨above, tail⟩ := List.pairwise_cons.mp ordered
      rcases List.mem_cons.mp left with rfl | before
      · rcases List.mem_cons.mp right with rfl | after
        · rfl
        · have next := above m after
          omega
      · rcases List.mem_cons.mp right with rfl | after
        · have next := above l before
          omega
        · exact ih tail before after

theorem headLeast {first : Line} (ordered : Ascending lines) (head : lines.head? = some first) :
    ∀ l ∈ lines, first.number ≤ l.number := by
  cases lines with
  | nil => cases head
  | cons m rest =>
      cases head
      intro l member
      rcases List.mem_cons.mp member with rfl | inside
      · exact Int.le_refl _
      · exact Int.le_of_lt ((List.pairwise_cons.mp ordered).1 l inside)

theorem lastGreatest {last : Line} (ordered : Ascending lines)
    (found : lines.getLast? = some last) : ∀ l ∈ lines, l.number ≤ last.number := by
  obtain ⟨before, rfl⟩ := List.getLast?_eq_some_iff.mp found
  intro l member
  rcases List.mem_append.mp member with inside | here
  · exact Int.le_of_lt ((List.pairwise_append.mp ordered).2.2 l inside last (by simp))
  · rw [List.mem_singleton.mp here]

theorem takeUpTo (ordered : Ascending lines) :
    (lines.takeWhile fun l => l.number ≤ high) = lines.filter fun l => l.number ≤ high := by
  induction lines with
  | nil => rfl
  | cons l rest ih =>
      obtain ⟨above, tail⟩ := List.pairwise_cons.mp ordered
      by_cases within : l.number ≤ high
      · simp [within, ih tail]
      · have nothing : ∀ m ∈ rest, ¬ m.number ≤ high := by
          intro m member
          have next := above m member
          omega
        simpa [within] using nothing

end Orders

section Operations

variable {p : Listing} {n k : Int} {t text : String} {l : Line} {e : Edit}

theorem trimEmpty (text : String) : (trim text).isEmpty = isBlank text := by
  rw [Bool.eq_iff_iff, String.isEmpty_iff, trim, ← String.toList_eq_nil_iff, String.toList_ofList,
    trimBlank, isBlank, List.all_eq_true]
  rfl

theorem setKinds (p : Listing) (n : Int) (text : String) :
    n ≤ 0 ∧ p.set n text = .error (.number n) ∨
      0 < n ∧ isBlank text = true ∧ p.set n text = .ok (p.delete n).2 ∨
        0 < n ∧ isBlank text = false ∧ p.set n text = .ok (p.put ⟨n, trim text⟩) := by
  unfold set
  simp only [trimEmpty]
  by_cases positive : n ≤ 0
  · exact .inl ⟨positive, if_pos positive⟩
  · rw [if_neg positive]
    cases blank : isBlank text with
    | true => exact .inr (.inl ⟨Int.not_le.mp positive, rfl, if_pos rfl⟩)
    | false => exact .inr (.inr ⟨Int.not_le.mp positive, rfl, if_neg nofun⟩)

theorem hasExact : p.has n = true ↔ ∃ t, (⟨n, t⟩ : Line) ∈ p.lines := by
  unfold has
  rw [List.any_eq_true]
  constructor
  · rintro ⟨l, member, same⟩
    have number : l.number = n := by simpa using same
    exact ⟨l.text, number ▸ member⟩
  · rintro ⟨t, member⟩
    exact ⟨_, member, by simp⟩

theorem lookupExact (ordered : Ascending p.lines) :
    p.lookup? n = some t ↔ (⟨n, t⟩ : Line) ∈ p.lines := by
  unfold lookup?
  rw [Option.map_eq_some_iff]
  constructor
  · rintro ⟨l, found, rfl⟩
    have number : l.number = n := by simpa using List.find?_some found
    exact number ▸ List.mem_of_find?_eq_some found
  · intro member
    cases found : p.lines.find? fun l => l.number == n with
    | none =>
        have absent := List.find?_eq_none.mp found _ member
        simp at absent
    | some l =>
        have number : l.number = n := by simpa using List.find?_some found
        have same : l = ⟨n, t⟩ :=
          ascendingUnique ordered (List.mem_of_find?_eq_some found) member number
        exact ⟨l, rfl, by rw [same]⟩

theorem boundsExact (ordered : Ascending p.lines) :
    p.lines = [] ∧ p.bounds = (0, 0) ∨
      ∃ first last, p.lines.head? = some first ∧ p.lines.getLast? = some last ∧
        p.bounds = (first.number, last.number) ∧
        ∀ l ∈ p.lines, first.number ≤ l.number ∧ l.number ≤ last.number := by
  unfold bounds
  cases head : p.lines.head? with
  | none =>
      have empty := List.head?_eq_none_iff.mp head
      exact .inl ⟨empty, rfl⟩
  | some first =>
      have nonempty : p.lines ≠ [] := fun empty => by simp [empty] at head
      have final := List.getLast?_eq_some_getLast nonempty
      rw [final]
      exact .inr ⟨first, _, rfl, rfl, rfl,
        fun l member => ⟨headLeast ordered head l member, lastGreatest ordered final l member⟩⟩

theorem betweenExact (low high : Int) :
    l ∈ p.between low high ↔ l ∈ p.lines ∧ low ≤ l.number ∧ l.number ≤ high := by
  simp [between]

theorem betweenWalked (ordered : Ascending p.lines) (low high : Int) :
    p.between low high =
      (p.lines.takeWhile fun l => l.number ≤ high).filter fun l => low ≤ l.number := by
  rw [takeUpTo ordered, List.filter_filter]
  rfl

theorem deleteAllLines (ls : List Line) (p : Listing) (ordered : Ascending p.lines) :
    (p.deleteAll ls).lines = p.lines.filter fun m => ls.all fun l => m.number != l.number := by
  induction ls generalizing p with
  | nil => simp [deleteAll]
  | cons l ls ih =>
      rw [deleteAllCons, ih _ (deleteAscending _ ordered), deleteLines ordered, List.filter_filter]
      simp only [List.all_cons, Bool.and_comm]

theorem deleteAllModified (ls : List Line) (changed : p.modified = true) :
    (p.deleteAll ls).modified = true := by
  induction ls generalizing p with
  | nil => exact changed
  | cons l ls ih => exact ih (by rw [deleteModified, changed, Bool.or_true])

theorem deleteBetweenModified {low high : Int} (found : p.between low high ≠ []) :
    (p.deleteAll (p.between low high)).modified = true := by
  obtain ⟨l, rest, whole⟩ := List.exists_cons_of_ne_nil found
  have member : l ∈ p.lines := ((betweenExact low high).mp (by rw [whole]; simp)).1
  have here : p.has l.number = true := hasExact.mpr ⟨l.text, member⟩
  rw [whole, deleteAllCons]
  exact deleteAllModified rest (by rw [deleteModified, here, Bool.true_or])

theorem deleteBetween {low high : Int} (ordered : Ascending p.lines)
    (found : p.between low high ≠ []) :
    p.deleteAll (p.between low high) =
      ofLines (p.lines.filter fun l => !(low ≤ l.number && l.number ≤ high)) true := by
  have outside : (p.lines.filter fun m => (p.between low high).all fun l => m.number != l.number) =
      p.lines.filter fun l => !(low ≤ l.number && l.number ≤ high) := by
    apply List.filter_congr
    intro m member
    rw [Bool.eq_iff_iff, List.all_eq_true]
    constructor
    · intro apart
      rw [Bool.not_eq_true']
      by_contra inside
      have here := apart m (List.mem_filter.mpr ⟨member, by simpa using inside⟩)
      simp at here
    · intro outside l found
      obtain ⟨_, inside⟩ := betweenExact low high |>.mp found
      by_contra same
      have number : m.number = l.number := by simpa using same
      simp [number, inside] at outside
  refine sameLines ?_ (deleteBetweenModified found)
  rw [deleteAllLines _ p ordered, outside]
  rfl

end Operations

section Edits

variable {p : Listing} {n k : Int} {t text : String} {e : Edit} {past : List Edit}

theorem lastTextStep :
    lastText n (e :: past) = if e.concerns n then e.leaves? else lastText n past := by
  unfold lastText lastEdit
  rw [List.find?_cons]
  cases e.concerns n <;> rfl

theorem lastTextSound (last : lastText n past = some t) :
    0 < n ∧ t ≠ "" ∧ Trimmed t.toList := by
  induction past with
  | nil => cases last
  | cons e past ih =>
      rw [lastTextStep] at last
      split at last
      · rename_i about
        cases e with
        | set k text =>
            have same : k = n := by simpa [Edit.concerns, Edit.number?] using about
            simp only [Edit.leaves?] at last
            split at last <;> cases last
            rename_i good
            have solid : (trim text).isEmpty = false := (trimEmpty text).trans good.2
            rw [trim, String.toList_ofList]
            exact ⟨same ▸ good.1, by simpa [trim] using solid, trimTrimmed _⟩
        | delete k => cases last
        | clear => cases last
      · exact ih last

theorem editAscending (ordered : Ascending p.lines) : Ascending (p.edit e).lines := by
  cases e with
  | set k text =>
      simp only [edit, attempt]
      cases stored : p.set k text with
      | ok changed => exact setAscending stored ordered
      | error f => exact ordered
  | delete k => exact deleteAscending k ordered
  | clear => exact List.Pairwise.nil

theorem editMember (ordered : Ascending p.lines) (positive : ∀ l ∈ p.lines, 0 < l.number) :
    (⟨n, t⟩ : Line) ∈ (p.edit e).lines ↔
      if e.concerns n then e.leaves? = some t else (⟨n, t⟩ : Line) ∈ p.lines := by
  cases e with
  | set k text =>
      simp only [edit, attempt]
      rcases setKinds p k text with ⟨bad, failed⟩ | ⟨good, blank, erased⟩ | ⟨good, solid, stored⟩
      · rw [failed]
        by_cases same : k = n
        · subst same
          have absent : (⟨k, t⟩ : Line) ∉ p.lines := by
            intro member
            have above : 0 < k := positive _ member
            omega
          simp [Edit.concerns, Edit.number?, Edit.leaves?, absent, Int.not_lt.mpr bad]
        · simp [Edit.concerns, Edit.number?, same]
      · rw [erased, deleteExact ordered]
        by_cases same : k = n
        · simp [Edit.concerns, Edit.number?, Edit.leaves?, same, blank]
        · simp [Edit.concerns, Edit.number?, same, Ne.symm same]
      · rw [stored, putExact ordered]
        by_cases same : k = n
        · subst same
          simp [Edit.concerns, Edit.number?, Edit.leaves?, good, solid, eq_comm]
        · simp [Edit.concerns, Edit.number?, same, Ne.symm same]
  | delete k =>
      rw [show p.edit (.delete k) = (p.delete k).2 from rfl, deleteExact ordered]
      by_cases same : k = n
      · simp [Edit.concerns, Edit.number?, Edit.leaves?, same]
      · simp [Edit.concerns, Edit.number?, same, Ne.symm same]
  | clear => simp [edit, attempt, empty, Edit.concerns, Edit.number?, Edit.leaves?]

theorem replayAscending (past : List Edit) : Ascending (replay past).lines := by
  induction past with
  | nil => exact List.Pairwise.nil
  | cons e past ih => exact editAscending ih

@[simp] theorem replayMember (past : List Edit) (n : Int) (t : String) :
    (⟨n, t⟩ : Line) ∈ (replay past).lines ↔ lastText n past = some t := by
  induction past generalizing n t with
  | nil => exact iff_of_false List.not_mem_nil nofun
  | cons e past ih =>
      have positive : ∀ l ∈ (replay past).lines, 0 < l.number :=
        fun l member => (lastTextSound ((ih l.number l.text).mp member)).1
      rw [replay, editMember (replayAscending past) positive, lastTextStep, ih]
      split <;> rfl

theorem lastTextNumber (last : lastText n past = some t) : n ∈ past.filterMap Edit.number? := by
  obtain ⟨e, found, left⟩ := Option.bind_eq_some_iff.mp last
  have about := List.find?_some found
  refine List.mem_filterMap.mpr ⟨e, List.mem_of_find?_eq_some found, ?_⟩
  cases e with
  | set k text => simpa [Edit.concerns, Edit.number?] using about
  | delete k => cases left
  | clear => cases left

@[simp] theorem replayCount (past : List Edit) : (replay past).lines.length = linesLeft past := by
  have apart : ((replay past).lines.map Line.number).Nodup :=
    (ascendingNumbers.mp (replayAscending past)).imp fun below => Int.ne_of_lt below
  rw [linesLeft, ← List.length_map (f := Line.number)]
  have once := (List.nodup_dedup (past.filterMap Edit.number?)).filter fun n => (lastText n past).isSome
  refine ((List.perm_ext_iff_of_nodup apart once).mpr fun n => ?_).length_eq
  rw [List.mem_filter, List.mem_dedup, Option.isSome_iff_exists, List.mem_map]
  constructor
  · rintro ⟨l, member, rfl⟩
    have last := (replayMember past l.number l.text).mp member
    exact ⟨lastTextNumber last, _, last⟩
  · rintro ⟨_, t, last⟩
    exact ⟨_, (replayMember past n t).mpr last, rfl⟩

@[simp] theorem replayPresent (past : List Edit) (n : Int) :
    (replay past).has n = (lastText n past).isSome := by
  rw [Bool.eq_iff_iff, hasExact, Option.isSome_iff_exists]
  exact exists_congr fun t => replayMember past n t

theorem replayReflects (past : List Edit) : Reflects (replay past) past where
  ascending := replayAscending past
  sound l member := lastTextSound ((replayMember past l.number l.text).mp member)
  size := (replay past).counted
  counter := (replay past).counted.trans (replayCount past)
  member := replayMember past
  lookup n := by
    apply Option.ext
    intro t
    rw [lookupExact (replayAscending past), replayMember]
  present := replayPresent past
  deleted n := (deleteFound _ n).trans (replayPresent past n)
  bounds := boundsExact (replayAscending past)
  between low high := ⟨(replayAscending past).filter _, fun _ => betweenExact low high⟩
  walked := betweenWalked (replayAscending past)

theorem lastEditDecides {other : List Edit}
    (same : ∀ n, 0 < n → lastEdit n past = lastEdit n other) :
    (replay past).lines = (replay other).lines := by
  apply ascendingSame (replayAscending past) (replayAscending other)
  intro n t
  rw [replayMember, replayMember]
  by_cases positive : 0 < n
  · rw [lastText, lastText, same n positive]
  · constructor
    · exact fun last => absurd (lastTextSound last).1 positive
    · exact fun last => absurd (lastTextSound last).1 positive

theorem lastEditSwaps {a b : Edit} {i j : Int} (first : a.number? = some i)
    (second : b.number? = some j) (apart : i ≠ j) (later past : List Edit) (n : Int) :
    lastEdit n (later ++ a :: b :: past) = lastEdit n (later ++ b :: a :: past) := by
  have once : ¬ (a.concerns n = true ∧ b.concerns n = true) := by
    rintro ⟨left, right⟩
    rw [Edit.concerns, first] at left
    rw [Edit.concerns, second] at right
    have here : i = n := by simpa using left
    have there : j = n := by simpa using right
    exact apart (here.trans there.symm)
  unfold lastEdit
  rw [List.find?_append, List.find?_append]
  congr 1
  cases left : a.concerns n with
  | false => simp [List.find?_cons, left]
  | true =>
      have right : b.concerns n = false := by simpa [left] using once
      simp [left, right]

end Edits

/- The second part says that only the last edit of each line counts, the third that edits of
different lines can be swapped wherever they stand in a history. Deleting tells whether the line was
there, and changes nothing if it was not. -/
theorem listingIsMap (past : List Edit) :
    Reflects (replay past) past ∧
    (∀ other, (∀ n, 0 < n → lastEdit n past = lastEdit n other) →
      (replay past).lines = (replay other).lines) ∧
    (∀ later a b i j, a.number? = some i → b.number? = some j → i ≠ j →
      (replay (later ++ a :: b :: past)).lines = (replay (later ++ b :: a :: past)).lines) ∧
    (∀ n text, n ≤ 0 → (replay past).set n text = .error (.number n) ∧
      replay (.set n text :: past) = replay past) ∧
    (∀ n text, 0 < n → ∃ q, (replay past).set n text = .ok q ∧ replay (.set n text :: past) = q) ∧
    ∀ n, (((replay past).delete n).1 = true ↔ ∃ l ∈ (replay past).lines, l.number = n) ∧
      (((replay past).delete n).1 = false → replay (.delete n :: past) = replay past) := by
  refine ⟨replayReflects past, fun other => lastEditDecides, ?_, ?_, ?_, ?_⟩
  · intro later a b i j first second apart
    apply lastEditDecides
    intro n _
    exact lastEditSwaps first second apart later past n
  · intro n text bad
    have failed : (replay past).set n text = .error (.number n) := if_pos bad
    exact ⟨failed, by simp only [replay, edit, attempt, failed]⟩
  · intro n text good
    rcases setKinds (replay past) n text with ⟨bad, _⟩ | ⟨_, _, done⟩ | ⟨_, _, done⟩
    · omega
    · exact ⟨_, done, by simp only [replay, edit, attempt, done]⟩
    · exact ⟨_, done, by simp only [replay, edit, attempt, done]⟩
  · intro n
    rw [deleteFound]
    refine ⟨hasLine, fun absent => ?_⟩
    rw [replay, edit, attempt, deleteNothing absent]

def draft : List Edit :=
  [.set 10 "PRINT 2", .set (-5) "STOP", .set 30 " \t", .set 20 " GOTO 10 ", .delete 10,
    .set 30 "END", .set 10 "PRINT 1"]

theorem draftIsMap :
    (replay draft).lines = [⟨10, "PRINT 2"⟩, ⟨20, "GOTO 10"⟩] ∧
      (replay draft).lookup? 20 = some "GOTO 10" ∧ (replay draft).lookup? 30 = none ∧
      (replay draft).size = 2 ∧ ((replay draft).delete 30).1 = false ∧
      (replay (.delete 20 :: .set 40 "END" :: draft)).lines =
        (replay (.set 40 "END" :: .delete 20 :: draft)).lines ∧
      replay (.set 0 "END" :: draft) = replay draft := by
  obtain ⟨reflects, _, swaps, refused, _⟩ := listingIsMap draft
  refine ⟨by decide +kernel, ?_, ?_, ?_, ?_, ?_, ?_⟩
  · rw [reflects.lookup]
    decide +kernel
  · rw [reflects.lookup]
    decide +kernel
  · rw [reflects.counter]
    decide +kernel
  · rw [reflects.deleted]
    decide +kernel
  · exact swaps [] (.delete 20) (.set 40 "END") 20 40 rfl rfl (by decide)
  · exact (refused 0 "END" (by decide)).2

end LineBasic.Listing
