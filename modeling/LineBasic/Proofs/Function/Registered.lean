import LineBasic.Function.Table

/-!
The table of functions after any sequence of registrations. It holds, for each name, the body that
was given for it first; later ones, and those that are refused for another reason, leave no trace.
-/
namespace LineBasic

structure Registration where
  name : String
  body : Option FunctionBody

namespace Registration

def key (r : Registration) : String := Text.upper (Text.trim r.name)

def proper (r : Registration) : Bool := r.body.isSome && r.key != "" && !isKeyword r.key

theorem properIff {r : Registration} :
    r.proper = true ↔ r.body ≠ none ∧ r.key ≠ "" ∧ isKeyword r.key = false := by
  simp [proper, Option.isSome_iff_ne_none, and_assoc]

end Registration

namespace Functions

def after (fns : Functions) (r : Registration) : Functions :=
  match fns.register r.name r.body with
  | .ok added => added
  | .error _ => fns

def replay (history : List Registration) : Functions := history.foldl after .empty

def firstBody (history : List Registration) (key : String) : Option FunctionBody :=
  (history.find? fun r => r.proper && r.key == key).bind Registration.body

variable {fns fns' : Functions} {history : List Registration} {r : Registration}

theorem registerExact : fns.register r.name r.body = .ok fns' ↔
    r.proper = true ∧ fns.table[r.key]? = none ∧
      ∃ body, r.body = some body ∧ fns' = ⟨fns.table.insert r.key body⟩ := by
  have missing : fns.table.contains r.key = false ↔ fns.table[r.key]? = none := by
    rw [Std.TreeMap.contains_eq_isSome_getElem?, Option.isSome_eq_false_iff,
      Option.isNone_iff_eq_none]
  rw [Registration.properIff, ← missing]
  cases r.body with
  | none =>
      have unfolded : fns.register r.name none =
          if r.key.isEmpty then .error .emptyName else .error (.noBody r.key) := rfl
      by_cases empty : r.key = "" <;> simp [unfolded, empty]
  | some body =>
      have unfolded : fns.register r.name (some body) =
          if r.key.isEmpty then .error .emptyName
          else if isKeyword r.key then .error (.keyword r.key)
          else if fns.table.contains r.key then .error (.duplicate r.key)
          else .ok ⟨fns.table.insert r.key body⟩ := rfl
      rw [unfolded]
      by_cases empty : r.key = ""
      · simp [empty]
      · cases isKeyword r.key <;> cases fns.table.contains r.key <;> simp [empty]
        exact eq_comm

theorem afterRefused {e : RegisterFault} (refused : fns.register r.name r.body = .error e) :
    fns.after r = fns := by
  simp only [after, refused]

theorem afterTable (fns : Functions) (r : Registration) (key : String) :
    (fns.after r).table[key]? =
      fns.table[key]?.or (if r.proper && r.key == key then r.body else none) := by
  cases registered : fns.register r.name r.body with
  | ok added =>
      obtain ⟨proper, free, body, given, rfl⟩ := registerExact.mp registered
      have result : fns.after r = ⟨fns.table.insert r.key body⟩ := by simp only [after, registered]
      rw [result, Std.TreeMap.getElem?_insert]
      by_cases same : r.key = key
      · subst same
        simp [free, proper, given]
      · simp [same, proper]
  | error e =>
      rw [afterRefused registered]
      by_cases match' : r.proper = true ∧ r.key = key
      · obtain ⟨proper, rfl⟩ := match'
        have taken : fns.table[r.key]? ≠ none := by
          intro free
          obtain ⟨body, given⟩ := Option.ne_none_iff_exists'.mp (Registration.properIff.mp proper).1
          cases registered.symm.trans (registerExact.mpr ⟨proper, free, body, given, rfl⟩)
        obtain ⟨body, found⟩ := Option.ne_none_iff_exists'.mp taken
        simp [found]
      · have other : (r.proper && r.key == key) = false := by simpa using match'
        simp [other]

theorem foldTable (fns : Functions) (history : List Registration) (key : String) :
    (history.foldl after fns).table[key]? = fns.table[key]?.or (firstBody history key) := by
  induction history generalizing fns with
  | nil => simp [firstBody]
  | cons r rest ih =>
      rw [List.foldl_cons, ih, afterTable, Option.or_assoc]
      congr 1
      cases fits : r.proper && r.key == key with
      | false => simp [firstBody, fits]
      | true =>
          have proper := (Bool.and_eq_true_iff.mp fits).1
          obtain ⟨body, given⟩ := Option.ne_none_iff_exists'.mp (Registration.properIff.mp proper).1
          simp [firstBody, fits, given]

@[simp] theorem replayTable (history : List Registration) (key : String) :
    (replay history).table[key]? = firstBody history key := by
  rw [replay, foldTable]
  simp [empty]

theorem replayHas (history : List Registration) (name : String) :
    (replay history).has name = true ↔ ∃ body, firstBody history (Text.upper name) = some body := by
  rw [has, Std.TreeMap.contains_eq_isSome_getElem?, replayTable, Option.isSome_iff_exists]

theorem replayNames (history : List Registration) :
    (replay history).names.Pairwise (· < ·) ∧
      ∀ name, name ∈ (replay history).names ↔ ∃ body, firstBody history name = some body := by
  constructor
  · refine Std.TreeMap.ordered_keys.imp fun {a b} less => ?_
    change compareOfLessAndEq a b = .lt at less
    unfold compareOfLessAndEq at less
    split at less
    · assumption
    · split at less <;> cases less
  · intro name
    rw [names, Std.TreeMap.mem_keys, Std.TreeMap.mem_iff_isSome_getElem?, replayTable,
      Option.isSome_iff_exists]

@[simp] theorem replayConcat (history : List Registration) (r : Registration) :
    replay (history ++ [r]) = (replay history).after r := by
  simp [replay]

theorem replayRegister (history : List Registration) (r : Registration) :
    (∃ fns, (replay history).register r.name r.body = .ok fns) ↔
      r.body ≠ none ∧ r.key ≠ "" ∧ isKeyword r.key = false ∧ firstBody history r.key = none := by
  constructor
  · rintro ⟨fns, ok⟩
    obtain ⟨proper, free, _⟩ := registerExact.mp ok
    obtain ⟨given, named, plain⟩ := Registration.properIff.mp proper
    rw [replayTable] at free
    exact ⟨given, named, plain, free⟩
  · rintro ⟨given, named, plain, free⟩
    obtain ⟨body, stored⟩ := Option.ne_none_iff_exists'.mp given
    have proper := Registration.properIff.mpr ⟨given, named, plain⟩
    rw [← replayTable] at free
    exact ⟨_, registerExact.mpr ⟨proper, free, body, stored, rfl⟩⟩

theorem firstBodySource {key : String} {body : FunctionBody}
    (found : firstBody history key = some body) : ∃ r ∈ history, r.body = some body := by
  obtain ⟨r, first, given⟩ := Option.bind_eq_some_iff.mp found
  exact ⟨r, List.mem_of_find?_eq_some first, given⟩

end Functions

end LineBasic
