import LineBasic.Program.Code

/-!
What a compiled program is: its lines in strictly ascending order, each with the statements that its
text parses to.
-/
namespace LineBasic.Code

variable {isFunction : String → Bool} {code : Code} {lines : List Line}

def Ascending (code : Code) : Prop := code.lines.toList.Pairwise fun a b => a.number < b.number

theorem parsedCons {last l rest parsed}
    (ok : parseFrom isFunction last (l :: rest) = .ok parsed) :
    ∃ body more, parseLine isFunction l.text = .ok body ∧ (∀ n ∈ last, n < l.number) ∧
      parseFrom isFunction (some l.number) rest = .ok more ∧ parsed = ⟨l.number, body⟩ :: more := by
  unfold parseFrom at ok
  cases body : parseLine isFunction l.text with
  | error f =>
      simp only [body] at ok
      cases ok
  | ok statements =>
      simp only [body] at ok
      split at ok
      · cases ok
      · rename_i above
        cases more : parseFrom isFunction (some l.number) rest with
        | error e =>
            rw [more] at ok
            cases ok
        | ok others =>
            rw [more] at ok
            cases ok
            refine ⟨statements, others, rfl, ?_, rfl, rfl⟩
            intro n same
            cases same
            simpa using above

theorem parsedAscending {last parsed} (ok : parseFrom isFunction last lines = .ok parsed) :
    parsed.Pairwise (fun a b => a.number < b.number) ∧ ∀ n ∈ last, ∀ l ∈ parsed, n < l.number := by
  induction lines generalizing last parsed with
  | nil =>
      cases ok
      exact ⟨.nil, by simp⟩
  | cons l rest ih =>
      obtain ⟨body, more, _, above, others, rfl⟩ := parsedCons ok
      obtain ⟨ascending, after⟩ := ih others
      refine ⟨.cons (after l.number rfl) ascending, ?_⟩
      intro n same k member
      have first := above n same
      cases member with
      | head => exact first
      | tail _ inside =>
          have second := after l.number rfl k inside
          omega

theorem parsedSource {last parsed l} (ok : parseFrom isFunction last lines = .ok parsed)
    (member : l ∈ parsed) :
    ∃ source ∈ lines, source.number = l.number ∧ parseLine isFunction source.text = .ok l.body := by
  induction lines generalizing last parsed with
  | nil =>
      cases ok
      cases member
  | cons first rest ih =>
      obtain ⟨body, more, parsed, _, others, rfl⟩ := parsedCons ok
      cases member with
      | head => exact ⟨first, by simp, rfl, parsed⟩
      | tail _ inside =>
          obtain ⟨source, found, same⟩ := ih others inside
          exact ⟨source, by simp [found], same⟩

theorem compileParsed (compiled : compile isFunction lines = .ok code) :
    parseFrom isFunction none lines = .ok code.lines.toList := by
  unfold compile at compiled
  cases parsed : parseFrom isFunction none lines with
  | error e =>
      rw [parsed] at compiled
      cases compiled
  | ok ls =>
      rw [parsed] at compiled
      cases compiled
      rfl

theorem compileAscending (compiled : compile isFunction lines = .ok code) : code.Ascending :=
  (parsedAscending (compileParsed compiled)).1

theorem compileSource (compiled : compile isFunction lines = .ok code) {l}
    (member : l ∈ code.lines) :
    ∃ source ∈ lines, source.number = l.number ∧ parseLine isFunction source.text = .ok l.body :=
  parsedSource (compileParsed compiled) (Array.mem_def.mp member)

theorem notGood (bad : ¬ ∀ l ∈ lines, ∃ body, parseLine isFunction l.text = .ok body) :
    ∃ l ∈ lines, ∃ f, parseLine isFunction l.text = .error f := by
  obtain ⟨l, unparsed⟩ := Classical.not_forall.mp bad
  obtain ⟨member, unparsed⟩ := Classical.not_forall.mp unparsed
  cases parsed : parseLine isFunction l.text with
  | ok body => exact absurd ⟨body, parsed⟩ unparsed
  | error f => exact ⟨l, member, f, parsed⟩

theorem aboveLast {last : Option Int} {n : Int} (above : ∀ k ∈ last, k < n) :
    last.any (n ≤ ·) = false := by
  cases last with
  | none => rfl
  | some k => simpa using above k rfl

theorem parsedBad {last} (ordered : lines.Pairwise fun a b => a.number < b.number)
    (above : ∀ n ∈ last, ∀ l ∈ lines, n < l.number) {bad g} (member : bad ∈ lines)
    (failed : parseLine isFunction bad.text = .error g) :
    ∃ l ∈ lines, ∃ f, parseLine isFunction l.text = .error f ∧
      (∀ k ∈ lines, k.number < l.number → ∃ body, parseLine isFunction k.text = .ok body) ∧
      parseFrom isFunction last lines = .error (.badSyntax l.number f) := by
  induction lines generalizing last with
  | nil => cases member
  | cons l rest ih =>
      obtain ⟨head, tail⟩ := List.pairwise_cons.mp ordered
      unfold parseFrom
      cases body : parseLine isFunction l.text with
      | error f =>
          refine ⟨l, by simp, f, body, ?_, rfl⟩
          intro k among lower
          rcases List.mem_cons.mp among with rfl | inside
          · omega
          · have higher := head k inside
            omega
      | ok statements =>
          have inside : bad ∈ rest := by
            rcases List.mem_cons.mp member with rfl | inside
            · rw [body] at failed
              cases failed
            · exact inside
          have next : ∀ n ∈ some l.number, ∀ k ∈ rest, n < k.number := by simpa using head
          obtain ⟨first, found, f, broken, before, stops⟩ := ih tail next inside
          have order := aboveLast fun n same => above n same l (by simp)
          refine ⟨first, by simp [found], f, broken, ?_, ?_⟩
          · intro k among lower
            rcases List.mem_cons.mp among with rfl | inside
            · exact ⟨statements, body⟩
            · exact before k inside lower
          · simp only [order, stops]
            rfl

theorem compileBad (ordered : lines.Pairwise fun a b => a.number < b.number) {bad g}
    (member : bad ∈ lines) (failed : parseLine isFunction bad.text = .error g) :
    ∃ l ∈ lines, ∃ f, parseLine isFunction l.text = .error f ∧
      (∀ k ∈ lines, k.number < l.number → ∃ body, parseLine isFunction k.text = .ok body) ∧
      compile isFunction lines = .error (.badSyntax l.number f) := by
  have above : ∀ n ∈ (none : Option Int), ∀ l ∈ lines, n < l.number := nofun
  obtain ⟨l, found, f, broken, before, stops⟩ := parsedBad ordered above member failed
  refine ⟨l, found, f, broken, before, ?_⟩
  rw [compile, stops]
  rfl

theorem parsedGood {last} (ordered : lines.Pairwise fun a b => a.number < b.number)
    (above : ∀ n ∈ last, ∀ l ∈ lines, n < l.number)
    (good : ∀ l ∈ lines, ∃ body, parseLine isFunction l.text = .ok body) :
    ∃ parsed, parseFrom isFunction last lines = .ok parsed ∧
      parsed.map CodeLine.number = lines.map Line.number := by
  induction lines generalizing last with
  | nil => exact ⟨[], rfl, rfl⟩
  | cons l rest ih =>
      obtain ⟨head, tail⟩ := List.pairwise_cons.mp ordered
      obtain ⟨body, ok⟩ := good l (by simp)
      have next : ∀ n ∈ some l.number, ∀ k ∈ rest, n < k.number := by simpa using head
      obtain ⟨more, others, numbers⟩ := ih tail next fun k inside => good k (by simp [inside])
      have order := aboveLast fun n same => above n same l (by simp)
      refine ⟨⟨l.number, body⟩ :: more, ?_, by simp [numbers]⟩
      unfold parseFrom
      simp only [ok, order, others]
      rfl

theorem compileGood (ordered : lines.Pairwise fun a b => a.number < b.number)
    (good : ∀ l ∈ lines, ∃ body, parseLine isFunction l.text = .ok body) :
    ∃ code, compile isFunction lines = .ok code ∧
      code.lines.toList.map CodeLine.number = lines.map Line.number := by
  have above : ∀ n ∈ (none : Option Int), ∀ l ∈ lines, n < l.number := nofun
  obtain ⟨parsed, ok, numbers⟩ := parsedGood ordered above good
  refine ⟨⟨parsed.toArray⟩, ?_, by simpa using numbers⟩
  rw [compile, ok]
  rfl

theorem compileInOrder {e} (ordered : lines.Pairwise fun a b => a.number < b.number)
    (failed : compile isFunction lines = .error e) : ∃ line f, e = .badSyntax line f := by
  by_cases good : ∀ l ∈ lines, ∃ body, parseLine isFunction l.text = .ok body
  · obtain ⟨code, ok, _⟩ := compileGood ordered good
    rw [failed] at ok
    cases ok
  · obtain ⟨bad, member, g, broken⟩ := notGood good
    obtain ⟨l, _, f, _, _, stops⟩ := compileBad ordered member broken
    rw [failed] at stops
    cases stops
    exact ⟨_, _, rfl⟩

theorem parsedError {last e} (failed : parseFrom isFunction last lines = .error e) :
    e = .outOfOrder ∨ ∃ line f, e = .badSyntax line f := by
  induction lines generalizing last with
  | nil => cases failed
  | cons l rest ih =>
      unfold parseFrom at failed
      cases body : parseLine isFunction l.text with
      | error f =>
          simp only [body] at failed
          cases failed
          exact .inr ⟨_, _, rfl⟩
      | ok statements =>
          simp only [body] at failed
          split at failed
          · cases failed
            exact .inl rfl
          · cases more : parseFrom isFunction (some l.number) rest with
            | ok others =>
                rw [more] at failed
                cases failed
            | error e' =>
                rw [more] at failed
                cases failed
                exact ih more

theorem compileError {e} (failed : compile isFunction lines = .error e) :
    e = .outOfOrder ∨ ∃ line f, e = .badSyntax line f := by
  unfold compile at failed
  cases parsed : parseFrom isFunction none lines with
  | ok ls =>
      rw [parsed] at failed
      cases failed
  | error e' =>
      rw [parsed] at failed
      cases failed
      exact parsedError parsed

theorem ascendingAt {i j : Nat} {a b : CodeLine} (ascending : code.Ascending)
    (first : code.lines[i]? = some a) (second : code.lines[j]? = some b) (before : i < j) :
    a.number < b.number := by
  obtain ⟨inside, rfl⟩ := Array.getElem?_eq_some_iff.mp first
  obtain ⟨within, rfl⟩ := Array.getElem?_eq_some_iff.mp second
  have less := List.pairwise_iff_getElem.mp ascending i j (by simpa using inside)
    (by simpa using within) before
  simpa using less

theorem lastHighest {l k} (ascending : code.Ascending) (last : code.lines.back? = some l)
    (member : k ∈ code.lines) : k.number ≤ l.number := by
  rw [Array.back?_eq_getElem?] at last
  obtain ⟨j, found⟩ := Array.mem_iff_getElem?.mp member
  obtain ⟨inside, _⟩ := Array.getElem?_eq_some_iff.mp found
  rcases Nat.eq_or_lt_of_le (Nat.le_sub_one_of_lt inside) with rfl | before
  · rw [last] at found
    cases found
    exact Int.le_refl _
  · exact Int.le_of_lt (ascendingAt ascending found last before)

def Later (code : Code) (n : Int) : Prop :=
  (∃ l ∈ code.lines, l.number = n) ∧ ∃ l ∈ code.lines, l.number < n

theorem afterLater {pc n} (ascending : code.Ascending) (found : code.after? pc = some n) :
    code.Later n := by
  unfold after? at found
  obtain ⟨l, next, rfl⟩ := Option.map_eq_some_iff.mp found
  obtain ⟨inside, _⟩ := Array.getElem?_eq_some_iff.mp next
  have first : 0 < code.lines.size := by omega
  have lowest : code.lines[0]? = some code.lines[0] := Array.getElem?_eq_getElem first
  exact ⟨⟨l, Array.mem_of_getElem? next, rfl⟩, _, Array.getElem_mem first,
    ascendingAt ascending lowest next (by omega)⟩

theorem findMissing {n} : code.find? n = none ↔ ∀ l ∈ code.lines, l.number ≠ n := by
  simp [find?, Array.findIdx?_eq_none_iff]

theorem Later.found {n} (later : code.Later n) : ∃ pc, code.find? n = some pc := by
  obtain ⟨⟨l, member, same⟩, _⟩ := later
  cases found : code.find? n with
  | some pc => exact ⟨pc, rfl⟩
  | none => exact absurd same (findMissing.mp found l member)

theorem findInside {n pc} (found : code.find? n = some pc) : pc < code.lines.size := by
  unfold find? at found
  obtain ⟨inside, _⟩ := Array.findIdx?_eq_some_iff_getElem.mp found
  exact inside

theorem findAt {i : Nat} {l : CodeLine} (ascending : code.Ascending)
    (here : code.lines[i]? = some l) : code.find? l.number = some i := by
  obtain ⟨inside, same⟩ := Array.getElem?_eq_some_iff.mp here
  refine Array.findIdx?_eq_some_iff_getElem.mpr ⟨inside, by simp [same], ?_⟩
  intro j before
  have other : code.lines[j]? = some code.lines[j] := Array.getElem?_eq_getElem (by omega)
  have less := ascendingAt ascending other here before
  simp only [beq_iff_eq]
  omega

structure Adjacent (code : Code) (l next : CodeLine) : Prop where
  here : l ∈ code.lines
  there : next ∈ code.lines
  above : l.number < next.number
  nothing : ∀ k ∈ code.lines, k.number ≤ l.number ∨ next.number ≤ k.number

theorem afterAdjacent {pc : Nat} {l : CodeLine} {n : Int} (ascending : code.Ascending)
    (here : code.lines[pc]? = some l) (found : code.after? pc = some n) :
    ∃ next, code.lines[pc + 1]? = some next ∧ next.number = n ∧ code.Adjacent l next := by
  unfold after? at found
  obtain ⟨next, there, rfl⟩ := Option.map_eq_some_iff.mp found
  refine ⟨next, there, rfl, ?_⟩
  refine ⟨Array.mem_of_getElem? here, Array.mem_of_getElem? there,
    ascendingAt ascending here there (by omega), ?_⟩
  intro k member
  obtain ⟨j, other⟩ := Array.mem_iff_getElem?.mp member
  rcases Nat.lt_trichotomy j pc with before | rfl | later
  · exact .inl (Int.le_of_lt (ascendingAt ascending other here before))
  · rw [here] at other
    cases other
    exact .inl (Int.le_refl _)
  · rcases Nat.eq_or_lt_of_le later with rfl | beyond
    · rw [there] at other
      cases other
      exact .inr (Int.le_refl _)
    · exact .inr (Int.le_of_lt (ascendingAt ascending there other beyond))

end LineBasic.Code
