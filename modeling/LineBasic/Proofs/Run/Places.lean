import LineBasic.Proofs.Program.Compile
import LineBasic.Proofs.Run.Steps

/-!
Where a run stands. The statement that is due belongs to the line at the place of the run, and the
number that is kept for reports is the number of that line. A run leaves the program only past its
last line.
-/
namespace LineBasic

inductive Stmt.Part (s : Stmt) : Stmt → Prop where
  | whole : Part s s
  | inner {condition t} (part : Part s t) : Part s (.doIf condition t)

theorem Stmt.Part.ofIf {condition : Expr} {s t : Stmt} (part : Part (.doIf condition s) t) :
    Part s t := by
  induction part with
  | whole => exact .inner .whole
  | inner _ ih => exact .inner ih

def CodeLine.Holds (l : CodeLine) (s : Stmt) : Prop := ∃ t ∈ l.body.toList, s.Part t

structure Executing (code : Code) (m : Machine) (l : CodeLine) : Prop where
  place : code.lines[m.pc]? = some l
  number : m.line = l.number
  rest : ∀ s ∈ m.pending, l.Holds s

structure Located (code : Code) (m : Machine) : Prop where
  begun : m.pending ≠ [] → ∃ l, Executing code m l
  past : code.lines[m.pc]? = none → ∀ l, code.lines.back? = some l → m.line = l.number

section Steps

variable {c : Setting} {m m' : Machine} {s : Stmt}

theorem dueExecuting {start} (located : Located c.code m) (due : m.Due c s start) :
    ∃ l, Executing c.code start l ∧ l.Holds s ∧ c.code.lines[m.pc]? = some l := by
  cases due with
  | @pending s rest next =>
      obtain ⟨l, executing⟩ := located.begun (by simp [next])
      have held : ∀ t ∈ s :: rest, l.Holds t := next ▸ executing.rest
      refine ⟨l, ⟨executing.place, executing.number, ?_⟩, held s (by simp), executing.place⟩
      exact fun t later => held t (by simp [later])
  | @line l idle found calm =>
      have whole : ∀ t ∈ l.body.toList, l.Holds t := fun t member => ⟨t, member, .whole⟩
      refine ⟨l, ⟨?_, ?_, ?_⟩, whole _ (by simp [Body.toList]), found⟩
      · unfold Machine.traceLine
        split <;> exact found
      · unfold Machine.traceLine
        split <;> rfl
      · exact fun t later => whole t (by simp [Body.toList, later])

theorem doesExecuting {r : Except Fault Flow} {l : CodeLine} (executing : Executing c.code m l)
    (does : Does c m s r m') : Executing c.code m' l := by
  obtain ⟨place, line, pending, _⟩ := Machine.doesFrame does
  exact ⟨place ▸ executing.place, line ▸ executing.number, pending ▸ executing.rest⟩

theorem Executing.located {l : CodeLine} (executing : Executing c.code m l) : Located c.code m := by
  refine ⟨fun _ => ⟨l, executing⟩, ?_⟩
  intro outside
  rw [executing.place] at outside
  cases outside

theorem settleLocated {l : CodeLine} (executing : Executing c.code m l) :
    Located c.code m.settle := by
  unfold Machine.settle
  split
  · rename_i idle
    refine ⟨fun busy => absurd (List.isEmpty_iff.mp idle) busy, ?_⟩
    intro outside last final
    -- the place of `l` is inside the program and the one after it is not: `l` is the last line
    obtain ⟨inside, _⟩ := Array.getElem?_eq_some_iff.mp executing.place
    have size : c.code.lines.size = m.pc + 1 := by
      have beyond := Array.getElem?_eq_none_iff.mp outside
      simp only at beyond
      omega
    have same : c.code.lines.back? = some l := by
      rw [Array.back?_eq_getElem?, size]
      exact executing.place
    rw [same] at final
    cases final
    exact executing.number
  · exact executing.located

theorem stepLocated (located : Located c.code m) (running : m.step c = .running m') :
    Located c.code m' := by
  obtain ⟨s, start, flow, after, due, _, ran, followed⟩ := Machine.stepRunning running
  obtain ⟨l, executing, held, _⟩ := dueExecuting located due
  have does := statementDoes ran
  have now : Executing c.code after l := doesExecuting (m := start.counted) { executing with } does
  rcases Machine.followRunning followed with
    ⟨_, rfl⟩ | ⟨inner, rfl, rfl⟩ | ⟨line, pc, _, found, rfl⟩
  · exact settleLocated now
  · -- only an IF hands back a statement, and that stands inside it
    have held' : l.Holds inner := by
      cases does with
      | nested =>
          obtain ⟨t, member, part⟩ := held
          exact ⟨t, member, part.ofIf⟩
    have deeper : Executing c.code { after with pending := inner :: after.pending } l := by
      refine { now with rest := ?_ }
      intro t member
      rcases List.mem_cons.mp member with rfl | inside
      · exact held'
      · exact now.rest t inside
    exact deeper.located
  · refine ⟨nofun, ?_⟩
    intro outside
    have inside := Code.findInside found
    have beyond := Array.getElem?_eq_none_iff.mp outside
    exact absurd inside (Nat.not_lt.mpr beyond)

theorem startLocated (code : Code) (vars : Variables) (host : Host) :
    Located code (Machine.start vars host) := by
  refine ⟨nofun, ?_⟩
  intro outside l final
  have beyond := Array.getElem?_eq_none_iff.mp outside
  have empty : code.lines = #[] := Array.eq_empty_of_size_eq_zero (Nat.le_zero.mp beyond)
  rw [empty] at final
  cases final

theorem reachedLocated {vars host} (reached : Machine.Reaches c (Machine.start vars host) m) :
    Located c.code m :=
  reached.invariant (fun located running => stepLocated located running)
    (startLocated c.code vars host)

end Steps

end LineBasic
