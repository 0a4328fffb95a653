import LineBasic.Proofs.Run.Execution
import LineBasic.Run.Workspace

/-!
Steps and runs. A step either ends the run or executes one statement; what a run can do follows from
what a step can do by induction on the states it reaches.
-/
namespace LineBasic.Machine

variable {c : Setting} {m m' m'' : Machine}

inductive Due (c : Setting) (m : Machine) : Stmt → Machine → Prop where
  | pending {s rest} (next : m.pending = s :: rest) : Due c m s { m with pending := rest }
  | line {l} (idle : m.pending = []) (found : c.code.lines[m.pc]? = some l)
      (calm : m.host.interrupted = false) :
      Due c m l.body.first
        { ({ m with line := l.number } : Machine).traceLine c with pending := l.body.rest }

theorem stepPending {s : Stmt} {rest : List Stmt} (next : m.pending = s :: rest) :
    m.step c = ({ m with pending := rest } : Machine).perform c s := by
  simp only [step, next]

theorem stepLine {l : CodeLine} (idle : m.pending = []) (found : c.code.lines[m.pc]? = some l) :
    m.step c = m.beginLine c l := by
  simp only [step, idle, found]

theorem stepDone (idle : m.pending = []) (past : c.code.lines[m.pc]? = none) :
    m.step c = .finished m .completed := by
  simp only [step, idle, past]

theorem stepCases (c : Setting) (m : Machine) :
    (∃ s start, Due c m s start ∧ m.step c = start.perform c s) ∨
      (∃ l, c.code.lines[m.pc]? = some l ∧
        m.step c = ({ m with line := l.number } : Machine).fail .interrupted) ∨
      m.step c = .finished m .completed := by
  unfold step
  cases pending : m.pending with
  | cons s rest => exact .inl ⟨s, _, .pending pending, rfl⟩
  | nil =>
      cases found : c.code.lines[m.pc]? with
      | none => exact .inr (.inr rfl)
      | some l =>
          cases calm : m.host.interrupted with
          | false => exact .inl ⟨_, _, .line pending found calm, by simp [beginLine, calm]⟩
          | true =>
              refine .inr (.inl ⟨l, rfl, ?_⟩)
              simp only [beginLine, calm, if_true]
              rw [← pending]

def counted (m : Machine) : Machine := { m with steps := m.steps + 1 }

def AtLimit (c : Setting) (m : Machine) : Prop :=
  0 < c.options.maxSteps ∧ c.options.maxSteps < m.counted.steps

theorem performOk {s : Stmt} {flow : Flow} (below : ¬ m.AtLimit c)
    (ran : Exec.statement c s m.counted = (.ok flow, m')) : m.perform c s = m'.follow c flow := by
  unfold counted at ran
  simp only [perform]
  refine (if_neg below).trans ?_
  simp only [ExceptT.run, ran]

theorem performError {s : Stmt} {f : Fault} (below : ¬ m.AtLimit c)
    (ran : Exec.statement c s m.counted = (.error f, m')) : m.perform c s = m'.fail f := by
  unfold counted at ran
  simp only [perform]
  refine (if_neg below).trans ?_
  simp only [ExceptT.run, ran]

theorem performCases (c : Setting) (m : Machine) (s : Stmt) :
    (m.AtLimit c ∧ m.perform c s = m.counted.fail (.stepLimit c.options.maxSteps)) ∨
      (¬ m.AtLimit c ∧
        ((∃ flow m', Exec.statement c s m.counted = (.ok flow, m') ∧
            m.perform c s = m'.follow c flow) ∨
          ∃ f m', Exec.statement c s m.counted = (.error f, m') ∧ m.perform c s = m'.fail f)) := by
  by_cases limit : m.AtLimit c
  · refine .inl ⟨limit, ?_⟩
    simp only [perform]
    exact if_pos limit
  · refine .inr ⟨limit, ?_⟩
    obtain ⟨⟨r, m'⟩, ran⟩ : ∃ result, Exec.statement c s m.counted = result := ⟨_, rfl⟩
    cases r with
    | ok flow => exact .inl ⟨flow, m', ran, performOk limit ran⟩
    | error f => exact .inr ⟨f, m', ran, performError limit ran⟩

/- A statement changes neither the place in the program nor what is pending: only where control goes
afterwards does that. -/
theorem doesFrame {s : Stmt} {r : Except Fault Flow} (does : Does c m s r m') :
    m'.pc = m.pc ∧ m'.line = m.line ∧ m'.pending = m.pending ∧ m'.steps = m.steps := by
  cases does with
  | brokenOff breaks =>
      cases breaks
      exact ⟨rfl, rfl, rfl, rfl⟩
  | _ => exact ⟨rfl, rfl, rfl, rfl⟩

theorem dueStep {s start} (due : Due c m s start) : m.step c = start.perform c s := by
  cases due with
  | pending next => exact stepPending next
  | line idle found calm =>
      rw [stepLine idle found]
      simp [beginLine, calm]

theorem dueFrame {s start} (due : Due c m s start) :
    start.pc = m.pc ∧ start.steps = m.steps ∧ start.gosubs = m.gosubs := by
  cases due with
  | pending next => exact ⟨rfl, rfl, rfl⟩
  | line idle found calm =>
      unfold traceLine
      split <;> exact ⟨rfl, rfl, rfl⟩

theorem dueSteps {s start} (due : Due c m s start) : start.steps = m.steps := (dueFrame due).2.1

theorem followRunning {flow : Flow} (running : m.follow c flow = .running m') :
    (flow = .next ∧ m' = m.settle) ∨
      (∃ s, flow = .inner s ∧ m' = { m with pending := s :: m.pending }) ∨
      ∃ line pc, flow = .jump line ∧ c.code.find? line = some pc ∧
        m' = { m with pc, pending := [] } := by
  cases flow with
  | next =>
      cases running
      exact .inl ⟨rfl, rfl⟩
  | inner s =>
      cases running
      exact .inr (.inl ⟨s, rfl, rfl⟩)
  | stop => cases running
  | jump line =>
      unfold follow at running
      cases found : c.code.find? line with
      | none =>
          simp only [found] at running
          cases running
      | some pc =>
          simp only [found] at running
          cases running
          exact .inr (.inr ⟨line, pc, rfl, found, rfl⟩)

theorem followFrame {flow : Flow} (running : m.follow c flow = .running m') :
    m'.line = m.line ∧ m'.steps = m.steps ∧ m'.gosubs = m.gosubs := by
  rcases followRunning running with ⟨_, rfl⟩ | ⟨_, _, rfl⟩ | ⟨_, _, _, _, rfl⟩
  · unfold settle
    split <;> exact ⟨rfl, rfl, rfl⟩
  · exact ⟨rfl, rfl, rfl⟩
  · exact ⟨rfl, rfl, rfl⟩

theorem followFinished {flow : Flow} {e : Ending} (finished : m.follow c flow = .finished m' e) :
    m' = m ∧ ((flow = .stop ∧ e = .ended) ∨ ∃ line, flow = .jump line ∧
      c.code.find? line = none ∧ e = .faulted (.fault m.line (.noSuchLine line))) := by
  cases flow with
  | next => cases finished
  | inner s => cases finished
  | stop =>
      cases finished
      exact ⟨rfl, .inl ⟨rfl, rfl⟩⟩
  | jump line =>
      unfold follow at finished
      cases found : c.code.find? line with
      | none =>
          simp only [found] at finished
          cases finished
          exact ⟨rfl, .inr ⟨line, rfl, found, rfl⟩⟩
      | some pc =>
          simp only [found] at finished
          cases finished

theorem performRunning {s : Stmt} (running : m.perform c s = .running m') :
    ∃ flow after, ¬ m.AtLimit c ∧ Exec.statement c s m.counted = (.ok flow, after) ∧
      after.follow c flow = .running m' := by
  rcases performCases c m s with ⟨_, limited⟩ |
    ⟨below, ⟨flow, after, ran, followed⟩ | ⟨f, after, _, failed⟩⟩
  · rw [limited] at running
    cases running
  · rw [followed] at running
    exact ⟨flow, after, below, ran, running⟩
  · rw [failed] at running
    cases running

theorem stepRunning (running : m.step c = .running m') :
    ∃ s start flow after, Due c m s start ∧ ¬ start.AtLimit c ∧
      Exec.statement c s start.counted = (.ok flow, after) ∧
      after.follow c flow = .running m' := by
  rcases stepCases c m with ⟨s, start, due, same⟩ | ⟨l, _, same⟩ | same
  · rw [same] at running
    obtain ⟨flow, after, below, ran, followed⟩ := performRunning running
    exact ⟨s, start, flow, after, due, below, ran, followed⟩
  · rw [same] at running
    cases running
  · rw [same] at running
    cases running

inductive Ends (c : Setting) (m : Machine) : Machine → Ending → Prop where
  | limited {s start} (due : Due c m s start) (limit : start.AtLimit c) :
      Ends c m start.counted (.faulted (.fault start.line (.stepLimit c.options.maxSteps)))
  | stopped {s start after} (due : Due c m s start) (below : ¬ start.AtLimit c)
      (ran : Exec.statement c s start.counted = (.ok .stop, after)) : Ends c m after .ended
  | missing {s start after line} (due : Due c m s start) (below : ¬ start.AtLimit c)
      (ran : Exec.statement c s start.counted = (.ok (.jump line), after))
      (missing : c.code.find? line = none) :
      Ends c m after (.faulted (.fault after.line (.noSuchLine line)))
  | failed {s start f after} (due : Due c m s start) (below : ¬ start.AtLimit c)
      (ran : Exec.statement c s start.counted = (.error f, after)) :
      Ends c m after (.faulted (.fault after.line f))
  | interrupted {l} (idle : m.pending = []) (found : c.code.lines[m.pc]? = some l)
      (asked : m.host.interrupted = true) :
      Ends c m { m with line := l.number } (.faulted (.fault l.number .interrupted))
  | completed (idle : m.pending = []) (past : c.code.lines[m.pc]? = none) : Ends c m m .completed

theorem performEnds {s : Stmt} {start : Machine} {e : Ending} (due : Due c m s start)
    (finished : start.perform c s = .finished m' e) : Ends c m m' e := by
  rcases performCases c start s with ⟨limit, limited⟩ |
    ⟨below, ⟨flow, after, ran, followed⟩ | ⟨f, after, ran, failed⟩⟩
  · rw [limited] at finished
    cases finished
    exact .limited due limit
  · rw [followed] at finished
    obtain ⟨rfl, ⟨rfl, rfl⟩ | ⟨line, rfl, missing, rfl⟩⟩ := followFinished finished
    · exact .stopped due below ran
    · exact .missing due below ran missing
  · rw [failed] at finished
    cases finished
    exact .failed due below ran

theorem stepEnds {e : Ending} (finished : m.step c = .finished m' e) : Ends c m m' e := by
  cases pending : m.pending with
  | cons s rest =>
      rw [stepPending pending] at finished
      exact performEnds (.pending pending) finished
  | nil =>
      cases found : c.code.lines[m.pc]? with
      | none =>
          rw [stepDone pending found] at finished
          cases finished
          exact .completed pending found
      | some l =>
          rw [stepLine pending found, beginLine] at finished
          cases asked : m.host.interrupted with
          | true =>
              simp only [asked, if_true] at finished
              cases finished
              exact .interrupted pending found asked
          | false =>
              simp only [asked] at finished
              exact performEnds (.line pending found asked) finished

inductive Reaches (c : Setting) (m : Machine) : Machine → Prop where
  | here : Reaches c m m
  | step {now after} (before : Reaches c m now) (running : now.step c = .running after) :
      Reaches c m after

theorem Reaches.invariant {I : Machine → Prop}
    (kept : ∀ {m m'}, I m → m.step c = .running m' → I m') (reached : Reaches c m m')
    (start : I m) : I m' := by
  induction reached with
  | here => exact start
  | step before running ih => exact kept ih running

/- What holds of all statements of a program, and of the statement inside an IF when it holds of the
IF, holds of every statement a run meets. -/
section Pending

variable {P : Stmt → Prop} (code : ∀ l ∈ c.code.lines, ∀ s ∈ l.body.toList, P s)
include code

theorem dueHolds {s start} (kept : ∀ s ∈ m.pending, P s) (due : Due c m s start) :
    P s ∧ ∀ s ∈ start.pending, P s := by
  cases due with
  | @pending s rest next =>
      have both : ∀ t ∈ s :: rest, P t := next ▸ kept
      exact ⟨both s (by simp), fun t inside => both t (by simp [inside])⟩
  | line idle found calm =>
      obtain ⟨inside, rfl⟩ := Array.getElem?_eq_some_iff.mp found
      have body := code _ (Array.getElem_mem inside)
      exact ⟨body _ (by simp [Body.toList]), fun t later => body t (by simp [Body.toList, later])⟩

theorem stepHolds (inner : ∀ {condition s}, P (.doIf condition s) → P s)
    (kept : ∀ s ∈ m.pending, P s) (running : m.step c = .running m') : ∀ s ∈ m'.pending, P s := by
  obtain ⟨s, start, flow, after, due, _, ran, followed⟩ := stepRunning running
  obtain ⟨now, rest⟩ := dueHolds code kept due
  have does := statementDoes ran
  have pending : ∀ s ∈ after.pending, P s := by
    rw [(doesFrame does).2.2.1]
    exact rest
  rcases followRunning followed with ⟨_, rfl⟩ | ⟨nested, rfl, rfl⟩ | ⟨line, pc, _, _, rfl⟩
  · unfold settle
    split <;> exact pending
  · cases does
    intro t member
    rcases List.mem_cons.mp member with rfl | inside
    · exact inner now
    · exact pending t inside
  · exact nofun

theorem reachedHolds (inner : ∀ {condition s}, P (.doIf condition s) → P s) {vars host}
    (reached : Reaches c (start vars host) m) : ∀ s ∈ m.pending, P s :=
  reached.invariant (I := fun m => ∀ s ∈ m.pending, P s)
    (fun kept running => stepHolds code inner kept running) nofun

end Pending

theorem Reaches.after (first : m.step c = .running m') (rest : Reaches c m' m'') :
    Reaches c m m'' := by
  induction rest with
  | here => exact .step .here first
  | step before running ih => exact .step ih running

theorem stepCounts (running : m.step c = .running m') :
    m'.steps = m.steps + 1 ∧ ¬ (0 < c.options.maxSteps ∧ c.options.maxSteps < m'.steps) := by
  obtain ⟨s, start, flow, after, due, below, ran, followed⟩ := stepRunning running
  have count : after.steps = m.steps + 1 := by
    rw [(doesFrame (statementDoes ran)).2.2.2, ← dueSteps due]
    rfl
  have same : m'.steps = after.steps := (followFrame followed).2.1
  have limit : start.counted.steps = m'.steps := by
    rw [same, count, ← dueSteps due]
    rfl
  rw [AtLimit, limit] at below
  exact ⟨by omega, below⟩

theorem runFinished {fuel : Nat} {e : Ending} (ran : run c fuel m = some (m', e)) :
    ∃ last, Reaches c m last ∧ last.step c = .finished m' e := by
  induction fuel generalizing m with
  | zero => cases ran
  | succ fuel ih =>
    rw [run] at ran
    cases next : m.step c with
    | running mid =>
        rw [next] at ran
        obtain ⟨last, reached, finished⟩ := ih ran
        exact ⟨last, reached.after next, finished⟩
    | finished final e =>
        rw [next] at ran
        cases ran
        exact ⟨m, .here, next⟩

theorem runMore {fuel more : Nat} {result : Machine × Ending} (ran : run c fuel m = some result)
    (enough : fuel ≤ more) : run c more m = some result := by
  induction fuel generalizing m more with
  | zero => cases ran
  | succ fuel ih =>
    obtain ⟨rest, rfl⟩ : ∃ rest, more = rest + 1 := ⟨more - 1, by omega⟩
    rw [run] at ran ⊢
    cases next : m.step c with
    | running mid =>
        rw [next] at ran
        exact ih ran (by omega)
    | finished final e =>
        rw [next] at ran
        exact ran

theorem runUnfinished {fuel : Nat} (ran : run c fuel m = none) :
    ∃ now, Reaches c m now ∧ now.steps = m.steps + fuel := by
  induction fuel generalizing m with
  | zero => exact ⟨m, .here, rfl⟩
  | succ fuel ih =>
    rw [run] at ran
    cases next : m.step c with
    | running mid =>
        rw [next] at ran
        obtain ⟨now, reached, count⟩ := ih ran
        refine ⟨now, reached.after next, ?_⟩
        rw [count, (stepCounts next).1]
        omega
    | finished final e =>
        rw [next] at ran
        cases ran

end LineBasic.Machine

namespace LineBasic

theorem runUnparsed {w : Workspace} {e : ProgramError} (failed : w.code = .error e) (fuel : Nat)
    (h : Host) : w.run fuel h = some (⟨.faulted e, e.line, 0⟩, w, h) := by
  simp only [Workspace.run, failed]

theorem runOf {w : Workspace} {code : Code} (compiled : w.code = .ok code) (fuel : Nat) (h : Host) :
    w.run fuel h =
      (Machine.run ⟨code, w.functions, w.options⟩ fuel (Machine.start w.vars h)).map
        fun result => (⟨result.2, result.1.line, result.1.steps⟩, { w with vars := result.1.vars },
          result.1.host) := by
  unfold Workspace.run
  simp only [compiled]
  cases Machine.run ⟨code, w.functions, w.options⟩ fuel (Machine.start w.vars h) <;> rfl

theorem runLimited {c : Setting} {fuel : Nat} {vars : Variables} {h : Host}
    (positive : 0 < c.options.maxSteps) (enough : c.options.maxSteps < fuel) :
    Machine.run c fuel (Machine.start vars h) ≠ none := by
  intro unfinished
  obtain ⟨now, reached, count⟩ := Machine.runUnfinished unfinished
  have started : (Machine.start vars h).steps = 0 := rfl
  cases reached with
  | here => omega
  | step before running =>
      have below := (Machine.stepCounts running).2
      omega

end LineBasic
