import LineBasic.Proofs.Memory.History
import LineBasic.Proofs.Program.Compile
import LineBasic.Proofs.Run.Steps
import LineBasic.Proofs.Run.Turns

/-!
Loops. FOR counts and NEXT tests: between them the body is executed once for each value of the
counter, whatever it does inside, as long as it comes to the NEXT with the counter and the stack of
loops as it found them.
-/
namespace LineBasic

variable {c : Setting} {m m' : Machine} {name : String}

/- The numbers that FOR counts by: its expressions are evaluated one after the other, and without a
STEP it counts by 1. -/
inductive Bounds (fns : Functions) (vars : Variables) (host : Host) (start limit : Expr) :
    Option Expr → Float → Float → Float → Prop where
  | byOne {x y host' host''} (first : start.eval fns vars host = (.ok (.number x), host'))
      (second : limit.eval fns vars host' = (.ok (.number y), host'')) :
      Bounds fns vars host start limit none x y 1
  | stepped {e x y z host' host'' last}
      (first : start.eval fns vars host = (.ok (.number x), host'))
      (second : limit.eval fns vars host' = (.ok (.number y), host''))
      (third : e.eval fns vars host'' = (.ok (.number z), last)) :
      Bounds fns vars host start limit (some e) x y z

section Statements

theorem evalNumberOk {fns : Functions} {vs : Variables} {what : String} {e : Expr} {x : Float}
    {h h' : Host} (ran : e.evalNumber fns vs what h = (.ok x, h')) :
    e.eval fns vs h = (.ok (.number x), h') := by
  rcases bindRuns.mp ran with ⟨v, mid, evaluated, rest⟩ | ⟨f, _, same⟩
  · cases v with
    | number y =>
        obtain ⟨same, rfl⟩ := pureRuns.mp rest
        cases same
        exact evaluated
    | text s => cases rest
  · cases same

theorem evaluateNumberOk {what : String} {e : Expr} {x : Float}
    (ran : Exec.evaluateNumber c what e m = (.ok x, m')) :
    ∃ host, e.eval c.functions m.vars m.host = (.ok (.number x), host) ∧ m' = { m with host } := by
  obtain ⟨host, used, rfl⟩ := Exec.effectRuns.mp ran
  exact ⟨host, evalNumberOk used, rfl⟩

theorem enterLoopOk {start limit : Expr} {step : Option Expr}
    (ran : Exec.enterLoop c name start limit step m = (.ok (), m')) :
    ∃ x y z resume host, Bounds c.functions m.vars m.host start limit step x y z ∧
      c.code.after? m.pc = some resume ∧
      m' = { m with loops := ⟨name, y, z, resume⟩ :: Exec.leaveLoop name m.loops,
                    vars := m.vars.set name (.number x), host } := by
  unfold Exec.enterLoop at ran
  rcases bindRuns.mp ran with ⟨x, mid, first, ran⟩ | ⟨f, _, same⟩
  · obtain ⟨host, one, rfl⟩ := evaluateNumberOk first
    rcases bindRuns.mp ran with ⟨y, mid, second, ran⟩ | ⟨f, _, same⟩
    · obtain ⟨host', two, rfl⟩ := evaluateNumberOk second
      cases step with
      | none =>
          cases Exec.enterWithBounds ran with
          | entered back room => exact ⟨x, y, 1, _, _, .byOne one two, back, rfl⟩
      | some e =>
          rcases bindRuns.mp ran with ⟨z, mid, third, ran⟩ | ⟨f, _, same⟩
          · obtain ⟨host'', three, rfl⟩ := evaluateNumberOk third
            cases Exec.enterWithBounds ran with
            | entered back room => exact ⟨x, y, z, _, _, .stepped one two three, back, rfl⟩
          · cases same
    · cases same
  · cases same

theorem nextLoopTop {l : Loop} {outer : List Loop} {x : Float} (top : m.loops = l :: outer)
    (value : m.vars.get l.name = .number x) :
    ∃ host, Exec.nextLoop c l.name m =
      if l.continues (x + l.step) then
        (.ok (.jump l.resume), { m with vars := m.vars.set l.name (.number (x + l.step)), host })
      else
        (.ok .next,
          { m with loops := outer, vars := m.vars.set l.name (.number (x + l.step)), host }) := by
  obtain ⟨pc, line, pending, steps, gosubs, loops, vars, host⟩ := m
  cases top
  obtain ⟨⟨r, mid⟩, stored⟩ : ∃ result, Exec.setScalar c l.name (.number (x + l.step))
    ⟨pc, line, pending, steps, gosubs, l :: outer, vars, host⟩ = result := ⟨_, rfl⟩
  obtain ⟨rfl, host', rfl⟩ := Exec.setScalarRuns stored
  refine ⟨host', ?_⟩
  unfold Exec.nextLoop
  split
  all_goals
    rename_i more
    refine bindRuns.mpr (.inl ⟨_, _, rfl, ?_⟩)
    simp only [ne_eq, not_true_eq_false, if_false]
    refine bindRuns.mpr (.inl ⟨_, _, rfl, ?_⟩)
    simp only [value, Value.asNumber]
    refine bindRuns.mpr (.inl ⟨_, _, stored, ?_⟩)
  · rw [if_pos more]
    rfl
  · rw [if_neg more]
    rfl

end Statements

structure Machine.AtLine (place : Nat) (m : Machine) : Prop where
  idle : m.pending = []
  here : m.pc = place

inductive ReachesLine (c : Setting) (place : Nat) : Machine → Machine → Prop where
  | here {now : Machine} (arrived : now.AtLine place) : ReachesLine c place now now
  | step {now next done : Machine} (away : ¬ now.AtLine place)
      (running : now.step c = .running next) (rest : ReachesLine c place next done) :
      ReachesLine c place now done

structure Machine.PastFirst (place : Nat) (l : CodeLine) (m : Machine) : Prop where
  pending : m.pending = l.body.rest
  place : m.pc = if l.body.rest = [] then place + 1 else place

structure Closes (c : Setting) (l : Loop) (first place : Nat) (closing : CodeLine) : Prop where
  back : c.code.find? l.resume = some first
  there : c.code.lines[place]? = some closing
  opens : closing.body.first = .next l.name

section Steps

variable {first place : Nat} {closing : CodeLine} {l : Loop} {outer : List Loop} {x : Float}

theorem ReachesLine.arrived (comes : ReachesLine c place m m') : m'.AtLine place := by
  induction comes with
  | here arrived => exact arrived
  | step _ _ _ ih => exact ih

theorem ReachesLine.reaches {start : Machine} (comes : ReachesLine c place m m')
    (before : Machine.Reaches c start m) : Machine.Reaches c start m' := by
  induction comes with
  | here => exact before
  | step _ running _ ih => exact ih (before.step running)

theorem belowNoLimit (unlimited : c.options.maxSteps ≤ 0) (m : Machine) : ¬ m.AtLimit c := by
  intro limit
  have positive := limit.1
  omega

theorem dueMemory {s : Stmt} {ready : Machine} (due : m.Due c s ready) :
    ready.vars = m.vars ∧ ready.loops = m.loops := by
  cases due with
  | pending next => exact ⟨rfl, rfl⟩
  | line idle found calm =>
      unfold Machine.traceLine
      split <;> exact ⟨rfl, rfl⟩

theorem settleFrame (m : Machine) :
    m.settle.pending = m.pending ∧ m.settle.vars = m.vars ∧ m.settle.loops = m.loops ∧
      m.settle.pc = if m.pending = [] then m.pc + 1 else m.pc := by
  by_cases idle : m.pending = [] <;> simp [Machine.settle, idle]

theorem lineDue (arrived : m.AtLine place) (there : c.code.lines[place]? = some closing)
    (calm : m.host.interrupted = false) :
    ∃ ready, m.Due c closing.body.first ready ∧ ready.pending = closing.body.rest :=
  ⟨_, .line arrived.idle (arrived.here ▸ there) calm, rfl⟩

theorem loopStep {start limit : Expr} {step : Option Expr} {ready : Machine}
    (due : m.Due c (.loop name start limit step) ready) (last : ready.pending = [])
    (running : m.step c = .running m') :
    ∃ x y z resume, Bounds c.functions ready.vars ready.host start limit step x y z ∧
      c.code.after? m.pc = some resume ∧ m'.AtLine (m.pc + 1) ∧
      m'.vars.get name = .number x ∧
      m'.loops = ⟨name, y, z, resume⟩ :: Exec.leaveLoop name m.loops := by
  have place := (Machine.dueFrame due).1
  have loops := (dueMemory due).2
  rw [Machine.dueStep due] at running
  obtain ⟨flow, after, _, ran, followed⟩ := Machine.performRunning running
  rcases bindRuns.mp ran with ⟨_, mid, entered, rest⟩ | ⟨f, _, same⟩
  · obtain ⟨same, rfl⟩ := pureRuns.mp rest
    cases same
    obtain ⟨x, y, z, resume, host, bounds, back, rfl⟩ := enterLoopOk entered
    cases followed
    obtain ⟨pending, vars, stack, next⟩ := settleFrame { ready.counted with
      loops := ⟨name, y, z, resume⟩ :: Exec.leaveLoop name ready.loops,
      vars := ready.vars.set name (.number x), host }
    refine ⟨x, y, z, resume, bounds, place ▸ back, ⟨pending.trans last, ?_⟩, ?_, ?_⟩
    · exact next.trans ((if_pos last).trans (congrArg (· + 1) place))
    · refine (congrArg (Variables.get · name) vars).trans ?_
      rw [Variables.getSet, if_pos rfl]
    · exact stack.trans (congrArg (_ :: Exec.leaveLoop name ·) loops)
  · cases same

theorem nextStep (closes : Closes c l first place closing) (unlimited : c.options.maxSteps ≤ 0)
    (arrived : m.AtLine place) (calm : m.host.interrupted = false) (top : m.loops = l :: outer)
    (value : m.vars.get l.name = .number x) :
    ∃ after : Machine, after.vars.get l.name = .number (x + l.step) ∧ after.pc = place ∧
      after.pending = closing.body.rest ∧
      ((Within l.limit l.step (x + l.step) ∧ after.loops = l :: outer ∧
          m.step c = .running { after with pc := first, pending := [] }) ∨
        (¬ Within l.limit l.step (x + l.step) ∧ after.loops = outer ∧
          m.step c = .running after.settle)) := by
  obtain ⟨ready, due, rest⟩ := lineDue arrived closes.there calm
  rw [closes.opens] at due
  obtain ⟨vars, loops⟩ := dueMemory due
  have here : ready.pc = place := (Machine.dueFrame due).1.trans arrived.here
  have value' : ready.counted.vars.get l.name = .number x := by
    change ready.vars.get l.name = _
    rw [vars, value]
  obtain ⟨host, ran⟩ : ∃ host, Exec.statement c (.next l.name) ready.counted = _ :=
    nextLoopTop (loops.trans top) value'
  have stored : (ready.vars.set l.name (.number (x + l.step))).get l.name =
      .number (x + l.step) := by rw [Variables.getSet, if_pos rfl]
  rw [Machine.dueStep due]
  by_cases within : Within l.limit l.step (x + l.step)
  · rw [if_pos (continuesWithin.mpr within)] at ran
    have done := Machine.performOk (belowNoLimit unlimited ready) ran
    simp only [Machine.follow, closes.back] at done
    exact ⟨{ ready.counted with vars := ready.vars.set l.name (.number (x + l.step)), host },
      stored, here, rest, .inl ⟨within, loops.trans top, done⟩⟩
  · rw [if_neg fun more => within (continuesWithin.mp more)] at ran
    have done := Machine.performOk (belowNoLimit unlimited ready) ran
    exact ⟨{ ready.counted with
        loops := outer, vars := ready.vars.set l.name (.number (x + l.step)), host },
      stored, here, rest, .inr ⟨within, rfl, done⟩⟩

end Steps

/- The body is executed once with `x` in the counter: from its first line the run comes to the NEXT,
where the counter and the loops are what they were. -/
structure Round (c : Setting) (name : String) (loops : List Loop) (first place : Nat) (x : Float)
    (begin done : Machine) : Prop where
  starts : begin.AtLine first
  given : begin.vars.get name = .number x
  inside : begin.loops = loops
  comes : ReachesLine c place begin done
  kept : done.vars.get name = .number x
  still : done.loops = loops

/- The body has been executed so many times, each time with the next value of the counter. Between
two of them there is only the NEXT. -/
inductive Iterates (c : Setting) (name : String) (start step : Float) (first place : Nat)
    (entered : Machine) : Nat → Machine → Prop where
  | once {done : Machine} (round : Round c name entered.loops first place start entered done) :
      Iterates c name start step first place entered 1 done
  | again {n : Nat} {last begin done : Machine}
      (before : Iterates c name start step first place entered n last)
      (running : last.step c = .running begin)
      (round : Round c name entered.loops first place (counter start step n) begin done) :
      Iterates c name start step first place entered (n + 1) done

/- Whenever the run is at the first line of the body it comes to the NEXT, with the counter and the
loops as they were. What it does on the way is its own affair. -/
def Crosses (c : Setting) (name : String) (first place : Nat) (entered : Machine) : Prop :=
  ∀ begin, Machine.Reaches c entered begin → begin.AtLine first → begin.loops = entered.loops →
    ∃ done, ReachesLine c place begin done ∧ done.vars.get name = begin.vars.get name ∧
      done.loops = begin.loops

section Runs

variable {first place n : Nat} {closing : CodeLine} {l : Loop} {outer : List Loop}
  {x step : Float} {entered begin done : Machine}

theorem Crosses.round (crosses : Crosses c name first place entered)
    (reached : Machine.Reaches c entered begin) (starts : begin.AtLine first)
    (given : begin.vars.get name = .number x) (inside : begin.loops = entered.loops) :
    ∃ done, Round c name entered.loops first place x begin done := by
  obtain ⟨done, comes, kept, still⟩ := crosses begin reached starts inside
  exact ⟨done, starts, given, inside, comes, kept.trans given, still.trans inside⟩

theorem Iterates.reaches (iterates : Iterates c name x step first place entered n done) :
    Machine.Reaches c entered done := by
  induction iterates with
  | once round => exact round.comes.reaches .here
  | again before running round ih => exact round.comes.reaches (ih.step running)

theorem Iterates.last (iterates : Iterates c name x step first place entered (n + 1) done) :
    done.AtLine place ∧ done.vars.get name = .number (counter x step n) ∧
      done.loops = entered.loops := by
  cases iterates with
  | once round => exact ⟨round.comes.arrived, round.kept, round.still⟩
  | again before running round => exact ⟨round.comes.arrived, round.kept, round.still⟩

theorem iteratesWithin (closes : Closes c l first place closing)
    (unlimited : c.options.maxSteps ≤ 0)
    (calm : ∀ now, Machine.Reaches c entered now → now.host.interrupted = false)
    (crosses : Crosses c l.name first place entered) (starts : entered.AtLine first)
    (given : entered.vars.get l.name = .number x) (top : entered.loops = l :: outer)
    (within : ∀ j, 1 ≤ j → j ≤ n → Within l.limit l.step (counter x l.step j)) :
    ∃ done, Iterates c l.name x l.step first place entered (n + 1) done := by
  -- one turn is sure; each further one begins with a NEXT that finds the counter within the limit
  induction n with
  | zero =>
      obtain ⟨done, round⟩ := crosses.round .here starts given rfl
      exact ⟨done, .once round⟩
  | succ n ih =>
      obtain ⟨done, iterates⟩ := ih fun j positive upTo => within j positive (by omega)
      obtain ⟨arrived, kept, still⟩ := iterates.last
      obtain ⟨after, value, _, _, ⟨_, loops, running⟩ | ⟨beyond, _, _⟩⟩ :=
        nextStep closes unlimited arrived (calm done iterates.reaches) (still.trans top) kept
      · obtain ⟨last, round⟩ := crosses.round (iterates.reaches.step running) ⟨rfl, rfl⟩ value
          (loops.trans top.symm)
        exact ⟨last, .again iterates running round⟩
      · exact absurd (within (n + 1) (by omega) (by omega)) beyond

theorem iteratesLeave (closes : Closes c l first place closing)
    (unlimited : c.options.maxSteps ≤ 0)
    (calm : ∀ now, Machine.Reaches c entered now → now.host.interrupted = false)
    (top : entered.loops = l :: outer)
    (iterates : Iterates c l.name x l.step first place entered (n + 1) done)
    (beyond : ¬ Within l.limit l.step (counter x l.step (n + 1))) :
    ∃ after, done.step c = .running after ∧
      after.vars.get l.name = .number (counter x l.step (n + 1)) ∧ after.loops = outer ∧
      after.PastFirst place closing := by
  obtain ⟨arrived, kept, still⟩ := iterates.last
  obtain ⟨after, value, here, rest, ⟨within, _, _⟩ | ⟨_, loops, running⟩⟩ :=
    nextStep closes unlimited arrived (calm done iterates.reaches) (still.trans top) kept
  · exact absurd within beyond
  · obtain ⟨pending, vars, stack, next⟩ := settleFrame after
    refine ⟨_, running, ?_, stack.trans loops, pending.trans rest, ?_⟩
    · rw [vars, value]
      rfl
    · rw [next, rest, here]

end Runs

theorem loopTurns {isFunction : String → Bool} {lines : List Line} {code : Code}
    (compiled : Code.compile isFunction lines = .ok code) (functions : Functions)
    (options : Options) (unlimited : options.maxSteps ≤ 0) {m ready entered : Machine}
    {name : String} {start limit : Expr} {step : Option Expr}
    (due : m.Due ⟨code, functions, options⟩ (.loop name start limit step) ready)
    (last : ready.pending = []) (running : m.step ⟨code, functions, options⟩ = .running entered)
    {place : Nat} {closing : CodeLine} (there : code.lines[place]? = some closing)
    (opens : closing.body.first = .next name)
    (calm : ∀ now, Machine.Reaches ⟨code, functions, options⟩ entered now →
      now.host.interrupted = false)
    (crosses : Crosses ⟨code, functions, options⟩ name (m.pc + 1) place entered) :
    ∃ x y z, Bounds functions ready.vars ready.host start limit step x y z ∧
      (∀ k, Turns x y z k → ∃ done after,
        Iterates ⟨code, functions, options⟩ name x z (m.pc + 1) place entered k done ∧
        done.step ⟨code, functions, options⟩ = .running after ∧
        after.vars.get name = .number (counter x z k) ∧ Exec.Forgets name m.loops after.loops ∧
        after.PastFirst place closing) ∧
      ((∀ k, ¬ Turns x y z k) → ∀ n, ∃ done,
        Iterates ⟨code, functions, options⟩ name x z (m.pc + 1) place entered (n + 1) done) ∧
      ∀ a b c : Int, c ≠ 0 → x = Float.ofInt a → y = Float.ofInt b → z = Float.ofInt c →
        ExactUpTo a b c (max 1 (Int.fdiv (b - a) c + 1)).toNat →
        ∀ k : Nat, Turns x y z k ↔ (k : Int) = max 1 (Int.fdiv (b - a) c + 1) := by
  obtain ⟨x, y, z, resume, bounds, follows, starts, given, top⟩ := loopStep due last running
  obtain ⟨next, body, number⟩ := Option.map_eq_some_iff.mp follows
  have closes : Closes ⟨code, functions, options⟩ ⟨name, y, z, resume⟩ (m.pc + 1) place closing :=
    ⟨number ▸ Code.findAt (Code.compileAscending compiled) body, there, opens⟩
  refine ⟨x, y, z, bounds, ?_, ?_, ?_⟩
  · intro k turns
    obtain ⟨n, rfl⟩ : ∃ n, k = n + 1 := ⟨k - 1, by have := turns.positive; omega⟩
    obtain ⟨done, iterates⟩ := iteratesWithin (n := n) closes unlimited calm crosses starts given
      top fun j positive upTo => turns.before j positive (by omega)
    obtain ⟨after, left, value, loops, past⟩ :=
      iteratesLeave closes unlimited calm top iterates turns.beyond
    exact ⟨done, after, iterates, left, value, loops ▸ Exec.leaveLoopForgets name m.loops, past⟩
  · intro endless n
    exact iteratesWithin closes unlimited calm crosses starts given top
      fun j positive _ => withinForever endless positive
  · rintro a b c nonzero rfl rfl rfl exact k
    exact turnsExact nonzero exact k

/- A loop that turns three times, with one inside it that turns once although its limit is below its
start. -/
def turningLines : List Line :=
  [⟨10, "FOR I = 1 TO 5 STEP 2"⟩, ⟨20, "FOR J = 2 TO 1"⟩, ⟨30, "NEXT J"⟩, ⟨40, "NEXT I"⟩]

def turningCode : Code :=
  ⟨#[⟨10, ⟨.loop "I" (.number 1) (.number 5) (some (.number 2)), []⟩⟩,
    ⟨20, ⟨.loop "J" (.number 2) (.number 1) none, []⟩⟩, ⟨30, ⟨.next "J", []⟩⟩,
    ⟨40, ⟨.next "I", []⟩⟩]⟩

def turningAt : Nat → Machine
  | 0 => Machine.start .empty .idle
  | n + 1 =>
    match (turningAt n).step ⟨turningCode, .empty, .none⟩ with
    | .running next => next
    | .finished last _ => last

theorem turningSteps {n : Nat} (inside : n < 10) :
    (turningAt n).step ⟨turningCode, .empty, .none⟩ = .running (turningAt (n + 1)) := by
  match n, inside with
  | 0, _ | 1, _ | 2, _ | 3, _ | 4, _ | 5, _ | 6, _ | 7, _ | 8, _ | 9, _ => with_unfolding_all rfl

theorem turningReaches {now : Machine}
    (reached : Machine.Reaches ⟨turningCode, .empty, .none⟩ (turningAt 1) now) :
    ∃ n, 1 ≤ n ∧ n ≤ 10 ∧ now = turningAt n := by
  induction reached with
  | here => exact ⟨1, by omega, by omega, rfl⟩
  | @step now after before running ih =>
      obtain ⟨n, positive, upTo, rfl⟩ := ih
      rcases Nat.lt_or_ge n 10 with inside | last
      · rw [turningSteps inside] at running
        cases running
        exact ⟨n + 1, by omega, by omega, rfl⟩
      · obtain rfl : n = 10 := by omega
        have past : (turningAt 10).pending.isEmpty ∧ (turningAt 10).pc = 4 := by decide +kernel
        rw [Machine.stepDone (List.isEmpty_iff.mp past.1) (past.2 ▸ rfl)] at running
        cases running

theorem turningCalm {now : Machine}
    (reached : Machine.Reaches ⟨turningCode, .empty, .none⟩ (turningAt 1) now) :
    now.host.interrupted = false := by
  obtain ⟨n, positive, upTo, rfl⟩ := turningReaches reached
  have calm : ∀ n < 11, (turningAt n).host.interrupted = false := by decide +kernel
  exact calm n (by omega)

theorem turningCrosses : Crosses ⟨turningCode, .empty, .none⟩ "I" 1 3 (turningAt 1) := by
  intro begin reached starts _
  obtain ⟨n, positive, upTo, rfl⟩ := turningReaches reached
  -- the first line of the body comes three times, and the NEXT two steps later
  have places : ∀ n < 11, 1 ≤ n → (turningAt n).pc = 1 → n < 8 ∧
      (turningAt (n + 1)).pc = 2 ∧ (turningAt (n + 2)).pc = 3 ∧
      (turningAt (n + 2)).pending.isEmpty ∧
      (turningAt (n + 2)).vars.get "I" = (turningAt n).vars.get "I" ∧
      (turningAt (n + 2)).loops = (turningAt n).loops := by decide +kernel
  obtain ⟨inside, second, third, idle, kept, still⟩ := places n (by omega) positive starts.here
  refine ⟨turningAt (n + 2), ?_, kept, still⟩
  refine .step (fun arrived => ?_) (turningSteps (by omega)) ?_
  · cases starts.here.symm.trans arrived.here
  · refine .step (fun arrived => ?_) (turningSteps (by omega)) ?_
    · cases second.symm.trans arrived.here
    · exact .here ⟨List.isEmpty_iff.mp idle, third⟩

theorem turningThrice :
    Code.compile (fun _ => false) turningLines = .ok turningCode ∧
      ∃ done after, Iterates ⟨turningCode, .empty, .none⟩ "I" 1 2 1 3 (turningAt 1) 3 done ∧
        done.step ⟨turningCode, .empty, .none⟩ = .running after ∧
        after.vars.get "I" = .number 7 ∧ after.loops = [] ∧ after.pc = 4 := by
  have compiled : Code.compile (fun _ => false) turningLines = .ok turningCode := rfl
  obtain ⟨x, y, z, bounds, turns, _, count⟩ :=
    loopTurns compiled .empty .none (by decide) (m := turningAt 0)
      (.line (l := ⟨10, ⟨.loop "I" (.number 1) (.number 5) (some (.number 2)), []⟩⟩) rfl rfl rfl)
      rfl (turningSteps (n := 0) (by decide)) rfl rfl (fun _ => turningCalm) turningCrosses
  obtain ⟨rfl, rfl, rfl⟩ : x = 1 ∧ y = 5 ∧ z = 2 := by
    cases bounds with
    | stepped first second third =>
        cases first
        cases second
        cases third
        exact ⟨rfl, rfl, rfl⟩
  have exact : ExactUpTo 1 5 2 3 := by
    refine ⟨by decide +kernel, ?_, ?_, by decide +kernel⟩
    all_goals
      intro j positive upTo
      obtain rfl | rfl | rfl : j = 1 ∨ j = 2 ∨ j = 3 := by omega
      all_goals decide +kernel
  have whole : (1 : Float) = Float.ofInt 1 ∧ (5 : Float) = Float.ofInt 5 ∧
      (2 : Float) = Float.ofInt 2 := by decide +kernel
  have thrice : Turns 1 5 2 3 :=
    (count 1 5 2 (by decide) whole.1 whole.2.1 whole.2.2 exact 3).mpr (by decide)
  obtain ⟨done, after, iterates, left, value, forgets, past⟩ := turns 3 thrice
  have seven : counter 1 2 3 = 7 := by decide +kernel
  have popped : after.loops = [] := by
    generalize before : (turningAt 0).loops = loops at forgets
    cases forgets with
    | nothing => exact before.symm
    | stale => simp [turningAt, Machine.start] at before
  exact ⟨compiled, done, after, iterates, left, seven ▸ value, popped, past.place⟩

end LineBasic
