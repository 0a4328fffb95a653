import LineBasic.Proofs.Function.Hosts
import LineBasic.Proofs.Program.Compile
import LineBasic.Proofs.Program.Order

/-!
Runs that are cut short, by a limit on the number of statements or by a request to stop. Up to the
place where it is cut such a run has done what it would have done otherwise, and nothing more.
-/
namespace LineBasic

def Ending.OutOfBudget (e : Ending) : Prop := ∃ line n, e = .faulted (.fault line (.stepLimit n))

def Options.unlimited (o : Options) : Options := { o with maxSteps := 0 }

def Workspace.unlimited (w : Workspace) : Workspace := { w with options := w.options.unlimited }

def Host.calm (h : Host) : Host := { h with interrupted := false, breakOn := none }

def Machine.calm (m : Machine) : Machine := { m with host := m.host.calm }

/- What is expected of functions: none of them claims that the limit is reached, and one that is
asked to stop either fails or does what it would have done anyway. -/
structure Functions.Fair (fns : Functions) : Prop where
  unlimited : ∀ n, ¬ fns.Raises (.stepLimit n)
  heedful : ∀ (name : String) (body : FunctionBody) (args : List Value) (h h' : Host) (v : Value),
    fns.table[name]? = some body → body args h = (.ok v, h') → body args h.calm = (.ok v, h'.calm)

section Budget

variable {c : Setting} {m last : Machine} {e : Ending} {vars : Variables} {h : Host}

theorem budgetCompanion (c : Setting) :
    Companion (· = .stepLimit c.options.maxSteps) Eq c c.options.unlimited where
  write text related := by
    subst related
    exact ⟨rfl, rfl⟩
  clock related := by rw [related]
  meter related := by rw [related]
  random related := by rw [related]
  drawn _ related := by rw [related]
  waits _ related := by rw [related]
  asked related := .inl (by rw [related])
  blind := by
    intro name body args found h k related
    subst related
    exact .inl ⟨rfl, rfl⟩
  change name shown old new related := by
    subst related
    rfl
  begun line related := by
    subst related
    rfl
  read name related := by
    subst related
    exact ⟨rfl, rfl⟩
  limit := .inr ⟨Int.le_refl 0, rfl⟩

theorem besideEq {k : Machine} (beside : m.Beside Eq k) : k = m := by
  obtain ⟨host, rfl, rfl⟩ := beside
  rfl

theorem reachesUnlimited (reached : Machine.Reaches c m last) :
    Machine.Reaches { c with options := c.options.unlimited } m last := by
  obtain ⟨also, reached, beside⟩ := Machine.reachesBeside (budgetCompanion c) (.refl rfl) reached
  rw [besideEq beside] at reached
  exact reached

theorem dueUnlimited {s start} (due : m.Due c s start) :
    m.Due { c with options := c.options.unlimited } s start := by
  cases due with
  | pending next => exact .pending next
  | line idle found calm => exact .line idle found calm

theorem reachesBelow (positive : 0 < c.options.maxSteps)
    (reached : Machine.Reaches c (Machine.start vars h) m) : m.steps ≤ c.options.maxSteps := by
  cases reached with
  | here => exact Int.le_of_lt positive
  | step before running =>
      have below := (Machine.stepCounts running).2
      omega

/- Only the limit itself ends a run as out of budget, before the statement that would be one too
many. -/
theorem endsOutOfBudget (unlimited : ∀ n, ¬ c.functions.Raises (.stepLimit n))
    (ends : last.Ends c m e) (out : e.OutOfBudget) :
    ∃ s start, last.Due c s start ∧ start.AtLimit c ∧ m = start.counted ∧
      e = .faulted (.fault start.line (.stepLimit c.options.maxSteps)) := by
  obtain ⟨line, n, same⟩ := out
  cases ends with
  | limited due limit => exact ⟨_, _, due, limit, rfl, rfl⟩
  | stopped due below ran => cases same
  | missing due below ran missing => cases same
  | failed due below ran =>
      cases same
      rcases doesFault (statementDoes ran) with impossible | ⟨_, raised⟩ | ⟨_, _, _, _, _, other⟩
      · exact impossible.elim
      · exact absurd raised (unlimited n)
      · cases other
  | interrupted idle found asked => cases same
  | completed idle past => cases same

theorem executedSteps {s : Stmt} {start after : Machine} {r : Except Fault Flow}
    (positive : 0 < c.options.maxSteps) (below : ¬ start.AtLimit c)
    (ran : Exec.statement c s start.counted = (r, after)) : after.steps ≤ c.options.maxSteps := by
  have kept := (Machine.doesFrame (statementDoes ran)).2.2.2
  unfold Machine.AtLimit at below
  rw [kept]
  omega

theorem endsWithin (positive : 0 < c.options.maxSteps) (within : last.steps ≤ c.options.maxSteps)
    (ends : last.Ends c m e) (other : ¬ e.OutOfBudget) : m.steps ≤ c.options.maxSteps := by
  cases ends with
  | limited due limit => exact absurd ⟨_, _, rfl⟩ other
  | stopped due below ran => exact executedSteps positive below ran
  | missing due below ran missing => exact executedSteps positive below ran
  | failed due below ran => exact executedSteps positive below ran
  | interrupted idle found asked => exact within
  | completed idle past => exact within

theorem limitedFinishes (positive : 0 < c.options.maxSteps) (vars : Variables) (h : Host) :
    ∃ m e, ∀ fuel : Nat, c.options.maxSteps < fuel →
      Machine.run c fuel (Machine.start vars h) = some (m, e) := by
  have enough : c.options.maxSteps < (c.options.maxSteps.toNat + 1 : Nat) := by omega
  have finished : Machine.run c (c.options.maxSteps.toNat + 1) (Machine.start vars h) ≠ none :=
    runLimited positive enough
  obtain ⟨⟨m, e⟩, ran⟩ := Option.ne_none_iff_exists'.mp finished
  refine ⟨m, e, ?_⟩
  intro fuel more
  exact Machine.runMore ran (by omega)

theorem limitedCount (positive : 0 < c.options.maxSteps)
    (unlimited : ∀ n, ¬ c.functions.Raises (.stepLimit n)) {fuel : Nat}
    (ran : Machine.run c fuel (Machine.start vars h) = some (m, e)) :
    (e.OutOfBudget ∧ m.steps = c.options.maxSteps + 1) ∨
      (¬ e.OutOfBudget ∧ m.steps ≤ c.options.maxSteps) := by
  obtain ⟨last, reached, finished⟩ := Machine.runFinished ran
  have ends := Machine.stepEnds finished
  have within := reachesBelow positive reached
  by_cases out : e.OutOfBudget
  · refine .inl ⟨out, ?_⟩
    obtain ⟨s, start, due, limit, rfl, _⟩ := endsOutOfBudget unlimited ends out
    have steps := Machine.dueSteps due
    have count : start.counted.steps = start.steps + 1 := rfl
    have above := limit.2
    omega
  · exact .inr ⟨out, endsWithin positive within ends out⟩

theorem limitedSame {fuel : Nat} (other : ¬ e.OutOfBudget)
    (ran : Machine.run c fuel (Machine.start vars h) = some (m, e)) :
    Machine.run { c with options := c.options.unlimited } fuel (Machine.start vars h) =
      some (m, e) := by
  rw [← Machine.runNeverAsked] at ran ⊢
  have asks (m k : Machine) (asked : Bool) (beside : m.Beside Eq k) :
      (m.ask asked).Beside Eq (k.ask asked) := by
    rw [besideEq beside]
    exact .refl rfl
  rcases (Machine.runBeside (budgetCompanion c) asks _ fuel (.refl rfl)).2 m e ran with
    ⟨k, also, beside⟩ | ⟨line, f, rfl, rfl⟩
  · rw [also, besideEq beside]
  · exact absurd ⟨_, _, rfl⟩ other

theorem limitedCut (positive : 0 < c.options.maxSteps)
    (unlimited : ∀ n, ¬ c.functions.Raises (.stepLimit n)) {fuel : Nat} (out : e.OutOfBudget)
    (ran : Machine.run c fuel (Machine.start vars h) = some (m, e)) :
    ∃ last s ready,
      Machine.Reaches { c with options := c.options.unlimited } (Machine.start vars h) last ∧
        last.steps = c.options.maxSteps ∧
        last.Due { c with options := c.options.unlimited } s ready ∧ m = ready.counted := by
  obtain ⟨last, reached, finished⟩ := Machine.runFinished ran
  have within := reachesBelow positive reached
  obtain ⟨s, ready, due, limit, rfl, _⟩ :=
    endsOutOfBudget unlimited (Machine.stepEnds finished) out
  refine ⟨last, s, ready, reachesUnlimited reached, ?_, dueUnlimited due, rfl⟩
  have steps := Machine.dueSteps due
  have count : ready.counted.steps = ready.steps + 1 := rfl
  have above := limit.2
  omega

end Budget

section Requests

variable {c : Setting} {asked : Nat → Bool} {m now : Machine}

inductive Machine.ReachesAsked (c : Setting) (asked : Nat → Bool) (m : Machine) :
    Machine → Prop where
  | here : ReachesAsked c asked m m
  | step {now after} (before : ReachesAsked c asked m now)
      (running : (now.ask (asked now.steps)).step c = .running after) : ReachesAsked c asked m after

theorem writeCalm (h : Host) (p : Purpose) (text : Bytes) :
    (h.calm.write p text).1 = (h.write p text).1 ∧
      (h.calm.write p text).2 = (h.write p text).2.calm := by
  unfold Host.write
  have same : h.calm.console.accepts text = h.console.accepts text := rfl
  rw [same]
  split
  · exact ⟨rfl, rfl⟩
  · exact ⟨rfl, rfl⟩

theorem calmServe : ServeAlike (fun _ => True) fun h k => k = h.calm where
  write {h k} text related := by
    subst related
    obtain ⟨accepted, left⟩ := writeCalm h .result text
    exact ⟨accepted.symm, left⟩
  clock related := by
    subst related
    rfl
  meter related := by
    subst related
    rfl
  random related := by
    subst related
    rfl
  drawn _ related := by
    subst related
    rfl
  waits _ related := by
    subst related
    rfl
  asked related := by
    subst related
    exact .inr ⟨rfl, trivial⟩

theorem Functions.standardFair : Functions.standard.Fair where
  unlimited _ raised := Functions.standardRaises raised
  heedful name body args h h' v found ran := by
    have ends := Functions.standardBlind calmServe name body args found h h.calm rfl
    rw [ran] at ends
    rcases ends with ⟨same, left⟩ | ⟨_, impossible, _⟩
    · exact Prod.ext same.symm left
    · cases impossible

theorem remarkCalm (h : Host) (wanted : Bool) (text : Bytes) :
    (h.calm).remark wanted text = (h.remark wanted text).calm := by
  cases wanted with
  | false => rfl
  | true => exact (writeCalm h .trace text).2

theorem readCalm (prompt : String) (h : Host) :
    (Exec.readInput prompt h.calm).1 = (Exec.readInput prompt h).1 ∧
      (Exec.readInput prompt h.calm).2 = (Exec.readInput prompt h).2.calm := by
  have prompted : h.calm.writeAnyway .prompt prompt = (h.writeAnyway .prompt prompt).calm :=
    (writeCalm h .prompt prompt).2
  unfold Exec.readInput
  have same : h.calm.input = h.input := rfl
  rw [same]
  cases h.input with
  | none => exact ⟨rfl, prompted⟩
  | some channel =>
      simp only
      cases channel.drawsPrompt with
      | true => exact ⟨trivial, rfl⟩
      | false =>
          simp only [prompted]
          exact ⟨trivial, rfl⟩

theorem calmCompanion (fair : c.functions.Fair) :
    Companion (fun _ => True) (fun h k => k = h.calm) c c.options where
  toServeAlike := calmServe
  blind := by
    intro name body args found h k related
    subst related
    obtain ⟨⟨r, h'⟩, ran⟩ : ∃ result, body args h = result := ⟨_, rfl⟩
    rw [ran]
    cases r with
    | error f => exact .inr ⟨f, rfl, trivial⟩
    | ok v =>
        rw [fair.heedful name body args h h' v found ran]
        exact .inl ⟨rfl, rfl⟩
  change name shown old new related := by
    subst related
    exact remarkCalm _ _ _
  begun line related := by
    subst related
    exact remarkCalm _ _ _
  read name related := by
    subst related
    obtain ⟨same, left⟩ := readCalm (Exec.promptFor c name) _
    exact ⟨same.symm, left⟩
  limit := .inl rfl

theorem stepCalm (fair : c.functions.Fair) (asked : Bool)
    (running : (m.ask asked).step c = .running now) : m.calm.step c = .running now.calm := by
  have beside : (m.ask asked).Beside (fun h k => k = h.calm) m.calm := ⟨_, rfl, rfl⟩
  have next := Machine.stepBeside (calmCompanion fair) beside
  rw [running] at next
  have same : m.calm.step { c with options := c.options } = m.calm.step c := rfl
  rw [same] at next
  generalize m.calm.step c = p at next ⊢
  cases next with
  | running beside =>
      obtain ⟨host, rfl, rfl⟩ := beside
      rfl

theorem reachesCalm (fair : c.functions.Fair) (reached : Machine.ReachesAsked c asked m now) :
    Machine.Reaches c m.calm now.calm := by
  induction reached with
  | here => exact .here
  | step before running ih => exact .step ih (stepCalm fair _ running)

theorem runAskedFrom {fuel : Nat} {result : Machine × Ending}
    (reached : Machine.ReachesAsked c asked m now)
    (ran : Machine.runAsked c asked fuel now = some result) :
    ∃ fuel, Machine.runAsked c asked fuel m = some result := by
  induction reached generalizing fuel with
  | here => exact ⟨fuel, ran⟩
  | step before running ih =>
      refine @ih (fuel + 1) ?_
      rw [Machine.runAsked, running]
      exact ran

theorem stepInterrupted {l : CodeLine} (idle : m.pending = [])
    (found : c.code.lines[m.pc]? = some l) (stop : m.host.interrupted = true) :
    m.step c =
      .finished { m with line := l.number } (.faulted (.fault l.number .interrupted)) := by
  rw [Machine.stepLine idle found, Machine.beginLine]
  simp only [stop, if_true]
  rfl

end Requests

/- The run of the workspace has executed `n` statements and is about to execute one more, on the
machine `ready`. -/
def Workspace.AboutTo (w : Workspace) (h : Host) (n : Int) (ready : Machine) : Prop :=
  ∃ code last s, w.code = .ok code ∧
    Machine.Reaches ⟨code, w.functions, w.options⟩ (Machine.start w.vars h) last ∧
    last.steps = n ∧ last.Due ⟨code, w.functions, w.options⟩ s ready

theorem codeOutOfBudget {w : Workspace} {e : ProgramError} (failed : w.code = .error e) :
    ¬ (Ending.faulted e).OutOfBudget := by
  rintro ⟨line, n, same⟩
  cases same
  unfold Workspace.code at failed
  split at failed
  · cases failed
  · rcases Code.compileError failed with other | ⟨_, _, other⟩ <;> cases other

/- What a limit on statements makes of the run of a workspace: the run always finishes and executes
at most the statements allowed, the one refused being counted. Unless it is refused one, the limit
makes no difference; otherwise the run leaves all as the unlimited run has it at that moment. -/
structure Budgeted (w : Workspace) (h : Host) (outcome : Outcome) (w' : Workspace) (h' : Host) :
    Prop where
  finishes (fuel : Nat) (enough : w.options.maxSteps < fuel) :
    w.run fuel h = some (outcome, w', h')
  most : outcome.statements ≤ w.options.maxSteps + 1
  refused : outcome.statements = w.options.maxSteps + 1 ↔ outcome.ending.OutOfBudget
  whole (other : ¬ outcome.ending.OutOfBudget) (fuel : Nat) (enough : w.options.maxSteps < fuel) :
    w.unlimited.run fuel h = some (outcome, w'.unlimited, h')
  cut (out : outcome.ending.OutOfBudget) : ∃ ready,
    w.unlimited.AboutTo h w.options.maxSteps ready ∧ outcome.line = ready.line ∧
      w' = { w with vars := ready.vars } ∧ h' = ready.host

theorem budgetedUnparsed {w : Workspace} {e : ProgramError} (failed : w.code = .error e) (h : Host)
    (positive : 0 < w.options.maxSteps) : Budgeted w h ⟨.faulted e, e.line, 0⟩ w h where
  finishes fuel _ := runUnparsed failed fuel h
  most := by
    simp only
    omega
  refused := by
    refine iff_of_false ?_ (codeOutOfBudget failed)
    simp only
    omega
  whole _ fuel _ := by
    have same : w.unlimited.code = .error e := failed
    exact runUnparsed same fuel h
  cut out := absurd out (codeOutOfBudget failed)

theorem budgetedParsed {w : Workspace} {code : Code} (compiled : w.code = .ok code)
    (fair : w.functions.Fair) (h : Host) (positive : 0 < w.options.maxSteps) :
    ∃ outcome w' h', Budgeted w h outcome w' h' := by
  obtain ⟨m, e, finishes⟩ :=
    limitedFinishes (c := ⟨code, w.functions, w.options⟩) positive w.vars h
  have ran := finishes (w.options.maxSteps.toNat + 1) (by simp only; omega)
  have count := limitedCount (c := ⟨code, w.functions, w.options⟩) positive fair.unlimited ran
  simp only at count
  refine ⟨⟨e, m.line, m.steps⟩, { w with vars := m.vars }, m.host, ?_, ?_, ?_, ?_, ?_⟩
  · intro fuel enough
    rw [runOf compiled, finishes fuel enough]
    rfl
  · rcases count with ⟨_, steps⟩ | ⟨_, steps⟩ <;> simp only <;> omega
  · rcases count with ⟨out, steps⟩ | ⟨other, steps⟩
    · exact iff_of_true steps out
    · refine iff_of_false ?_ other
      simp only
      omega
  · intro other fuel enough
    have same := limitedSame other (finishes fuel enough)
    rw [runOf (w := w.unlimited) compiled]
    exact congrArg (Option.map _) same
  · intro out
    obtain ⟨last, s, ready, reached, steps, due, rfl⟩ :=
      limitedCut (c := ⟨code, w.functions, w.options⟩) positive fair.unlimited out ran
    exact ⟨ready, ⟨code, last, s, compiled, reached, steps, due⟩, rfl, rfl, rfl⟩

/- The second part is about a run that comes to a line when someone has asked for a stop. -/
theorem cutShortCleanly (w : Workspace) (h : Host) (fair : w.functions.Fair) :
    (0 < w.options.maxSteps → ∃ outcome w' h', Budgeted w h outcome w' h') ∧
    ∀ asked code m l, w.code = .ok code →
      Machine.ReachesAsked ⟨code, w.functions, w.options⟩ asked (Machine.start w.vars h) m →
      m.pending = [] → code.lines[m.pc]? = some l →
      (m.ask (asked m.steps)).host.interrupted = true →
      (∃ fuel, w.runAsked asked fuel h =
        some (⟨.faulted (.fault l.number .interrupted), l.number, m.steps⟩,
          { w with vars := m.vars }, (m.ask (asked m.steps)).host)) ∧
      Machine.Reaches ⟨code, w.functions, w.options⟩ (Machine.start w.vars h.calm) m.calm := by
  refine ⟨?_, ?_⟩
  · intro positive
    cases compiled : w.code with
    | error e => exact ⟨_, _, _, budgetedUnparsed compiled h positive⟩
    | ok code => exact budgetedParsed compiled fair h positive
  · intro asked code m l compiled reached idle found stop
    refine ⟨?_, reachesCalm (c := ⟨code, w.functions, w.options⟩) fair reached⟩
    have ended := stepInterrupted (c := ⟨code, w.functions, w.options⟩)
      (m := m.ask (asked m.steps)) idle found stop
    have last : Machine.runAsked ⟨code, w.functions, w.options⟩ asked 1 m =
        some ({ m.ask (asked m.steps) with line := l.number },
          .faulted (.fault l.number .interrupted)) := by
      rw [Machine.runAsked, ended]
    obtain ⟨fuel, ran⟩ := runAskedFrom reached last
    refine ⟨fuel, ?_⟩
    simp only [Workspace.runAsked, compiled, ran]
    rfl

def endless : Workspace :=
  ⟨.ofLines [⟨10, "GOTO 10"⟩] false, .empty, .standard, { Options.none with maxSteps := 3 }⟩

def endlessCode : Code := ⟨#[⟨10, ⟨.goto 10, []⟩⟩]⟩

def endlessAfter (n : Nat) : Machine := { Machine.start .empty .idle with line := 10, steps := n }

theorem endlessCutShort :
    endless.functions.Fair ∧ endless.code = .ok endlessCode ∧
      (∃ outcome w' h', Budgeted endless .idle outcome w' h' ∧ outcome.statements = 4) ∧
      ∃ fuel, endless.runAsked (· == 2) fuel .idle =
        some (⟨.faulted (.fault 10 .interrupted), 10, 2⟩, { endless with vars := .empty },
          { Host.idle with interrupted := true }) := by
  have standard : endless.functions = .standard := by simp only [endless]
  have fair : endless.functions.Fair := standard ▸ Functions.standardFair
  have compiled : endless.code = .ok endlessCode := rfl
  have positive : 0 < endless.options.maxSteps := by decide
  obtain ⟨limited, interrupted⟩ := cutShortCleanly endless .idle fair
  refine ⟨fair, compiled, ?_, ?_⟩
  · obtain ⟨outcome, w', h', budgeted⟩ := limited positive
    have count : (endless.run 4 .idle).map (·.1.statements) = some 4 := by decide +kernel
    rw [budgeted.finishes 4 (by decide)] at count
    exact ⟨outcome, w', h', budgeted, Option.some.inj count⟩
  · have reached : Machine.ReachesAsked ⟨endlessCode, endless.functions, endless.options⟩ (· == 2)
        (Machine.start endless.vars .idle) (endlessAfter 2) := by
      have first : Machine.ReachesAsked ⟨endlessCode, endless.functions, endless.options⟩ (· == 2)
          (Machine.start endless.vars .idle) (endlessAfter 1) :=
        .step .here (by with_unfolding_all rfl)
      exact .step first (by with_unfolding_all rfl)
    have ended := interrupted (· == 2) endlessCode (endlessAfter 2) ⟨10, ⟨.goto 10, []⟩⟩ compiled
      reached rfl rfl rfl
    exact ended.1

end LineBasic
