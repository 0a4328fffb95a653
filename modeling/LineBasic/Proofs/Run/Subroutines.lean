import LineBasic.Proofs.Run.Places

/-!
Subroutines. GOSUB and RETURN match like brackets: while a subroutine runs, whatever it calls itself
and wherever it jumps, the lines to return to that it found stay where they are, and the RETURN that
ends it goes on at the line after the one that called it.
-/
namespace LineBasic

/- From `m` the run comes to another state, and on the way the stack of GOSUB never holds fewer than
`depth` lines. -/
inductive ReachesAbove (c : Setting) (depth : Nat) (m : Machine) : Machine → Prop where
  | here (deep : depth ≤ m.gosubs.length) : ReachesAbove c depth m m
  | step {now after} (before : ReachesAbove c depth m now) (running : now.step c = .running after)
      (deep : depth ≤ after.gosubs.length) : ReachesAbove c depth m after

section Steps

variable {c : Setting} {m m' : Machine} {s : Stmt}

theorem doesGosubs {flow : Flow} (does : Does c m s (.ok flow) m') :
    m'.gosubs = m.gosubs ∨ (∃ line, m'.gosubs = line :: m.gosubs) ∨
      ∃ line, m.gosubs = line :: m'.gosubs := by
  cases does with
  | called back room => exact .inr (.inl ⟨_, rfl⟩)
  | returned top => exact .inr (.inr ⟨_, top⟩)
  | _ => exact .inl rfl

theorem stepGosubs (running : m.step c = .running m') :
    m'.gosubs = m.gosubs ∨ (∃ line, m'.gosubs = line :: m.gosubs) ∨
      ∃ line, m.gosubs = line :: m'.gosubs := by
  obtain ⟨s, start, flow, after, due, _, ran, followed⟩ := Machine.stepRunning running
  have does := doesGosubs (statementDoes ran)
  have first : start.counted.gosubs = m.gosubs := (Machine.dueFrame due).2.2
  rw [first] at does
  rw [(Machine.followFrame followed).2.2]
  exact does

theorem suffixOfCons {α : Type} {x : α} {base rest : List α} (suffix : base <:+ x :: rest)
    (short : base.length ≤ rest.length) : base <:+ rest := by
  rcases List.suffix_cons_iff.mp suffix with rfl | inside
  · simp only [List.length_cons] at short
    omega
  · exact inside

theorem reachesAboveSuffix {base : List Int} (above : ReachesAbove c base.length m m')
    (suffix : base <:+ m.gosubs) : base <:+ m'.gosubs := by
  induction above with
  | here deep => exact suffix
  | step before running deep ih =>
      rcases stepGosubs running with same | ⟨line, pushed⟩ | ⟨line, popped⟩
      · rw [same]
        exact ih
      · rw [pushed]
        exact ih.trans (List.suffix_cons _ _)
      · rw [popped] at ih
        exact suffixOfCons ih deep

theorem gosubStep {target : Int} {ready : Machine} (due : m.Due c (.gosub target) ready)
    (running : m.step c = .running m') :
    ∃ resume, c.code.after? m.pc = some resume ∧ m'.gosubs = resume :: m.gosubs := by
  obtain ⟨place, _, gosubs⟩ := Machine.dueFrame due
  rw [Machine.dueStep due] at running
  obtain ⟨flow, after, _, ran, followed⟩ := Machine.performRunning running
  rcases Exec.gosubRuns ran with ⟨resume, back, _, _, rfl⟩ | ⟨f, same, _⟩
  · refine ⟨resume, place ▸ back, ?_⟩
    rw [(Machine.followFrame followed).2.2, ← gosubs]
    rfl
  · cases same

theorem returnStep {ready : Machine} {resume : Int} {rest : List Int} {pc : Nat}
    (due : m.Due c .goBack ready) (below : ¬ ready.AtLimit c) (top : m.gosubs = resume :: rest)
    (found : c.code.find? resume = some pc) :
    m.step c = .running { ready.counted with gosubs := rest, pc, pending := [] } := by
  have stack : ready.counted.gosubs = resume :: rest := (Machine.dueFrame due).2.2.trans top
  obtain ⟨⟨r, after⟩, ran⟩ : ∃ result, Exec.statement c .goBack ready.counted = result := ⟨_, rfl⟩
  rcases Exec.goBackRuns ran with ⟨_, _, same, rfl, rfl⟩ | ⟨empty, _, _⟩
  · rw [stack] at same
    cases same
    rw [Machine.dueStep due, Machine.performOk below ran]
    simp only [Machine.follow, found]
  · rw [stack] at empty
    cases empty

theorem returnStepEmpty {ready : Machine} (due : m.Due c .goBack ready)
    (below : ¬ ready.AtLimit c) (empty : m.gosubs = []) :
    m.step c = .finished ready.counted (.faulted (.fault ready.line .returnWithoutGosub)) := by
  have stack : ready.counted.gosubs = [] := (Machine.dueFrame due).2.2.trans empty
  obtain ⟨⟨r, after⟩, ran⟩ : ∃ result, Exec.statement c .goBack ready.counted = result := ⟨_, rfl⟩
  rcases Exec.goBackRuns ran with ⟨_, _, same, _, _⟩ | ⟨_, rfl, rfl⟩
  · rw [stack] at same
    cases same
  · rw [Machine.dueStep due, Machine.performError below ran]
    rfl

end Steps

structure ComesTo (code : Code) (m : Machine) (l : CodeLine) : Prop where
  idle : m.pending = []
  place : code.lines[m.pc]? = some l

/- `called` is the state after a GOSUB, and `back` a later one in which a RETURN finds the stack
just as high, never having been lower in between. Above the limit of statements no RETURN is
executed. -/
theorem returnMatchesGosub {isFunction : String → Bool} {lines : List Line} {code : Code}
    (compiled : Code.compile isFunction lines = .ok code) (functions : Functions)
    (options : Options) (vars : Variables) (host : Host) {m : Machine}
    (reached : Machine.Reaches ⟨code, functions, options⟩ (Machine.start vars host) m) :
    (∀ target ready called back leaving, m.Due ⟨code, functions, options⟩ (.gosub target) ready →
      m.step ⟨code, functions, options⟩ = .running called →
      ReachesAbove ⟨code, functions, options⟩ called.gosubs.length called back →
      back.Due ⟨code, functions, options⟩ .goBack leaving →
      ¬ leaving.AtLimit ⟨code, functions, options⟩ →
      back.gosubs.length = called.gosubs.length →
      ∃ l next after, Executing code ready l ∧ l.Holds (.gosub target) ∧ code.Adjacent l next ∧
        called.gosubs = next.number :: m.gosubs ∧
        back.step ⟨code, functions, options⟩ = .running after ∧
        ComesTo code after next ∧ after.gosubs = m.gosubs) ∧
      ∀ ready, m.Due ⟨code, functions, options⟩ .goBack ready →
        ¬ ready.AtLimit ⟨code, functions, options⟩ → m.gosubs = [] →
        ∃ l, Executing code ready l ∧ m.step ⟨code, functions, options⟩ =
          .finished ready.counted (.faulted (.fault l.number .returnWithoutGosub)) := by
  have ascending := Code.compileAscending compiled
  have located := reachedLocated (c := ⟨code, functions, options⟩) reached
  constructor
  · intro target ready called back leaving due running above last below depth
    obtain ⟨l, executing, held, place⟩ := dueExecuting located due
    obtain ⟨resume, follows, pushed⟩ := gosubStep due running
    obtain ⟨next, there, rfl, adjacent⟩ := Code.afterAdjacent ascending place follows
    -- the stack has the same height as after the GOSUB and still holds all it held then
    have kept : called.gosubs = back.gosubs :=
      (reachesAboveSuffix above List.suffix_rfl).eq_of_length depth.symm
    have top : back.gosubs = next.number :: m.gosubs := kept.symm.trans pushed
    have returned := returnStep last below top (Code.findAt ascending there)
    exact ⟨l, next, _, executing, held, adjacent, pushed, returned, ⟨rfl, there⟩, rfl⟩
  · intro ready due below empty
    obtain ⟨l, executing, _, _⟩ := dueExecuting located due
    exact ⟨l, executing, executing.number ▸ returnStepEmpty due below empty⟩

def nestedLines : List Line :=
  [⟨10, "GOSUB 30 : PRINT"⟩, ⟨20, "END"⟩, ⟨30, "GOSUB 50"⟩, ⟨40, "RETURN"⟩, ⟨50, "RETURN"⟩]

def nestedCode : Code :=
  ⟨#[⟨10, ⟨.gosub 30, [.print none]⟩⟩, ⟨20, ⟨.finish .endWord, []⟩⟩, ⟨30, ⟨.gosub 50, []⟩⟩,
    ⟨40, ⟨.goBack, []⟩⟩, ⟨50, ⟨.goBack, []⟩⟩]⟩

def nestedAt (pc : Nat) (line : Int) (steps : Nat) (gosubs : List Int) : Machine :=
  { Machine.start .empty .idle with pc, line, steps, gosubs }

theorem nestedReturnComesBack :
    Code.compile (fun _ => false) nestedLines = .ok nestedCode ∧
      ∃ next after, next.number = 20 ∧ ComesTo nestedCode after next ∧ after.gosubs = [] ∧
        (nestedAt 3 50 3 [20]).step ⟨nestedCode, .empty, .none⟩ = .running after := by
  have compiled : Code.compile (fun _ => false) nestedLines = .ok nestedCode := rfl
  have outer : (Machine.start .empty .idle).step ⟨nestedCode, .empty, .none⟩ =
      .running (nestedAt 2 10 1 [20]) := by with_unfolding_all rfl
  have inner : (nestedAt 2 10 1 [20]).step ⟨nestedCode, .empty, .none⟩ =
      .running (nestedAt 4 30 2 [40, 20]) := by with_unfolding_all rfl
  have back : (nestedAt 4 30 2 [40, 20]).step ⟨nestedCode, .empty, .none⟩ =
      .running (nestedAt 3 50 3 [20]) := by with_unfolding_all rfl
  have above : ReachesAbove ⟨nestedCode, .empty, .none⟩ 1 (nestedAt 2 10 1 [20])
      (nestedAt 3 50 3 [20]) :=
    .step (.step (.here (Nat.le_refl 1)) inner (by decide)) back (by decide)
  have unlimited : ∀ m, ¬ Machine.AtLimit ⟨nestedCode, .empty, .none⟩ m := by
    intro m limit
    exact absurd limit.1 (by decide)
  obtain ⟨l, next, after, _, _, _, pushed, returned, comes, rest⟩ :=
    (returnMatchesGosub compiled .empty .none .empty .idle .here).1 30 _ _ _ _
      (.line (l := ⟨10, ⟨.gosub 30, [.print none]⟩⟩) rfl rfl rfl) outer above
      (.line (l := ⟨40, ⟨.goBack, []⟩⟩) rfl rfl rfl) (unlimited _) rfl
  exact ⟨compiled, next, after, (List.cons.inj pushed).1.symm, comes, rest, returned⟩

end LineBasic
