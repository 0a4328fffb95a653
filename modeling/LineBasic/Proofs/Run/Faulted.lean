import LineBasic.Proofs.Run.Stacks

/-!
What a statement that fails leaves in the variables: what was there before, with one exception. A
DIM of several arrays makes them one after the other and does not take back those it has made when
a later one is refused.
-/
namespace LineBasic

def Stmt.innermost : Stmt → Stmt
  | .doIf _ inner => inner.innermost
  | s => s

/- Executing `s` on `m` ends in the fault `f` and leaves `m'`, be it in `s` itself or, when `s` is
an IF that applies, in the statement inside it. -/
inductive Fails (c : Setting) : Machine → Stmt → Fault → Machine → Prop where
  | here {m s f line m'} (failed : m.perform c s = .finished m' (.faulted (.fault line f))) :
      Fails c m s f m'
  | inside {m condition inner mid f m'} (below : ¬ m.AtLimit c)
      (applies : Exec.statement c (.doIf condition inner) m.counted = (.ok (.inner inner), mid))
      (rest : Fails c mid inner f m') : Fails c m (.doIf condition inner) f m'

inductive BreaksLate (c : Setting) : Machine → Stmt → Prop where
  | dim {m done d rest mid f m'} (below : ¬ m.AtLimit c) (nonempty : done ≠ [])
      (made : Exec.dimension c done m.counted = (.ok (), mid))
      (refused : Exec.dimension c [d] mid = (.error f, m')) :
      BreaksLate c m (.dim (done ++ d :: rest))
  | inside {m condition inner mid} (below : ¬ m.AtLimit c)
      (applies : Exec.statement c (.doIf condition inner) m.counted = (.ok (.inner inner), mid))
      (rest : BreaksLate c mid inner) : BreaksLate c m (.doIf condition inner)

structure PartlyMade (before : Variables) (done : List Declaration) (after : Variables) : Prop where
  scalars : after.scalars = before.scalars
  others : ∀ name, (∀ d ∈ done, d.name ≠ name) → after.arrays[name]? = before.arrays[name]?
  made : ∀ d ∈ done, ∃ sizes, after.arrays[d.name]? = some (Grid.blank (isTextName d.name) sizes)

section Statements

open Exec

variable {c : Setting} {m m' : Machine} {s : Stmt} {f : Fault}

theorem makeOk {vs vs' : Variables} {name : String} {dims : List Int}
    (ok : vs.dimension name dims = .ok vs') : ∃ sizes, vs' =
      { vs with arrays := vs.arrays.insert name (Grid.blank (isTextName name) sizes) } := by
  unfold Variables.dimension at ok
  split at ok
  · cases ok
  · split at ok <;> cases ok
    exact ⟨_, rfl⟩

theorem dimensionOneMade {d : Declaration} (ran : dimension c [d] m = (.ok (), m')) :
    ∃ sizes, m'.vars =
      { m.vars with
        arrays := m.vars.arrays.insert d.name (Grid.blank (isTextName d.name) sizes) } := by
  unfold dimension at ran
  rcases bindRuns.mp ran with ⟨dims, mid, one, rest⟩ | ⟨_, _, same⟩
  · obtain ⟨host, _, rfl⟩ := effectRuns.mp one
    rcases bindRuns.mp rest with ⟨now, _, got, rest⟩ | ⟨_, _, same⟩
    · cases got
      rcases bindRuns.mp rest with ⟨vars, mid, made, rest⟩ | ⟨_, _, same⟩
      · obtain ⟨ok, rfl⟩ := ofExceptRuns.mp made
        cases rest
        exact makeOk ok.symm
      · cases same
    · cases same
  · cases same

theorem dimensionMade {done : List Declaration} (ran : dimension c done m = (.ok (), m')) :
    PartlyMade m.vars done m'.vars := by
  induction done generalizing m with
  | nil =>
      obtain ⟨_, rfl⟩ := pureRuns.mp ran
      exact ⟨rfl, fun _ _ => rfl, nofun⟩
  | cons d rest ih =>
      have split : dimension c (d :: rest) = (dimension c [d] >>= fun _ => dimension c rest) :=
        dimensionAppend [d] rest
      rw [split] at ran
      rcases bindRuns.mp ran with ⟨_, mid, one, others⟩ | ⟨_, _, same⟩
      · obtain ⟨sizes, now⟩ := dimensionOneMade one
        have tail := ih others
        have scalars := tail.scalars
        have untouched := tail.others
        rw [now] at scalars untouched
        refine ⟨scalars, ?_, ?_⟩
        · intro name other
          rw [untouched name (fun e inside => other e (by simp [inside]))]
          simp [Std.TreeMap.getElem?_insert, other d (by simp)]
        · intro e member
          rcases List.mem_cons.mp member with rfl | inside
          · by_cases again : ∃ e' ∈ rest, e'.name = e.name
            · obtain ⟨e', inside, same⟩ := again
              rw [← same]
              exact tail.made e' inside
            · refine ⟨sizes, ?_⟩
              rw [untouched e.name (fun e' inside same => again ⟨e', inside, same⟩)]
              simp
          · exact tail.made e inside
      · cases same

theorem faultVariables (does : Does c m s (.error f) m') :
    m'.vars = m.vars ∨ ∃ arrays, s = .dim arrays ∧ BreaksOff c m arrays f m' := by
  cases does with
  | refused ordinary => exact .inl rfl
  | failed evaluates allowed => exact .inl rfl
  | full => exact .inl rfl
  | brokenOff breaks => exact .inr ⟨_, rfl, breaks⟩

/- A jump leaves the variables alone unless it is made by NEXT, and that one always finds its
line. -/
theorem missingVariables {line : Int} (valid : StacksValid c.code m)
    (does : Does c m s (.ok (.jump line)) m') (missing : c.code.find? line = none) :
    m'.vars = m.vars := by
  generalize jump : Flow.jump line = flow at does
  cases does with
  | @repeated name l outer vars host top =>
      cases jump
      obtain ⟨pc, found⟩ := (valid.resumes l (by simp [top])).found
      rw [missing] at found
      cases found
  | jumped target => rfl
  | called back room => rfl
  | returned top => rfl
  | _ => cases jump

/- A statement that fails by itself: only a DIM can have changed anything, and only if the array
it was refused is not its first. -/
theorem performVariables {line : Int} (valid : StacksValid c.code m)
    (failed : m.perform c s = .finished m' (.faulted (.fault line f))) :
    m'.vars = m.vars ∨ BreaksLate c m s := by
  have counted : StacksValid c.code m.counted := { valid with }
  rcases Machine.performCases c m s with ⟨_, limited⟩ |
    ⟨below, ⟨flow, after, ran, followed⟩ | ⟨g, after, ran, faulted⟩⟩
  · rw [limited] at failed
    cases failed
    exact .inl rfl
  · rw [followed] at failed
    obtain ⟨rfl, ⟨_, same⟩ | ⟨target, rfl, missing, _⟩⟩ := Machine.followFinished failed
    · cases same
    · have kept : m'.vars = m.counted.vars :=
        missingVariables counted (statementDoes ran) missing
      exact .inl kept
  · rw [faulted] at failed
    cases failed
    rcases faultVariables (statementDoes ran) with kept | ⟨arrays, rfl, breaks⟩
    · exact .inl kept
    · cases breaks with
      | @within done d rest _ vars host host' made refused =>
          cases done with
          | nil =>
              obtain ⟨_, same⟩ := pureRuns.mp made
              have kept : vars = m.vars := congrArg Machine.vars same
              exact .inl kept
          | cons first more => exact .inr (.dim below (by simp) made refused)

theorem failsVariables (ascending : c.code.Ascending) (valid : StacksValid c.code m)
    (fails : Fails c m s f m') : m'.vars = m.vars ∨ BreaksLate c m s := by
  induction fails with
  | here failed => exact performVariables valid failed
  | @inside m condition inner mid f m' below applies rest ih =>
      have does := statementDoes applies
      have counted : StacksValid c.code m.counted := { valid with }
      have same : mid.vars = m.vars := by
        cases does
        rfl
      rcases ih (doesStacks ascending does counted) with kept | late
      · exact .inl (kept.trans same)
      · exact .inr (.inside below applies late)

theorem dimBroken {done rest : List Declaration} {d : Declaration} {mid : Machine}
    (made : dimension c done m = (.ok (), mid)) (refused : dimension c [d] mid = (.error f, m')) :
    Exec.statement c (.dim (done ++ d :: rest)) m = (.error f, m') := by
  have first : dimension c (d :: rest) mid = (.error f, m') := by
    rw [show d :: rest = [d] ++ rest from rfl, dimensionAppend]
    exact bindRuns.mpr (.inr ⟨f, refused, rfl⟩)
  have whole : dimension c (done ++ d :: rest) m = (.error f, m') := by
    rw [dimensionAppend]
    exact bindRuns.mpr (.inl ⟨(), mid, made, first⟩)
  exact bindRuns.mpr (.inr ⟨f, whole, rfl⟩)

theorem lateVariables (late : BreaksLate c m s) (fails : Fails c m s f m') :
    ∃ done d rest, s.innermost = .dim (done ++ d :: rest) ∧ done ≠ [] ∧
      PartlyMade m.vars done m'.vars := by
  induction late with
  | @dim m done d rest mid g broken below nonempty made refused =>
      refine ⟨done, d, rest, rfl, nonempty, ?_⟩
      have kept : broken.vars = mid.vars := by
        rcases dimensionOne d refused with ⟨⟨_, same⟩, _⟩ | ⟨_, _, _, _, rfl⟩
        · cases same
        · rfl
      cases fails with
      | here failed =>
          rw [Machine.performError below (dimBroken made refused)] at failed
          cases failed
          have partly : PartlyMade m.counted.vars done mid.vars := dimensionMade made
          rw [kept]
          exact partly
  | @inside m condition inner mid below applies rest ih =>
      have same : mid.vars = m.vars := by
        cases statementDoes applies
        rfl
      cases fails with
      | here failed =>
          rw [Machine.performOk below applies] at failed
          cases failed
      | inside _ again rest =>
          rw [applies] at again
          cases again
          rw [← same]
          exact ih rest

theorem dueVariables {start} (due : m.Due c s start) : start.vars = m.vars := by
  cases due with
  | pending next => rfl
  | line idle found calm =>
      unfold Machine.traceLine
      split <;> rfl

end Statements

/- Every statement of every run: when it fails, the variables are those from before it, unless it
has come to a DIM that made at least one array before the one it was refused. Then those are left
behind. -/
theorem faultedStatementVariables {isFunction : String → Bool} {lines : List Line} {code : Code}
    (compiled : Code.compile isFunction lines = .ok code) (functions : Functions)
    (options : Options) (vars : Variables) (host : Host) {m start m' : Machine} {s : Stmt}
    {f : Fault}
    (reached : Machine.Reaches ⟨code, functions, options⟩ (Machine.start vars host) m)
    (due : m.Due ⟨code, functions, options⟩ s start)
    (fails : Fails ⟨code, functions, options⟩ start s f m') :
    (¬ BreaksLate ⟨code, functions, options⟩ start s → m'.vars = m.vars) ∧
      (BreaksLate ⟨code, functions, options⟩ start s →
        ∃ done d rest, s.innermost = .dim (done ++ d :: rest) ∧ done ≠ [] ∧
          PartlyMade m.vars done m'.vars) := by
  have ascending := Code.compileAscending compiled
  have valid := reachedControl (c := ⟨code, functions, options⟩) ascending reached
  obtain ⟨heights, _⟩ := dueValid due valid
  rw [← dueVariables due]
  refine ⟨?_, fun late => lateVariables late fails⟩
  intro complete
  rcases failsVariables ascending heights fails with kept | late
  · exact kept
  · exact absurd late complete

def halfMadeDim : Stmt := .dim [⟨"A", [.number 2]⟩, ⟨"B", [.number 0]⟩]

def halfMadeSetting : Setting := ⟨⟨#[⟨10, ⟨halfMadeDim, []⟩⟩]⟩, .empty, .none⟩

def halfMadeStart : Machine := { Machine.start .empty .idle with line := 10 }

theorem halfMadeUnlimited : ¬ halfMadeStart.AtLimit halfMadeSetting := by
  intro limit
  exact absurd limit.1 (by decide)

theorem halfMadeFails : ∃ f m', Fails halfMadeSetting halfMadeStart halfMadeDim f m' ∧
    m'.vars.arrays.contains "A" = true := by
  have refused : (Exec.statement halfMadeSetting halfMadeDim halfMadeStart.counted).1.isOk =
      false := by decide +kernel
  have left : (Exec.statement halfMadeSetting halfMadeDim
      halfMadeStart.counted).2.vars.arrays.contains "A" = true := by decide +kernel
  obtain ⟨⟨r, m'⟩, ran⟩ : ∃ result, Exec.statement halfMadeSetting halfMadeDim
      halfMadeStart.counted = result := ⟨_, rfl⟩
  rw [ran] at refused left
  cases r with
  | ok flow => cases refused
  | error f => exact ⟨f, m', .here (Machine.performError halfMadeUnlimited ran), left⟩

theorem halfMadeLate : BreaksLate halfMadeSetting halfMadeStart halfMadeDim := by
  have first : (Exec.dimension halfMadeSetting [⟨"A", [.number 2]⟩] halfMadeStart.counted).1.isOk =
      true := by decide +kernel
  have second : (Exec.dimension halfMadeSetting [⟨"B", [.number 0]⟩]
      (Exec.dimension halfMadeSetting [⟨"A", [.number 2]⟩] halfMadeStart.counted).2).1.isOk =
      false := by decide +kernel
  obtain ⟨⟨r, mid⟩, made⟩ : ∃ result, Exec.dimension halfMadeSetting [⟨"A", [.number 2]⟩]
      halfMadeStart.counted = result := ⟨_, rfl⟩
  rw [made] at first second
  obtain ⟨⟨r', m'⟩, refused⟩ : ∃ result, Exec.dimension halfMadeSetting [⟨"B", [.number 0]⟩] mid =
      result := ⟨_, rfl⟩
  rw [refused] at second
  cases r with
  | error f => cases first
  | ok _ =>
      cases r' with
      | ok _ => cases second
      | error f =>
          have split : halfMadeDim =
              .dim ([⟨"A", [.number 2]⟩] ++ ⟨"B", [.number 0]⟩ :: []) := rfl
          rw [split]
          exact .dim halfMadeUnlimited (by simp) made refused

theorem halfMadeDimPartly :
    Code.compile Functions.empty.has [⟨10, "DIM A(2), B(0)"⟩] = .ok halfMadeSetting.code ∧
      ∃ f m' done d rest, Fails halfMadeSetting halfMadeStart halfMadeDim f m' ∧
        halfMadeDim.innermost = .dim (done ++ d :: rest) ∧ done ≠ [] ∧
        PartlyMade .empty done m'.vars := by
  have compiled : Code.compile Functions.empty.has [⟨10, "DIM A(2), B(0)"⟩] =
      .ok halfMadeSetting.code := rfl
  obtain ⟨f, m', fails, _⟩ := halfMadeFails
  obtain ⟨done, d, rest, same, nonempty, partly⟩ :=
    (faultedStatementVariables compiled .empty .none .empty .idle .here (.line rfl rfl rfl)
      fails).2 halfMadeLate
  exact ⟨compiled, f, m', done, d, rest, fails, same, nonempty, partly⟩

theorem faultKeepsVariablesFails :
    ¬ ∀ f m', Fails halfMadeSetting halfMadeStart halfMadeDim f m' →
      m'.vars = halfMadeStart.vars := by
  intro kept
  obtain ⟨f, m', fails, left⟩ := halfMadeFails
  rw [kept f m' fails] at left
  exact absurd left (by decide +kernel)

end LineBasic
