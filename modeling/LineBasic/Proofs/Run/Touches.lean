import LineBasic.Proofs.Memory.History
import LineBasic.Proofs.Run.Faulted
import LineBasic.Proofs.Run.Whole

/-!
What a statement leaves alone. A statement names the scalars and arrays it may change; it changes no
other, whether it succeeds or fails, and only four statements have to do with the stacks.
-/
namespace LineBasic

namespace Stmt

def scalars : Stmt → List String
  | .assign (.scalar name) _ => [name]
  | .input name => [name]
  | .loop name _ _ _ => [name]
  | .next name => [name]
  | _ => []

def arrays : Stmt → List String
  | .assign (.element name _) _ => [name]
  | .dim arrays => arrays.map (·.name)
  | _ => []

end Stmt

structure Variables.Spares (scalars arrays : List String) (before after : Variables) : Prop where
  scalar : ∀ name, name ∉ scalars → after.scalars[name]? = before.scalars[name]?
  array : ∀ name, name ∉ arrays → after.arrays[name]? = before.arrays[name]?

/- At these subscripts, which are those that `index` yields once `value` has been evaluated, the
array may have been given an element; all its other elements are as before. -/
structure ElementPut (c : Setting) (name : String) (index : List Expr) (value : Expr)
    (before after : Machine) (is : List Int) (old new : Grid) : Prop where
  evaluated : ∃ v host, (value.eval c.functions before.vars).run before.host = (.ok v, host) ∧
    ∃ host', (evalIndex c.functions before.vars index).run host = (.ok is, host')
  was : before.vars.arrays[name]? = some old
  becomes : after.vars.arrays[name]? = some new
  shape : new.dims = old.dims ∧ new.holdsTexts = old.holdsTexts
  elsewhere : ∀ other, is ≠ other → new.at? other = old.at? other

structure Touches (c : Setting) (s : Stmt) (before after : Machine) : Prop where
  vars : before.vars.Spares s.scalars s.arrays after.vars
  element : ∀ name index value, s = .assign (.element name index) value →
    after.vars = before.vars ∨ ∃ is old new, ElementPut c name index value before after is old new
  gosubs : (∀ line, s ≠ .gosub line) → s ≠ .goBack → after.gosubs = before.gosubs
  loops : (∀ name start limit step, s ≠ .loop name start limit step) →
    (∀ name, s ≠ .next name) → after.loops = before.loops
  next : ∀ name, s = .next name →
    after.loops = before.loops ∨ ∃ l, before.loops = l :: after.loops

namespace Variables

variable {scalars arrays : List String} {vs vs' vs'' : Variables}

theorem sparesRefl (scalars arrays : List String) (vs : Variables) :
    vs.Spares scalars arrays vs := ⟨fun _ _ => rfl, fun _ _ => rfl⟩

theorem Spares.trans (first : vs.Spares scalars arrays vs')
    (rest : vs'.Spares scalars arrays vs'') : vs.Spares scalars arrays vs'' where
  scalar name other := (rest.scalar name other).trans (first.scalar name other)
  array name other := (rest.array name other).trans (first.array name other)

theorem setSpares {name : String} (v : Value) (named : name ∈ scalars) :
    vs.Spares scalars arrays (vs.set name v) := by
  refine ⟨fun other unnamed => ?_, fun _ _ => rfl⟩
  have different : name ≠ other := fun same => unnamed (same ▸ named)
  simp [set, Std.TreeMap.getElem?_insert, different]

theorem putElementSpares {name : String} (index : List Int) (v : Value) (named : name ∈ arrays) :
    vs.Spares scalars arrays (vs.putElement name index v) := by
  refine ⟨fun _ _ => rfl, fun other unnamed => ?_⟩
  have different : name ≠ other := fun same => unnamed (same ▸ named)
  rw [putElementArrays, if_neg different]

theorem makeSpares {name : String} (sizes : List Nat) (named : name ∈ arrays) :
    vs.Spares scalars arrays
      { vs with arrays := vs.arrays.insert name (Grid.blank (isTextName name) sizes) } := by
  refine ⟨fun _ _ => rfl, fun other unnamed => ?_⟩
  have different : name ≠ other := fun same => unnamed (same ▸ named)
  simp [Std.TreeMap.getElem?_insert, different]

end Variables

namespace Exec

variable {α β : Type} {c : Setting} {m m' : Machine} {scalars arrays : List String}

def Spares (scalars arrays : List String) (x : Exec α) : Prop :=
  ∀ m r m', x m = (r, m') → m.vars.Spares scalars arrays m'.vars

theorem sparesBind {x : Exec α} {k : α → Exec β} (first : x.Spares scalars arrays)
    (rest : ∀ a, (k a).Spares scalars arrays) : (x >>= k).Spares scalars arrays := by
  intro m r m' ran
  rcases bindRuns.mp ran with ⟨a, mid, one, two⟩ | ⟨f, failed, _⟩
  · exact (first _ _ _ one).trans (rest a _ _ _ two)
  · exact first _ _ _ failed

theorem sparesKept {x : Exec α} (kept : ∀ m, (x m).2.vars = m.vars) : x.Spares scalars arrays := by
  intro m r m' ran
  have same : m'.vars = m.vars := by rw [← kept m, ran]
  rw [same]
  exact m.vars.sparesRefl scalars arrays

theorem sparesPure (a : α) : (pure a : Exec α).Spares scalars arrays := sparesKept fun _ => rfl

theorem sparesEffect (e : Variables → Effect α) : (effect e).Spares scalars arrays :=
  sparesKept fun _ => rfl

theorem sparesLook {x : Machine → Exec α} (rest : ∀ m, (x m).Spares scalars arrays) :
    (get >>= x).Spares scalars arrays :=
  sparesBind (sparesKept fun _ => rfl) rest

theorem looksSpares {P : Fault → Prop} {x : Exec α} (looks : x.Looks P) :
    x.Spares scalars arrays := by
  intro m r m' ran
  obtain ⟨⟨host, rfl⟩, _⟩ := looks ran
  exact m.vars.sparesRefl scalars arrays

theorem setScalarSpares {name : String} (v : Value) (named : name ∈ scalars) :
    (setScalar c name v).Spares scalars arrays := by
  intro m r m' ran
  obtain ⟨_, host, rfl⟩ := setScalarRuns ran
  exact Variables.setSpares v named

theorem setElementRuns {name : String} {index : List Int} {v : Value} {r : Except Fault Unit}
    (ran : setElement c name index v m = (r, m')) :
    m' = m ∨ ∃ g, m.vars.arrays[name]? = some g ∧
      m'.vars = m.vars.putElement name index v := by
  unfold setElement at ran
  rcases bindRuns.mp ran with ⟨old, mid, read, rest⟩ | ⟨f, failed, _⟩
  · obtain ⟨found, rfl⟩ := readRuns.mp read
    obtain ⟨g, stored, _⟩ := elementFound.mp ⟨old, found.symm⟩
    refine .inr ⟨g, stored, ?_⟩
    rcases bindRuns.mp rest with ⟨_, mid, put, rest⟩ | ⟨f, failed, _⟩
    · cases put
      rcases bindRuns.mp rest with ⟨new, mid, again, traced⟩ | ⟨f, failed, _⟩
      · obtain ⟨_, rfl⟩ := readRuns.mp again
        obtain ⟨_, host, rfl⟩ := traceChangeRuns traced
        rfl
      · obtain ⟨_, rfl⟩ := readRuns.mp failed
        rfl
    · cases failed
  · obtain ⟨_, rfl⟩ := readRuns.mp failed
    exact .inl rfl

theorem setElementSpares {name : String} (index : List Int) (v : Value) (named : name ∈ arrays) :
    (setElement c name index v).Spares scalars arrays := by
  intro m r m' ran
  rcases setElementRuns ran with rfl | ⟨_, _, same⟩
  · exact m'.vars.sparesRefl scalars arrays
  · rw [same]
    exact Variables.putElementSpares index v named

theorem dimensionOneSpares {d : Declaration} (named : d.name ∈ arrays) :
    (dimension c [d]).Spares scalars arrays := by
  intro m r m' ran
  rcases dimensionOne d ran with ⟨⟨_, rfl⟩, _⟩ | ⟨_, host, _, _, rfl⟩
  · obtain ⟨sizes, same⟩ := dimensionOneMade ran
    rw [same]
    exact Variables.makeSpares sizes named
  · exact m.vars.sparesRefl scalars arrays

theorem dimensionSpares {declared : List Declaration}
    (named : ∀ d ∈ declared, d.name ∈ arrays) : (dimension c declared).Spares scalars arrays := by
  induction declared with
  | nil => exact sparesPure _
  | cons d rest ih =>
      have split : dimension c (d :: rest) = (dimension c [d] >>= fun _ => dimension c rest) :=
        dimensionAppend [d] rest
      rw [split]
      exact sparesBind (dimensionOneSpares (named d (by simp))) fun _ =>
        ih fun e inside => named e (by simp [inside])

theorem assignSpares (target : Target) (value : Expr) : (assign c target value).Spares
    (Stmt.assign target value).scalars (Stmt.assign target value).arrays := by
  refine sparesBind (sparesEffect _) fun v => ?_
  cases target with
  | scalar name => exact setScalarSpares v (by simp [Stmt.scalars])
  | element name index =>
      exact sparesBind (sparesEffect _) fun is => setElementSpares is v (by simp [Stmt.arrays])

theorem inputSpares (name : String) : (input c name).Spares [name] arrays :=
  sparesBind (sparesEffect _) fun _ =>
    sparesBind (sparesKept fun _ => rfl) fun v => setScalarSpares v (by simp)

theorem enterWithSpares (name : String) (start limit step : Float) :
    (enterWith c name start limit step).Spares [name] arrays := by
  intro m r m' ran
  cases enterWithBounds ran with
  | entered back room => exact Variables.setSpares _ (by simp)
  | full => exact m.vars.sparesRefl _ _
  | last => exact m.vars.sparesRefl _ _

theorem enterLoopSpares (name : String) (start limit : Expr) (step : Option Expr) :
    (enterLoop c name start limit step).Spares [name] arrays := by
  refine sparesBind (sparesEffect _) fun start => ?_
  refine sparesBind (sparesEffect _) fun limit => ?_
  cases step with
  | some e => exact sparesBind (sparesEffect _) (enterWithSpares name start limit)
  | none => exact enterWithSpares name start limit 1

theorem nextLoopSpares (name : String) : (nextLoop c name).Spares [name] arrays := by
  refine sparesLook fun m => ?_
  cases m.loops with
  | nil => exact sparesKept fun _ => rfl
  | cons l outer =>
      simp only
      split
      · exact sparesKept fun _ => rfl
      · refine sparesLook fun m => sparesBind (setScalarSpares _ (by simp)) fun _ => ?_
        split
        · exact sparesPure _
        · exact sparesKept fun _ => rfl

theorem statementSpares (s : Stmt) : (statement c s).Spares s.scalars s.arrays := by
  cases s with
  | remark text => exact sparesPure _
  | print items => exact sparesBind (looksSpares (printLooks items)) fun _ => sparesPure _
  | assign target value => exact sparesBind (assignSpares target value) fun _ => sparesPure _
  | input name => exact sparesBind (inputSpares name) fun _ => sparesPure _
  | jumpIf condition line => exact sparesBind (sparesEffect _) fun _ => sparesPure _
  | doIf condition inner => exact sparesBind (sparesEffect _) fun _ => sparesPure _
  | goto line => exact sparesPure _
  | gosub line =>
      intro m r m' ran
      rcases gosubRuns ran with ⟨_, _, _, _, rfl⟩ | ⟨_, _, _, rfl⟩ <;>
        exact Variables.sparesRefl _ _ _
  | goBack =>
      intro m r m' ran
      rcases goBackRuns ran with ⟨_, _, _, _, rfl⟩ | ⟨_, _, rfl⟩ <;>
        exact Variables.sparesRefl _ _ _
  | loop name start limit step =>
      exact sparesBind (enterLoopSpares name start limit step) fun _ => sparesPure _
  | next name => exact nextLoopSpares name
  | dim declared =>
      refine sparesBind (dimensionSpares fun d inside => ?_) fun _ => sparesPure _
      exact List.mem_map_of_mem inside
  | randomize seed => exact sparesBind (looksSpares (randomizeLooks seed)) fun _ => sparesPure _
  | finish word => exact sparesPure _
  | call name args => exact sparesBind (sparesEffect _) fun _ => sparesPure _

theorem elementTouched {name : String} {index : List Expr} {value : Expr}
    {r : Except Fault Flow} (ran : statement c (.assign (.element name index) value) m = (r, m')) :
    m'.vars = m.vars ∨ ∃ is old new, ElementPut c name index value m m' is old new := by
  have assigned : ∃ r, assign c (.element name index) value m = (r, m') := by
    rcases bindRuns.mp ran with ⟨_, mid, done, rest⟩ | ⟨f, failed, _⟩
    · obtain ⟨_, rfl⟩ := pureRuns.mp rest
      exact ⟨_, done⟩
    · exact ⟨_, failed⟩
  obtain ⟨r, ran⟩ := assigned
  rcases bindRuns.mp ran with ⟨v, mid, evaluated, rest⟩ | ⟨f, failed, _⟩
  · obtain ⟨host, value, rfl⟩ := effectRuns.mp evaluated
    rcases bindRuns.mp rest with ⟨is, mid, found, stored⟩ | ⟨f, failed, _⟩
    · obtain ⟨host', subscripts, rfl⟩ := effectRuns.mp found
      rcases setElementRuns stored with rfl | ⟨g, was, put⟩
      · exact .inl rfl
      · refine .inr ⟨is, g, g.put is v, ⟨v, host, value, host', subscripts⟩, was, ?_,
          Grid.putShape g is v, fun other apart => Grid.putElsewhere apart⟩
        rw [put, Variables.putElementArrays, if_pos rfl]
        exact congrArg (Option.map (·.put is v)) was
    · obtain ⟨_, _, rfl⟩ := effectRuns.mp failed
      exact .inl rfl
  · obtain ⟨_, _, rfl⟩ := effectRuns.mp failed
    exact .inl rfl

end Exec

open Exec in
theorem statementTouches {c : Setting} {s : Stmt} {m m' : Machine} {r : Except Fault Flow}
    (ran : statement c s m = (r, m')) : Touches c s m m' where
  vars := statementSpares s _ _ _ ran
  element name index value same := by
    subst same
    exact elementTouched ran
  gosubs notCall notReturn := by
    cases statementDoes ran with
    | called back room => exact absurd rfl (notCall _)
    | returned top => exact absurd rfl notReturn
    | brokenOff breaks =>
        cases breaks
        rfl
    | _ => rfl
  loops notLoop notNext := by
    cases statementDoes ran with
    | entered back room => exact absurd rfl (notLoop _ _ _ _)
    | full => exact absurd rfl (notLoop _ _ _ _)
    | left top => exact absurd rfl (notNext _)
    | brokenOff breaks =>
        cases breaks
        rfl
    | _ => rfl
  next name same := by
    subst same
    cases statementDoes ran with
    | left top => exact .inr ⟨_, top⟩
    | _ => exact .inl rfl

theorem touchesRefl {c : Setting} (s : Stmt) (m : Machine) : Touches c s m m where
  vars := m.vars.sparesRefl _ _
  element _ _ _ _ := .inl rfl
  gosubs _ _ := rfl
  loops _ _ := rfl
  next _ _ := .inl rfl

theorem countedTouches {c : Setting} {s : Stmt} {m m' : Machine} {r : Except Fault Flow}
    (ran : Exec.statement c s m.counted = (r, m')) :
    ∃ steps host, Touches c s.innermost { m with steps, host } m' := by
  cases s with
  | doIf condition inner =>
      obtain ⟨⟨host, rfl⟩, _⟩ := Exec.looksBind (Exec.evaluateLooks condition)
        (fun _ => Exec.looksPure _) ran
      exact ⟨m.counted.steps, host, touchesRefl _ _⟩
  | _ => exact ⟨m.counted.steps, m.host, statementTouches ran⟩

/- An IF changes what the statement inside it changes, and that is executed on the machine as it
stands when all conditions have been evaluated. -/
theorem whollyTouches {c : Setting} {s : Stmt} {m m' : Machine} {r : Except Fault (Flow × Nat)}
    (wholly : Exec.Wholly c m s r m') :
    ∃ steps host, Touches c s.innermost { m with steps, host } m' := by
  induction wholly with
  | @refused m s limit => exact ⟨m.counted.steps, m.host, touchesRefl s.innermost m.counted⟩
  | failed below ran => exact countedTouches ran
  | done below plain ran => exact countedTouches ran
  | inside below applies rest ih =>
      obtain ⟨steps, host, touches⟩ := ih
      exact ⟨steps, host, touches⟩

/- A statement changes what it names and nothing else, and the evaluation of expressions changes
nothing at all. The steps by which a machine executes a statement with all IFs in front of it change
what the statement inside the IFs names. -/
theorem statementsTouchNamed (c : Setting) (m : Machine) :
    (∀ s, Touches c s m (Exec.statement c s m).2) ∧
      (∀ e, ∃ host, (Exec.evaluate c e m).2 = { m with host }) ∧
      (∀ es, ∃ host, (Exec.effect (fun vs => evalIndex c.functions vs es) m).2 = { m with host }) ∧
      (∀ es, ∃ host, (Exec.effect (fun vs => evalArgs c.functions vs es) m).2 = { m with host }) ∧
      ∀ s, ∃ k steps host, Progress.Leads c k (m.perform c s)
          (Machine.settled c (Exec.whole c s m).1 (Exec.whole c s m).2) ∧
        Touches c s.innermost { m with steps, host } (Exec.whole c s m).2 := by
  refine ⟨fun s => statementTouches rfl, fun e => ?_, fun es => ?_, fun es => ?_, fun s => ?_⟩
  · exact ⟨_, rfl⟩
  · exact ⟨_, rfl⟩
  · exact ⟨_, rfl⟩
  · obtain ⟨k, leads⟩ := Machine.performWhole c s m
    obtain ⟨steps, host, touches⟩ := whollyTouches (Exec.wholeRuns (c := c) (s := s) (m := m) rfl)
    exact ⟨k, steps, host, leads, touches⟩

end LineBasic
