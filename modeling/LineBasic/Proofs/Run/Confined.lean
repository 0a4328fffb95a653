import LineBasic.Proofs.Run.Steps

/-!
What only has to do with the variables and the host. Most statements neither look at the rest of the
machine nor change it, so they do the same on all machines that agree in these two.
-/
namespace LineBasic

def Stmt.Controls : Stmt → Prop
  | .gosub _ => True
  | .goBack => True
  | .loop _ _ _ _ => True
  | .next _ => True
  | _ => False

namespace Exec

variable {α β : Type} {c : Setting}

def Confined (x : Exec α) : Prop :=
  ∀ m k : Machine, k.vars = m.vars → k.host = m.host →
    x k = ((x m).1, { k with vars := (x m).2.vars, host := (x m).2.host })

theorem confinedRuns {x : Exec α} (confined : x.Confined) {m m' : Machine} {r : Except Fault α}
    (ran : x m = (r, m')) : ∃ vars host, m' = { m with vars, host } ∧
      ∀ k : Machine, k.vars = m.vars → k.host = m.host → x k = (r, { k with vars, host }) := by
  have moved (k : Machine) (vars : k.vars = m.vars) (host : k.host = m.host) :
      x k = (r, { k with vars := m'.vars, host := m'.host }) := by
    rw [confined m k vars host, ran]
  refine ⟨_, _, ?_, moved⟩
  have here := moved m rfl rfl
  rw [ran] at here
  exact congrArg Prod.snd here

theorem confinedPure (a : α) : (pure a : Exec α).Confined := by
  rintro m k vars host
  rw [show (pure a : Exec α) m = (.ok a, m) from rfl, ← vars, ← host]
  rfl

theorem confinedBind {x : Exec α} {f : α → Exec β} (first : x.Confined)
    (rest : ∀ a, (f a).Confined) : (x >>= f).Confined := by
  intro m k vars host
  have opened (m : Machine) : (x >>= f) m =
      ExceptT.bindCont (m := StateM Machine) f (x m).1 (x m).2 := rfl
  rw [opened, opened, first m k vars host]
  cases (x m).1 with
  | ok a => exact rest a _ _ rfl rfl
  | error e => rfl

theorem confinedEffect (e : Variables → Effect α) : (effect e).Confined := by
  intro m k vars host
  have opened (m : Machine) : effect e m =
      ((e m.vars m.host).1, { m with host := (e m.vars m.host).2 }) := rfl
  rw [opened, opened, vars, host, ← vars]

theorem confinedModify {f : Machine → Machine}
    (same : ∀ m k : Machine, k.vars = m.vars → k.host = m.host →
      f k = { k with vars := (f m).vars, host := (f m).host }) :
    (modify f : Exec Unit).Confined :=
  fun m k vars host => congrArg (Prod.mk (Except.ok ())) (same m k vars host)

theorem confinedLook {f : Machine → Exec α}
    (same : ∀ m k : Machine, k.vars = m.vars → k.host = m.host → f k = f m)
    (rest : ∀ m, (f m).Confined) : (get >>= f).Confined := by
  intro m k vars host
  have opened (m : Machine) : (get >>= f) m = f m m := rfl
  rw [opened, opened, same m k vars host]
  exact rest m m k vars host

theorem confinedExcept (r : Except Fault α) : (ofExcept r).Confined := by
  intro m k vars host
  rw [show ofExcept r m = (r, m) from rfl, ← vars, ← host]
  rfl

theorem traceChangeConfined (name shown : String) (old new : Value) :
    (traceChange c name shown old new).Confined := by
  unfold traceChange
  split
  · intro m k vars host
    rw [show writeAnyway .trace (traceText shown old new) m =
      (.ok (), { m with host := m.host.writeAnyway .trace (traceText shown old new) }) from rfl,
      ← vars, ← host]
    rfl
  · exact confinedPure _

theorem setScalarConfined (name : String) (v : Value) : (setScalar c name v).Confined := by
  refine confinedBind (confinedEffect _) fun old => ?_
  refine confinedBind (traceChangeConfined name name old v) fun _ => ?_
  refine confinedModify fun m k vars host => ?_
  simp only [vars, ← host]

theorem setElementConfined (name : String) (index : List Int) (v : Value) :
    (setElement c name index v).Confined := by
  refine confinedBind (confinedEffect _) fun old => ?_
  refine confinedBind (confinedModify fun m k vars host => ?_) fun _ => ?_
  · simp only [vars, ← host]
  · exact confinedBind (confinedEffect _) fun new => traceChangeConfined name _ old new

theorem assignConfined (target : Target) (value : Expr) : (assign c target value).Confined := by
  refine confinedBind (confinedEffect _) fun v => ?_
  cases target with
  | scalar name => exact setScalarConfined name v
  | element name index =>
      exact confinedBind (confinedEffect _) fun is => setElementConfined name is v

theorem printRestConfined (items : List (Separator × Expr)) :
    (printRestText c items).Confined := by
  induction items with
  | nil => exact confinedPure _
  | cons item rest ih =>
      exact confinedBind (confinedEffect _) fun _ => confinedBind ih fun _ => confinedPure _

theorem printConfined (items : Option PrintList) : (print c items).Confined := by
  refine confinedBind ?_ fun text => confinedEffect _
  cases items with
  | none => exact confinedPure _
  | some items =>
      exact confinedBind (confinedEffect _) fun _ =>
        confinedBind (printRestConfined items.rest) fun _ => confinedPure _

theorem inputConfined (name : String) : (input c name).Confined :=
  confinedBind (confinedEffect _) fun _ =>
    confinedBind (confinedExcept _) fun v => setScalarConfined name v

theorem dimensionConfined (arrays : List Declaration) : (dimension c arrays).Confined := by
  induction arrays with
  | nil => exact confinedPure _
  | cons d rest ih =>
      refine confinedBind (confinedEffect _) fun dims => ?_
      refine confinedLook (fun m k vars _ => by rw [vars]) fun m => ?_
      refine confinedBind (confinedExcept _) fun vars => ?_
      refine confinedBind (confinedModify fun m k _ host => ?_) fun _ => ih
      simp only [← host]

theorem randomizeConfined (seed : Option Expr) : (randomize c seed).Confined := by
  have sow (seed : Int) : (modify fun m : Machine =>
      { m with host := { m.host with random := m.host.random.seeded seed } } :
        Exec Unit).Confined := by
    refine confinedModify fun m k vars host => ?_
    simp only [← vars, host]
  cases seed with
  | some e => exact confinedBind (confinedEffect _) fun x => sow (Number.truncate64 x)
  | none => exact confinedLook (fun m k _ host => by rw [host]) fun m => sow m.host.clock.seed

theorem statementConfined {s : Stmt} (plain : ¬ s.Controls) : (statement c s).Confined := by
  cases s with
  | remark text => exact confinedPure _
  | print items => exact confinedBind (printConfined items) fun _ => confinedPure _
  | assign target value => exact confinedBind (assignConfined target value) fun _ => confinedPure _
  | input name => exact confinedBind (inputConfined name) fun _ => confinedPure _
  | jumpIf condition line => exact confinedBind (confinedEffect _) fun _ => confinedPure _
  | doIf condition inner => exact confinedBind (confinedEffect _) fun _ => confinedPure _
  | goto line => exact confinedPure _
  | dim arrays => exact confinedBind (dimensionConfined arrays) fun _ => confinedPure _
  | randomize seed => exact confinedBind (randomizeConfined seed) fun _ => confinedPure _
  | finish word => exact confinedPure _
  | call name args => exact confinedBind (confinedEffect _) fun _ => confinedPure _
  | _ => exact absurd trivial plain

end Exec

end LineBasic
