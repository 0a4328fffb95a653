import LineBasic.Run.Machine

/-!
What executing one statement can do: which part of the machine it may change, where it can send
control, and which faults it can end in. Everything that is proved about runs goes back to this one
list of cases.
-/
namespace LineBasic

section Computations

variable {σ α β : Type} {s s' : σ}

theorem bindRuns {x : ExceptT Fault (StateM σ) α} {f : α → ExceptT Fault (StateM σ) β}
    {r : Except Fault β} : (x >>= f) s = (r, s') ↔
      (∃ a mid, x s = (.ok a, mid) ∧ f a mid = (r, s')) ∨
        ∃ e, x s = (.error e, s') ∧ r = .error e := by
  have unfolded : (x >>= f) s = ExceptT.bindCont f (x s).1 (x s).2 := rfl
  rw [unfolded]
  obtain ⟨result, mid⟩ := x s
  cases result with
  | ok a =>
      constructor
      · intro rest
        exact .inl ⟨a, mid, rfl, rest⟩
      · intro either
        rcases either with ⟨_, _, first, rest⟩ | ⟨_, first, _⟩ <;> cases first
        exact rest
  | error e =>
      constructor
      · intro rest
        cases rest
        exact .inr ⟨e, rfl, rfl⟩
      · intro either
        rcases either with ⟨_, _, first, _⟩ | ⟨_, first, rfl⟩ <;> cases first
        rfl

@[simp] theorem pureRuns {a : α} {r : Except Fault α} :
    (pure a : ExceptT Fault (StateM σ) α) s = (r, s') ↔ r = .ok a ∧ s' = s := by
  change (Except.ok a, s) = (r, s') ↔ _
  simp [eq_comm]

theorem bindFaults {P : Fault → Prop} {x : ExceptT Fault (StateM σ) α}
    {k : α → ExceptT Fault (StateM σ) β} (first : ∀ s f s', x s = (.error f, s') → P f)
    (rest : ∀ a s f s', k a s = (.error f, s') → P f) (s : σ) (f : Fault) (s' : σ)
    (ran : (x >>= k) s = (.error f, s')) : P f := by
  rcases bindRuns.mp ran with ⟨a, mid, _, second⟩ | ⟨e, failed, same⟩
  · exact rest a _ _ _ second
  · cases same
    exact first _ _ _ failed

end Computations

/- Of all faults three are set apart: a jump to a line that is not there is no fault of a statement
but of the jump, the limit on statements is met before a statement is executed, and an internal
fault should never be met at all. -/
def Fault.Ordinary : Fault → Prop
  | .internal _ => False
  | .noSuchLine _ => False
  | .stepLimit _ => False
  | _ => True

inductive Fault.OfValues : Fault → Prop where
  | division : OfValues .divisionByZero
  | mismatch (p : TypeProblem) : OfValues (.typeMismatch p)
  | subscript (shown : String) : OfValues (.badSubscript shown)
  | rank (name : String) (dims got : Nat) : OfValues (.wrongRank name dims got)
  | bounds (name : String) (index : List Int) (bound : Nat) :
      OfValues (.outOfBounds name index bound)
  | undimensioned (name : String) : OfValues (.undimensioned name)

theorem Fault.OfValues.ordinary {f : Fault} (values : f.OfValues) : f.Ordinary := by
  cases values <;> trivial

def Functions.Raises (fns : Functions) (f : Fault) : Prop :=
  ∃ (name : String) (body : FunctionBody) (args : List Value) (h h' : Host),
    fns.table[name]? = some body ∧ body args h = (.error f, h')

def Functions.Allow (fns : Functions) (f : Fault) : Prop := f.Ordinary ∨ fns.Raises f

namespace Effect

variable {α β : Type} {P : Fault → Prop}

def FaultsIn (P : Fault → Prop) (x : Effect α) : Prop :=
  ∀ h f h', x h = (.error f, h') → P f

theorem faultsBind {x : Effect α} {k : α → Effect β} (first : x.FaultsIn P)
    (rest : ∀ a, (k a).FaultsIn P) : (x >>= k).FaultsIn P :=
  bindFaults first rest

theorem faultsPure (a : α) : (pure a : Effect α).FaultsIn P := by
  intro h f h' ran
  obtain ⟨same, _⟩ := pureRuns.mp ran
  cases same

theorem faultsFault {f : Fault} (allowed : P f) : (fault f : Effect α).FaultsIn P := by
  intro h f' h' ran
  cases ran
  exact allowed

theorem faultsOfExcept {r : Except Fault α} (allowed : ∀ {f}, r = .error f → P f) :
    (ofExcept r).FaultsIn P := by
  intro h f h' ran
  cases ran
  exact allowed rfl

theorem pureInjective {x y : α} (same : (pure x : Effect α) = pure y) : x = y := by
  have ran := congrFun (congrArg ExceptT.run same) Host.idle
  cases ran
  rfl

theorem faultNotPure {f : Fault} {x : α} : (Effect.fault f : Effect α) ≠ pure x := by
  intro same
  have ran := congrFun (congrArg ExceptT.run same) Host.idle
  cases ran

end Effect

section Evaluation

variable {fns : Functions} {vs : Variables}

theorem applyFaults {op : ArithOp} {a b : Value} {f : Fault} (failed : op.apply a b = .error f) :
    f.OfValues := by
  cases op <;> simp only [ArithOp.apply] at failed <;> split at failed
  case divide.isFalse =>
    split at failed <;> cases failed
    exact .division
  all_goals
    cases failed
    try exact .mismatch _

theorem locateFaults {name : String} {g : Grid} {index : List Int} {f : Fault}
    (failed : g.locate name index = .error f) : f.OfValues := by
  unfold Grid.locate at failed
  split at failed
  · cases failed
  · split at failed <;> cases failed
    · exact .rank ..
    · exact .bounds ..

theorem elementFaults {name : String} {index : List Int} {f : Fault}
    (failed : vs.element name index = .error f) : f.OfValues := by
  unfold Variables.element Variables.array at failed
  cases found : vs.arrays[name]? with
  | none =>
      rw [found] at failed
      cases failed
      exact .undimensioned name
  | some g =>
      cases located : g.locate name index with
      | ok i => simp [found, located, bind, Except.bind] at failed
      | error e =>
          simp only [found, located, bind, Except.bind, Except.error.injEq] at failed
          subst failed
          exact locateFaults located

theorem subscriptFaults {v : Value} {f : Fault} (failed : subscript v = .error f) : f.OfValues := by
  unfold subscript at failed
  split at failed <;> cases failed
  exact .subscript _

theorem callFaults (name : String) (args : List Value) :
    (fns.call name args).FaultsIn fns.Allow := by
  intro h f h' ran
  unfold Functions.call at ran
  cases found : fns.table[Text.upper name]? with
  | none =>
      rw [found] at ran
      cases ran
      exact .inl trivial
  | some body =>
      rw [found] at ran
      exact .inr ⟨_, body, args, h, h', found, ran⟩

open Effect

mutual

theorem evalFaults : (e : Expr) → (e.eval fns vs).FaultsIn fns.Allow
  | .number _ => by
      rw [Expr.eval]
      exact faultsPure _
  | .text _ => by
      rw [Expr.eval]
      exact faultsPure _
  | .scalar _ => by
      rw [Expr.eval]
      exact faultsPure _
  | .element _ index => by
      rw [Expr.eval]
      exact faultsBind (indexFaults index) fun _ =>
        faultsOfExcept fun failed => .inl (elementFaults failed).ordinary
  | .call name args => by
      rw [Expr.eval]
      exact faultsBind (argsFaults args) (callFaults name)
  | .negate e => by
      rw [Expr.eval]
      refine faultsBind (evalFaults e) fun v => ?_
      split
      · exact faultsFault (.inl trivial)
      · exact faultsPure _
  | .arith _ l r => by
      rw [Expr.eval]
      exact faultsBind (evalFaults l) fun _ => faultsBind (evalFaults r) fun _ =>
        faultsOfExcept fun failed => .inl (applyFaults failed).ordinary
  | .compare _ l r => by
      rw [Expr.eval]
      exact faultsBind (evalFaults l) fun _ => faultsBind (evalFaults r) fun _ => faultsPure _

theorem indexFaults : (es : List Expr) → (evalIndex fns vs es).FaultsIn fns.Allow
  | [] => by
      rw [evalIndex]
      exact faultsPure _
  | e :: es => by
      rw [evalIndex]
      exact faultsBind (evalFaults e) fun _ =>
        faultsBind (faultsOfExcept fun failed => .inl (subscriptFaults failed).ordinary) fun _ =>
          faultsBind (indexFaults es) fun _ => faultsPure _

theorem argsFaults : (es : List Expr) → (evalArgs fns vs es).FaultsIn fns.Allow
  | [] => by
      rw [evalArgs]
      exact faultsPure _
  | e :: es => by
      rw [evalArgs]
      exact faultsBind (evalFaults e) fun _ => faultsBind (argsFaults es) fun _ => faultsPure _

end

theorem numberFaults (what : String) (e : Expr) :
    (e.evalNumber fns vs what).FaultsIn fns.Allow := by
  refine faultsBind (evalFaults e) fun v => ?_
  cases v with
  | number x => exact faultsPure _
  | text s => exact faultsFault (.inl trivial)

theorem dimsFaults (es : List Expr) : (evalDims fns vs es).FaultsIn fns.Allow := by
  induction es with
  | nil => exact faultsPure _
  | cons e es ih =>
      exact faultsBind (numberFaults _ e) fun _ => faultsBind ih fun _ => faultsPure _

end Evaluation

namespace Exec

variable {α β : Type} {c : Setting} {m m' : Machine} {P : Fault → Prop}

theorem effectRuns {e : Variables → Effect α} {r : Except Fault α} :
    effect e m = (r, m') ↔ ∃ host, e m.vars m.host = (r, host) ∧ m' = { m with host } := by
  have unfolded : effect e m = ((e m.vars m.host).1, { m with host := (e m.vars m.host).2 }) := rfl
  rw [unfolded]
  constructor
  · intro same
    cases same
    exact ⟨_, rfl, rfl⟩
  · intro used
    obtain ⟨host, used, rfl⟩ := used
    rw [used]

def Looks (P : Fault → Prop) (x : Exec α) : Prop :=
  ∀ {m r m'}, x m = (r, m') → (∃ host, m' = { m with host }) ∧ ∀ {f}, r = .error f → P f

theorem looksBind {x : Exec α} {k : α → Exec β} (first : x.Looks P) (rest : ∀ a, (k a).Looks P) :
    (x >>= k).Looks P := by
  intro m r m' ran
  rcases bindRuns.mp ran with ⟨a, mid, one, two⟩ | ⟨e, failed, same⟩
  · obtain ⟨⟨host, rfl⟩, _⟩ := first one
    obtain ⟨⟨host', rfl⟩, faults⟩ := rest a two
    exact ⟨⟨host', rfl⟩, faults⟩
  · obtain ⟨kept, faults⟩ := first failed
    refine ⟨kept, ?_⟩
    intro f fault
    rw [same] at fault
    cases fault
    exact faults rfl

theorem looksPure (a : α) : (pure a : Exec α).Looks P := by
  intro m r m' ran
  obtain ⟨rfl, rfl⟩ := pureRuns.mp ran
  exact ⟨⟨_, rfl⟩, nofun⟩

theorem looksEffect {e : Variables → Effect α} (faults : ∀ vs, (e vs).FaultsIn P) :
    (effect e).Looks P := by
  intro m r m' ran
  obtain ⟨host, used, rfl⟩ := effectRuns.mp ran
  refine ⟨⟨host, rfl⟩, ?_⟩
  intro f same
  subst same
  exact faults _ _ _ _ used

theorem evaluateLooks (e : Expr) : (evaluate c e).Looks c.functions.Allow :=
  looksEffect fun _ => evalFaults e

theorem evaluateNumberLooks (what : String) (e : Expr) :
    (evaluateNumber c what e).Looks c.functions.Allow :=
  looksEffect fun _ => numberFaults what e

theorem printRestLooks (items : List (Separator × Expr)) :
    (printRestText c items).Looks c.functions.Allow := by
  induction items with
  | nil => exact looksPure _
  | cons item rest ih =>
      exact looksBind (evaluateLooks item.2) fun _ => looksBind ih fun _ => looksPure _

theorem writeFaults {purpose : Purpose} {text : Bytes} (allowed : P .outputClosed) :
    (Effect.write purpose text).FaultsIn P := by
  intro h f h' ran
  unfold Effect.write at ran
  split at ran <;> cases ran
  exact allowed

theorem printLooks (items : Option PrintList) : (print c items).Looks c.functions.Allow := by
  refine looksBind ?_ fun _ => looksEffect fun _ => writeFaults (.inl trivial)
  cases items with
  | none => exact looksPure _
  | some items =>
      exact looksBind (evaluateLooks items.first) fun _ =>
        looksBind (printRestLooks items.rest) fun _ => looksPure _

theorem traceChangeRuns {name shown : String} {old new : Value} {r : Except Fault Unit}
    (ran : traceChange c name shown old new m = (r, m')) :
    r = .ok () ∧ ∃ host, m' = { m with host } := by
  unfold traceChange at ran
  split at ran
  · cases ran
    exact ⟨rfl, _, rfl⟩
  · obtain ⟨rfl, rfl⟩ := pureRuns.mp ran
    exact ⟨rfl, _, rfl⟩

theorem setScalarRuns {name : String} {v : Value} {r : Except Fault Unit}
    (ran : setScalar c name v m = (r, m')) :
    r = .ok () ∧ ∃ host, m' = { m with vars := m.vars.set name v, host } := by
  unfold setScalar at ran
  rcases bindRuns.mp ran with ⟨old, mid, read, rest⟩ | ⟨e, failed, _⟩
  · obtain ⟨host, _, rfl⟩ := effectRuns.mp read
    rcases bindRuns.mp rest with ⟨_, mid, traced, stored⟩ | ⟨e, failed, _⟩
    · obtain ⟨_, host', rfl⟩ := traceChangeRuns traced
      cases stored
      exact ⟨rfl, host', rfl⟩
    · obtain ⟨same, _⟩ := traceChangeRuns failed
      cases same
  · obtain ⟨_, used, _⟩ := effectRuns.mp failed
    cases used

/- Either the computation completes, whatever it has done to the variables, or it fails and has done
nothing to them. -/
def AllOrNothing (P : Fault → Prop) (x : Exec α) : Prop :=
  ∀ {m r m'}, x m = (r, m') →
    ((∃ a, r = .ok a) ∧ ∃ vars host, m' = { m with vars, host }) ∨
      ∃ f host, r = .error f ∧ P f ∧ m' = { m with host }

theorem setScalarAll (name : String) (v : Value) : (setScalar c name v).AllOrNothing P := by
  intro m r m' ran
  obtain ⟨rfl, host, rfl⟩ := setScalarRuns ran
  exact .inl ⟨⟨_, rfl⟩, _, host, rfl⟩

theorem lookThenStore {x : Exec α} {k : α → Exec β} (first : x.Looks P)
    (rest : ∀ a, (k a).AllOrNothing P) : (x >>= k).AllOrNothing P := by
  intro m r m' ran
  rcases bindRuns.mp ran with ⟨a, mid, one, two⟩ | ⟨e, failed, rfl⟩
  · obtain ⟨⟨host, rfl⟩, _⟩ := first one
    rcases rest a two with ⟨done, vars, host', rfl⟩ | ⟨f, host', same, allowed, rfl⟩
    · exact .inl ⟨done, vars, host', rfl⟩
    · exact .inr ⟨f, host', same, allowed, rfl⟩
  · obtain ⟨⟨host, rfl⟩, faults⟩ := first failed
    exact .inr ⟨e, host, rfl, faults rfl, rfl⟩

theorem readRuns {k : Variables → Except Fault α} {r : Except Fault α} :
    effect (fun vs => Effect.ofExcept (k vs)) m = (r, m') ↔ r = k m.vars ∧ m' = m := by
  have unfolded : effect (fun vs => Effect.ofExcept (k vs)) m = (k m.vars, m) := rfl
  rw [unfolded, Prod.mk.injEq, eq_comm, eq_comm (a := m)]

theorem elementFound {vs : Variables} {name : String} {index : List Int} :
    (∃ v, vs.element name index = .ok v) ↔
      ∃ g, vs.arrays[name]? = some g ∧ (offset? g.dims index).isSome := by
  unfold Variables.element Variables.array
  cases vs.arrays[name]? with
  | none => simp [bind, Except.bind]
  | some g =>
      unfold Grid.locate
      cases h : offset? g.dims index with
      | none => by_cases other : index.length = g.dims.length <;> simp [bind, Except.bind, h, other]
      | some i => simp [bind, Except.bind, h]

@[simp]
theorem putDims (g : Grid) (index : List Int) (v : Value) : (g.put index v).dims = g.dims := by
  unfold Grid.put
  split
  · unfold Grid.write
    split <;> rfl
  · rfl

theorem putElementFound {vs : Variables} {name : String} {index : List Int} {old v : Value}
    (found : vs.element name index = .ok old) :
    ∃ new, (vs.putElement name index v).element name index = .ok new := by
  obtain ⟨g, stored, placed⟩ := elementFound.mp ⟨old, found⟩
  refine elementFound.mpr ⟨g.put index v, ?_, ?_⟩
  · simp [Variables.putElement, Std.TreeMap.getElem?_modify_self, stored]
  · rw [putDims]
    exact placed

theorem setElementAll {name : String} {index : List Int} {v : Value} :
    (setElement c name index v).AllOrNothing c.functions.Allow := by
  intro m r m' ran
  unfold setElement at ran
  rcases bindRuns.mp ran with ⟨old, mid, read, rest⟩ | ⟨e, failed, rfl⟩
  · obtain ⟨found, rfl⟩ := readRuns.mp read
    obtain ⟨new, placed⟩ := putElementFound (v := v) found.symm
    rcases bindRuns.mp rest with ⟨_, mid, put, rest⟩ | ⟨e, failed, _⟩
    · cases put
      rcases bindRuns.mp rest with ⟨_, mid, read, traced⟩ | ⟨e, failed, _⟩
      · obtain ⟨_, rfl⟩ := readRuns.mp read
        obtain ⟨rfl, host, rfl⟩ := traceChangeRuns traced
        exact .inl ⟨⟨_, rfl⟩, _, host, rfl⟩
      · obtain ⟨missing, _⟩ := readRuns.mp failed
        cases placed.symm.trans missing.symm
    · cases failed
  · obtain ⟨missing, rfl⟩ := readRuns.mp failed
    exact .inr ⟨e, _, rfl, .inl (elementFaults missing.symm).ordinary, rfl⟩

theorem assignAll (target : Target) (value : Expr) :
    (assign c target value).AllOrNothing c.functions.Allow := by
  refine lookThenStore (evaluateLooks value) fun v => ?_
  cases target with
  | scalar name => exact setScalarAll name v
  | element name index =>
      exact lookThenStore (looksEffect fun _ => indexFaults index) fun _ => setElementAll

theorem inputFaults {name : String} {line : Except ReadFault Bytes} {f : Fault}
    (failed : inputValue name line = .error f) : f.Ordinary := by
  unfold inputValue at failed
  repeat' split at failed
  all_goals (cases failed; try trivial)

@[simp] theorem ofExceptRuns {x r : Except Fault α} : ofExcept x m = (r, m') ↔ r = x ∧ m' = m := by
  unfold ofExcept
  rw [Prod.mk.injEq, eq_comm, eq_comm (a := m)]

theorem ofExceptLooks {x : Except Fault α} (faults : ∀ {f}, x = .error f → P f) :
    (ofExcept x).Looks P := by
  intro m r m' ran
  obtain ⟨rfl, rfl⟩ := ofExceptRuns.mp ran
  exact ⟨⟨_, rfl⟩, faults⟩

theorem inputAll (name : String) : (input c name).AllOrNothing c.functions.Allow := by
  unfold input
  apply lookThenStore
  · apply looksEffect
    intro vs h f h' ran
    cases ran
  · intro line
    apply lookThenStore
    · apply ofExceptLooks
      intro f failed
      exact .inl (inputFaults failed)
    · intro v
      apply setScalarAll

theorem randomizeLooks (seed : Option Expr) : (randomize c seed).Looks c.functions.Allow := by
  cases seed with
  | none =>
      intro m r m' ran
      cases ran
      exact ⟨⟨_, rfl⟩, nofun⟩
  | some e =>
      refine looksBind (evaluateNumberLooks _ e) fun x => ?_
      intro m r m' ran
      cases ran
      exact ⟨⟨_, rfl⟩, nofun⟩

theorem lineAfterRuns {why : Returning} {r : Except Fault Int}
    (ran : lineAfter c why m = (r, m')) :
    m' = m ∧ ((∃ line, c.code.after? m.pc = some line ∧ r = .ok line) ∨
      r = .error (.lastLine why)) := by
  unfold lineAfter at ran
  rcases bindRuns.mp ran with ⟨now, _, got, rest⟩ | ⟨_, failed, _⟩
  · cases got
    cases found : c.code.after? m.pc with
    | none =>
        rw [found] at rest
        cases rest
        exact ⟨rfl, .inr rfl⟩
    | some line =>
        rw [found] at rest
        cases rest
        exact ⟨rfl, .inl ⟨line, rfl, rfl⟩⟩
  · cases failed

theorem gosubRuns {target : Int} {r : Except Fault Flow} (ran : gosub c target m = (r, m')) :
    (∃ resume, c.code.after? m.pc = some resume ∧ m.gosubs.length < stackDepth ∧
      r = .ok (.jump target) ∧ m' = { m with gosubs := resume :: m.gosubs }) ∨
      ∃ f, r = .error f ∧ f.Ordinary ∧ m' = m := by
  unfold gosub at ran
  rcases bindRuns.mp ran with ⟨resume, mid, after, rest⟩ | ⟨e, failed, rfl⟩
  · obtain ⟨rfl, ⟨line, found, same⟩ | same⟩ := lineAfterRuns after <;> cases same
    rcases bindRuns.mp rest with ⟨now, _, got, rest⟩ | ⟨_, failed, _⟩
    · cases got
      split at rest
      · cases rest
        exact .inr ⟨_, rfl, trivial, rfl⟩
      · rename_i room
        cases rest
        exact .inl ⟨_, found, by omega, rfl, rfl⟩
    · cases failed
  · obtain ⟨rfl, ⟨line, _, same⟩ | same⟩ := lineAfterRuns failed <;> cases same
    exact .inr ⟨_, rfl, trivial, rfl⟩

theorem goBackRuns {r : Except Fault Flow} (ran : goBack m = (r, m')) :
    (∃ resume rest, m.gosubs = resume :: rest ∧ r = .ok (.jump resume) ∧
      m' = { m with gosubs := rest }) ∨
      (m.gosubs = [] ∧ r = .error .returnWithoutGosub ∧ m' = m) := by
  unfold goBack at ran
  rcases bindRuns.mp ran with ⟨now, _, got, rest⟩ | ⟨_, failed, _⟩
  · cases got
    cases top : m.gosubs with
    | nil =>
        rw [top] at rest
        cases rest
        exact .inr ⟨rfl, rfl, rfl⟩
    | cons resume others =>
        rw [top] at rest
        cases rest
        exact .inl ⟨resume, others, rfl, rfl, rfl⟩
  · cases failed

/- The loops without the one over `name` that was left before it was finished, and without those
entered inside it. -/
inductive Forgets (name : String) : List Loop → List Loop → Prop where
  | nothing {loops} (other : ∀ l ∈ loops, l.name ≠ name) : Forgets name loops loops
  | stale {inside l outer} (other : ∀ k ∈ inside, k.name ≠ name) (same : l.name = name) :
      Forgets name (inside ++ l :: outer) outer

theorem leaveLoopForgets (name : String) (loops : List Loop) :
    Forgets name loops (leaveLoop name loops) := by
  unfold leaveLoop
  have whole : loops.takeWhile (·.name != name) ++ loops.dropWhile (·.name != name) = loops :=
    List.takeWhile_append_dropWhile
  have inside : ∀ k ∈ loops.takeWhile (·.name != name), k.name ≠ name := by
    intro k member
    simpa using List.all_eq_true.mp List.all_takeWhile k member
  have stopped := List.head?_dropWhile_not (·.name != name) loops
  generalize loops.takeWhile (·.name != name) = before at whole inside
  generalize loops.dropWhile (·.name != name) = rest at whole stopped
  cases rest with
  | nil =>
      rw [List.append_nil] at whole
      exact .nothing (whole ▸ inside)
  | cons l outer =>
      rw [← whole]
      exact .stale inside (by simpa using stopped)

/- All that FOR can do. A loop over the same variable is dropped even when the new one is refused
for want of room. -/
inductive Enters (c : Setting) (m : Machine) (name : String) : Except Fault Unit → Machine → Prop
    where
  | entered {resume limit step vars host} (back : c.code.after? m.pc = some resume)
      (room : (leaveLoop name m.loops).length < stackDepth) :
      Enters c m name (.ok ())
        { m with loops := ⟨name, limit, step, resume⟩ :: leaveLoop name m.loops, vars, host }
  | full {host} : Enters c m name (.error (.stackOverflow .loops))
      { m with loops := leaveLoop name m.loops, host }
  | failed {f host} (allowed : c.functions.Allow f) : Enters c m name (.error f) { m with host }

theorem Enters.looked {name : String} {r : Except Fault Unit} {host : Host}
    (enters : Enters c { m with host } name r m') : Enters c m name r m' := by
  cases enters with
  | entered back room => exact .entered back room
  | full => exact .full
  | failed allowed => exact .failed allowed

theorem lookThenEnter {x : Exec α} {k : α → Exec Unit} {name : String}
    (first : x.Looks c.functions.Allow)
    (rest : ∀ {a m r m'}, k a m = (r, m') → Enters c m name r m') {r : Except Fault Unit}
    (ran : (x >>= k) m = (r, m')) : Enters c m name r m' := by
  rcases bindRuns.mp ran with ⟨a, mid, one, two⟩ | ⟨e, failed, rfl⟩
  · obtain ⟨⟨host, rfl⟩, _⟩ := first one
    exact (rest two).looked
  · obtain ⟨⟨host, rfl⟩, faults⟩ := first failed
    exact .failed (faults rfl)

def enterWith (c : Setting) (name : String) (start limit step : Float) : Exec Unit := do
  let resume ← lineAfter c (.loop name)
  modify fun m => { m with loops := leaveLoop name m.loops }
  if stackDepth ≤ (← get).loops.length then fault (.stackOverflow .loops)
  else
    setScalar c name (.number start)
    modify fun m => { m with loops := ⟨name, limit, step, resume⟩ :: m.loops }

inductive EntersWith (c : Setting) (m : Machine) (name : String) (start limit step : Float) :
    Except Fault Unit → Machine → Prop where
  | entered {resume host} (back : c.code.after? m.pc = some resume)
      (room : (leaveLoop name m.loops).length < stackDepth) :
      EntersWith c m name start limit step (.ok ())
        { m with loops := ⟨name, limit, step, resume⟩ :: leaveLoop name m.loops,
                 vars := m.vars.set name (.number start), host }
  | full : EntersWith c m name start limit step (.error (.stackOverflow .loops))
      { m with loops := leaveLoop name m.loops }
  | last : EntersWith c m name start limit step (.error (.lastLine (.loop name))) m

theorem EntersWith.enters {name : String} {start limit step : Float} {r : Except Fault Unit}
    (enters : EntersWith c m name start limit step r m') : Enters c m name r m' := by
  cases enters with
  | entered back room => exact .entered back room
  | full => exact .full
  | last => exact .failed (.inl trivial)

theorem enterWithBounds {name : String} {start limit step : Float} {r : Except Fault Unit}
    (ran : enterWith c name start limit step m = (r, m')) :
    EntersWith c m name start limit step r m' := by
  rcases bindRuns.mp ran with ⟨resume, mid, after, rest⟩ | ⟨e, failed, rfl⟩
  · obtain ⟨rfl, ⟨line, found, same⟩ | same⟩ := lineAfterRuns after <;> cases same
    rcases bindRuns.mp rest with ⟨_, mid, dropped, rest⟩ | ⟨_, failed, _⟩
    · cases dropped
      rcases bindRuns.mp rest with ⟨now, _, got, rest⟩ | ⟨_, failed, _⟩
      · cases got
        split at rest
        · cases rest
          exact .full
        · rename_i room
          rcases bindRuns.mp rest with ⟨_, mid, stored, pushed⟩ | ⟨e, failed, _⟩
          · obtain ⟨_, host, rfl⟩ := setScalarRuns stored
            cases pushed
            exact .entered found (by simpa using room)
          · obtain ⟨same, _⟩ := setScalarRuns failed
            cases same
      · cases failed
    · cases failed
  · obtain ⟨rfl, ⟨line, _, same⟩ | same⟩ := lineAfterRuns failed <;> cases same
    exact .last

theorem enterLoopRuns {name : String} {start limit : Expr} {step : Option Expr}
    {r : Except Fault Unit} (ran : enterLoop c name start limit step m = (r, m')) :
    Enters c m name r m' := by
  refine lookThenEnter (evaluateNumberLooks _ start) (fun ran => ?_) ran
  refine lookThenEnter (evaluateNumberLooks _ limit) (fun ran => ?_) ran
  cases step with
  | none => exact (enterWithBounds ran).enters
  | some e =>
      refine lookThenEnter (evaluateNumberLooks _ e) (fun ran => ?_) ran
      exact (enterWithBounds ran).enters

theorem nextLoopRuns {name : String} {r : Except Fault Flow} (ran : nextLoop c name m = (r, m')) :
    (∃ l outer vars host, m.loops = l :: outer ∧
      ((r = .ok (.jump l.resume) ∧ m' = { m with vars, host }) ∨
        (r = .ok .next ∧ m' = { m with loops := outer, vars, host }))) ∨
      ∃ f, r = .error f ∧ f.Ordinary ∧ m' = m := by
  unfold nextLoop at ran
  rcases bindRuns.mp ran with ⟨now, _, got, rest⟩ | ⟨_, failed, _⟩
  · cases got
    obtain ⟨loops, top⟩ : ∃ loops, m.loops = loops := ⟨_, rfl⟩
    rw [top] at rest
    cases loops with
    | nil =>
        cases rest
        exact .inr ⟨_, rfl, trivial, rfl⟩
    | cons l outer =>
        simp only at rest
        split at rest
        · cases rest
          exact .inr ⟨_, rfl, trivial, rfl⟩
        · rcases bindRuns.mp rest with ⟨now, _, got, rest⟩ | ⟨_, failed, _⟩
          · cases got
            rcases bindRuns.mp rest with ⟨_, mid, stored, rest⟩ | ⟨_, failed, _⟩
            · obtain ⟨_, host, rfl⟩ := setScalarRuns stored
              split at rest
              · cases rest
                exact .inl ⟨l, outer, _, host, top, .inl ⟨rfl, rfl⟩⟩
              · cases rest
                exact .inl ⟨l, outer, _, host, top, .inr ⟨rfl, rfl⟩⟩
            · obtain ⟨same, _⟩ := setScalarRuns failed
              cases same
          · cases failed
  · cases failed

theorem dimensionAppend (xs ys : List Declaration) :
    dimension c (xs ++ ys) = (dimension c xs >>= fun _ => dimension c ys) := by
  induction xs with
  | nil => simp [dimension]
  | cons d xs ih => simp [dimension, ih, bind_assoc]

theorem dimsNonempty {fns : Functions} {vs : Variables} {es : List Expr} {h h' : Host}
    (ran : evalDims fns vs es h = (.ok [], h')) : es = [] := by
  cases es with
  | nil => rfl
  | cons e es =>
      rcases bindRuns.mp ran with ⟨x, mid, one, rest⟩ | ⟨e, failed, same⟩
      · rcases bindRuns.mp rest with ⟨xs, mid', two, last⟩ | ⟨e, failed, same⟩
        · cases last
        · cases same
      · cases same

theorem makeFaults {vs : Variables} {name : String} {dims : List Int} {f : Fault}
    (failed : vs.dimension name dims = .error f) :
    f.Ordinary ∨ dims = [] ∧ f = .internal .noDimensions := by
  unfold Variables.dimension at failed
  split at failed
  · rename_i empty
    cases failed
    exact .inr ⟨List.isEmpty_iff.mp empty, rfl⟩
  · split at failed <;> cases failed <;> exact .inl trivial

/- One array is made or it is not: only its dimensions decide, and they are known before anything is
stored. The internal fault needs a declaration without dimensions. -/
def DimFault (c : Setting) (d : Declaration) (f : Fault) : Prop :=
  c.functions.Allow f ∨ d.dims = [] ∧ f = .internal .noDimensions

theorem dimensionOne (d : Declaration) : (dimension c [d]).AllOrNothing (DimFault c d) := by
  intro m r m' ran
  unfold dimension at ran
  rcases bindRuns.mp ran with ⟨dims, mid, one, rest⟩ | ⟨e, failed, rfl⟩
  · obtain ⟨host, used, rfl⟩ := effectRuns.mp one
    rcases bindRuns.mp rest with ⟨now, _, got, rest⟩ | ⟨_, failed, _⟩
    · cases got
      rcases bindRuns.mp rest with ⟨vars, mid, made, rest⟩ | ⟨f, failed, rfl⟩
      · obtain ⟨_, rfl⟩ := ofExceptRuns.mp made
        cases rest
        exact .inl ⟨⟨_, rfl⟩, vars, host, rfl⟩
      · obtain ⟨same, rfl⟩ := ofExceptRuns.mp failed
        refine .inr ⟨f, host, rfl, ?_, rfl⟩
        rcases makeFaults same.symm with ordinary | ⟨rfl, rfl⟩
        · exact .inl (.inl ordinary)
        · exact .inr ⟨dimsNonempty used, rfl⟩
    · cases failed
  · obtain ⟨⟨host, rfl⟩, faults⟩ := looksEffect (fun _ => dimsFaults d.dims) failed
    exact .inr ⟨e, host, rfl, .inl (faults rfl), rfl⟩

inductive BreaksOff (c : Setting) (m : Machine) : List Declaration → Fault → Machine → Prop where
  | within {done d rest f vars host host'}
      (made : dimension c done m = (.ok (), { m with vars, host }))
      (refused : dimension c [d] { m with vars, host } =
        (.error f, { m with vars, host := host' })) :
      BreaksOff c m (done ++ d :: rest) f { m with vars, host := host' }

theorem dimensionRuns {arrays : List Declaration} {r : Except Fault Unit}
    (ran : dimension c arrays m = (r, m')) :
    (r = .ok () ∧ ∃ vars host, m' = { m with vars, host }) ∨
      ∃ f, r = .error f ∧ BreaksOff c m arrays f m' := by
  induction arrays generalizing m with
  | nil =>
      obtain ⟨rfl, rfl⟩ := pureRuns.mp ran
      exact .inl ⟨rfl, _, _, rfl⟩
  | cons d rest ih =>
      have split : dimension c (d :: rest) = (dimension c [d] >>= fun _ => dimension c rest) :=
        dimensionAppend [d] rest
      rw [split] at ran
      rcases bindRuns.mp ran with ⟨_, mid, one, others⟩ | ⟨f, failed, rfl⟩
      · rcases dimensionOne d one with ⟨_, vars, host, rfl⟩ | ⟨_, _, same, _, _⟩
        · rcases ih others with ⟨rfl, vars', host', rfl⟩ | ⟨f, rfl, breaks⟩
          · exact .inl ⟨rfl, vars', host', rfl⟩
          · refine .inr ⟨f, rfl, ?_⟩
            cases breaks with
            | @within done e rest _ vars' host' host'' made refused =>
                have before : dimension c (d :: done) m =
                    (.ok (), { m with vars := vars', host := host' }) := by
                  rw [show d :: done = [d] ++ done from rfl, dimensionAppend]
                  exact bindRuns.mpr (.inl ⟨_, _, one, made⟩)
                exact .within before refused
        · cases same
      · refine .inr ⟨f, rfl, ?_⟩
        rcases dimensionOne d failed with ⟨⟨_, same⟩, _⟩ | ⟨_, host, same, _, rfl⟩
        · cases same
        · have nothing :
              dimension c [] m = (.ok (), { m with vars := m.vars, host := m.host }) := rfl
          exact .within nothing failed

end Exec

def Stmt.target? : Stmt → Option Int
  | .goto line => some line
  | .gosub line => some line
  | .jumpIf _ line => some line
  | _ => none

def Stmt.Evaluates : Stmt → Prop
  | .remark _ => False
  | .goto _ => False
  | .gosub _ => False
  | .goBack => False
  | .next _ => False
  | .finish _ => False
  | _ => True

inductive Does (c : Setting) (m : Machine) : Stmt → Except Fault Flow → Machine → Prop where
  | passed {s host} : Does c m s (.ok .next) { m with host }
  | stored {s vars host} : Does c m s (.ok .next) { m with vars, host }
  | ended {s} : Does c m s (.ok .stop) m
  | nested {condition inner host} :
      Does c m (.doIf condition inner) (.ok (.inner inner)) { m with host }
  | jumped {s line host} (target : s.target? = some line) :
      Does c m s (.ok (.jump line)) { m with host }
  | called {line resume} (back : c.code.after? m.pc = some resume)
      (room : m.gosubs.length < stackDepth) :
      Does c m (.gosub line) (.ok (.jump line)) { m with gosubs := resume :: m.gosubs }
  | returned {resume rest} (top : m.gosubs = resume :: rest) :
      Does c m .goBack (.ok (.jump resume)) { m with gosubs := rest }
  | entered {name start limit step resume last stride vars host}
      (back : c.code.after? m.pc = some resume)
      (room : (Exec.leaveLoop name m.loops).length < stackDepth) :
      Does c m (.loop name start limit step) (.ok .next)
        { m with loops := ⟨name, last, stride, resume⟩ :: Exec.leaveLoop name m.loops, vars, host }
  | repeated {name l outer vars host} (top : m.loops = l :: outer) :
      Does c m (.next name) (.ok (.jump l.resume)) { m with vars, host }
  | left {name l outer vars host} (top : m.loops = l :: outer) :
      Does c m (.next name) (.ok .next) { m with loops := outer, vars, host }
  | refused {s f} (ordinary : f.Ordinary) : Does c m s (.error f) m
  | failed {s f host} (evaluates : s.Evaluates) (allowed : c.functions.Allow f) :
      Does c m s (.error f) { m with host }
  | full {name start limit step host} :
      Does c m (.loop name start limit step) (.error (.stackOverflow .loops))
        { m with loops := Exec.leaveLoop name m.loops, host }
  | brokenOff {arrays f m'} (breaks : Exec.BreaksOff c m arrays f m') :
      Does c m (.dim arrays) (.error f) m'

section Statements

open Exec

variable {α : Type} {c : Setting} {m m' : Machine} {s : Stmt} {r : Except Fault Flow}

theorem Does.ofLook {x : Exec α} {k : α → Flow} (looks : x.Looks c.functions.Allow)
    (evaluates : s.Evaluates)
    (flows : ∀ a host, Does c m s (.ok (k a)) { m with host })
    (ran : (x >>= fun a => pure (k a)) m = (r, m')) : Does c m s r m' := by
  rcases bindRuns.mp ran with ⟨a, mid, one, rest⟩ | ⟨f, failed, rfl⟩
  · obtain ⟨⟨host, rfl⟩, _⟩ := looks one
    obtain ⟨rfl, rfl⟩ := pureRuns.mp rest
    exact flows a host
  · obtain ⟨⟨host, rfl⟩, faults⟩ := looks failed
    exact .failed evaluates (faults rfl)

theorem Does.ofStore {x : Exec Unit} (all : x.AllOrNothing c.functions.Allow)
    (evaluates : s.Evaluates) (ran : (x >>= fun _ => pure Flow.next) m = (r, m')) :
    Does c m s r m' := by
  rcases bindRuns.mp ran with ⟨a, mid, one, rest⟩ | ⟨f, failed, rfl⟩
  · obtain ⟨rfl, rfl⟩ := pureRuns.mp rest
    rcases all one with ⟨_, vars, host, rfl⟩ | ⟨_, _, same, _⟩
    · exact .stored
    · cases same
  · rcases all failed with ⟨⟨_, same⟩, _⟩ | ⟨_, host, same, allowed, rfl⟩ <;> cases same
    exact .failed evaluates allowed

theorem statementDoes (ran : Exec.statement c s m = (r, m')) : Does c m s r m' := by
  cases s with
  | remark text =>
      obtain ⟨rfl, rfl⟩ := pureRuns.mp ran
      exact .passed
  | print items => exact .ofLook (printLooks items) trivial (fun _ _ => .passed) ran
  | assign target value => exact .ofStore (assignAll target value) trivial ran
  | input name => exact .ofStore (inputAll name) trivial ran
  | jumpIf condition line =>
      refine .ofLook (evaluateLooks condition) trivial (fun v _ => ?_) ran
      cases v.truth with
      | true => exact .jumped rfl
      | false => exact .passed
  | doIf condition inner =>
      refine .ofLook (evaluateLooks condition) trivial (fun v _ => ?_) ran
      cases v.truth with
      | true => exact .nested
      | false => exact .passed
  | goto line =>
      obtain ⟨rfl, rfl⟩ := pureRuns.mp ran
      exact .jumped rfl
  | gosub line =>
      rcases gosubRuns ran with ⟨resume, back, room, rfl, rfl⟩ | ⟨f, rfl, ordinary, rfl⟩
      · exact .called back room
      · exact .refused ordinary
  | goBack =>
      rcases goBackRuns ran with ⟨resume, rest, top, rfl, rfl⟩ | ⟨_, rfl, rfl⟩
      · exact .returned top
      · exact .refused trivial
  | loop name start limit step =>
      rcases bindRuns.mp ran with ⟨_, mid, one, rest⟩ | ⟨f, failed, rfl⟩
      · obtain ⟨rfl, rfl⟩ := pureRuns.mp rest
        cases enterLoopRuns one with
        | entered back room => exact .entered back room
      · generalize result : (Except.error f : Except Fault Unit) = e at failed
        cases enterLoopRuns failed with
        | entered back room => cases result
        | full =>
            cases result
            exact .full
        | failed allowed =>
            cases result
            exact .failed trivial allowed
  | next name =>
      rcases nextLoopRuns ran with ⟨l, outer, vars, host, top, ⟨rfl, rfl⟩ | ⟨rfl, rfl⟩⟩ |
        ⟨f, rfl, ordinary, rfl⟩
      · exact .repeated top
      · exact .left top
      · exact .refused ordinary
  | dim arrays =>
      rcases bindRuns.mp ran with ⟨_, mid, one, rest⟩ | ⟨f, failed, rfl⟩
      · obtain ⟨rfl, rfl⟩ := pureRuns.mp rest
        rcases dimensionRuns one with ⟨_, vars, host, rfl⟩ | ⟨_, same, _⟩
        · exact .stored
        · cases same
      · rcases dimensionRuns failed with ⟨same, _⟩ | ⟨_, same, breaks⟩ <;> cases same
        exact .brokenOff breaks
  | randomize seed => exact .ofLook (randomizeLooks seed) trivial (fun _ _ => .passed) ran
  | finish word =>
      obtain ⟨rfl, rfl⟩ := pureRuns.mp ran
      exact .ended
  | call name args =>
      refine .ofLook (looksEffect fun _ => ?_) trivial (fun _ _ => .passed) ran
      exact Effect.faultsBind (argsFaults args) (callFaults name)

theorem doesFault {f : Fault} (does : Does c m s (.error f) m') :
    f.Ordinary ∨ (s.Evaluates ∧ c.functions.Raises f) ∨
      ∃ arrays d, s = .dim arrays ∧ d ∈ arrays ∧ d.dims = [] ∧ f = .internal .noDimensions := by
  cases does with
  | refused ordinary => exact .inl ordinary
  | failed evaluates allowed =>
      rcases allowed with ordinary | raised
      · exact .inl ordinary
      · exact .inr (.inl ⟨evaluates, raised⟩)
  | full => exact .inl trivial
  | brokenOff breaks =>
      cases breaks with
      | @within done d rest f vars host host' made refused =>
          rcases dimensionOne d refused with ⟨⟨_, same⟩, _⟩ | ⟨_, _, same, kind, _⟩ <;> cases same
          rcases kind with (ordinary | raised) | ⟨empty, rfl⟩
          · exact .inl ordinary
          · exact .inr (.inl ⟨trivial, raised⟩)
          · exact .inr (.inr ⟨_, d, rfl, by simp, empty, rfl⟩)

end Statements

end LineBasic
