import LineBasic.Proofs.Function.Registered
import LineBasic.Proofs.Program.Compile
import LineBasic.Proofs.Program.Order
import LineBasic.Proofs.Run.Steps
import LineBasic.Proofs.Syntax.Resolved

/-!
A call that was resolved when its line was parsed is resolved when it is executed: no run ends
because a function is unknown.
-/
namespace LineBasic

def Fault.Known : Fault → Prop
  | .unknownFunction _ => False
  | _ => True

theorem Fault.OfValues.known {f : Fault} (values : f.OfValues) : f.Known := by
  cases values <;> trivial

def Functions.Modest (fns : Functions) : Prop :=
  ∀ {name : String} {body : FunctionBody}, fns.table[name]? = some body →
    ∀ args, (body args).FaultsIn Fault.Known

section Evaluation

open Effect

variable {fns : Functions} {vs : Variables}

theorem makeKnown {name : String} {dims : List Int} {f : Fault}
    (failed : vs.dimension name dims = .error f) : f.Known := by
  unfold Variables.dimension at failed
  repeat' split at failed
  all_goals (cases failed; try trivial)

theorem callKnown (modest : fns.Modest) {name : String} (known : fns.has name = true)
    (args : List Value) : (fns.call name args).FaultsIn Fault.Known := by
  obtain ⟨body, found⟩ : ∃ body, fns.table[Text.upper name]? = some body := by
    rw [← Option.isSome_iff_exists, ← Std.TreeMap.contains_eq_isSome_getElem?]
    exact known
  unfold Functions.call
  rw [found]
  exact modest found args

mutual

theorem evalKnown (modest : fns.Modest) :
    {e : Expr} → e.Resolved fns.has → (e.eval fns vs).FaultsIn Fault.Known
  | .number _, _ => by
      rw [Expr.eval]
      exact faultsPure _
  | .text _, _ => by
      rw [Expr.eval]
      exact faultsPure _
  | .scalar _, _ => by
      rw [Expr.eval]
      exact faultsPure _
  | .element _ _, resolved => by
      rw [Expr.eval]
      rw [Expr.Resolved] at resolved
      exact faultsBind (indexKnown modest resolved) fun _ =>
        faultsOfExcept fun failed => (elementFaults failed).known
  | .call _ _, resolved => by
      rw [Expr.eval]
      rw [Expr.Resolved] at resolved
      exact faultsBind (argsKnown modest resolved.2) (callKnown modest resolved.1)
  | .negate _, resolved => by
      rw [Expr.eval]
      rw [Expr.Resolved] at resolved
      refine faultsBind (evalKnown modest resolved) fun v => ?_
      split
      · exact faultsFault trivial
      · exact faultsPure _
  | .arith _ _ _, resolved => by
      rw [Expr.eval]
      rw [Expr.Resolved] at resolved
      exact faultsBind (evalKnown modest resolved.1) fun _ =>
        faultsBind (evalKnown modest resolved.2) fun _ =>
          faultsOfExcept fun failed => (applyFaults failed).known
  | .compare _ _ _, resolved => by
      rw [Expr.eval]
      rw [Expr.Resolved] at resolved
      exact faultsBind (evalKnown modest resolved.1) fun _ =>
        faultsBind (evalKnown modest resolved.2) fun _ => faultsPure _

theorem indexKnown (modest : fns.Modest) : {es : List Expr} → Expr.AllResolved fns.has es →
    (evalIndex fns vs es).FaultsIn Fault.Known
  | [], _ => by
      rw [evalIndex]
      exact faultsPure _
  | _ :: _, resolved => by
      rw [evalIndex]
      rw [Expr.AllResolved] at resolved
      exact faultsBind (evalKnown modest resolved.1) fun _ =>
        faultsBind (faultsOfExcept fun failed => (subscriptFaults failed).known) fun _ =>
          faultsBind (indexKnown modest resolved.2) fun _ => faultsPure _

theorem argsKnown (modest : fns.Modest) : {es : List Expr} → Expr.AllResolved fns.has es →
    (evalArgs fns vs es).FaultsIn Fault.Known
  | [], _ => by
      rw [evalArgs]
      exact faultsPure _
  | _ :: _, resolved => by
      rw [evalArgs]
      rw [Expr.AllResolved] at resolved
      exact faultsBind (evalKnown modest resolved.1) fun _ =>
        faultsBind (argsKnown modest resolved.2) fun _ => faultsPure _

end

theorem numberKnown (modest : fns.Modest) (what : String) {e : Expr}
    (resolved : e.Resolved fns.has) : (e.evalNumber fns vs what).FaultsIn Fault.Known := by
  refine faultsBind (evalKnown modest resolved) fun v => ?_
  cases v with
  | number x => exact faultsPure _
  | text s => exact faultsFault trivial

theorem dimsKnown (modest : fns.Modest) {es : List Expr} (resolved : Expr.AllResolved fns.has es) :
    (evalDims fns vs es).FaultsIn Fault.Known := by
  induction es with
  | nil => exact faultsPure _
  | cons e es ih =>
      rw [Expr.AllResolved] at resolved
      exact faultsBind (numberKnown modest _ resolved.1) fun _ =>
        faultsBind (ih resolved.2) fun _ => faultsPure _

end Evaluation

namespace Exec

variable {α β : Type} {P : Fault → Prop}

def FaultsIn (P : Fault → Prop) (x : Exec α) : Prop := ∀ m f m', x m = (.error f, m') → P f

theorem faultsBind {x : Exec α} {k : α → Exec β} (first : x.FaultsIn P)
    (rest : ∀ a, (k a).FaultsIn P) : (x >>= k).FaultsIn P :=
  bindFaults first rest

theorem faultsPure (a : α) : (pure a : Exec α).FaultsIn P := by
  intro m f m' ran
  obtain ⟨same, _⟩ := pureRuns.mp ran
  cases same

theorem faultsFault {f : Fault} (allowed : P f) : (fault f : Exec α).FaultsIn P := by
  intro m f' m' ran
  cases ran
  exact allowed

theorem faultsOfExcept {r : Except Fault α} (allowed : ∀ {f}, r = .error f → P f) :
    (ofExcept r).FaultsIn P := by
  intro m f m' ran
  cases ran
  exact allowed rfl

theorem faultsEffect {e : Variables → Effect α} (faults : ∀ vs, (e vs).FaultsIn P) :
    (effect e).FaultsIn P := by
  intro m f m' ran
  obtain ⟨host, used, _⟩ := effectRuns.mp ran
  exact faults _ _ _ _ used

theorem faultsGet : (get : Exec Machine).FaultsIn P := by
  intro m f m' ran
  cases ran

theorem faultsModify (k : Machine → Machine) : (modify k : Exec Unit).FaultsIn P := by
  intro m f m' ran
  cases ran

section Statements

variable {c : Setting}

theorem setScalarFaults (name : String) (v : Value) : (setScalar c name v).FaultsIn P := by
  intro m f m' ran
  cases (setScalarRuns ran).1

theorem setElementKnown (name : String) (index : List Int) (v : Value) :
    (setElement c name index v).FaultsIn Fault.Known := by
  have read : (effect fun vs => Effect.ofExcept (vs.element name index)).FaultsIn Fault.Known :=
    faultsEffect fun _ => Effect.faultsOfExcept fun failed => (elementFaults failed).known
  refine faultsBind read fun _ => faultsBind (faultsModify _) fun _ => faultsBind read fun _ => ?_
  intro m f m' ran
  cases (traceChangeRuns ran).1

theorem lineAfterFaults {r : Returning} (allowed : P (.lastLine r)) :
    (lineAfter c r).FaultsIn P := by
  intro m f m' ran
  rcases (lineAfterRuns ran).2 with ⟨_, _, same⟩ | same <;> cases same
  exact allowed

theorem inputKnown (name : String) : (input c name).FaultsIn Fault.Known := by
  refine faultsBind (faultsEffect fun _ => ?_) fun line => faultsBind (faultsOfExcept ?_) fun v =>
    setScalarFaults name v
  · intro h f h' ran
    cases ran
  · intro f failed
    unfold inputValue at failed
    repeat' split at failed
    all_goals (cases failed; try trivial)

theorem entersKnown {m m' : Machine} {name : String} {start limit step : Float} {f : Fault}
    (enters : EntersWith c m name start limit step (.error f) m') : f.Known := by
  cases enters <;> trivial

theorem gosubKnown (line : Int) : (gosub c line).FaultsIn Fault.Known := by
  refine faultsBind (lineAfterFaults trivial) fun _ => faultsBind faultsGet fun _ => ?_
  split
  · exact faultsFault trivial
  · exact faultsBind (faultsModify _) fun _ => faultsPure _

theorem goBackKnown : goBack.FaultsIn Fault.Known := by
  refine faultsBind faultsGet fun _ => ?_
  split
  · exact faultsFault trivial
  · exact faultsBind (faultsModify _) fun _ => faultsPure _

theorem nextLoopKnown (name : String) : (nextLoop c name).FaultsIn Fault.Known := by
  refine faultsBind faultsGet fun _ => ?_
  split
  · exact faultsFault trivial
  · split
    · exact faultsFault trivial
    · refine faultsBind faultsGet fun _ => faultsBind (setScalarFaults _ _) fun _ => ?_
      split
      · exact faultsPure _
      · exact faultsBind (faultsModify _) fun _ => faultsPure _

variable (modest : c.functions.Modest)
include modest

theorem evaluateKnown {e : Expr} (resolved : e.Resolved c.functions.has) :
    (evaluate c e).FaultsIn Fault.Known :=
  faultsEffect fun _ => evalKnown modest resolved

theorem evaluateNumberKnown (what : String) {e : Expr} (resolved : e.Resolved c.functions.has) :
    (evaluateNumber c what e).FaultsIn Fault.Known :=
  faultsEffect fun _ => numberKnown modest what resolved

theorem printKnown {items : Option PrintList}
    (resolved : (Stmt.print items).Resolved c.functions.has) :
    (print c items).FaultsIn Fault.Known := by
  have rest : ∀ {list : List (Separator × Expr)},
      (∀ item ∈ list, item.2.Resolved c.functions.has) →
      (printRestText c list).FaultsIn Fault.Known := by
    intro list
    induction list with
    | nil => exact fun _ => faultsPure _
    | cons item list ih =>
        intro all
        exact faultsBind (evaluateKnown modest (all item (by simp))) fun _ =>
          faultsBind (ih fun other inside => all other (by simp [inside])) fun _ => faultsPure _
  refine faultsBind ?_ fun _ => faultsEffect fun _ => writeFaults (P := Fault.Known) trivial
  cases items with
  | none => exact faultsPure _
  | some items =>
      exact faultsBind (evaluateKnown modest resolved.1) fun _ =>
        faultsBind (rest resolved.2) fun _ => faultsPure _

theorem assignKnown {target : Target} {value : Expr}
    (resolved : (Stmt.assign target value).Resolved c.functions.has) :
    (assign c target value).FaultsIn Fault.Known := by
  refine faultsBind (evaluateKnown modest resolved.2) fun v => ?_
  cases target with
  | scalar name => exact setScalarFaults name v
  | element name index =>
      exact faultsBind (faultsEffect fun _ => indexKnown modest resolved.1) fun _ =>
        setElementKnown name _ v

theorem enterLoopKnown {name : String} {start limit : Expr} {step : Option Expr}
    (resolved : (Stmt.loop name start limit step).Resolved c.functions.has) :
    (enterLoop c name start limit step).FaultsIn Fault.Known := by
  obtain ⟨first, last, stride⟩ := resolved
  refine faultsBind (evaluateNumberKnown modest _ first) fun _ =>
    faultsBind (evaluateNumberKnown modest _ last) fun _ => ?_
  cases step with
  | none => exact fun m f m' ran => entersKnown (enterWithBounds ran)
  | some e =>
      exact faultsBind (evaluateNumberKnown modest _ (stride e rfl)) fun _ m f m' ran =>
        entersKnown (enterWithBounds ran)

theorem dimensionKnown {arrays : List Declaration}
    (resolved : ∀ d ∈ arrays, Expr.AllResolved c.functions.has d.dims) :
    (dimension c arrays).FaultsIn Fault.Known := by
  induction arrays with
  | nil => exact faultsPure _
  | cons d rest ih =>
      exact faultsBind (faultsEffect fun _ => dimsKnown modest (resolved d (by simp))) fun _ =>
        faultsBind faultsGet fun _ => faultsBind (faultsOfExcept makeKnown) fun _ =>
        faultsBind (faultsModify _) fun _ =>
          ih fun other inside => resolved other (by simp [inside])

theorem randomizeKnown {seed : Option Expr} (resolved : ∀ e ∈ seed, e.Resolved c.functions.has) :
    (randomize c seed).FaultsIn Fault.Known := by
  cases seed with
  | none =>
      intro m f m' ran
      cases ran
  | some e =>
      refine faultsBind (evaluateNumberKnown modest _ (resolved e rfl)) fun _ => ?_
      intro m f m' ran
      cases ran

theorem callStatementKnown {name : String} {args : List Expr}
    (resolved : (Stmt.call name args).Resolved c.functions.has) :
    (statement c (.call name args)).FaultsIn Fault.Known := by
  refine faultsBind (faultsEffect fun _ => ?_) fun _ => faultsPure _
  exact Effect.faultsBind (argsKnown modest resolved.2) (callKnown modest resolved.1)

theorem statementKnown {s : Stmt} (resolved : s.Resolved c.functions.has) :
    (statement c s).FaultsIn Fault.Known := by
  cases s with
  | remark text => exact faultsPure _
  | print items => exact faultsBind (printKnown modest resolved) fun _ => faultsPure _
  | assign target value => exact faultsBind (assignKnown modest resolved) fun _ => faultsPure _
  | input name => exact faultsBind (inputKnown name) fun _ => faultsPure _
  | jumpIf condition line => exact faultsBind (evaluateKnown modest resolved) fun _ => faultsPure _
  | doIf condition inner => exact faultsBind (evaluateKnown modest resolved.1) fun _ => faultsPure _
  | goto line => exact faultsPure _
  | gosub line => exact gosubKnown line
  | goBack => exact goBackKnown
  | loop name start limit step =>
      exact faultsBind (enterLoopKnown modest resolved) fun _ => faultsPure _
  | next name => exact nextLoopKnown name
  | dim arrays => exact faultsBind (dimensionKnown modest resolved) fun _ => faultsPure _
  | randomize seed => exact faultsBind (randomizeKnown modest resolved) fun _ => faultsPure _
  | finish word => exact faultsPure _
  | call name args => exact callStatementKnown modest resolved

end Statements

end Exec

section Runs

variable {c : Setting} {m m' : Machine}

theorem codeResolved {w : Workspace} {code : Code} (compiled : w.code = .ok code) :
    ∀ l ∈ code.lines, ∀ s ∈ l.body.toList, s.Resolved w.functions.has := by
  unfold Workspace.code at compiled
  split at compiled
  · cases compiled
  · intro l member
    obtain ⟨source, _, _, parsed⟩ := Code.compileSource compiled member
    exact parsedResolved parsed

def Ending.Unknown : Ending → Prop
  | .faulted (.fault _ f) => ¬ f.Known
  | _ => False

theorem stepKnown (modest : c.functions.Modest)
    (code : ∀ l ∈ c.code.lines, ∀ s ∈ l.body.toList, s.Resolved c.functions.has)
    (kept : ∀ s ∈ m.pending, s.Resolved c.functions.has) {e : Ending}
    (finished : m.step c = .finished m' e) : ¬ e.Unknown := by
  cases Machine.stepEnds finished with
  | failed due below ran =>
      have now := (Machine.dueHolds code kept due).1
      exact fun unknown => unknown (Exec.statementKnown modest now _ _ _ ran)
  | limited due limit => exact fun unknown => unknown trivial
  | missing due below ran missing => exact fun unknown => unknown trivial
  | interrupted idle found asked => exact fun unknown => unknown trivial
  | stopped due below ran => exact id
  | completed idle past => exact id

theorem runKnown {w : Workspace} (modest : w.functions.Modest) {fuel : Nat} {h h' : Host}
    {o : Outcome} {w' : Workspace} (ran : w.run fuel h = some (o, w', h')) :
    ¬ o.ending.Unknown := by
  cases compiled : w.code with
  | error e =>
      rw [runUnparsed compiled] at ran
      cases ran
      unfold Workspace.code at compiled
      split at compiled
      · cases compiled
        exact id
      · rcases Code.compileError compiled with rfl | ⟨_, _, rfl⟩ <;> exact id
  | ok code =>
      rw [runOf compiled] at ran
      obtain ⟨⟨last, ending⟩, finished, same⟩ := Option.map_eq_some_iff.mp ran
      cases same
      obtain ⟨last, reached, stopped⟩ := Machine.runFinished finished
      have resolved := codeResolved compiled
      have kept := Machine.reachedHolds (c := ⟨code, w.functions, w.options⟩) resolved And.right
        reached
      exact stepKnown modest resolved kept stopped

end Runs

open Functions

theorem resolutionAgrees (history : List Registration) :
    (∀ r : Registration,
      ((∃ fns, (replay history).register r.name r.body = .ok fns) ↔
        r.body ≠ none ∧ r.key ≠ "" ∧ isKeyword r.key = false ∧ firstBody history r.key = none) ∧
      (∀ fns, (replay history).register r.name r.body = .ok fns →
        replay (history ++ [r]) = fns) ∧
      ∀ e, (replay history).register r.name r.body = .error e →
        replay (history ++ [r]) = replay history) ∧
    (∀ name,
      ((replay history).has name = true ↔ ∃ body, firstBody history (Text.upper name) = some body) ∧
      ∀ args, (replay history).call name args =
        match firstBody history (Text.upper name) with
        | some body => body args
        | none => Effect.fault (.unknownFunction (Text.upper name))) ∧
    ((replay history).names.Pairwise (· < ·) ∧
      ∀ name, name ∈ (replay history).names ↔ ∃ body, firstBody history name = some body) ∧
    ((∀ r ∈ history, ∀ body, r.body = some body →
        ∀ args, (body args).FaultsIn fun f => ∀ name, f ≠ .unknownFunction name) →
      ∀ w : Workspace, w.functions = replay history → ∀ fuel h o w' h',
        w.run fuel h = some (o, w', h') →
        ∀ line name, o.ending ≠ .faulted (.fault line (.unknownFunction name))) := by
  refine ⟨fun r => ⟨replayRegister history r, ?_, ?_⟩,
    fun name => ⟨replayHas history name, fun args => ?_⟩, replayNames history, ?_⟩
  · intro fns ok
    simp only [replayConcat, after, ok]
  · intro e refused
    rw [replayConcat, afterRefused refused]
  · cases found : firstBody history (Text.upper name) <;> simp only [call, replayTable, found]
  · intro quiet w same fuel h o w' h' ran line name ended
    have modest : w.functions.Modest := by
      intro key body found args host f host' failed
      rw [same, replayTable] at found
      obtain ⟨r, member, given⟩ := firstBodySource found
      have other := quiet r member body given args host f host' failed
      cases f with
      | unknownFunction name => exact other name rfl
      | _ => trivial
    have known := runKnown modest ran
    rw [ended] at known
    exact known id

def sampleHistory : List Registration :=
  [⟨" twice ", some fun _ => pure (.text "two")⟩,
    ⟨"Twice", some fun args => wrongCount "TWICE" 1 1 args⟩,
    ⟨"print", some fun _ => pure (.text "no")⟩, ⟨"half", none⟩]

theorem resolutionAgreesTwice :
    (replay sampleHistory).has "tWice" = true ∧
    ∀ fuel h o w' h', Workspace.run fuel
        ⟨.ofLines [⟨10, "PRINT tWice(half(1))"⟩] false, .empty, replay sampleHistory, .none⟩ h =
          some (o, w', h') →
      ∀ line name, o.ending ≠ .faulted (.fault line (.unknownFunction name)) := by
  obtain ⟨_, found, _, runs⟩ := resolutionAgrees sampleHistory
  refine ⟨(found "tWice").1.mpr ⟨fun _ => pure (.text "two"), rfl⟩, ?_⟩
  · refine runs ?_ _ rfl
    intro r member body given args
    simp only [sampleHistory, List.mem_cons, List.not_mem_nil, or_false] at member
    rcases member with rfl | rfl | rfl | rfl <;> cases given
    · exact Effect.faultsPure _
    · exact Effect.faultsFault nofun
    · exact Effect.faultsPure _

end LineBasic
