import LineBasic.Proofs.Run.Steps

/-!
Two runs of one program side by side, under different options or on different hosts. If whatever the
program can do to one host it can do to the other with the same result, then the runs go through the
same steps; what may set them apart are faults that are named beforehand.
-/
namespace LineBasic

section Computations

variable {σ α β : Type} {F : Fault → Prop} {R : σ → σ → Prop}

def EndsLike (F : Fault → Prop) (R : σ → σ → Prop) (p q : Except Fault α × σ) : Prop :=
  (p.1 = q.1 ∧ R p.2 q.2) ∨ ∃ f, p.1 = .error f ∧ F f

def Follows (F : Fault → Prop) (R : σ → σ → Prop) (x y : ExceptT Fault (StateM σ) α) : Prop :=
  ∀ s t, R s t → EndsLike F R (x s) (y t)

theorem followsPure (a : α) : Follows F R (pure a) (pure a) :=
  fun _ _ related => .inl ⟨rfl, related⟩

theorem followsBind {x y : ExceptT Fault (StateM σ) α} {k l : α → ExceptT Fault (StateM σ) β}
    (first : Follows F R x y) (rest : ∀ a, Follows F R (k a) (l a)) :
    Follows F R (x >>= k) (y >>= l) := by
  intro s t related
  have left : (x >>= k) s = ExceptT.bindCont k (x s).1 (x s).2 := rfl
  have right : (y >>= l) t = ExceptT.bindCont l (y t).1 (y t).2 := rfl
  rw [left, right]
  rcases first s t related with ⟨same, kept⟩ | ⟨f, failed, allowed⟩
  · rw [← same]
    cases (x s).1 with
    | ok a => exact rest a _ _ kept
    | error f => exact .inl ⟨rfl, kept⟩
  · rw [failed]
    exact .inr ⟨f, rfl, allowed⟩

end Computations

/- Hosts that are related by `H` serve a program alike and stay related. Only that someone asks for
a stop may be known to the first alone. -/
structure ServeAlike (F : Fault → Prop) (H : Host → Host → Prop) : Prop where
  write {h k} (text : Bytes) (related : H h k) :
    (h.write .result text).1 = (k.write .result text).1 ∧
      H (h.write .result text).2 (k.write .result text).2
  clock {h k} (related : H h k) : h.clock = k.clock
  meter {h k} (related : H h k) : h.meter = k.meter
  random {h k} (related : H h k) : h.random = k.random
  drawn {h k} (random : Random) (related : H h k) : H { h with random } { k with random }
  waits {h k} (n : Nat) (related : H h k) :
    H { h with waited := h.waited + n } { k with waited := k.waited + n }
  asked {h k} (related : H h k) :
    h.interrupted = k.interrupted ∨ k.interrupted = false ∧ F .interrupted

def Functions.Blind (F : Fault → Prop) (H : Host → Host → Prop) (fns : Functions) : Prop :=
  ∀ (name : String) (body : FunctionBody) (args : List Value), fns.table[name]? = some body →
    Follows F H (body args) (body args)

section Evaluation

variable {α : Type} {F : Fault → Prop} {H : Host → Host → Prop} {fns : Functions} {vs : Variables}

theorem followsExcept (r : Except Fault α) :
    Follows F H (Effect.ofExcept r) (Effect.ofExcept r) := fun _ _ related => .inl ⟨rfl, related⟩

theorem ServeAlike.writeFollows (alike : ServeAlike F H) (text : Bytes) :
    Follows F H (Effect.write .result text) (Effect.write .result text) := by
  intro h k related
  obtain ⟨accepted, kept⟩ := alike.write text related
  have shape (h : Host) : Effect.write .result text h =
      (if (h.write .result text).1 then .ok () else .error .outputClosed,
        (h.write .result text).2) := by
    unfold Effect.write
    split <;> simp_all
  rw [shape h, shape k, accepted]
  exact .inl ⟨rfl, kept⟩

theorem callFollows (blind : fns.Blind F H) (name : String) (args : List Value) :
    Follows F H (fns.call name args) (fns.call name args) := by
  unfold Functions.call
  cases found : fns.table[Text.upper name]? with
  | none => exact followsExcept (.error _)
  | some body => exact blind _ body args found

mutual

theorem evalFollows (blind : fns.Blind F H) :
    (e : Expr) → Follows F H (e.eval fns vs) (e.eval fns vs)
  | .number _ => by
      rw [Expr.eval]
      exact followsPure _
  | .text _ => by
      rw [Expr.eval]
      exact followsPure _
  | .scalar _ => by
      rw [Expr.eval]
      exact followsPure _
  | .element _ index => by
      rw [Expr.eval]
      exact followsBind (indexFollows blind index) fun _ => followsExcept _
  | .call name args => by
      rw [Expr.eval]
      exact followsBind (argsFollow blind args) (callFollows blind name)
  | .negate e => by
      rw [Expr.eval]
      refine followsBind (evalFollows blind e) fun v => ?_
      split
      · exact followsExcept (.error _)
      · exact followsPure _
  | .arith _ l r => by
      rw [Expr.eval]
      exact followsBind (evalFollows blind l) fun _ =>
        followsBind (evalFollows blind r) fun _ => followsExcept _
  | .compare _ l r => by
      rw [Expr.eval]
      exact followsBind (evalFollows blind l) fun _ =>
        followsBind (evalFollows blind r) fun _ => followsPure _

theorem indexFollows (blind : fns.Blind F H) :
    (es : List Expr) → Follows F H (evalIndex fns vs es) (evalIndex fns vs es)
  | [] => by
      rw [evalIndex]
      exact followsPure _
  | e :: es => by
      rw [evalIndex]
      exact followsBind (evalFollows blind e) fun _ => followsBind (followsExcept _) fun _ =>
        followsBind (indexFollows blind es) fun _ => followsPure _

theorem argsFollow (blind : fns.Blind F H) :
    (es : List Expr) → Follows F H (evalArgs fns vs es) (evalArgs fns vs es)
  | [] => by
      rw [evalArgs]
      exact followsPure _
  | e :: es => by
      rw [evalArgs]
      exact followsBind (evalFollows blind e) fun _ =>
        followsBind (argsFollow blind es) fun _ => followsPure _

end

theorem numberFollows (blind : fns.Blind F H) (what : String) (e : Expr) :
    Follows F H (e.evalNumber fns vs what) (e.evalNumber fns vs what) := by
  refine followsBind (evalFollows blind e) fun v => ?_
  cases v with
  | number x => exact followsPure _
  | text s => exact followsExcept (.error _)

theorem dimsFollow (blind : fns.Blind F H) (es : List Expr) :
    Follows F H (evalDims fns vs es) (evalDims fns vs es) := by
  induction es with
  | nil => exact followsPure _
  | cons e es ih =>
      exact followsBind (numberFollows blind _ e) fun _ => followsBind ih fun _ => followsPure _

end Evaluation

def Host.remark (h : Host) (wanted : Bool) (text : Bytes) : Host :=
  if wanted then h.writeAnyway .trace text else h

def Machine.Beside (H : Host → Host → Prop) (m k : Machine) : Prop :=
  ∃ host, k = { m with host } ∧ H m.host host

/- The options `o` may take the place of those of `c` when the host is replaced by a related one:
what is shown besides the output keeps the hosts related, and there is no further limit. -/
structure Companion (F : Fault → Prop) (H : Host → Host → Prop) (c : Setting) (o : Options) : Prop
    extends ServeAlike F H where
  blind : c.functions.Blind F H
  change {h k} (name shown : String) (old new : Value) (related : H h k) :
    H (h.remark (c.options.traces name) (Exec.traceText shown old new))
      (k.remark (o.traces name) (Exec.traceText shown old new))
  begun {h k} (line : Int) (related : H h k) :
    H (h.remark c.options.traceLines (Bytes.ofString ("[" ++ toString line ++ "] ")))
      (k.remark o.traceLines (Bytes.ofString ("[" ++ toString line ++ "] ")))
  read {h k} (name : String) (related : H h k) :
    (Exec.readInput (Exec.promptFor c name) h).1 =
        (Exec.readInput (Exec.promptFor { c with options := o } name) k).1 ∧
      H (Exec.readInput (Exec.promptFor c name) h).2
        (Exec.readInput (Exec.promptFor { c with options := o } name) k).2
  limit : o.maxSteps = c.options.maxSteps ∨ o.maxSteps ≤ 0 ∧ F (.stepLimit c.options.maxSteps)

namespace Exec

variable {α β : Type} {F : Fault → Prop} {H : Host → Host → Prop} {c : Setting} {o : Options}

theorem effectFollows {e e' : Variables → Effect α} (used : ∀ vs, Follows F H (e vs) (e' vs)) :
    Follows F (Machine.Beside H) (effect e) (effect e') := by
  intro m k beside
  obtain ⟨host, rfl, related⟩ := beside
  have left : effect e m = ((e m.vars m.host).1, { m with host := (e m.vars m.host).2 }) := rfl
  have right : effect e' { m with host } =
      ((e' m.vars host).1, { m with host := (e' m.vars host).2 }) := rfl
  rw [left, right]
  rcases used m.vars _ _ related with ⟨same, kept⟩ | failed
  · exact .inl ⟨same, _, rfl, kept⟩
  · exact .inr failed

theorem getFollows {f g : Machine → Exec α}
    (rest : ∀ m host, H m.host host → Follows F (Machine.Beside H) (f m) (g { m with host })) :
    Follows F (Machine.Beside H) (get >>= f) (get >>= g) := by
  rintro m k ⟨host, rfl, related⟩
  exact rest m host related _ _ ⟨host, rfl, related⟩

theorem lookFollows {f g : Machine → Exec α} (same : ∀ m host, g { m with host } = g m)
    (rest : ∀ m, Follows F (Machine.Beside H) (f m) (g m)) :
    Follows F (Machine.Beside H) (get >>= f) (get >>= g) := by
  refine getFollows fun m host _ => ?_
  rw [same]
  exact rest m

theorem modifyFollows {f : Machine → Machine}
    (apart : ∀ m host, f { m with host } = { f m with host }) (kept : ∀ m, (f m).host = m.host) :
    Follows F (Machine.Beside H) (modify f : Exec Unit) (modify f) := by
  rintro m k ⟨host, rfl, related⟩
  refine .inl ⟨rfl, host, apart m host, ?_⟩
  have same : (f m).host = m.host := kept m
  change H (f m).host host
  rw [same]
  exact related

theorem faultFollows (f : Fault) : Follows F (Machine.Beside H) (fault f : Exec α) (fault f) :=
  fun _ _ beside => .inl ⟨rfl, beside⟩

theorem ofExceptFollows (r : Except Fault α) :
    Follows F (Machine.Beside H) (ofExcept r) (ofExcept r) := fun _ _ beside => .inl ⟨rfl, beside⟩

theorem traceChangeRemarks (c : Setting) (name shown : String) (old new : Value) (m : Machine) :
    traceChange c name shown old new m = (.ok (), { m with
      host := m.host.remark (c.options.traces name) (traceText shown old new) }) := by
  unfold traceChange Host.remark
  split <;> rfl

theorem lineAfterFollows (why : Returning) :
    Follows F (Machine.Beside H) (lineAfter c why) (lineAfter { c with options := o } why) := by
  refine lookFollows (fun _ _ => rfl) fun m => ?_
  cases c.code.after? m.pc with
  | none => exact faultFollows _
  | some line => exact followsPure _

theorem goBackFollows : Follows F (Machine.Beside H) goBack goBack := by
  refine lookFollows (fun _ _ => rfl) fun m => ?_
  cases m.gosubs with
  | nil => exact faultFollows _
  | cons resume rest =>
      exact followsBind (modifyFollows (fun _ _ => rfl) fun _ => rfl) fun _ => followsPure _

theorem gosubFollows (target : Int) :
    Follows F (Machine.Beside H) (gosub c target) (gosub { c with options := o } target) := by
  refine followsBind (lineAfterFollows _) fun resume => ?_
  refine lookFollows (fun _ _ => rfl) fun m => ?_
  split
  · exact faultFollows _
  · exact followsBind (modifyFollows (fun _ _ => rfl) fun _ => rfl) fun _ => followsPure _

section Statements

variable (same : Companion F H c o)

include same

theorem evaluateFollows (e : Expr) :
    Follows F (Machine.Beside H) (evaluate c e) (evaluate { c with options := o } e) :=
  effectFollows fun _ => evalFollows same.blind e

theorem evaluateNumberFollows (what : String) (e : Expr) :
    Follows F (Machine.Beside H) (evaluateNumber c what e)
      (evaluateNumber { c with options := o } what e) :=
  effectFollows fun _ => numberFollows same.blind what e

theorem traceChangeFollows (name shown : String) (old new : Value) :
    Follows F (Machine.Beside H) (traceChange c name shown old new)
      (traceChange { c with options := o } name shown old new) := by
  rintro m k ⟨host, rfl, related⟩
  rw [traceChangeRemarks, traceChangeRemarks]
  exact .inl ⟨rfl, _, rfl, same.change name shown old new related⟩

theorem setScalarFollows (name : String) (v : Value) :
    Follows F (Machine.Beside H) (setScalar c name v)
      (setScalar { c with options := o } name v) := by
  refine followsBind (effectFollows fun _ => followsPure _) fun old => ?_
  refine followsBind (traceChangeFollows same name name old v) fun _ => ?_
  exact modifyFollows (fun _ _ => rfl) fun _ => rfl

theorem setElementFollows (name : String) (index : List Int) (v : Value) :
    Follows F (Machine.Beside H) (setElement c name index v)
      (setElement { c with options := o } name index v) := by
  refine followsBind (effectFollows fun _ => followsExcept _) fun old => ?_
  refine followsBind (modifyFollows (fun _ _ => rfl) fun _ => rfl) fun _ => ?_
  refine followsBind (effectFollows fun _ => followsExcept _) fun new => ?_
  exact traceChangeFollows same name _ old new

theorem assignFollows (target : Target) (value : Expr) :
    Follows F (Machine.Beside H) (assign c target value)
      (assign { c with options := o } target value) := by
  refine followsBind (evaluateFollows same value) fun v => ?_
  cases target with
  | scalar name => exact setScalarFollows same name v
  | element name index =>
      refine followsBind (effectFollows fun _ => indexFollows same.blind index) fun is => ?_
      exact setElementFollows same name is v

theorem printRestFollows (items : List (Separator × Expr)) :
    Follows F (Machine.Beside H) (printRestText c items)
      (printRestText { c with options := o } items) := by
  induction items with
  | nil => exact followsPure _
  | cons item rest ih =>
      exact followsBind (evaluateFollows same item.2) fun _ => followsBind ih fun _ => followsPure _

theorem printFollows (items : Option PrintList) :
    Follows F (Machine.Beside H) (print c items) (print { c with options := o } items) := by
  refine followsBind ?_ fun text => effectFollows fun _ => same.writeFollows text
  cases items with
  | none => exact followsPure _
  | some items =>
      exact followsBind (evaluateFollows same items.first) fun _ =>
        followsBind (printRestFollows same items.rest) fun _ => followsPure _

theorem inputFollows (name : String) :
    Follows F (Machine.Beside H) (input c name) (input { c with options := o } name) := by
  unfold input
  refine followsBind (effectFollows fun _ => ?_) fun line => ?_
  · intro h k related
    obtain ⟨same, kept⟩ := same.read name related
    exact .inl ⟨congrArg Except.ok same, kept⟩
  · exact followsBind (ofExceptFollows _) fun v => setScalarFollows same name v

theorem enterWithFollows (name : String) (start limit step : Float) :
    Follows F (Machine.Beside H) (enterWith c name start limit step)
      (enterWith { c with options := o } name start limit step) := by
  refine followsBind (lineAfterFollows _) fun resume => ?_
  refine followsBind (modifyFollows (fun _ _ => rfl) fun _ => rfl) fun _ => ?_
  refine lookFollows (fun _ _ => rfl) fun m => ?_
  split
  · exact faultFollows _
  · refine followsBind (setScalarFollows same name _) fun _ => ?_
    exact modifyFollows (fun _ _ => rfl) fun _ => rfl

theorem enterLoopFollows (name : String) (start limit : Expr) (step : Option Expr) :
    Follows F (Machine.Beside H) (enterLoop c name start limit step)
      (enterLoop { c with options := o } name start limit step) := by
  refine followsBind (evaluateNumberFollows same _ start) fun first => ?_
  refine followsBind (evaluateNumberFollows same _ limit) fun last => ?_
  cases step with
  | none => exact followsBind (followsPure _) (enterWithFollows same name first last)
  | some e =>
      exact followsBind (evaluateNumberFollows same _ e) (enterWithFollows same name first last)

theorem nextLoopFollows (name : String) :
    Follows F (Machine.Beside H) (nextLoop c name) (nextLoop { c with options := o } name) := by
  refine lookFollows (fun _ _ => rfl) fun m => ?_
  cases m.loops with
  | nil => exact faultFollows _
  | cons l outer =>
      simp only
      split
      · exact faultFollows _
      · refine lookFollows (fun _ _ => rfl) fun m => ?_
        refine followsBind (setScalarFollows same name _) fun _ => ?_
        split
        · exact followsPure _
        · exact followsBind (modifyFollows (fun _ _ => rfl) fun _ => rfl) fun _ => followsPure _

theorem dimensionFollows (arrays : List Declaration) :
    Follows F (Machine.Beside H) (dimension c arrays)
      (dimension { c with options := o } arrays) := by
  induction arrays with
  | nil => exact followsPure _
  | cons d rest ih =>
      refine followsBind (effectFollows fun _ => dimsFollow same.blind d.dims) fun dims => ?_
      refine lookFollows (fun _ _ => rfl) fun m => ?_
      refine followsBind (ofExceptFollows _) fun vars => ?_
      exact followsBind (modifyFollows (fun _ _ => rfl) fun _ => rfl) fun _ => ih

theorem randomizeFollows (seed : Option Expr) :
    Follows F (Machine.Beside H) (randomize c seed) (randomize { c with options := o } seed) := by
  have seeded (n : Int) : Follows F (Machine.Beside H)
      (modify fun m => { m with host := { m.host with random := m.host.random.seeded n } } :
        Exec Unit)
      (modify fun m => { m with host := { m.host with random := m.host.random.seeded n } }) := by
    rintro m k ⟨host, rfl, related⟩
    refine .inl ⟨rfl, _, rfl, ?_⟩
    rw [← same.random related]
    exact same.drawn _ related
  cases seed with
  | none =>
      refine getFollows fun m host related => ?_
      rw [← same.clock related]
      exact followsBind (followsPure _) seeded
  | some e =>
      refine followsBind (evaluateNumberFollows same _ e) fun x => ?_
      exact followsBind (followsPure _) seeded

theorem statementFollows (s : Stmt) :
    Follows F (Machine.Beside H) (statement c s) (statement { c with options := o } s) := by
  cases s with
  | remark text => exact followsPure _
  | print items => exact followsBind (printFollows same items) fun _ => followsPure _
  | assign target value =>
      exact followsBind (assignFollows same target value) fun _ => followsPure _
  | input name => exact followsBind (inputFollows same name) fun _ => followsPure _
  | jumpIf condition line =>
      exact followsBind (evaluateFollows same condition) fun _ => followsPure _
  | doIf condition inner =>
      exact followsBind (evaluateFollows same condition) fun _ => followsPure _
  | goto line => exact followsPure _
  | gosub line => exact gosubFollows line
  | goBack => exact goBackFollows
  | loop name start limit step =>
      exact followsBind (enterLoopFollows same name start limit step) fun _ => followsPure _
  | next name => exact nextLoopFollows same name
  | dim arrays => exact followsBind (dimensionFollows same arrays) fun _ => followsPure _
  | randomize seed => exact followsBind (randomizeFollows same seed) fun _ => followsPure _
  | finish word => exact followsPure _
  | call name args =>
      refine followsBind (effectFollows fun _ => ?_) fun _ => followsPure _
      exact followsBind (argsFollow same.blind args) fun vs => callFollows same.blind name vs

end Statements

end Exec

/- A step of the first run and one of the second: both lead on, or both end the run in the same way,
unless the first ends it by a fault of `F`. -/
inductive Progress.Beside (F : Fault → Prop) (H : Host → Host → Prop) : Progress → Progress → Prop
    where
  | running {m k} (beside : m.Beside H k) : Beside F H (.running m) (.running k)
  | finished {m k e} (beside : m.Beside H k) : Beside F H (.finished m e) (.finished k e)
  | apart {m line f p} (allowed : F f) : Beside F H (.finished m (.faulted (.fault line f))) p

namespace Machine

variable {F : Fault → Prop} {H : Host → Host → Prop} {c : Setting} {o : Options} {m k : Machine}

theorem Beside.refl {m : Machine} (related : H m.host m.host) : m.Beside H m :=
  ⟨m.host, rfl, related⟩

theorem followBeside (flow : Flow) (beside : m.Beside H k) :
    Progress.Beside F H (m.follow c flow) (k.follow { c with options := o } flow) := by
  obtain ⟨host, rfl, related⟩ := beside
  cases flow with
  | next =>
      refine .running ?_
      unfold settle
      split <;> exact ⟨host, rfl, related⟩
  | inner s => exact .running ⟨host, rfl, related⟩
  | stop => exact .finished ⟨host, rfl, related⟩
  | jump line =>
      cases found : c.code.find? line with
      | some pc =>
          simp only [follow, found]
          exact .running ⟨host, rfl, related⟩
      | none =>
          simp only [follow, found]
          exact .finished ⟨host, rfl, related⟩

theorem performBeside (same : Companion F H c o) (s : Stmt) (beside : m.Beside H k) :
    Progress.Beside F H (m.perform c s) (k.perform { c with options := o } s) := by
  have counted : m.counted.Beside H k.counted := by
    obtain ⟨host, rfl, related⟩ := beside
    exact ⟨host, rfl, related⟩
  have steps : k.counted.steps = m.counted.steps := by
    obtain ⟨host, other, _⟩ := counted
    rw [other]
  have executed := Exec.statementFollows same s _ _ counted
  rcases performCases c m s with ⟨limited, failed⟩ | ⟨below, ran⟩
  · rcases same.limit with equal | ⟨_, allowed⟩
    · have also : k.AtLimit { c with options := o } := by
        unfold AtLimit
        rw [steps]
        exact equal ▸ limited
      rcases performCases { c with options := o } k s with ⟨_, failed'⟩ | ⟨below, _⟩
      · rw [failed, failed']
        obtain ⟨host, other, related⟩ := counted
        rw [other, show o.maxSteps = c.options.maxSteps from equal]
        exact .finished ⟨host, rfl, related⟩
      · exact absurd also below
    · rw [failed]
      exact .apart allowed
  · have free : ¬ k.AtLimit { c with options := o } := by
      intro limited
      unfold AtLimit at limited below
      rw [steps] at limited
      rcases same.limit with equal | ⟨without, _⟩
      · exact below (equal ▸ limited)
      · have positive : 0 < o.maxSteps := limited.1
        omega
    obtain ⟨⟨r, after⟩, other⟩ :
        ∃ result, Exec.statement { c with options := o } s k.counted = result := ⟨_, rfl⟩
    rw [other] at executed
    rcases ran with ⟨flow, m', ran, followed⟩ | ⟨f, m', ran, failed⟩
    · rw [ran] at executed
      rcases executed with ⟨rfl, kept⟩ | ⟨_, impossible, _⟩
      · rw [followed, performOk free other]
        exact followBeside flow kept
      · cases impossible
    · rw [ran] at executed
      rcases executed with ⟨rfl, kept⟩ | ⟨f', equal, allowed⟩
      · rw [failed, performError free other]
        obtain ⟨host, rfl, related⟩ := kept
        exact .finished ⟨host, rfl, related⟩
      · cases equal
        rw [failed]
        exact .apart allowed

theorem traceLineRemarks (c : Setting) (m : Machine) : m.traceLine c = { m with
    host := m.host.remark c.options.traceLines
      (Bytes.ofString ("[" ++ toString m.line ++ "] ")) } := by
  unfold traceLine Host.remark
  split <;> rfl

theorem beginLineBeside (same : Companion F H c o) (l : CodeLine) (beside : m.Beside H k) :
    Progress.Beside F H (m.beginLine c l) (k.beginLine { c with options := o } l) := by
  obtain ⟨host, rfl, related⟩ := beside
  have begun := same.begun l.number related
  simp only [beginLine, traceLineRemarks]
  rcases same.asked related with equal | ⟨calm, allowed⟩
  · rw [equal]
    split
    · exact .finished ⟨host, rfl, related⟩
    · exact performBeside same _ ⟨_, rfl, begun⟩
  · rw [calm]
    split
    · exact .apart allowed
    · exact performBeside same _ ⟨_, rfl, begun⟩

theorem stepBeside (same : Companion F H c o) (beside : m.Beside H k) :
    Progress.Beside F H (m.step c) (k.step { c with options := o }) := by
  have pc : k.pc = m.pc ∧ k.pending = m.pending := by
    obtain ⟨host, rfl, _⟩ := beside
    exact ⟨rfl, rfl⟩
  cases pending : m.pending with
  | cons s rest =>
      rw [stepPending pending, stepPending (pc.2.trans pending)]
      obtain ⟨host, rfl, related⟩ := beside
      exact performBeside same s ⟨host, rfl, related⟩
  | nil =>
      have idle := pc.2.trans pending
      cases found : c.code.lines[m.pc]? with
      | none =>
          rw [stepDone pending found, stepDone idle (by rw [pc.1]; exact found)]
          exact .finished beside
      | some l =>
          rw [stepLine pending found, stepLine idle (by rw [pc.1]; exact found)]
          exact beginLineBeside same l beside

theorem reachesBeside (same : Companion F H c o) {now : Machine} (beside : m.Beside H k)
    (reached : Reaches c m now) :
    ∃ also, Reaches { c with options := o } k also ∧ now.Beside H also := by
  induction reached with
  | here => exact ⟨k, .here, beside⟩
  | step before running ih =>
      obtain ⟨also, reached, near⟩ := ih
      have next := stepBeside same near
      rw [running] at next
      generalize stepped : also.step { c with options := o } = p at next
      cases next with
      | running beside => exact ⟨_, .step reached stepped, beside⟩

def ask (m : Machine) (asked : Bool) : Machine :=
  { m with host := { m.host with interrupted := m.host.interrupted || asked } }

/- A run during which someone may ask for a stop: `asked n` tells whether they do so once `n`
statements have been executed. -/
def runAsked (c : Setting) (asked : Nat → Bool) : Nat → Machine → Option (Machine × Ending)
  | 0, _ => none
  | fuel + 1, m =>
    match (m.ask (asked m.steps)).step c with
    | .running m => runAsked c asked fuel m
    | .finished m e => some (m, e)

theorem runNeverAsked (c : Setting) (fuel : Nat) (m : Machine) :
    runAsked c (fun _ => false) fuel m = run c fuel m := by
  induction fuel generalizing m with
  | zero => rfl
  | succ fuel ih =>
      have same : m.ask false = m := by
        unfold ask
        rw [Bool.or_false]
      rw [runAsked, run, same]
      cases m.step c with
      | running next => exact ih next
      | finished last e => rfl

theorem runBeside (same : Companion F H c o)
    (asks : ∀ m k asked, Beside H m k → Beside H (m.ask asked) (k.ask asked))
    (asked : Nat → Bool) (fuel : Nat) (beside : m.Beside H k) :
    (runAsked c asked fuel m = none → runAsked { c with options := o } asked fuel k = none) ∧
      ∀ m' e, runAsked c asked fuel m = some (m', e) →
        (∃ k', runAsked { c with options := o } asked fuel k = some (k', e) ∧ m'.Beside H k') ∨
          ∃ line f, e = .faulted (.fault line f) ∧ F f := by
  induction fuel generalizing m k with
  | zero =>
      refine ⟨fun _ => rfl, ?_⟩
      intro m' e ran
      cases ran
  | succ fuel ih =>
      have steps : k.steps = m.steps := by
        obtain ⟨host, rfl, _⟩ := beside
        rfl
      have next := stepBeside same (asks m k (asked m.steps) beside)
      simp only [runAsked, steps]
      generalize (m.ask (asked m.steps)).step c = p at next
      generalize (k.ask (asked m.steps)).step { c with options := o } = q at next
      cases next with
      | running beside => exact ih beside
      | finished beside =>
          refine ⟨nofun, ?_⟩
          intro m' e ended
          cases ended
          exact .inl ⟨_, rfl, beside⟩
      | apart allowed =>
          refine ⟨nofun, ?_⟩
          intro m' e ended
          cases ended
          exact .inr ⟨_, _, rfl, allowed⟩

end Machine

def Workspace.after (w : Workspace) (result : Machine × Ending) : Outcome × Workspace × Host :=
  (⟨result.2, result.1.line, result.1.steps⟩, { w with vars := result.1.vars }, result.1.host)

def Workspace.runAsked (asked : Nat → Bool) (fuel : Nat) (w : Workspace) (h : Host) :
    Option (Outcome × Workspace × Host) :=
  match w.code with
  | .error e => some (⟨.faulted e, e.line, 0⟩, w, h)
  | .ok code =>
    (Machine.runAsked ⟨code, w.functions, w.options⟩ asked fuel (Machine.start w.vars h)).map w.after

theorem Workspace.runNeverAsked (fuel : Nat) (w : Workspace) (h : Host) :
    w.runAsked (fun _ => false) fuel h = w.run fuel h := by
  unfold runAsked
  cases compiled : w.code with
  | error e => simp only [run, compiled]
  | ok code =>
      rw [runOf compiled]
      simp only [Machine.runNeverAsked]
      rfl

end LineBasic
