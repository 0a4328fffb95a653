import Mathlib.Data.List.Forall2
import LineBasic.Proofs.Program.Order
import LineBasic.Proofs.Run.Confined
import LineBasic.Proofs.Run.Stacks

/-!
Programs under other line numbers. Line numbers say in which order lines come and where jumps lead.
When they are changed without changing either, the program does the same, and reports the same under
the new numbers.
-/
namespace LineBasic

section Definitions

variable (f : Int → Int)

def Increasing : Prop := ∀ a b, 0 < a → a < b → f a < f b

def Code.Has (code : Code) (n : Int) : Prop := ∃ l ∈ code.lines, l.number = n

def Code.Retargets (code code' : Code) (t t' : Int) : Prop :=
  (code.Has t ∧ t' = f t) ∨ (¬ code.Has t ∧ ¬ code'.Has t')

inductive Stmt.Retargeted (T : Int → Int → Prop) : Stmt → Stmt → Prop where
  | goto {t t'} (target : T t t') : Retargeted T (.goto t) (.goto t')
  | gosub {t t'} (target : T t t') : Retargeted T (.gosub t) (.gosub t')
  | jumpIf {condition t t'} (target : T t t') :
      Retargeted T (.jumpIf condition t) (.jumpIf condition t')
  | doIf {condition s s'} (inner : Retargeted T s s') :
      Retargeted T (.doIf condition s) (.doIf condition s')
  | same {s} (untargeted : s.target? = none)
      (single : ∀ condition inner, s ≠ .doIf condition inner) : Retargeted T s s

structure CodeLine.Renumbered (T : Int → Int → Prop) (l l' : CodeLine) : Prop where
  number : l'.number = f l.number
  body : List.Forall₂ (Stmt.Retargeted T) l.body.toList l'.body.toList

def Code.Renumbered (code code' : Code) : Prop :=
  List.Forall₂ (CodeLine.Renumbered f (code.Retargets f code')) code.lines.toList code'.lines.toList

inductive Fault.Retargeted (T : Int → Int → Prop) : Fault → Fault → Prop where
  | same {e} : Retargeted T e e
  | missing {t t'} (target : T t t') : Retargeted T (.noSuchLine t) (.noSuchLine t')
  | last {t t'} (target : T t t') :
      Retargeted T (.lastLine (.gosub t)) (.lastLine (.gosub t'))

inductive Ending.Renumbered (T : Int → Int → Prop) : Ending → Ending → Prop where
  | completed : Renumbered T .completed .completed
  | ended : Renumbered T .ended .ended
  | faulted {line e e'} (fault : e.Retargeted T e') :
      Renumbered T (.faulted (.fault line e)) (.faulted (.fault (f line) e'))

def Loop.renumber (l : Loop) : Loop := { l with resume := f l.resume }

def Machine.renumber (pending : List Stmt) (m : Machine) : Machine :=
  { m with
    line := f m.line
    pending
    gosubs := m.gosubs.map f
    loops := m.loops.map (Loop.renumber f) }

inductive Machine.Renumbered (T : Int → Int → Prop) (m : Machine) : Machine → Prop where
  | same {pending} (due : List.Forall₂ (Stmt.Retargeted T) m.pending pending) :
      Renumbered T m (m.renumber f pending)

inductive Progress.Renumbered (T : Int → Int → Prop) : Progress → Progress → Prop where
  | running {m k} (renumbered : m.Renumbered f T k) : Renumbered T (.running m) (.running k)
  | finished {m k e e'} (renumbered : m.Renumbered f T k) (ending : e.Renumbered f T e') :
      Renumbered T (.finished m e) (.finished k e')

/- Where `s` sends control in one program and in the other. A statement that names no line may go
back to one. -/
inductive Flow.Renumbered (T : Int → Int → Prop) (s : Stmt) : Flow → Flow → Prop where
  | next : Renumbered T s .next .next
  | stop : Renumbered T s .stop .stop
  | jump {t t'} (target : T t t') : Renumbered T s (.jump t) (.jump t')
  | back {line} (untargeted : s.target? = none) : Renumbered T s (.jump line) (.jump (f line))
  | inner {i i'} (same : i.Retargeted T i') : Renumbered T s (.inner i) (.inner i')

inductive Tells {α β : Type} (T : Int → Int → Prop) (B : α → β → Prop) :
    Except Fault α → Except Fault β → Prop where
  | ok {a b} (same : B a b) : Tells T B (.ok a) (.ok b)
  | error {e e'} (fault : e.Retargeted T e') : Tells T B (.error e) (.error e')

def Exec.Renumbers {α β : Type} (T : Int → Int → Prop) (B : α → β → Prop) (x : Exec α)
    (x' : Exec β) : Prop :=
  ∀ m r m' pending, x m = (r, m') →
    ∃ r', x' (m.renumber f pending) = (r', m'.renumber f pending) ∧ Tells T B r r'

end Definitions

section Programs

variable {f : Int → Int} {code code' : Code} {t t' : Int}

theorem Code.Renumbered.numbers (renumbered : code.Renumbered f code') :
    code'.lines.toList.map CodeLine.number =
      (code.lines.toList.map CodeLine.number).map f := by
  unfold Code.Renumbered at renumbered
  generalize code.Retargets f code' = T at renumbered
  generalize code.lines.toList = lines at renumbered
  generalize code'.lines.toList = lines' at renumbered
  induction renumbered with
  | nil => rfl
  | cons first rest ih => simp [first.number, ih]

theorem Code.Renumbered.ascending (renumbered : code.Renumbered f code')
    (increasing : Increasing f) (positive : ∀ l ∈ code.lines, 0 < l.number)
    (ascending : code.Ascending) : code'.Ascending := by
  have numbers : (code'.lines.toList.map CodeLine.number).Pairwise (· < ·) := by
    rw [renumbered.numbers, List.map_map]
    refine List.pairwise_map.mpr (ascending.imp_of_mem ?_)
    intro a b first second less
    exact increasing _ _ (positive a (Array.mem_def.mpr first)) less
  exact List.pairwise_map.mp numbers

theorem Code.Renumbered.at? (renumbered : code.Renumbered f code') (pc : Nat) :
    Option.Rel (CodeLine.Renumbered f (code.Retargets f code')) code.lines[pc]?
      code'.lines[pc]? := by
  unfold Code.Renumbered at renumbered
  rw [← Array.getElem?_toList, ← Array.getElem?_toList]
  generalize code.Retargets f code' = T at renumbered ⊢
  generalize code.lines.toList = lines at renumbered ⊢
  generalize code'.lines.toList = lines' at renumbered ⊢
  induction renumbered generalizing pc with
  | nil => simp
  | cons first rest ih =>
      cases pc with
      | zero => exact .some first
      | succ pc => simpa using ih pc

theorem Code.Renumbered.after (renumbered : code.Renumbered f code') (pc : Nat) :
    code'.after? pc = (code.after? pc).map f := by
  unfold Code.after?
  have lines := renumbered.at? (pc + 1)
  generalize code.lines[pc + 1]? = l at lines
  generalize code'.lines[pc + 1]? = l' at lines
  cases lines with
  | none => rfl
  | some line => exact congrArg some line.number

theorem Code.Renumbered.find (renumbered : code.Renumbered f code') (ascending : code.Ascending)
    (ascending' : code'.Ascending) (target : code.Retargets f code' t t') :
    code'.find? t' = code.find? t := by
  rcases target with ⟨⟨l, member, rfl⟩, rfl⟩ | ⟨missing, missing'⟩
  · obtain ⟨pc, here⟩ := Array.mem_iff_getElem?.mp member
    have lines := renumbered.at? pc
    rw [here] at lines
    generalize there : code'.lines[pc]? = l' at lines
    cases lines with
    | some line =>
        rw [Code.findAt ascending here, ← line.number]
        exact Code.findAt ascending' there
  · rw [Code.findMissing.mpr fun l member same => missing ⟨l, member, same⟩,
      Code.findMissing.mpr fun l member same => missing' ⟨l, member, same⟩]

end Programs

namespace Exec

variable {f : Int → Int} {T : Int → Int → Prop} {c : Setting} {code' : Code}
  {α β γ δ : Type} {B : α → β → Prop} {D : γ → δ → Prop}

theorem renumbersPure {a : α} {b : β} (same : B a b) : Renumbers f T B (pure a) (pure b) := by
  intro m r m' pending ran
  obtain ⟨rfl, rfl⟩ := pureRuns.mp ran
  exact ⟨_, rfl, .ok same⟩

theorem renumbersBind {x : Exec α} {x' : Exec β} {k : α → Exec γ} {k' : β → Exec δ}
    (first : Renumbers f T B x x') (rest : ∀ a b, B a b → Renumbers f T D (k a) (k' b)) :
    Renumbers f T D (x >>= k) (x' >>= k') := by
  intro m r m' pending ran
  rcases bindRuns.mp ran with ⟨a, mid, one, two⟩ | ⟨e, failed, rfl⟩
  · obtain ⟨r', one', tells⟩ := first m _ mid pending one
    cases tells with
    | ok same =>
        obtain ⟨s', two', tells⟩ := rest _ _ same mid r m' pending two
        exact ⟨s', bindRuns.mpr (.inl ⟨_, _, one', two'⟩), tells⟩
  · obtain ⟨r', failed', tells⟩ := first m _ m' pending failed
    cases tells with
    | error fault => exact ⟨_, bindRuns.mpr (.inr ⟨_, failed', rfl⟩), .error fault⟩

theorem renumbersFault {e e' : Fault} (same : e.Retargeted T e') :
    Renumbers f T B (fault e) (fault e') := by
  rintro m r m' pending ⟨⟩
  exact ⟨_, rfl, .error same⟩

theorem renumbersModify {g g' : Machine → Machine}
    (same : ∀ m pending, g' (m.renumber f pending) = (g m).renumber f pending) :
    Renumbers f T (fun _ _ => True) (modify g : Exec Unit) (modify g' : Exec Unit) := by
  rintro m r m' pending ⟨⟩
  exact ⟨.ok (), congrArg (Prod.mk (Except.ok ())) (same m pending), .ok trivial⟩

theorem renumbersLook {k : Machine → Exec γ} {k' : Machine → Exec δ}
    (rest : ∀ m pending, Renumbers f T D (k m) (k' (m.renumber f pending))) :
    Renumbers f T D (get >>= k) (get >>= k') :=
  fun m r m' pending ran => rest m pending m r m' pending ran

theorem renumbersConfined {x : Exec α} (confined : x.Confined) :
    Renumbers f T Eq x x := by
  intro m r m' pending ran
  obtain ⟨vars, host, rfl, moved⟩ := confinedRuns confined ran
  refine ⟨r, moved (m.renumber f pending) rfl rfl, ?_⟩
  cases r with
  | ok a => exact .ok rfl
  | error e => exact .error .same

@[simp] theorem leaveLoopMap (name : String) (loops : List Loop) :
    leaveLoop name (loops.map (Loop.renumber f)) =
      (leaveLoop name loops).map (Loop.renumber f) := by
  unfold leaveLoop
  rw [List.dropWhile_map]
  have same : (fun l : Loop => l.name != name) ∘ Loop.renumber f = fun l => l.name != name := rfl
  rw [same]
  cases loops.dropWhile fun l => l.name != name <;> rfl

theorem printRestElsewhere (code' : Code) (items : List (Separator × Expr)) :
    printRestText { c with code := code' } items = printRestText c items := by
  induction items with
  | nil => rfl
  | cons item rest ih =>
      rw [printRestText, printRestText, ih]
      rfl

theorem printElsewhere (code' : Code) (items : Option PrintList) :
    print { c with code := code' } items = print c items := by
  cases items with
  | none => rfl
  | some items =>
      simp only [print, printText, printRestElsewhere]
      rfl

theorem dimensionElsewhere (code' : Code) (arrays : List Declaration) :
    dimension { c with code := code' } arrays = dimension c arrays := by
  induction arrays with
  | nil => rfl
  | cons d rest ih =>
      rw [dimension, dimension, ih]

theorem goBackRenumbers : Renumbers f T (Flow.Renumbered f T .goBack) goBack goBack := by
  refine renumbersLook fun m pending => ?_
  rw [show (m.renumber f pending).gosubs = m.gosubs.map f from rfl]
  cases m.gosubs with
  | nil => exact renumbersFault .same
  | cons resume rest =>
      exact renumbersBind (renumbersModify fun _ _ => rfl) fun _ _ _ => renumbersPure (.back rfl)

theorem nextLoopRenumbers (name : String) :
    Renumbers f T (Flow.Renumbered f T (.next name)) (nextLoop c name)
      (nextLoop { c with code := code' } name) := by
  refine renumbersLook fun m pending => ?_
  rw [show (m.renumber f pending).loops = m.loops.map (Loop.renumber f) from rfl]
  cases m.loops with
  | nil => exact renumbersFault .same
  | cons l outer =>
      simp only [List.map_cons]
      rw [show (l.renumber f).name = l.name from rfl]
      split
      · exact renumbersFault .same
      · refine renumbersLook fun m pending => ?_
        have ahead (x : Float) : (l.renumber f).continues x = l.continues x := rfl
        rw [show (m.renumber f pending).vars = m.vars from rfl,
          show (l.renumber f).step = l.step from rfl]
        simp only [ahead]
        refine renumbersBind (renumbersConfined (setScalarConfined name _)) fun _ _ _ => ?_
        split
        · exact renumbersPure (.back rfl)
        · exact renumbersBind (renumbersModify fun _ _ => rfl) fun _ _ _ => renumbersPure .next

section Statements

variable (renumbered : c.code.Renumbered f code')
include renumbered

theorem lineAfterRenumbers {why why' : Returning}
    (same : (Fault.lastLine why).Retargeted T (.lastLine why')) :
    Renumbers f T (fun line line' => line' = f line) (lineAfter c why)
      (lineAfter { c with code := code' } why') := by
  refine renumbersLook fun m pending => ?_
  have place : code'.after? (m.renumber f pending).pc = (c.code.after? m.pc).map f :=
    renumbered.after m.pc
  simp only [place]
  cases c.code.after? m.pc with
  | none => exact renumbersFault same
  | some line => exact renumbersPure rfl

theorem gosubRenumbers {t t' : Int} (target : T t t') :
    Renumbers f T (Flow.Renumbered f T (.gosub t)) (gosub c t)
      (gosub { c with code := code' } t') := by
  refine renumbersBind (lineAfterRenumbers renumbered (.last target)) fun resume _ same => ?_
  subst same
  refine renumbersLook fun m pending => ?_
  rw [show (m.renumber f pending).gosubs.length = m.gosubs.length from List.length_map f]
  split
  · exact renumbersFault .same
  · exact renumbersBind (renumbersModify fun _ _ => rfl) fun _ _ _ => renumbersPure (.jump target)

theorem enterWithRenumbers (name : String) (start limit step : Float) :
    Renumbers f T (fun _ _ => True) (enterWith c name start limit step)
      (enterWith { c with code := code' } name start limit step) := by
  refine renumbersBind (lineAfterRenumbers renumbered .same) fun resume _ same => ?_
  subst same
  refine renumbersBind (renumbersModify fun m pending => ?_) fun _ _ _ => ?_
  · simp only [Machine.renumber, leaveLoopMap]
  · refine renumbersLook fun m pending => ?_
    rw [show (m.renumber f pending).loops.length = m.loops.length from List.length_map _]
    split
    · exact renumbersFault .same
    · refine renumbersBind (renumbersConfined (setScalarConfined name _)) fun _ _ _ => ?_
      exact renumbersModify fun m pending => rfl

theorem enterLoopRenumbers (name : String) (start limit : Expr) (step : Option Expr) :
    Renumbers f T (fun _ _ => True) (enterLoop c name start limit step)
      (enterLoop { c with code := code' } name start limit step) := by
  refine renumbersBind (renumbersConfined (confinedEffect _)) fun start _ same => ?_
  subst same
  refine renumbersBind (renumbersConfined (confinedEffect _)) fun limit _ same => ?_
  subst same
  cases step with
  | some e =>
      refine renumbersBind (renumbersConfined (confinedEffect _)) fun step _ same => ?_
      subst same
      exact enterWithRenumbers renumbered name start limit step
  | none => exact enterWithRenumbers renumbered name start limit 1

theorem statementRenumbers {s s' : Stmt} (same : s.Retargeted T s') :
    Renumbers f T (Flow.Renumbered f T s) (statement c s)
      (statement { c with code := code' } s') := by
  have onward {α : Type} {x : Exec α} {s : Stmt} (confined : x.Confined) :
      Renumbers f T (Flow.Renumbered f T s) (x >>= fun _ => pure .next)
        (x >>= fun _ => pure .next) :=
    renumbersBind (renumbersConfined confined) fun _ _ _ => renumbersPure .next
  cases same with
  | goto target => exact renumbersPure (.jump target)
  | gosub target => exact gosubRenumbers renumbered target
  | jumpIf target =>
      refine renumbersBind (renumbersConfined (confinedEffect _)) fun v _ same => ?_
      subst same
      refine renumbersPure ?_
      cases v.truth with
      | true => exact .jump target
      | false => exact .next
  | doIf inner =>
      refine renumbersBind (renumbersConfined (confinedEffect _)) fun v _ same => ?_
      subst same
      refine renumbersPure ?_
      cases v.truth with
      | true => exact .inner inner
      | false => exact .next
  | same untargeted single =>
      cases s with
      | remark text => exact renumbersPure .next
      | print items =>
          rw [statement, statement, printElsewhere (c := c) code']
          exact onward (printConfined items)
      | assign target value => exact onward (assignConfined target value)
      | input name => exact onward (inputConfined name)
      | jumpIf condition line => cases untargeted
      | doIf condition inner => exact absurd rfl (single condition inner)
      | goto line => cases untargeted
      | gosub line => cases untargeted
      | goBack => exact goBackRenumbers
      | loop name start limit step =>
          exact renumbersBind (enterLoopRenumbers renumbered name start limit step) fun _ _ _ =>
            renumbersPure .next
      | next name => exact nextLoopRenumbers name
      | dim arrays =>
          rw [statement, statement, dimensionElsewhere (c := c) code']
          exact onward (dimensionConfined arrays)
      | randomize seed => exact onward (randomizeConfined seed)
      | finish word => exact renumbersPure .stop
      | call name args => exact onward (confinedEffect _)

end Statements

end Exec

structure SameUnder (f : Int → Int) (T : Int → Int → Prop) (result result' : Machine × Ending) :
    Prop where
  vars : result'.1.vars = result.1.vars
  host : result'.1.host = result.1.host
  steps : result'.1.steps = result.1.steps
  line : result'.1.line = f result.1.line
  ending : result.2.Renumbered f T result'.2

namespace Machine

variable {f : Int → Int} {c : Setting} {code' : Code} {m k : Machine} {s s' : Stmt}

theorem idleRenumbered {T : Int → Int → Prop} (idle : m.pending = []) :
    List.Forall₂ (Stmt.Retargeted T) m.pending [] := by
  rw [idle]
  exact .nil

theorem settleRenumbered {T : Int → Int → Prop} (same : m.Renumbered f T k) :
    m.settle.Renumbered f T k.settle := by
  cases same with
  | @same pending due =>
      have idle : pending.isEmpty = m.pending.isEmpty := by
        generalize m.pending = ss at due
        cases due <;> rfl
      unfold settle
      rw [show (m.renumber f pending).pending = pending from rfl, idle]
      split
      · exact .same (m := { m with pc := m.pc + 1 }) due
      · exact .same due

section Steps

variable (renumbered : c.code.Renumbered f code') (ascending : c.code.Ascending)
  (ascending' : code'.Ascending)
include renumbered ascending ascending'

theorem followRenumbered {flow flow' : Flow} {start : Machine}
    (does : Does c start s (.ok flow) m) (valid : StacksValid c.code start)
    (same : m.Renumbered f (c.code.Retargets f code') k)
    (flows : flow.Renumbered f (c.code.Retargets f code') s flow') :
    Progress.Renumbered f (c.code.Retargets f code') (m.follow c flow)
      (k.follow { c with code := code' } flow') := by
  -- a jump to corresponding lines ends at the same place, or at none
  have jumps {t t' : Int} (target : c.code.Retargets f code' t t') :
      Progress.Renumbered f (c.code.Retargets f code') (m.follow c (.jump t))
        (k.follow { c with code := code' } (.jump t')) := by
    have place := renumbered.find ascending ascending' target
    cases same with
    | same due =>
        unfold follow
        simp only [place]
        cases c.code.find? t with
        | some pc => exact .running (.same .nil)
        | none => exact .finished (.same due) (.faulted (.missing target))
  cases flows with
  | next => exact .running (settleRenumbered same)
  | stop => exact .finished same .ended
  | jump target => exact jumps target
  | back untargeted =>
      rcases doesJumps does valid with targeted | ⟨here, _⟩
      · rw [untargeted] at targeted
        cases targeted
      · exact jumps (.inl ⟨here, rfl⟩)
  | inner part =>
      cases same with
      | same due => exact .running (.same (.cons part due))

theorem performRenumbered (valid : StacksValid c.code m)
    (same : s.Retargeted (c.code.Retargets f code') s')
    (machines : m.Renumbered f (c.code.Retargets f code') k) :
    Progress.Renumbered f (c.code.Retargets f code') (m.perform c s)
      (k.perform { c with code := code' } s') := by
  cases machines with
  | @same pending due =>
      have limits (reached : (m.renumber f pending).AtLimit { c with code := code' }) :
          m.AtLimit c := reached
      have kept {r after} (ran : Exec.statement c s m.counted = (r, after)) :
          after.Renumbered f (c.code.Retargets f code') (after.renumber f pending) := by
        have held := (doesFrame (statementDoes ran)).2.2.1
        exact .same (held ▸ due)
      rcases performCases c m s with ⟨limit, limited⟩ |
        ⟨below, ⟨flow, after, ran, followed⟩ | ⟨e, after, ran, failed⟩⟩
      · rw [limited, show (m.renumber f pending).perform { c with code := code' } s' =
          ((m.renumber f pending).counted).fail (.stepLimit c.options.maxSteps) from if_pos limit]
        exact .finished (.same due) (.faulted .same)
      · obtain ⟨r', ran', tells⟩ :=
          Exec.statementRenumbers renumbered same m.counted _ after pending ran
        cases tells with
        | ok flows =>
            have below' := fun reached => below (limits reached)
            rw [followed, performOk below' ran']
            exact followRenumbered renumbered ascending ascending' (statementDoes ran)
              { valid with } (kept ran) flows
      · obtain ⟨r', ran', tells⟩ :=
          Exec.statementRenumbers renumbered same m.counted _ after pending ran
        cases tells with
        | error fault =>
            have below' := fun reached => below (limits reached)
            rw [failed, performError below' ran']
            exact .finished (kept ran) (.faulted fault)

theorem beginRenumbered (untraced : c.options.traceLines = false) {l l' : CodeLine} {n : Int}
    (line : l.Renumbered f (c.code.Retargets f code') l') (valid : StacksValid c.code m)
    (idle : m.pending = []) :
    Progress.Renumbered f (c.code.Retargets f code') (m.beginLine c l)
      (({ m.renumber f [] with line := n } : Machine).beginLine { c with code := code' } l') := by
  obtain ⟨number, first, rest⟩ := l
  obtain ⟨number', first', rest'⟩ := l'
  obtain ⟨rfl, body⟩ := line
  cases body with
  | cons one later =>
      have host : (m.renumber f []).host = m.host := rfl
      simp only [beginLine, traceLine, untraced, host]
      cases m.host.interrupted with
      | true =>
          exact .finished (.same (m := { m with line := number }) (idleRenumbered idle))
            (.faulted .same)
      | false =>
          exact performRenumbered (m := { m with line := number, pending := rest }) renumbered
            ascending ascending' { valid with } one (.same later)

theorem stepRenumbered (untraced : c.options.traceLines = false) (valid : ControlValid c.code m)
    (machines : m.Renumbered f (c.code.Retargets f code') k) :
    Progress.Renumbered f (c.code.Retargets f code') (m.step c)
      (k.step { c with code := code' }) := by
  cases machines with
  | @same pending due =>
      cases busy : m.pending with
      | cons s rest =>
          rw [busy] at due
          cases due with
          | cons first later =>
              rw [stepPending busy, stepPending (m := m.renumber f _) rfl]
              exact performRenumbered (m := { m with pending := rest }) renumbered ascending
                ascending' { valid.toStacksValid with } first (.same later)
      | nil =>
          rw [busy] at due
          cases due
          have lines := renumbered.at? m.pc
          generalize found : c.code.lines[m.pc]? = l at lines
          generalize found' : code'.lines[m.pc]? = l' at lines
          cases lines with
          | none =>
              rw [stepDone busy found, stepDone (m := m.renumber f []) rfl found']
              exact .finished (.same (idleRenumbered busy)) .completed
          | some line =>
              rw [stepLine busy found, stepLine (m := m.renumber f []) rfl found']
              exact beginRenumbered renumbered ascending ascending' untraced line
                valid.toStacksValid busy

theorem runRenumbered (untraced : c.options.traceLines = false) (valid : ControlValid c.code m)
    (next : Progress.Renumbered f (c.code.Retargets f code') (m.step c)
      (k.step { c with code := code' })) (fuel : Nat) :
    Option.Rel (SameUnder f (c.code.Retargets f code')) (run c fuel m)
      (run { c with code := code' } fuel k) := by
  induction fuel generalizing m k with
  | zero => exact .none
  | succ fuel ih =>
      rw [run, run]
      generalize stepped : m.step c = p at next
      generalize k.step { c with code := code' } = p' at next
      cases next with
      | running same =>
          have kept := stepControl ascending valid stepped
          exact ih kept (stepRenumbered renumbered ascending ascending' untraced kept same)
      | finished same ending =>
          cases same
          exact .some ⟨rfl, rfl, rfl, rfl, ending⟩

theorem startRenumbered (untraced : c.options.traceLines = false) (nonempty : c.code.lines ≠ #[])
    (vars : Variables) (host : Host) (fuel : Nat) :
    Option.Rel (SameUnder f (c.code.Retargets f code')) (run c fuel (start vars host))
      (run { c with code := code' } fuel (start vars host)) := by
  have valid := startControl c.code vars host
  refine runRenumbered renumbered ascending ascending' untraced valid ?_ fuel
  have lines := renumbered.at? 0
  generalize found : c.code.lines[0]? = l at lines
  generalize found' : code'.lines[0]? = l' at lines
  cases lines with
  | none =>
      have empty := Array.getElem?_eq_none_iff.mp found
      exact absurd (Array.eq_empty_of_size_eq_zero (by omega)) nonempty
  | some line =>
      rw [stepLine rfl found, stepLine rfl found']
      exact beginRenumbered (n := 0) renumbered ascending ascending' untraced line
        valid.toStacksValid rfl

end Steps

end Machine

structure Outcome.SameUnder (f : Int → Int) (T : Int → Int → Prop) (o o' : Outcome) : Prop where
  statements : o'.statements = o.statements
  line : o'.line = f o.line
  ending : o.ending.Renumbered f T o'.ending

theorem workspaceRenumbered {f : Int → Int} {T : Int → Int → Prop} {w w' : Workspace}
    {code code' : Code} {fuel : Nat} {host : Host} (compiled : w.code = .ok code)
    (compiled' : w'.code = .ok code')
    (runs : Option.Rel (SameUnder f T)
      (Machine.run ⟨code, w.functions, w.options⟩ fuel (Machine.start w.vars host))
      (Machine.run ⟨code', w'.functions, w'.options⟩ fuel (Machine.start w'.vars host))) :
    Option.Rel (fun result result' => result.1.SameUnder f T result'.1 ∧
        result'.2.1.vars = result.2.1.vars ∧ result'.2.2 = result.2.2)
      (w.run fuel host) (w'.run fuel host) := by
  rw [runOf compiled, runOf compiled']
  generalize Machine.run ⟨code, w.functions, w.options⟩ fuel (Machine.start w.vars host) = ran
    at runs ⊢
  generalize Machine.run ⟨code', w'.functions, w'.options⟩ fuel (Machine.start w'.vars host) = ran'
    at runs ⊢
  cases runs with
  | none => exact .none
  | some same => exact .some ⟨⟨same.steps, same.line, same.ending⟩, same.vars, same.host⟩

theorem compiledNonempty {isFunction : String → Bool} {lines : List Line} {code : Code}
    (compiled : Code.compile isFunction lines = .ok code) (nonempty : lines ≠ []) :
    code.lines ≠ #[] := by
  obtain ⟨l, rest, rfl⟩ := List.exists_cons_of_ne_nil nonempty
  obtain ⟨body, more, _, _, _, parsed⟩ := Code.parsedCons (Code.compileParsed compiled)
  intro empty
  rw [empty] at parsed
  cases parsed

theorem codeNonempty {w : Workspace} {code : Code} (ok : w.code = .ok code) :
    code.lines ≠ #[] := by
  unfold Workspace.code at ok
  split at ok
  · cases ok
  · rename_i nonempty
    exact compiledNonempty ok fun empty => nonempty (Listing.sizeZero.mpr empty)

/- A program and the same program under other numbers that come in the same order. Jumps lead to the
same lines, or nowhere in both. Then the two do the same, step by step, and what they report is the
same but for the numbers of lines. -/
theorem onlyOrderMatters {f : Int → Int} {isFunction : String → Bool} {lines : List Line}
    {code code' : Code} (compiled : Code.compile isFunction lines = .ok code)
    (positive : ∀ l ∈ lines, 0 < l.number) (increasing : Increasing f)
    (renumbered : code.Renumbered f code') :
    code'.Ascending ∧
      (∀ (functions : Functions) (options : Options) (vars : Variables) (host : Host) (fuel : Nat),
        options.traceLines = false → code.lines ≠ #[] →
        Option.Rel (SameUnder f (code.Retargets f code'))
          (Machine.run ⟨code, functions, options⟩ fuel (Machine.start vars host))
          (Machine.run ⟨code', functions, options⟩ fuel (Machine.start vars host))) ∧
      ∀ w w' : Workspace, w.code = .ok code → w'.code = .ok code' → w'.vars = w.vars →
        w'.functions = w.functions → w'.options = w.options → w.options.traceLines = false →
        ∀ host fuel, Option.Rel (fun result result' =>
            result.1.SameUnder f (code.Retargets f code') result'.1 ∧
              result'.2.1.vars = result.2.1.vars ∧ result'.2.2 = result.2.2)
          (w.run fuel host) (w'.run fuel host) := by
  have ascending := Code.compileAscending compiled
  have numbered : ∀ l ∈ code.lines, 0 < l.number := by
    intro l member
    obtain ⟨source, listed, same, _⟩ := Code.compileSource compiled member
    exact same ▸ positive source listed
  have ascending' := renumbered.ascending increasing numbered ascending
  have runs (functions : Functions) (options : Options) (vars : Variables) (host : Host)
      (fuel : Nat) (untraced : options.traceLines = false) (nonempty : code.lines ≠ #[]) :=
    Machine.startRenumbered (c := ⟨code, functions, options⟩) renumbered ascending ascending'
      untraced nonempty vars host fuel
  refine ⟨ascending', runs, ?_⟩
  intro w w' ok ok' vars functions options untraced host fuel
  refine workspaceRenumbered ok ok' ?_
  rw [vars, functions, options]
  exact runs _ _ _ host fuel untraced (codeNonempty ok)

def detour : Workspace :=
  ⟨.ofLines [⟨1, "GOSUB 3"⟩, ⟨2, "GOTO 9"⟩, ⟨3, "RETURN"⟩] false, .empty, .empty, .none⟩

def detourCode : Code := ⟨#[⟨1, ⟨.gosub 3, []⟩⟩, ⟨2, ⟨.goto 9, []⟩⟩, ⟨3, ⟨.goBack, []⟩⟩]⟩

def detourSpread : Workspace :=
  ⟨.ofLines [⟨10, "GOSUB 30"⟩, ⟨20, "GOTO 77"⟩, ⟨30, "RETURN"⟩] false, .empty, .empty, .none⟩

def detourSpreadCode : Code :=
  ⟨#[⟨10, ⟨.gosub 30, []⟩⟩, ⟨20, ⟨.goto 77, []⟩⟩, ⟨30, ⟨.goBack, []⟩⟩]⟩

theorem detourSpreadSame : ∃ result result',
    detour.run 4 .idle = some result ∧ detourSpread.run 4 .idle = some result' ∧
      result.1.line = 2 ∧ result'.1.line = 20 ∧ result'.1.statements = result.1.statements ∧
      result'.2.2 = result.2.2 := by
  have compiled : Code.compile Functions.empty.has detour.listing.lines = .ok detourCode := rfl
  have positive : ∀ l ∈ detour.listing.lines, 0 < l.number := by simp [detour]
  have increasing : Increasing (10 * ·) := by
    intro a b _ less
    simp only
    omega
  have renumbered : detourCode.Renumbered (10 * ·) detourSpreadCode := by
    have there : detourCode.Retargets (10 * ·) detourSpreadCode 3 30 :=
      .inl ⟨by simp [Code.Has, detourCode], rfl⟩
    have nowhere : detourCode.Retargets (10 * ·) detourSpreadCode 9 77 :=
      .inr (by simp [Code.Has, detourCode, detourSpreadCode])
    exact .cons ⟨rfl, .cons (.gosub there) .nil⟩ (.cons ⟨rfl, .cons (.goto nowhere) .nil⟩
      (.cons ⟨rfl, .cons (.same rfl nofun) .nil⟩ .nil))
  obtain ⟨_, _, runs⟩ := onlyOrderMatters compiled positive increasing renumbered
  have same := runs detour detourSpread rfl rfl rfl rfl rfl rfl .idle 4
  have ends : (detour.run 4 .idle).map (fun result => result.1.line) = some 2 := by decide +kernel
  obtain ⟨result, ran, line⟩ := Option.map_eq_some_iff.mp ends
  rw [ran] at same
  generalize ran' : detourSpread.run 4 .idle = other at same
  cases same with
  | @some _ result' same =>
      obtain ⟨outcome, _, host⟩ := same
      exact ⟨result, result', ran, rfl, line, by rw [outcome.line, line]; rfl, outcome.statements,
        host⟩

end LineBasic
