import LineBasic.Proofs.Run.Heedless

/-!
Statements as wholes. The statement inside an IF that applies is a step of its own; here an IF and
all that is executed inside it count as one, so that what a statement does can be said without
looking at the steps.
-/
namespace LineBasic

namespace Exec

section Definitions

variable (c : Setting)

def count : Exec Unit := fun m =>
  if 0 < c.options.maxSteps ∧ c.options.maxSteps < m.counted.steps then
    (.error (.stepLimit c.options.maxSteps), m.counted)
  else (.ok (), m.counted)

/- Executes a statement and, as often as an IF applies, the statement inside it. Told are where
control goes in the end and how many conditions held. -/
def whole : Stmt → Exec (Flow × Nat)
  | .doIf condition inner => do
    count c
    let v ← evaluate c condition
    if v.truth then
      let (flow, held) ← whole inner
      pure (flow, held + 1)
    else pure (.next, 0)
  | s => do
    count c
    let flow ← statement c s
    pure (flow, 0)

end Definitions

inductive Wholly (c : Setting) :
    Machine → Stmt → Except Fault (Flow × Nat) → Machine → Prop where
  | refused {m s} (limit : m.AtLimit c) :
      Wholly c m s (.error (.stepLimit c.options.maxSteps)) m.counted
  | failed {m s f m'} (below : ¬ m.AtLimit c)
      (ran : statement c s m.counted = (.error f, m')) : Wholly c m s (.error f) m'
  | done {m s flow m'} (below : ¬ m.AtLimit c) (plain : ∀ inner, flow ≠ .inner inner)
      (ran : statement c s m.counted = (.ok flow, m')) : Wholly c m s (.ok (flow, 0)) m'
  | inside {m condition inner host r m'} (below : ¬ m.AtLimit c)
      (applies : statement c (.doIf condition inner) m.counted =
        (.ok (.inner inner), { m.counted with host }))
      (rest : Wholly c { m.counted with host } inner r m') :
      Wholly c m (.doIf condition inner) (r.map fun told => (told.1, told.2 + 1)) m'

variable {c : Setting} {m m' : Machine} {s : Stmt} {r : Except Fault (Flow × Nat)}

theorem countRuns {r : Except Fault Unit} (ran : count c m = (r, m')) :
    m' = m.counted ∧ ((m.AtLimit c ∧ r = .error (.stepLimit c.options.maxSteps)) ∨
      (¬ m.AtLimit c ∧ r = .ok ())) := by
  unfold count at ran
  split at ran <;> cases ran
  · exact ⟨rfl, .inl ⟨‹_›, rfl⟩⟩
  · exact ⟨rfl, .inr ⟨‹_›, rfl⟩⟩

theorem countHeedless : (count c).Heedless := by
  intro m pending
  unfold count
  have same : ({ m with pending } : Machine).counted.steps = m.counted.steps := rfl
  rw [same]
  split <;> rfl

theorem wholeHeedless (s : Stmt) : (whole c s).Heedless := by
  induction s with
  | doIf condition inner ih =>
      refine heedlessBind countHeedless fun _ => heedlessBind (heedlessEffect _) fun v => ?_
      split
      · exact heedlessBind ih fun _ => heedlessPure _
      · exact heedlessPure _
  | _ =>
      exact heedlessBind countHeedless fun _ =>
        heedlessBind (statementHeedless _) fun _ => heedlessPure _

theorem plainFlow {flow : Flow} (plain : ∀ condition inner, s ≠ .doIf condition inner)
    (ran : statement c s m = (.ok flow, m')) (inner : Stmt) : flow ≠ .inner inner := by
  rintro rfl
  cases statementDoes ran with
  | nested => exact plain _ _ rfl

theorem countedWholly {x : Exec (Flow × Nat)} (ran : (count c >>= fun _ => x) m = (r, m'))
    (rest : ¬ m.AtLimit c → x m.counted = (r, m') → Wholly c m s r m') : Wholly c m s r m' := by
  rcases bindRuns.mp ran with ⟨_, mid, counted, ran⟩ | ⟨f, counted, rfl⟩
  · obtain ⟨rfl, ⟨_, same⟩ | ⟨below, _⟩⟩ := countRuns counted
    · cases same
    · exact rest below ran
  · obtain ⟨rfl, ⟨limit, same⟩ | ⟨_, same⟩⟩ := countRuns counted <;> cases same
    exact .refused limit

theorem plainWholly (plain : ∀ condition inner, s ≠ .doIf condition inner)
    (ran : (count c >>= fun _ => statement c s >>= fun flow => pure (flow, 0)) m = (r, m')) :
    Wholly c m s r m' := by
  refine countedWholly ran fun below ran => ?_
  rcases bindRuns.mp ran with ⟨flow, mid, executed, told⟩ | ⟨f, failed, rfl⟩
  · obtain ⟨rfl, rfl⟩ := pureRuns.mp told
    exact .done below (plainFlow plain executed) executed
  · exact .failed below failed

theorem wholeRuns (ran : whole c s m = (r, m')) : Wholly c m s r m' := by
  induction s generalizing m r with
  | doIf condition inner ih =>
      refine countedWholly ran fun below ran => ?_
      rcases bindRuns.mp ran with ⟨v, mid, evaluated, ran⟩ | ⟨f, evaluated, rfl⟩
      · obtain ⟨host, _, rfl⟩ := effectRuns.mp evaluated
        have executed : statement c (.doIf condition inner) m.counted =
            (.ok (if v.truth then .inner inner else .next), { m.counted with host }) :=
          bindRuns.mpr (.inl ⟨v, _, evaluated, rfl⟩)
        split at ran
        · rename_i holds
          rw [if_pos holds] at executed
          rcases bindRuns.mp ran with ⟨told, mid, rest, last⟩ | ⟨f, rest, rfl⟩
          · obtain ⟨rfl, rfl⟩ := pureRuns.mp last
            exact .inside below executed (ih rest)
          · exact .inside below executed (ih rest)
        · rename_i fails
          rw [if_neg fails] at executed
          obtain ⟨rfl, rfl⟩ := pureRuns.mp ran
          exact .done below nofun executed
      · exact .failed below (bindRuns.mpr (.inr ⟨f, evaluated, rfl⟩))
  | _ => exact plainWholly (by simp) ran

end Exec

inductive Progress.Leads (c : Setting) : Nat → Progress → Progress → Prop where
  | here {p} : Leads c 0 p p
  | step {k m p} (rest : Leads c k (m.step c) p) : Leads c (k + 1) (.running m) p

namespace Progress.Leads

variable {c : Setting} {j k : Nat} {p q : Progress} {m m' : Machine} {e : Ending}

theorem trans {r : Progress} (first : Leads c j p q) (rest : Leads c k q r) :
    Leads c (j + k) p r := by
  induction first with
  | here => rwa [Nat.zero_add]
  | @step j m p first ih =>
      rw [Nat.add_right_comm]
      exact .step (ih rest)

theorem reaches {now : Machine} (leads : Leads c k (.running m) (.running m'))
    (rest : Machine.Reaches c m' now) : Machine.Reaches c m now := by
  induction k generalizing m with
  | zero =>
      cases leads
      exact rest
  | succ k ih =>
      cases leads with
      | step leads =>
          cases next : m.step c with
          | running after =>
              rw [next] at leads
              exact (ih leads).after next
          | finished last e =>
              rw [next] at leads
              cases leads

theorem runs (leads : Leads c k (.running m) (.finished m' e)) :
    Machine.run c k m = some (m', e) := by
  induction k generalizing m with
  | zero => cases leads
  | succ k ih =>
      cases leads with
      | step rest =>
          rw [Machine.run]
          cases next : m.step c with
          | running after =>
              rw [next] at rest
              exact ih rest
          | finished last e =>
              rw [next] at rest
              cases rest
              rfl

end Progress.Leads

namespace Machine

variable {c : Setting} {m m' : Machine} {s : Stmt}

def settled (c : Setting) : Except Fault (Flow × Nat) → Machine → Progress
  | .ok told, m => m.follow c told.1
  | .error f, m => m.fail f

theorem performWholly {r : Except Fault (Flow × Nat)} (wholly : Exec.Wholly c m s r m') :
    ∃ k, Progress.Leads c k (m.perform c s) (settled c r m') := by
  induction wholly with
  | @refused m s limit =>
      have refused : m.perform c s = m.counted.fail (.stepLimit c.options.maxSteps) := if_pos limit
      exact ⟨0, refused ▸ .here⟩
  | failed below ran => exact ⟨0, performError below ran ▸ .here⟩
  | done below plain ran => exact ⟨0, performOk below ran ▸ .here⟩
  | @inside m condition inner host r m' below applies rest ih =>
      obtain ⟨k, leads⟩ := ih
      have told : settled c (r.map fun told => (told.1, told.2 + 1)) m' = settled c r m' := by
        cases r <;> rfl
      rw [performOk below applies, told]
      -- the statement inside is handed back to be executed next
      exact ⟨k + 1, .step leads⟩

theorem performWhole (c : Setting) (s : Stmt) (m : Machine) :
    ∃ k, Progress.Leads c k (m.perform c s)
      (settled c (Exec.whole c s m).1 (Exec.whole c s m).2) :=
  performWholly (Exec.wholeRuns rfl)

end Machine

end LineBasic
