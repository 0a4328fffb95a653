import LineBasic.Proofs.Run.Confined

/-!
What is still to be executed plays no part in executing a statement: it is neither looked at nor
changed, since only where control goes afterwards bears on it.
-/
namespace LineBasic.Exec

variable {α β : Type} {c : Setting}

def Heedless (x : Exec α) : Prop :=
  ∀ m pending, x { m with pending } = ((x m).1, { (x m).2 with pending })

theorem heedlessPure (a : α) : (pure a : Exec α).Heedless := fun _ _ => rfl

theorem heedlessBind {x : Exec α} {k : α → Exec β} (first : x.Heedless)
    (rest : ∀ a, (k a).Heedless) : (x >>= k).Heedless := by
  intro m pending
  have opened (m : Machine) : (x >>= k) m =
      ExceptT.bindCont (m := StateM Machine) k (x m).1 (x m).2 := rfl
  rw [opened, opened, first]
  cases (x m).1 with
  | ok a => exact rest a _ _
  | error f => rfl

theorem heedlessEffect (e : Variables → Effect α) : (effect e).Heedless := fun _ _ => rfl

theorem heedlessFault (f : Fault) : (fault f : Exec α).Heedless := fun _ _ => rfl

theorem heedlessModify {f : Machine → Machine}
    (same : ∀ m pending, f { m with pending } = { f m with pending }) :
    (modify f : Exec Unit).Heedless :=
  fun m pending => congrArg (Prod.mk (Except.ok ())) (same m pending)

theorem heedlessLook {f : Machine → Exec α} (same : ∀ m pending, f { m with pending } = f m)
    (rest : ∀ m, (f m).Heedless) : (get >>= f).Heedless := by
  intro m pending
  have opened (m : Machine) : (get >>= f) m = f m m := rfl
  rw [opened, opened, same]
  exact rest m m pending

theorem confinedHeedless {x : Exec α} (confined : x.Confined) : x.Heedless := by
  intro m pending
  obtain ⟨vars, host, left, moved⟩ := confinedRuns confined (m := m) rfl
  rw [moved { m with pending } rfl rfl, left]

theorem lineAfterHeedless (why : Returning) : (lineAfter c why).Heedless := by
  refine heedlessLook (fun _ _ => rfl) fun m => ?_
  cases c.code.after? m.pc with
  | none => exact heedlessFault _
  | some line => exact heedlessPure _

theorem gosubHeedless (target : Int) : (gosub c target).Heedless := by
  refine heedlessBind (lineAfterHeedless _) fun resume => ?_
  refine heedlessLook (fun _ _ => rfl) fun m => ?_
  split
  · exact heedlessFault _
  · exact heedlessBind (heedlessModify fun _ _ => rfl) fun _ => heedlessPure _

theorem goBackHeedless : goBack.Heedless := by
  refine heedlessLook (fun _ _ => rfl) fun m => ?_
  cases m.gosubs with
  | nil => exact heedlessFault _
  | cons resume rest => exact heedlessBind (heedlessModify fun _ _ => rfl) fun _ => heedlessPure _

theorem enterWithHeedless (name : String) (start limit step : Float) :
    (enterWith c name start limit step).Heedless := by
  refine heedlessBind (lineAfterHeedless _) fun resume => ?_
  refine heedlessBind (heedlessModify fun _ _ => rfl) fun _ => ?_
  refine heedlessLook (fun _ _ => rfl) fun m => ?_
  split
  · exact heedlessFault _
  · exact heedlessBind (confinedHeedless (setScalarConfined _ _))
      fun _ => heedlessModify fun _ _ => rfl

theorem enterLoopHeedless (name : String) (start limit : Expr) (step : Option Expr) :
    (enterLoop c name start limit step).Heedless := by
  refine heedlessBind (heedlessEffect _) fun start => ?_
  refine heedlessBind (heedlessEffect _) fun limit => ?_
  cases step with
  | some e => exact heedlessBind (heedlessEffect _) (enterWithHeedless name start limit)
  | none => exact enterWithHeedless name start limit 1

theorem nextLoopHeedless (name : String) : (nextLoop c name).Heedless := by
  refine heedlessLook (fun _ _ => rfl) fun m => ?_
  cases m.loops with
  | nil => exact heedlessFault _
  | cons l outer =>
      simp only
      split
      · exact heedlessFault _
      · refine heedlessLook (fun _ _ => rfl) fun m => ?_
        refine heedlessBind (confinedHeedless (setScalarConfined name _)) fun _ => ?_
        split
        · exact heedlessPure _
        · exact heedlessBind (heedlessModify fun _ _ => rfl) fun _ => heedlessPure _

theorem statementHeedless (s : Stmt) : (statement c s).Heedless := by
  by_cases controls : s.Controls
  · cases s with
    | gosub line => exact gosubHeedless line
    | goBack => exact goBackHeedless
    | loop name start limit step =>
        exact heedlessBind (enterLoopHeedless name start limit step) fun _ => heedlessPure _
    | next name => exact nextLoopHeedless name
    | _ => exact controls.elim
  · exact confinedHeedless (statementConfined controls)

end LineBasic.Exec
