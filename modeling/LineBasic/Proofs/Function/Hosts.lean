import LineBasic.Proofs.Function.Standard
import LineBasic.Proofs.Run.Companions

/-!
The standard functions on two hosts. Most have nothing to do with the host. The few that write,
draw, wait or look at a clock give the same result on hosts that serve alike.
-/
namespace LineBasic.Function

variable {F : Fault → Prop} {H : Host → Host → Prop}

def Steady (x : Effect Value) : Prop := ∃ r, x = Effect.ofExcept r

theorem steadyFollows {x : Effect Value} (steady : Steady x) : Follows F H x x := by
  obtain ⟨r, rfl⟩ := steady
  exact followsExcept r

theorem steadyPure (v : Value) : Steady (pure v) := ⟨.ok v, rfl⟩

theorem steadyFault (f : Fault) : Steady (Effect.fault f) := ⟨.error f, rfl⟩

theorem cutTextSteady (cs : Except Defect (List Char)) : Steady (cutText cs) := by
  cases cs with
  | ok found => exact ⟨.ok _, rfl⟩
  | error d => exact ⟨.error _, rfl⟩

theorem foundAtSteady (s sub : Value) (start : Int) : Steady (foundAt s sub start) := by
  unfold foundAt
  cases position (Text.chars s.asText) sub.asText start with
  | ok pos => exact ⟨.ok _, rfl⟩
  | error d => exact ⟨.error _, rfl⟩

theorem wrongCountSteady {name : String} {least most : Nat} {args : List Value} :
    Steady (wrongCount name least most args) := steadyFault _

theorem unarySteady {name : String} {g : Float → Float} (args : List Value) :
    Steady ((unary name g).body args) := ofOneHolds wrongCountSteady (fun _ => steadyPure _) args

theorem choiceSteady {p : Prop} [Decidable p] {x y : Effect Value} (left : Steady x)
    (right : Steady y) : Steady (if p then x else y) := by
  split
  · exact left
  · exact right

theorem mathSteady : ∀ f ∈ mathFunctions.tail, ∀ args, Steady (f.body args) := by
  simp only [mathFunctions, List.tail_cons, List.forall_mem_cons]
  refine ⟨unarySteady, unarySteady, unarySteady, ?sqr, unarySteady, unarySteady, unarySteady,
    unarySteady, unarySteady, ?log, ?pow, ?mod, by simp⟩
  case sqr =>
    exact ofOneHolds wrongCountSteady fun _ => choiceSteady (steadyFault _) (steadyPure _)
  case log =>
    exact ofOneHolds wrongCountSteady fun _ => choiceSteady (steadyFault _) (steadyPure _)
  case pow => exact ofTwoHolds wrongCountSteady fun _ _ => steadyPure _
  case mod =>
    exact ofTwoHolds wrongCountSteady fun _ _ => choiceSteady (steadyFault _) (steadyPure _)

theorem textSteady : ∀ f ∈ textFunctions, ∀ args, Steady (f.body args) := by
  simp only [textFunctions, List.forall_mem_cons]
  refine ⟨?str, ?val, ?len, ?left, ?right, ?mid, ?instr, ?chr, ?asc, ?upper, ?lower, by simp⟩
  case left => exact ofTwoHolds wrongCountSteady fun _ _ => cutTextSteady _
  case right => exact ofTwoHolds wrongCountSteady fun _ _ => cutTextSteady _
  case mid =>
    exact ofTwoOrThreeHolds wrongCountSteady (fun _ _ => cutTextSteady _)
      fun _ _ _ => cutTextSteady _
  case instr =>
    exact ofTwoOrThreeHolds wrongCountSteady (fun _ _ => foundAtSteady _ _ _)
      fun _ _ _ => foundAtSteady _ _ _
  case asc =>
    refine ofOneHolds wrongCountSteady fun v => ?_
    split
    · exact steadyPure _
    · exact steadyFault _
  all_goals exact ofOneHolds wrongCountSteady fun _ => steadyPure _

theorem wrongCountFollows {name : String} {least most : Nat} {args : List Value} :
    Follows F H (wrongCount name least most args) (wrongCount name least most args) :=
  steadyFollows (steadyFault _)

theorem hostFollows {α : Type} {f : Host → Effect α}
    (rest : ∀ h k, H h k → EndsLike F H (f h h) (f k k)) :
    Follows F H (Effect.host >>= f) (Effect.host >>= f) := rest

theorem drawBetweenFollows (alike : ServeAlike F H) (low high : Int) :
    Follows F H (drawBetween low high) (drawBetween low high) := by
  refine followsBind ?_ fun _ => followsPure _
  intro h k related
  unfold Effect.drawBelow
  split
  · rw [alike.random related]
    exact .inl ⟨rfl, alike.drawn _ related⟩
  · exact .inl ⟨rfl, related⟩

theorem rndFollows (alike : ServeAlike F H) (args : List Value) :
    Follows F H (rnd.body args) (rnd.body args) := by
  match args with
  | [] =>
      refine followsBind ?_ fun _ => followsPure _
      intro h k related
      unfold Effect.drawFraction
      rw [alike.random related]
      exact .inl ⟨rfl, alike.drawn _ related⟩
  | [v] =>
      simp only [rnd]
      split
      · exact steadyFollows (steadyFault _)
      · exact drawBetweenFollows alike _ _
  | [_, _] => exact drawBetweenFollows alike _ _
  | _ :: _ :: _ :: _ => exact steadyFollows (steadyFault _)

theorem emitterFollows (alike : ServeAlike F H) {name sequence : String} (args : List Value) :
    Follows F H ((emitter name sequence).body args) ((emitter name sequence).body args) :=
  ofNoneHolds (P := fun x => Follows F H x x) wrongCountFollows
    (followsBind (alike.writeFollows _) fun _ => followsPure _) args

theorem pauseFollows (alike : ServeAlike F H) (args : List Value) :
    Follows F H (pause.body args) (pause.body args) := by
  refine ofOneHolds (P := fun x => Follows F H x x) wrongCountFollows (fun v => ?_) args
  simp only
  split
  · exact steadyFollows (steadyFault _)
  · split
    · refine hostFollows fun h k related => ?_
      rcases alike.asked related with same | ⟨calm, allowed⟩
      · rw [same]
        split
        · exact .inl ⟨rfl, related⟩
        · exact .inl ⟨rfl, alike.waits _ related⟩
      · rw [calm]
        split
        · exact .inr ⟨_, rfl, allowed⟩
        · exact .inl ⟨rfl, alike.waits _ related⟩
    · exact followsPure _

theorem consoleFollows (alike : ServeAlike F H) :
    ∀ f ∈ consoleFunctions, ∀ args, Follows F H (f.body args) (f.body args) := by
  simp only [consoleFunctions, List.forall_mem_cons]
  exact ⟨emitterFollows alike, emitterFollows alike, pauseFollows alike, by simp⟩

theorem clockFollows (alike : ServeAlike F H) :
    ∀ f ∈ clockFunctions, ∀ args, Follows F H (f.body args) (f.body args) := by
  -- what is read of the host depends on its clock and its meter only
  have reads {name : String} {f : Host → Effect Value} (steady : ∀ h, Steady (f h))
      (same : ∀ h k, H h k → f h = f k) (args : List Value) :
      Follows F H ((ofNone name (Effect.host >>= f)).body args)
        ((ofNone name (Effect.host >>= f)).body args) := by
    refine ofNoneHolds (P := fun x => Follows F H x x) wrongCountFollows ?_ args
    refine hostFollows fun h k related => ?_
    rw [same h k related]
    exact steadyFollows (steady k) h k related
  simp only [clockFunctions, List.forall_mem_cons]
  refine ⟨?time, ?date, ?timer, ?cpu, by simp⟩
  case cpu =>
    refine reads (fun h => ?_) fun h k related => by rw [alike.meter related]
    simp only
    split
    · exact steadyPure _
    · exact steadyFault _
  all_goals exact reads (fun _ => steadyPure _) fun h k related => by rw [alike.clock related]

end LineBasic.Function

namespace LineBasic.Functions

variable {F : Fault → Prop} {H : Host → Host → Prop}

theorem standardBlind (alike : ServeAlike F H) : standard.Blind F H := by
  intro name body args found
  rw [standard] at found
  obtain ⟨f, member, rfl⟩ := ofListSource found
  simp only [List.mem_append] at member
  rcases member with ((math | text) | console) | clock
  · rcases List.mem_cons.mp math with rfl | others
    · exact Function.rndFollows alike args
    · exact Function.steadyFollows (Function.mathSteady f others args)
  · exact Function.steadyFollows (Function.textSteady f text args)
  · exact Function.consoleFollows alike f console args
  · exact Function.clockFollows alike f clock args

end LineBasic.Functions
