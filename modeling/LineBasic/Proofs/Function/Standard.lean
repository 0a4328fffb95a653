import LineBasic.Function.Standard
import LineBasic.Proofs.Run.Execution

/-!
The standard functions end in ordinary faults only: the offsets at which they cut a text lie inside
it, and the ranges from which they draw a number are not empty.
-/
namespace LineBasic

namespace Function

theorem cutInside {s : List Char} {low high : Int} (start : 0 ≤ low) (order : low ≤ high)
    (stop : high ≤ s.length) : cut s low high = .ok ((s.take high.toNat).drop low.toNat) := by
  unfold cut
  exact if_pos ⟨start, order, stop⟩

theorem atMostAllRange (s : List Char) (n : Int) :
    0 ≤ atMostAll s n ∧ atMostAll s n ≤ s.length := by
  unfold atMostAll
  omega

theorem leftCharsOk (s : List Char) (n : Int) : ∃ cs, leftChars s n = .ok cs := by
  have range := atMostAllRange s n
  exact ⟨_, cutInside (Int.le_refl 0) range.1 range.2⟩

theorem rightCharsOk (s : List Char) (n : Int) : ∃ cs, rightChars s n = .ok cs := by
  have range := atMostAllRange s n
  exact ⟨_, cutInside (by omega) (by omega) (Int.le_refl _)⟩

theorem midCharsOk (s : List Char) (start : Int) (count : Option Int) :
    ∃ cs, midChars s start count = .ok cs := by
  unfold midChars
  simp only
  split
  · exact ⟨_, rfl⟩
  · rename_i inside
    exact ⟨_, cutInside (by omega) (by omega) (by omega)⟩

theorem positionOk (s : List Char) (sub : Bytes) (start : Int) :
    ∃ pos, position s sub start = .ok pos := by
  unfold position
  simp only
  split
  · exact ⟨_, rfl⟩
  · split
    · exact ⟨_, rfl⟩
    · rename_i inside
      rw [cutInside (by omega) (by omega) (Int.le_refl _)]
      exact ⟨_, rfl⟩

open Effect

theorem wrongCountFaults {name : String} {least most : Nat} {args : List Value} :
    (wrongCount name least most args).FaultsIn Fault.Ordinary := faultsFault trivial

theorem cutTextFaults {cs : Except Defect (List Char)} (ok : ∃ found, cs = .ok found) :
    (cutText cs).FaultsIn Fault.Ordinary := by
  obtain ⟨found, rfl⟩ := ok
  exact faultsBind (faultsPure _) fun _ => faultsPure _

theorem foundAtFaults (s sub : Value) (start : Int) :
    (foundAt s sub start).FaultsIn Fault.Ordinary := by
  unfold foundAt
  obtain ⟨pos, found⟩ := positionOk (Text.chars s.asText) sub.asText start
  rw [found]
  exact faultsBind (faultsPure _) fun _ => faultsPure _

theorem drawBetweenFaults {low high : Int} (order : low ≤ high) :
    (drawBetween low high).FaultsIn Fault.Ordinary := by
  refine faultsBind ?_ fun _ => faultsPure _
  intro h f h' ran
  unfold drawBelow at ran
  rw [dif_pos (by omega)] at ran
  cases ran

theorem hostFaults {P : Fault → Prop} : Effect.host.FaultsIn P := by
  intro h f h' ran
  cases ran

/- What holds of a function for all arguments: of the fault of a wrong number of them, and of its
computation for the right number. -/
section Arguments

variable {P : Effect Value → Prop} {name : String}
  (wrong : ∀ {name least most args}, P (wrongCount name least most args))
include wrong

theorem ofNoneHolds {f : Effect Value} (right : P f) (args : List Value) :
    P ((ofNone name f).body args) := by
  match args with
  | [] => exact right
  | _ :: _ => exact wrong

theorem ofOneHolds {f : Value → Effect Value} (right : ∀ v, P (f v)) (args : List Value) :
    P ((ofOne name f).body args) := by
  match args with
  | [v] => exact right v
  | [] => exact wrong
  | _ :: _ :: _ => exact wrong

theorem ofTwoHolds {f : Value → Value → Effect Value} (right : ∀ v w, P (f v w))
    (args : List Value) : P ((ofTwo name f).body args) := by
  match args with
  | [v, w] => exact right v w
  | [] => exact wrong
  | [_] => exact wrong
  | _ :: _ :: _ :: _ => exact wrong

theorem ofTwoOrThreeHolds {f : Value → Value → Effect Value}
    {g : Value → Value → Value → Effect Value} (two : ∀ u v, P (f u v))
    (three : ∀ u v w, P (g u v w)) (args : List Value) :
    P ((ofTwoOrThree name f g).body args) := by
  match args with
  | [u, v] => exact two u v
  | [u, v, w] => exact three u v w
  | [] => exact wrong
  | [_] => exact wrong
  | _ :: _ :: _ :: _ :: _ => exact wrong

end Arguments

def OrdinaryFaults (f : NamedFunction) : Prop := ∀ args, (f.body args).FaultsIn Fault.Ordinary

theorem pureOrdinary {v : Value} : (pure v : Effect Value).FaultsIn Fault.Ordinary := faultsPure v

theorem unaryOrdinary {name : String} {g : Float → Float} : OrdinaryFaults (unary name g) :=
  ofOneHolds wrongCountFaults fun _ => pureOrdinary

theorem rndOrdinary : OrdinaryFaults rnd := by
  intro args
  match args with
  | [] =>
      refine faultsBind ?_ fun _ => faultsPure _
      intro h f h' ran
      cases ran
  | [v] =>
      unfold rnd
      simp only
      split
      · exact faultsFault trivial
      · exact drawBetweenFaults (by omega)
  | [a, b] => exact drawBetweenFaults (by omega)
  | _ :: _ :: _ :: _ => exact wrongCountFaults

theorem choiceOrdinary {p : Prop} [Decidable p] {f : Fault} {v : Value} (ordinary : f.Ordinary) :
    (if p then fault f else pure v : Effect Value).FaultsIn Fault.Ordinary := by
  split
  · exact faultsFault ordinary
  · exact pureOrdinary

theorem mathOrdinary : ∀ f ∈ mathFunctions, OrdinaryFaults f := by
  simp only [mathFunctions, List.forall_mem_cons]
  refine ⟨rndOrdinary, unaryOrdinary, unaryOrdinary, unaryOrdinary, ?sqr, unaryOrdinary,
    unaryOrdinary, unaryOrdinary, unaryOrdinary, unaryOrdinary, ?log, ?pow, ?mod, by simp⟩
  case sqr => exact ofOneHolds wrongCountFaults fun _ => choiceOrdinary trivial
  case log => exact ofOneHolds wrongCountFaults fun _ => choiceOrdinary trivial
  case pow => exact ofTwoHolds wrongCountFaults fun _ _ => pureOrdinary
  case mod => exact ofTwoHolds wrongCountFaults fun _ _ => choiceOrdinary trivial

theorem textOrdinary : ∀ f ∈ textFunctions, OrdinaryFaults f := by
  simp only [textFunctions, List.forall_mem_cons]
  refine ⟨?str, ?val, ?len, ?left, ?right, ?mid, ?instr, ?chr, ?asc, ?upper, ?lower, by simp⟩
  case left => exact ofTwoHolds wrongCountFaults fun _ _ => cutTextFaults (leftCharsOk _ _)
  case right => exact ofTwoHolds wrongCountFaults fun _ _ => cutTextFaults (rightCharsOk _ _)
  case mid =>
    exact ofTwoOrThreeHolds wrongCountFaults (fun _ _ => cutTextFaults (midCharsOk _ _ _))
      fun _ _ _ => cutTextFaults (midCharsOk _ _ _)
  case instr =>
    exact ofTwoOrThreeHolds wrongCountFaults (fun _ _ => foundAtFaults _ _ _)
      fun _ _ _ => foundAtFaults _ _ _
  case asc =>
    refine ofOneHolds wrongCountFaults fun v => ?_
    split
    · exact pureOrdinary
    · exact faultsFault trivial
  all_goals exact ofOneHolds wrongCountFaults fun _ => pureOrdinary

theorem pauseOrdinary : OrdinaryFaults pause := by
  refine ofOneHolds wrongCountFaults fun v => ?_
  simp only
  split
  · exact faultsFault trivial
  · split
    · refine faultsBind hostFaults fun _ => ?_
      split
      · exact faultsFault trivial
      · refine faultsBind ?_ fun _ => faultsPure _
        intro h f h' ran
        cases ran
    · exact faultsPure _

theorem emitterOrdinary {name sequence : String} : OrdinaryFaults (emitter name sequence) :=
  ofNoneHolds wrongCountFaults (faultsBind (Exec.writeFaults trivial) fun _ => faultsPure _)

theorem consoleOrdinary : ∀ f ∈ consoleFunctions, OrdinaryFaults f := by
  simp only [consoleFunctions, List.forall_mem_cons]
  exact ⟨emitterOrdinary, emitterOrdinary, pauseOrdinary, by simp⟩

theorem clockOrdinary : ∀ f ∈ clockFunctions, OrdinaryFaults f := by
  simp only [clockFunctions, List.forall_mem_cons]
  refine ⟨?time, ?date, ?timer, ?cpu, by simp⟩
  case cpu =>
    refine ofNoneHolds wrongCountFaults (faultsBind hostFaults fun h => ?_)
    simp only
    split
    · exact faultsPure _
    · exact faultsFault trivial
  all_goals exact ofNoneHolds wrongCountFaults (faultsBind hostFaults fun _ => faultsPure _)

end Function

namespace Functions

theorem registerSource {fns fns' : Functions} {name key : String} {added body : FunctionBody}
    (ok : fns.register name (some added) = .ok fns') (found : fns'.table[key]? = some body) :
    body = added ∨ fns.table[key]? = some body := by
  unfold register at ok
  simp only at ok
  repeat' split at ok
  all_goals cases ok
  rw [Std.TreeMap.getElem?_insert] at found
  split at found
  · cases found
    exact .inl rfl
  · exact .inr found

theorem addedSource {f : NamedFunction} {fns : Functions} {key : String} {body : FunctionBody}
    (found : ((fns.register f.name (some f.body)).toOption.getD fns).table[key]? = some body) :
    body = f.body ∨ fns.table[key]? = some body := by
  cases registered : fns.register f.name (some f.body) with
  | error e =>
      rw [registered] at found
      exact .inr found
  | ok fns' =>
      rw [registered] at found
      exact registerSource registered found

theorem foldSource {fs : List NamedFunction} {start : Functions} {key : String}
    {body : FunctionBody}
    (found : (fs.foldl (fun fns f => (fns.register f.name (some f.body)).toOption.getD fns)
      start).table[key]? = some body) :
    (∃ f ∈ fs, f.body = body) ∨ start.table[key]? = some body := by
  induction fs generalizing start with
  | nil => exact .inr found
  | cons f fs ih =>
      rw [List.foldl_cons] at found
      rcases ih found with ⟨g, member, same⟩ | earlier
      · exact .inl ⟨g, by simp [member], same⟩
      · rcases addedSource earlier with rfl | before
        · exact .inl ⟨f, by simp, rfl⟩
        · exact .inr before

theorem ofListSource {fs : List NamedFunction} {key : String} {body : FunctionBody}
    (found : (ofList fs).table[key]? = some body) : ∃ f ∈ fs, f.body = body := by
  rw [ofList] at found
  rcases foldSource found with source | nowhere
  · exact source
  · simp [empty] at nowhere

theorem standardRaises {f : Fault} (raised : standard.Raises f) : f.Ordinary := by
  obtain ⟨name, body, args, h, h', found, ran⟩ := raised
  rw [standard] at found
  obtain ⟨g, member, rfl⟩ := ofListSource found
  have ordinary : Function.OrdinaryFaults g := by
    simp only [List.mem_append] at member
    rcases member with ((math | text) | console) | clock
    · exact Function.mathOrdinary g math
    · exact Function.textOrdinary g text
    · exact Function.consoleOrdinary g console
    · exact Function.clockOrdinary g clock
  exact ordinary args h f h' ran

theorem emptyRaises {f : Fault} : ¬ empty.Raises f := by
  intro raised
  obtain ⟨name, body, args, h, h', found, ran⟩ := raised
  simp [empty] at found

theorem knownRaises {fns : Functions} {f : Fault} (known : fns = .standard ∨ fns = .empty)
    (raised : fns.Raises f) : f.Ordinary := by
  rcases known with same | same <;> rw [same] at raised
  · exact standardRaises raised
  · exact absurd raised emptyRaises

end Functions

end LineBasic
