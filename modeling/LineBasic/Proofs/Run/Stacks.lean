import LineBasic.Proofs.Function.Standard
import LineBasic.Proofs.Program.Compile
import LineBasic.Proofs.Run.Steps

/-!
The two stacks of a run. Whatever a program does, no stack outgrows its limit, no variable has two
loops, and every line that a stack holds can be come back to.
-/
namespace LineBasic

structure StacksValid (code : Code) (m : Machine) : Prop where
  gosubDepth : m.gosubs.length ≤ stackDepth
  loopDepth : m.loops.length ≤ stackDepth
  distinct : (m.loops.map Loop.name).Nodup
  returns : ∀ line ∈ m.gosubs, code.Later line
  resumes : ∀ l ∈ m.loops, code.Later l.resume

/- While statements of a line are pending the place is that of the line; it is past the last line
only between two lines. -/
structure ControlValid (code : Code) (m : Machine) : Prop extends StacksValid code m where
  inside : m.pc ≤ code.lines.size
  begun : m.pending ≠ [] → m.pc < code.lines.size

namespace Exec

variable {name : String} {loops rest : List Loop}

theorem Forgets.suffix (forgets : Forgets name loops rest) : rest <:+ loops := by
  cases forgets with
  | nothing => exact List.suffix_rfl
  | stale => exact (List.suffix_cons _ _).trans (List.suffix_append _ _)

/- What is left holds no loop over the variable: if there was one, it has been dropped together with
those inside it, and there was no second. -/
theorem Forgets.free (forgets : Forgets name loops rest)
    (distinct : (loops.map Loop.name).Nodup) : name ∉ rest.map Loop.name := by
  cases forgets with
  | nothing other =>
      intro member
      obtain ⟨l, inside, same⟩ := List.mem_map.mp member
      exact other l inside same
  | @stale inside l _ other same =>
      have tail : ((l :: rest).map Loop.name).Nodup :=
        distinct.sublist ((List.sublist_append_right inside (l :: rest)).map Loop.name)
      rw [List.map_cons, List.nodup_cons, same] at tail
      exact tail.1

end Exec

section Steps

variable {c : Setting} {m m' : Machine} {s : Stmt}

open Exec

theorem doesStacks {flow : Flow} (ascending : c.code.Ascending) (does : Does c m s (.ok flow) m')
    (valid : StacksValid c.code m) : StacksValid c.code m' := by
  cases does with
  | passed => exact { valid with }
  | stored => exact { valid with }
  | ended => exact valid
  | nested => exact { valid with }
  | jumped target => exact { valid with }
  | @called line resume back room =>
      have later := Code.afterLater ascending back
      refine { valid with gosubDepth := ?_, returns := ?_ }
      · exact room
      · intro n member
        rcases List.mem_cons.mp member with rfl | inside
        · exact later
        · exact valid.returns n inside
  | @returned resume rest top =>
      have depth := valid.gosubDepth
      have returns := valid.returns
      rw [top] at depth returns
      refine { valid with gosubDepth := ?_, returns := ?_ }
      · exact Nat.le_of_lt depth
      · intro n inside
        exact returns n (by simp [inside])
  | @entered name start limit step resume last stride vars host back room =>
      have later := Code.afterLater ascending back
      have forgets := leaveLoopForgets name m.loops
      have suffix := forgets.suffix
      refine { valid with loopDepth := ?_, distinct := ?_, resumes := ?_ }
      · exact room
      · rw [List.map_cons, List.nodup_cons]
        exact ⟨forgets.free valid.distinct,
          valid.distinct.sublist (suffix.sublist.map Loop.name)⟩
      · intro l member
        rcases List.mem_cons.mp member with rfl | inside
        · exact later
        · exact valid.resumes l (suffix.subset inside)
  | repeated top => exact { valid with }
  | @left name l outer vars host top =>
      have depth := valid.loopDepth
      have distinct := valid.distinct
      have resumes := valid.resumes
      rw [top] at depth distinct resumes
      rw [List.map_cons, List.nodup_cons] at distinct
      refine { valid with loopDepth := ?_, distinct := distinct.2, resumes := ?_ }
      · exact Nat.le_of_lt depth
      · intro k inside
        exact resumes k (by simp [inside])

theorem doesJumps {line : Int} (does : Does c m s (.ok (.jump line)) m')
    (valid : StacksValid c.code m) : s.target? = some line ∨ c.code.Later line := by
  generalize jump : Flow.jump line = flow at does
  cases does with
  | jumped target =>
      cases jump
      exact .inl target
  | called back room =>
      cases jump
      exact .inl rfl
  | returned top =>
      cases jump
      exact .inr (valid.returns line (by simp [top]))
  | repeated top =>
      cases jump
      exact .inr (valid.resumes _ (by simp [top]))
  | _ => cases jump

theorem dueValid {start} (due : m.Due c s start) (valid : ControlValid c.code m) :
    StacksValid c.code start ∧ start.pc < c.code.lines.size := by
  cases due with
  | pending next => exact ⟨{ valid.toStacksValid with }, valid.begun (by simp [next])⟩
  | line idle found calm =>
      obtain ⟨inside, _⟩ := Array.getElem?_eq_some_iff.mp found
      unfold Machine.traceLine
      split <;> exact ⟨{ valid.toStacksValid with }, inside⟩

theorem stepControl (ascending : c.code.Ascending) (valid : ControlValid c.code m)
    (running : m.step c = .running m') : ControlValid c.code m' := by
  obtain ⟨s, start, flow, after, due, _, ran, followed⟩ := Machine.stepRunning running
  obtain ⟨heights, inside⟩ := dueValid due valid
  have does := statementDoes ran
  have counted : StacksValid c.code start.counted := { heights with }
  have kept := doesStacks ascending does counted
  have place : after.pc < c.code.lines.size := by
    rw [(Machine.doesFrame does).1]
    exact inside
  rcases Machine.followRunning followed with ⟨_, rfl⟩ | ⟨inner, _, rfl⟩ | ⟨line, pc, _, found, rfl⟩
  · unfold Machine.settle
    split
    · rename_i idle
      exact { kept with inside := place, begun := fun busy => absurd (by simpa using idle) busy }
    · exact { kept with inside := Nat.le_of_lt place, begun := fun _ => place }
  · exact { kept with inside := Nat.le_of_lt place, begun := fun _ => place }
  · have there := Code.findInside found
    exact { kept with inside := Nat.le_of_lt there, begun := fun _ => there }

theorem startControl (code : Code) (vars : Variables) (host : Host) :
    ControlValid code (Machine.start vars host) where
  gosubDepth := Nat.zero_le _
  loopDepth := Nat.zero_le _
  distinct := List.nodup_nil
  returns := nofun
  resumes := nofun
  inside := Nat.zero_le _
  begun := nofun

theorem reachedControl (ascending : c.code.Ascending) {vars host}
    (reached : Machine.Reaches c (Machine.start vars host) m) : ControlValid c.code m :=
  reached.invariant (fun valid running => stepControl ascending valid running)
    (startControl c.code vars host)

theorem stepMissing {line n : Int} (valid : ControlValid c.code m)
    (finished : m.step c = .finished m' (.faulted (.fault line (.noSuchLine n)))) :
    ∃ s start, m.Due c s start ∧
      ((s.target? = some n ∧ ∀ l ∈ c.code.lines, l.number ≠ n) ∨
        (s.Evaluates ∧ c.functions.Raises (.noSuchLine n))) := by
  rcases Machine.stepCases c m with ⟨s, start, due, same⟩ | ⟨l, _, same⟩ | same
  · refine ⟨s, start, due, ?_⟩
    rw [same] at finished
    obtain ⟨heights, _⟩ := dueValid due valid
    have counted : StacksValid c.code start.counted := { heights with }
    rcases Machine.performCases c start s with ⟨_, limited⟩ |
      ⟨_, ⟨flow, after, ran, followed⟩ | ⟨f, after, ran, failed⟩⟩
    · rw [limited] at finished
      cases finished
    · rw [followed] at finished
      obtain ⟨_, ⟨_, same⟩ | ⟨target, rfl, missing, same⟩⟩ := Machine.followFinished finished <;>
        cases same
      rcases doesJumps (statementDoes ran) counted with literal | later
      · exact .inl ⟨literal, Code.findMissing.mp missing⟩
      · obtain ⟨pc, found⟩ := later.found
        rw [missing] at found
        cases found
    · rw [failed] at finished
      cases finished
      rcases doesFault (statementDoes ran) with ordinary | raised | ⟨_, _, _, _, _, other⟩
      · exact ordinary.elim
      · exact .inr raised
      · cases other
  · rw [same] at finished
    cases finished
  · rw [same] at finished
    cases finished

end Steps

/- RETURN and NEXT are not among the statements that can lead to a missing line: those name it.
Only a function that is not one of the standard ones could raise that fault by itself. -/
theorem controlAlwaysValid {isFunction : String → Bool} {lines : List Line} {code : Code}
    (compiled : Code.compile isFunction lines = .ok code) (functions : Functions)
    (options : Options) (vars : Variables) (host : Host) {m : Machine}
    (reached : Machine.Reaches ⟨code, functions, options⟩ (Machine.start vars host) m) :
    ControlValid code m ∧
      ∀ m' line n, m.step ⟨code, functions, options⟩ =
          .finished m' (.faulted (.fault line (.noSuchLine n))) →
        ∃ s start, m.Due ⟨code, functions, options⟩ s start ∧ s ≠ .goBack ∧
          (∀ name, s ≠ .next name) ∧
          ((s.target? = some n ∧ ∀ l ∈ code.lines, l.number ≠ n) ∨
            (functions.Raises (.noSuchLine n) ∧ functions ≠ .standard ∧ functions ≠ .empty)) := by
  have valid := reachedControl (c := ⟨code, functions, options⟩) (Code.compileAscending compiled)
    reached
  refine ⟨valid, ?_⟩
  intro m' line n finished
  obtain ⟨s, start, due, literal | ⟨evaluates, raised⟩⟩ := stepMissing valid finished
  · refine ⟨s, start, due, ?_, ?_, .inl literal⟩
    · intro same
      subst same
      cases literal.1
    · intro name same
      subst same
      cases literal.1
  · have unknown : ¬ (functions = .standard ∨ functions = .empty) := fun known =>
      Functions.knownRaises known raised
    refine ⟨s, start, due, ?_, ?_, .inr ⟨raised, not_or.mp unknown⟩⟩
    · intro same
      subst same
      exact evaluates
    · intro name same
      subst same
      exact evaluates

theorem controlValidInLoop :
    ∃ code m, Code.compile (fun _ => false)
        [⟨10, "FOR I = 1 TO 3"⟩, ⟨20, "GOSUB 30"⟩, ⟨30, "NEXT I"⟩] = .ok code ∧
      Machine.Reaches ⟨code, .empty, .none⟩ (Machine.start .empty .idle) m ∧ m.steps = 2 ∧
      ControlValid code m := by
  have compiled : Code.compile (fun _ => false)
      [⟨10, "FOR I = 1 TO 3"⟩, ⟨20, "GOSUB 30"⟩, ⟨30, "NEXT I"⟩] =
      .ok ⟨#[⟨10, ⟨.loop "I" (.number 1) (.number 3) none, []⟩⟩, ⟨20, ⟨.gosub 30, []⟩⟩,
        ⟨30, ⟨.next "I", []⟩⟩]⟩ := rfl
  have unfinished : (Machine.run ⟨⟨#[⟨10, ⟨.loop "I" (.number 1) (.number 3) none, []⟩⟩,
      ⟨20, ⟨.gosub 30, []⟩⟩, ⟨30, ⟨.next "I", []⟩⟩]⟩, .empty, .none⟩ 2
      (Machine.start .empty .idle)).isNone = true := by decide +kernel
  obtain ⟨m, reached, count⟩ :=
    Machine.runUnfinished (Option.isNone_iff_eq_none.mp unfinished)
  exact ⟨_, m, compiled, reached, count, (controlAlwaysValid compiled _ _ _ _ reached).1⟩

end LineBasic
