import LineBasic.Proofs.Function.Standard
import LineBasic.Proofs.Program.Compile
import LineBasic.Proofs.Run.Steps
import LineBasic.Proofs.Session.Workspace
import LineBasic.Proofs.Syntax.Dimensions

/-!
No program brings about an internal error. What could go wrong is ruled out in four places: the
parser names no array without dimensions, the standard functions cut and draw within bounds, a run
meets only statements that were parsed, and the lines of a program are in order.
-/
namespace LineBasic

def ProgramError.Panics : ProgramError → Prop
  | .outOfOrder => True
  | .fault _ (.internal _) => True
  | _ => False

def Ending.Panics : Ending → Prop
  | .faulted e => e.Panics
  | _ => False

def Code.Dimensioned (code : Code) : Prop := ∀ l ∈ code.lines, ∀ s ∈ l.body.toList, s.Dimensioned

def Machine.Dimensioned (m : Machine) : Prop := ∀ s ∈ m.pending, s.Dimensioned

section Steps

variable {c : Setting} {m m' : Machine} {s : Stmt}

theorem compileDimensioned {isFunction : String → Bool} {lines : List Line} {code : Code}
    (compiled : Code.compile isFunction lines = .ok code) : code.Dimensioned := by
  intro l member
  obtain ⟨source, _, _, parsed⟩ := Code.compileSource compiled member
  exact parsedDimensioned parsed

theorem statementNoPanic {f : Fault} (ordinary : ∀ f, c.functions.Raises f → f.Ordinary)
    (now : s.Dimensioned) (does : Does c m s (.error f) m') : ∀ d, f ≠ .internal d := by
  intro d same
  subst same
  rcases doesFault does with impossible | ⟨_, raised⟩ | ⟨arrays, declared, rfl, member, empty, _⟩
  · exact impossible
  · exact ordinary _ raised
  · exact now declared member empty

theorem stepNoPanic {e : Ending} (ordinary : ∀ f, c.functions.Raises f → f.Ordinary)
    (code : c.code.Dimensioned) (kept : m.Dimensioned) (finished : m.step c = .finished m' e) :
    ¬ e.Panics := by
  rcases Machine.stepCases c m with ⟨s, start, due, same⟩ | ⟨l, _, same⟩ | same
  · rw [same] at finished
    obtain ⟨now, _⟩ := Machine.dueHolds code kept due
    rcases Machine.performCases c start s with ⟨_, limited⟩ |
      ⟨_, ⟨flow, after, ran, followed⟩ | ⟨f, after, ran, failed⟩⟩
    · rw [limited] at finished
      cases finished
      exact id
    · rw [followed] at finished
      obtain ⟨_, ⟨_, rfl⟩ | ⟨target, _, _, rfl⟩⟩ := Machine.followFinished finished <;> exact id
    · rw [failed] at finished
      cases finished
      have other := statementNoPanic ordinary now (statementDoes ran)
      intro panics
      cases f with
      | internal d => exact other d rfl
      | _ => exact panics
  · rw [same] at finished
    cases finished
    exact id
  · rw [same] at finished
    cases finished
    exact id

end Steps

/- Where a program to be run comes from: a text that was loaded, or a session. Variables and options
are any. -/
inductive Supplied (functions : Functions) : Workspace → Prop where
  | loaded {text p vars options} (ok : Listing.load text = .ok p) :
      Supplied functions ⟨p, vars, functions, options⟩
  | typed {s : Session} (used : Session.Used functions s) : Supplied functions s.workspace

theorem suppliedInOrder {functions : Functions} {w : Workspace} (supplied : Supplied functions w) :
    w.InOrder functions := by
  cases supplied with
  | loaded ok => exact ⟨rfl, Listing.loadAscending ok⟩
  | typed used => exact Session.usedInOrder used

theorem codeNoPanic {functions : Functions} {w : Workspace} {e : ProgramError}
    (ordered : w.InOrder functions) (failed : w.code = .error e) : ¬ e.Panics := by
  unfold Workspace.code at failed
  split at failed
  · cases failed
    exact id
  · obtain ⟨line, f, rfl⟩ := Code.compileInOrder ordered.2 failed
    exact id

theorem codeDimensioned {w : Workspace} {code : Code} (compiled : w.code = .ok code) :
    code.Dimensioned := by
  unfold Workspace.code at compiled
  split at compiled
  · cases compiled
  · exact compileDimensioned compiled

theorem runNeverPanics {functions : Functions} {w : Workspace}
    (known : functions = .standard ∨ functions = .empty) (supplied : Supplied functions w)
    (fuel : Nat) (h : Host) :
    (∀ o w' h', w.run fuel h = some (o, w', h') → ¬ o.ending.Panics) ∧
      (w.run fuel h = none → ∃ code now, w.code = .ok code ∧ now.steps = fuel ∧
        Machine.Reaches ⟨code, w.functions, w.options⟩ (Machine.start w.vars h) now) ∧
      (0 < w.options.maxSteps → w.options.maxSteps < fuel → (w.run fuel h).isSome) := by
  have ordered := suppliedInOrder supplied
  cases compiled : w.code with
  | error e =>
      have safe := codeNoPanic ordered compiled
      have ran : w.run fuel h = some (⟨.faulted e, e.line, 0⟩, w, h) := by
        simp only [Workspace.run, compiled]
      rw [ran]
      refine ⟨?_, fun unfinished => absurd unfinished (Option.some_ne_none _), fun _ _ => rfl⟩
      intro o w' h' same
      cases same
      exact safe
  | ok code =>
      have ordinary : ∀ f, w.functions.Raises f → f.Ordinary := by
        rw [ordered.1]
        exact fun f => Functions.knownRaises known
      have dimensioned := codeDimensioned compiled
      rw [runOf compiled]
      refine ⟨?_, ?_, ?_⟩
      · intro o w' h' ran
        obtain ⟨⟨m, ending⟩, finished, same⟩ := Option.map_eq_some_iff.mp ran
        cases same
        obtain ⟨last, reached, stopped⟩ := Machine.runFinished finished
        have kept : last.Dimensioned :=
          Machine.reachedHolds (c := ⟨code, w.functions, w.options⟩) dimensioned id reached
        exact stepNoPanic ordinary dimensioned kept stopped
      · intro unfinished
        obtain ⟨now, reached, count⟩ :=
          Machine.runUnfinished (Option.map_eq_none_iff.mp unfinished)
        exact ⟨code, now, rfl, by simpa [Machine.start] using count, reached⟩
      · intro positive enough
        rw [Option.isSome_map, Option.isSome_iff_ne_none]
        exact runLimited positive enough

theorem loopingProgramNeverPanics :
    Supplied .standard ⟨.ofLines [⟨10, "PRINT LEFT$(A$, RND(9))"⟩, ⟨20, "GOTO 10"⟩] false, .empty,
      .standard, .none⟩ ∧
    ∀ fuel h o w' h', Workspace.run fuel
      ⟨.ofLines [⟨10, "PRINT LEFT$(A$, RND(9))"⟩, ⟨20, "GOTO 10"⟩] false, .empty, .standard, .none⟩ h =
        some (o, w', h') → ¬ o.ending.Panics := by
  have loads : Listing.load "20 GOTO 10\n10 PRINT LEFT$(A$, RND(9))\n" =
      .ok (.ofLines [⟨10, "PRINT LEFT$(A$, RND(9))"⟩, ⟨20, "GOTO 10"⟩] false) := rfl
  have supplied : Supplied .standard
      ⟨.ofLines [⟨10, "PRINT LEFT$(A$, RND(9))"⟩, ⟨20, "GOTO 10"⟩] false, .empty, .standard, .none⟩ :=
    .loaded loads
  exact ⟨supplied, fun fuel h => (runNeverPanics (.inl rfl) supplied fuel h).1⟩

end LineBasic
