import LineBasic.Proofs.Program.Order
import LineBasic.Proofs.Run.Places

/-!
What a run reports. A program with a line that does not parse is refused before anything of it is
executed, and the report is about the lowest such line. Otherwise every fault is a fault of
execution, reported with the number of the line that was being executed.
-/
namespace LineBasic

/- `l` is the line that a run was executing when it came to an end at `last`: any statement due
stands in it, unless the run had gone past it and it was the last one. -/
inductive EndsIn (c : Setting) (last : Machine) (l : CodeLine) : Prop where
  | inside (place : c.code.lines[last.pc]? = some l)
      (due : ∀ s start, last.Due c s start → l.Holds s)
  | past (idle : last.pending = []) (outside : c.code.lines[last.pc]? = none)
      (final : c.code.lines.back? = some l)

section Steps

variable {c : Setting} {m m' : Machine} {s : Stmt} {e : Ending}

theorem insideEnds {l : CodeLine} (located : Located c.code m)
    (place : c.code.lines[m.pc]? = some l) : EndsIn c m l := by
  refine .inside place ?_
  intro s start due
  obtain ⟨k, _, held, found⟩ := dueExecuting located due
  rw [place] at found
  cases found
  exact held

theorem endsIn (located : Located c.code m) (nonempty : c.code.lines ≠ #[])
    (ends : m.Ends c m' e) : ∃ l ∈ c.code.lines, EndsIn c m l ∧ m'.line = l.number := by
  -- whatever statement ended the run, it was executed on the line that it stands in
  have executed {s start r after} (due : m.Due c s start)
      (ran : Exec.statement c s start.counted = (r, after)) :
      ∃ l ∈ c.code.lines, EndsIn c m l ∧ after.line = l.number := by
    obtain ⟨l, executing, _, place⟩ := dueExecuting located due
    have now : Executing c.code after l :=
      doesExecuting (m := start.counted) { executing with } (statementDoes ran)
    exact ⟨l, Array.mem_of_getElem? place, insideEnds located place, now.number⟩
  cases ends with
  | limited due limit =>
      obtain ⟨l, executing, _, place⟩ := dueExecuting located due
      exact ⟨l, Array.mem_of_getElem? place, insideEnds located place, executing.number⟩
  | stopped due below ran => exact executed due ran
  | missing due below ran missing => exact executed due ran
  | failed due below ran => exact executed due ran
  | @interrupted l idle found asked =>
      exact ⟨l, Array.mem_of_getElem? found, insideEnds located found, rfl⟩
  | completed idle past =>
      cases final : c.code.lines.back? with
      | none => exact absurd (Array.back?_eq_none_iff.mp final) nonempty
      | some l =>
          exact ⟨l, Array.mem_of_back? final, .past idle past final, located.past past l final⟩

theorem endsStamped {err : ProgramError} (ends : m.Ends c m' e) (reported : e.error? = some err) :
    ∃ f, err = .fault m'.line f := by
  cases ends <;> cases reported <;> exact ⟨_, rfl⟩

theorem endsFaulted (ends : m.Ends c m' e) : e.state = .faulted ↔ e.error?.isSome := by
  cases ends <;> simp

end Steps

structure Reported (w : Workspace) (h : Host) (outcome : Outcome) : Prop where
  faulted : outcome.ending.state = .faulted ↔ outcome.error?.isSome
  stamped : ∀ e ∈ outcome.error?, ∃ f, e = .fault outcome.line f
  executing : ∃ code last m l, w.code = .ok code ∧
    Machine.Reaches ⟨code, w.functions, w.options⟩ (Machine.start w.vars h) last ∧
    last.step ⟨code, w.functions, w.options⟩ = .finished m outcome.ending ∧
    EndsIn ⟨code, w.functions, w.options⟩ last l ∧ l.number = outcome.line
  listed : ∃ l ∈ w.listing.lines, l.number = outcome.line
  highest : outcome.ending = .completed → ∀ l ∈ w.listing.lines, l.number ≤ outcome.line

section Runs

variable {w : Workspace} {h : Host}

theorem codeOfLines (nonempty : w.listing.lines ≠ []) :
    w.code = Code.compile w.functions.has w.listing.lines := by
  unfold Workspace.code
  split
  · rename_i empty
    exact absurd (Listing.sizeZero.mp empty) nonempty
  · rfl

/- The numbers of the compiled lines are those of the listing, so what is known of the line in
which the run ended can be said of the listing. -/
theorem reportedOf {code : Code} {last m : Machine} {e : Ending}
    (nonempty : w.listing.lines ≠ []) (compiled : w.code = .ok code)
    (numbers : code.lines.toList.map CodeLine.number = w.listing.lines.map Line.number)
    (reached : Machine.Reaches ⟨code, w.functions, w.options⟩ (Machine.start w.vars h) last)
    (finished : last.step ⟨code, w.functions, w.options⟩ = .finished m e) :
    Reported w h ⟨e, m.line, m.steps⟩ := by
  have ascending : code.Ascending := Code.compileAscending ((codeOfLines nonempty) ▸ compiled)
  have lines : code.lines ≠ #[] := by
    intro empty
    rw [empty] at numbers
    exact nonempty (List.map_eq_nil_iff.mp numbers.symm)
  have ends := Machine.stepEnds finished
  obtain ⟨l, member, endsIn, number⟩ := endsIn (reachedLocated reached) lines ends
  have listed : ∀ n, (∃ k ∈ code.lines, k.number = n) ↔ ∃ k ∈ w.listing.lines, k.number = n := by
    intro n
    have same : n ∈ code.lines.toList.map CodeLine.number ↔
        n ∈ w.listing.lines.map Line.number := by
      rw [numbers]
    simpa using same
  refine ⟨endsFaulted ends, ?_,
    ⟨code, last, m, l, compiled, reached, finished, endsIn, number.symm⟩,
    (listed _).mp ⟨l, member, number.symm⟩, ?_⟩
  · rintro err reported
    exact endsStamped ends reported
  · rintro rfl k inside
    obtain ⟨k', member', same⟩ := (listed k.number).mpr ⟨k, inside, rfl⟩
    cases ends with
    | completed idle past =>
        cases endsIn with
        | inside place due =>
            rw [past] at place
            cases place
        | past _ _ final =>
            rw [← same]
            exact number ▸ Code.lastHighest ascending final member'

end Runs

/- The first part is about a program with lines that do not parse, the second about all others. The
lines of every program that has been loaded or typed in are in order. -/
theorem runReportsItsLine (w : Workspace) (nonempty : w.listing.lines ≠ [])
    (ordered : Listing.Ascending w.listing.lines) :
    ((∃ l ∈ w.listing.lines, ∃ f, parseLine w.functions.has l.text = .error f) →
      ∃ l ∈ w.listing.lines, ∃ f, parseLine w.functions.has l.text = .error f ∧
        (∀ k ∈ w.listing.lines, k.number < l.number →
          ∃ body, parseLine w.functions.has k.text = .ok body) ∧
        ∀ fuel h, w.run fuel h =
          some (⟨.faulted (.badSyntax l.number f), l.number, 0⟩, w, h)) ∧
      ((∀ l ∈ w.listing.lines, ∃ body, parseLine w.functions.has l.text = .ok body) →
        ∀ fuel h outcome w' h', w.run fuel h = some (outcome, w', h') → Reported w h outcome) := by
  have code := codeOfLines nonempty
  constructor
  · rintro ⟨bad, member, g, failed⟩
    obtain ⟨l, found, f, broken, before, stops⟩ := Code.compileBad ordered member failed
    refine ⟨l, found, f, broken, before, ?_⟩
    intro fuel h
    exact runUnparsed (code.trans stops) fuel h
  · intro good fuel h outcome w' h' ran
    obtain ⟨compiled, ok, numbers⟩ := Code.compileGood ordered good
    rw [runOf (code.trans ok)] at ran
    obtain ⟨⟨m, e⟩, finished, same⟩ := Option.map_eq_some_iff.mp ran
    cases same
    obtain ⟨last, reached, ended⟩ := Machine.runFinished finished
    exact reportedOf nonempty (code.trans ok) numbers reached ended

def broken : Workspace :=
  ⟨.ofLines [⟨10, "PRINT"⟩, ⟨20, "PRINT \"A\" +"⟩, ⟨30, "GOTO"⟩] false, .empty, .empty, .none⟩

def lost : Workspace := ⟨.ofLines [⟨10, "REM"⟩, ⟨20, "GOTO 99"⟩] false, .empty, .empty, .none⟩

theorem lowestBrokenLineReported :
    (∀ fuel h, broken.run fuel h =
      some (⟨.faulted (.badSyntax 20 (.grammar .endOfExpression)), 20, 0⟩, broken, h)) ∧
      ∃ outcome w' h', lost.run 3 .idle = some (outcome, w', h') ∧ outcome.line = 20 ∧
        Reported lost .idle outcome := by
  constructor
  · have first : parseLine broken.functions.has "PRINT" = .ok ⟨.print none, []⟩ := rfl
    have second : parseLine broken.functions.has "PRINT \"A\" +" =
        .error (.grammar .endOfExpression) := rfl
    have ordered : Listing.Ascending broken.listing.lines := by simp [Listing.Ascending, broken]
    obtain ⟨l, member, f, bad, before, ran⟩ := (runReportsItsLine broken nofun ordered).1
      ⟨⟨20, "PRINT \"A\" +"⟩, by simp [broken], _, second⟩
    have which : l = ⟨10, "PRINT"⟩ ∨ l = ⟨20, "PRINT \"A\" +"⟩ ∨ l = ⟨30, "GOTO"⟩ := by
      simpa [broken] using member
    rcases which with rfl | rfl | rfl
    · rw [first] at bad
      cases bad
    · rw [second] at bad
      cases bad
      exact ran
    · obtain ⟨body, parsed⟩ := before ⟨20, "PRINT \"A\" +"⟩ (by simp [broken]) (by decide)
      rw [second] at parsed
      cases parsed
  · have good : ∀ l ∈ lost.listing.lines,
        ∃ body, parseLine lost.functions.has l.text = .ok body := by
      have first : parseLine lost.functions.has "REM" = .ok ⟨.remark "", []⟩ := rfl
      have second : parseLine lost.functions.has "GOTO 99" = .ok ⟨.goto 99, []⟩ := rfl
      intro l member
      have which : l = ⟨10, "REM"⟩ ∨ l = ⟨20, "GOTO 99"⟩ := by simpa [lost] using member
      rcases which with rfl | rfl
      · exact ⟨_, first⟩
      · exact ⟨_, second⟩
    have ordered : Listing.Ascending lost.listing.lines := by simp [Listing.Ascending, lost]
    have ends : (lost.run 3 .idle).map (fun result => result.1.line) = some 20 := by decide +kernel
    obtain ⟨⟨outcome, w', h'⟩, ran, line⟩ := Option.map_eq_some_iff.mp ends
    exact ⟨outcome, w', h', ran, line,
      (runReportsItsLine lost nofun ordered).2 good 3 .idle outcome w' h' ran⟩

end LineBasic
