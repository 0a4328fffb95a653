import LineBasic.Proofs.Program.Edits
import LineBasic.Proofs.Run.Reports
import LineBasic.Proofs.Session.Dialogue
import LineBasic.Proofs.Session.Workspace

/-!
What each command does to a session. A command that fails has only talked: whatever it checks, it
checks before it changes anything. For those that succeed, all that they change is listed here.
-/
namespace LineBasic

open Text

namespace Session

def holding (s : Session) (p : Listing) : Session :=
  { s with workspace := { s.workspace with listing := p } }

structure Aside (s t : Session) : Prop where
  listing : t.workspace.listing = s.workspace.listing
  vars : t.workspace.vars = s.workspace.vars
  files : t.files = s.files
  filename : t.filename = s.filename
  exiting : t.exiting = s.exiting
  source : t.source = s.source

theorem Aside.same (s : Session) : Aside s s := ⟨rfl, rfl, rfl, rfl, rfl, rfl⟩

def shows : Command → Bool
  | .dump => true
  | .help => true
  | .list => true
  | .stats => true
  | .trace => true
  | _ => false

inductive Done (s : Session) (arg : String) : Command → Session → Prop where
  | bye {t : Session} (agreed : Agreed s t) : Done s arg .bye { t with exiting := true }
  | new {t : Session} (agreed : Agreed s t) :
      Done s arg .new { t with workspace := t.workspace.reset, filename := "" }
  | load {t : Session} {name : String} {p : Listing} (agreed : Agreed s t)
      (named : programFilename arg = .ok name) (read : s.files.readProgram name = .ok p) :
      Done s arg .load { t with workspace := t.workspace.install p, filename := name }
  | delete {r : LineRange} (range : LineRange.parse arg = .ok r)
      (found : s.workspace.listing.between r.low r.high ≠ []) :
      Done s arg .delete (s.holding (s.workspace.listing.deleteAll
        (s.workspace.listing.between r.low r.high)))
  | save {name : String} {files : Files}
      (named : arg = "" ∧ name = s.filename ∨ programFilename arg = .ok name)
      (written : s.files.write name s.workspace.listing.save = .ok files) :
      Done s arg .save { s.holding s.workspace.listing.saved with files, filename := name }
  | shown {c : Command} {t : Session} (only : shows c = true) (aside : Aside s t) : Done s arg c t

inductive Typed (s : Session) (line : String) : Session → Prop where
  | put {l : Line} (split : splitLine line = .ok l) (given : l.text ≠ "") :
      Typed s line (s.holding (s.workspace.listing.put l))
  | erased {l : Line} (split : splitLine line = .ok l) (blank : l.text = "")
      (found : s.workspace.listing.has l.number = true) :
      Typed s line (s.holding (s.workspace.listing.delete l.number).2)

end Session

namespace Action

open Session

variable {α β : Type} {first now s t : Session}

def Leads (first : Session) (x : Action α) (now : Session) (P : α → Session → Prop) : Prop :=
  match x now with
  | (.ok a, t) => P a t
  | (.error _, t) => Talked first t

section Rules

variable {P : α → Session → Prop} {Q : β → Session → Prop}

theorem leadsPure {a : α} (right : P a now) : Leads first (pure a) now P := right

theorem leadsFail {e : CommandError} (talked : Talked first now) : Leads first (fail e) now P :=
  talked

theorem leadsImp {x : Action α} {P' : α → Session → Prop} (before : Leads first x now P)
    (weaker : ∀ a t, P a t → P' a t) : Leads first x now P' := by
  unfold Leads at before ⊢
  cases ran : x now with
  | mk result t =>
      rw [ran] at before
      cases result with
      | ok a => exact weaker a t before
      | error e => exact before

theorem leadsBind {x : Action α} {k : α → Action β} (before : Leads first x now P)
    (rest : ∀ a t, P a t → Leads first (k a) t Q) : Leads first (x >>= k) now Q := by
  have unfolded : (x >>= k) now = ExceptT.bindCont k (x now).1 (x now).2 := rfl
  unfold Leads at before ⊢
  rw [unfolded]
  cases ran : x now with
  | mk result t =>
      rw [ran] at before
      cases result with
      | ok a => exact rest a t before
      | error e => exact before

theorem leadsGet {k : Session → Action β} (rest : Leads first (k now) now Q) :
    Leads first (get >>= k) now Q := rest

theorem leadsSay {P : Unit → Session → Prop} {text : String} (right : P () (now.write text)) :
    Leads first (say text) now P := right

theorem leadsModify {P : PUnit → Session → Prop} {f : Session → Session} (right : P () (f now)) :
    Leads first (modify f) now P := right

end Rules

-- From here on the rules say what it means; to compute with a session would take long.
attribute [irreducible] Leads

section Commands

theorem leadsParseRange (arg : String) :
    Leads s (parseRange arg) s fun r t => t = s ∧ LineRange.parse arg = .ok r := by
  unfold parseRange
  cases LineRange.parse arg with
  | ok r => exact leadsPure ⟨rfl, rfl⟩
  | error f => exact leadsFail (.nothing s)

theorem leadsSayLines (lines : List String) (aside : Aside s now) :
    Leads first (sayLines lines) now fun _ t => Aside s t := by
  induction lines generalizing now with
  | nil => exact leadsPure aside
  | cons line rest ih =>
      exact leadsBind (P := fun _ t => Aside s t) (leadsSay { aside with }) fun _ _ => ih

theorem leadsCheckModified (s : Session) : Leads s checkModified s fun _ t => Agreed s t := by
  unfold Leads
  cases unsaved : s.workspace.listing.modified with
  | false =>
      have goesOn : checkModified s = (.ok (), s) := by simp [checkModified, unsaved]
      rw [goesOn]
      exact .mk .nothing (.inl ⟨unsaved, rfl⟩)
  | true =>
      obtain ⟨answers, b, r, settled⟩ := LineReader.answersExist s.source
      obtain ⟨h, wrote, asked⟩ := checkModifiedAsks unsaved settled
      rw [asked]
      cases b with
      | true => exact .mk wrote (.inr ⟨unsaved, answers, settled⟩)
      | false => exact .mk wrote (.inr ⟨unsaved, answers, false, settled⟩)

theorem leadsBye (arg : String) : Leads s bye s fun _ t => Done s arg .bye t :=
  leadsBind (leadsCheckModified s) fun _ _ agreed => leadsModify (.bye agreed)

theorem leadsNew (arg : String) : Leads s new s fun _ t => Done s arg .new t :=
  leadsBind (leadsCheckModified s) fun _ _ agreed => leadsModify (.new agreed)

theorem leadsDelete (arg : String) : Leads s (delete arg) s fun _ t => Done s arg .delete t := by
  unfold delete
  split
  · exact leadsFail (.nothing s)
  · apply leadsBind (leadsParseRange arg)
    rintro r t ⟨rfl, range⟩
    apply leadsGet
    simp only
    split
    · exact leadsFail (.nothing t)
    · rename_i found
      exact leadsModify (.delete range (by simpa using found))

theorem leadsList (arg : String) : Leads s (list arg) s fun _ t => Aside s t := by
  unfold list
  split
  · apply leadsBind (P := fun _ t => t = s) (leadsPure rfl)
    rintro r t rfl
    exact leadsGet (leadsSayLines _ (.same t))
  · apply leadsBind (leadsParseRange arg)
    rintro r t ⟨rfl, _⟩
    exact leadsGet (leadsSayLines _ (.same t))

theorem leadsLoad (arg : String) : Leads s (load arg) s fun _ t => Done s arg .load t := by
  apply leadsBind (leadsCheckModified s)
  intro _ t agreed
  cases named : programFilename arg with
  | error f => exact leadsFail agreed.talked
  | ok name =>
      apply leadsGet
      have files : t.files = s.files := by cases agreed; rfl
      rw [files]
      cases read : s.files.readProgram name with
      | error e => exact leadsFail agreed.talked
      | ok p =>
          simp only
          split
          · exact leadsBind (P := fun _ u => Agreed s u) (leadsSay (agreed.write _))
              fun _ _ still => leadsModify (.load still named read)
          · exact leadsModify (.load agreed named read)

theorem leadsSaveName (arg : String) : Leads s (saveName arg) s fun name t =>
    t = s ∧ (arg = "" ∧ name = s.filename ∨ programFilename arg = .ok name) := by
  unfold saveName
  split
  · rename_i unnamed
    exact leadsGet (leadsPure ⟨rfl, .inl ⟨by simpa using unnamed, rfl⟩⟩)
  · cases named : programFilename arg with
    | ok name => exact leadsPure ⟨rfl, .inr rfl⟩
    | error f => exact leadsFail (.nothing s)

theorem leadsSave (arg : String) : Leads s (save arg) s fun _ t => Done s arg .save t := by
  apply leadsBind (leadsSaveName arg)
  rintro name t ⟨rfl, named⟩
  apply leadsGet
  simp only
  split
  · exact leadsFail (.nothing t)
  · split
    · exact leadsFail (.nothing t)
    · cases written : t.files.write name t.workspace.listing.save with
      | error f => exact leadsFail (.nothing t)
      | ok files =>
          have saved : Done t arg .save
              { t.holding t.workspace.listing.saved with files, filename := name } :=
            .save named written
          exact leadsBind (P := fun _ u => u = { t with files, filename := name }) (leadsModify rfl)
            fun _ u same => same ▸ leadsModify saved

theorem leadsTraceWords (o : Options) (words : List String) (talked : Talked s now)
    (aside : Aside s now) : Leads s (traceWords o words) now fun _ t => Aside s t := by
  induction words generalizing o now with
  | nil => exact leadsPure aside
  | cons word rest ih =>
      unfold traceWords
      cases traceWord o word with
      | error e => exact leadsFail talked
      | ok changed =>
          exact leadsBind (P := fun _ t => Talked s t ∧ Aside s t)
            (leadsSay ⟨talked.write _, { aside with }⟩) fun _ _ both => ih _ both.1 both.2

theorem leadsTrace (arg : String) : Leads s (trace arg) s fun _ t => Aside s t := by
  unfold trace
  simp only
  split
  · exact leadsFail (.nothing s)
  · apply leadsGet
    exact leadsBind (leadsTraceWords _ _ (.nothing s) (.same s))
      fun _ _ aside => leadsModify { aside with }

theorem leadsHelp (arg : String) : Leads s (help arg) s fun _ t => Aside s t := by
  unfold help
  split
  · exact leadsGet (leadsSayLines _ (.same s))
  · cases Command.ofName? arg with
    | none => exact leadsFail (.nothing s)
    | some c =>
        apply leadsBind (leadsSayLines _ (.same s))
        intro _ t aside
        split
        · exact leadsSay { aside with }
        · exact leadsPure aside

theorem leadsEmitDump (d : Dump) (aside : Aside s now) :
    Leads first (emitDump d) now fun _ t => Aside s t := leadsModify { aside with }

theorem leadsDump (arg : String) : Leads s (dump arg) s fun _ t => Aside s t := by
  have program : Leads s dumpProgram s fun _ t => Aside s t := by
    apply leadsGet
    cases dumpedLines s.workspace with
    | error e => exact leadsFail (.nothing s)
    | ok lines => exact leadsEmitDump _ (.same s)
  unfold dump
  split
  · exact leadsBind program fun _ _ aside => leadsGet (leadsEmitDump _ aside)
  · cases LineRange.readBound arg.toList with
    | error f => exact leadsFail (.nothing s)
    | ok n =>
        apply leadsGet
        simp only
        cases s.workspace.listing.lookup? n with
        | none => exact leadsFail (.nothing s)
        | some text =>
            simp only
            cases parseLine s.workspace.functions.has text with
            | error f => exact leadsFail (.nothing s)
            | ok body => exact leadsEmitDump _ (.same s)

theorem leadsToggleStatistics : Leads s toggleStatistics s fun _ t => Aside s t :=
  leadsBind (P := fun _ t => Aside s t) (leadsModify { Aside.same s with })
    fun _ _ aside => leadsGet (leadsSay { aside with })

theorem leadsCommand (arg : String) {c : Command} (other : c ≠ .run) :
    Leads s (command arg c) s fun _ t => Done s arg c t := by
  cases c with
  | bye => exact leadsBye arg
  | delete => exact leadsDelete arg
  | dump => exact leadsImp (leadsDump arg) fun _ _ => .shown rfl
  | help => exact leadsImp (leadsHelp arg) fun _ _ => .shown rfl
  | list => exact leadsImp (leadsList arg) fun _ _ => .shown rfl
  | load => exact leadsLoad arg
  | new => exact leadsNew arg
  | save => exact leadsSave arg
  | stats => exact leadsImp leadsToggleStatistics fun _ _ => .shown rfl
  | trace => exact leadsImp (leadsTrace arg) fun _ _ => .shown rfl
  | run => exact absurd rfl other

theorem leadsEditLine (line : String) : Leads s (editLine line) s fun _ t => Typed s line t := by
  apply leadsGet
  cases split : splitLine line with
  | error f => exact leadsFail (.nothing s)
  | ok l =>
      simp only
      split
      · rename_i blank
        have erased := Typed.erased (s := s) split (by simpa using blank)
        have there := Listing.deleteFound s.workspace.listing l.number
        generalize s.workspace.listing.delete l.number = result at erased there ⊢
        obtain ⟨found, p⟩ := result
        cases found with
        | true => exact leadsModify (erased there.symm)
        | false => exact leadsFail (.nothing s)
      · rename_i given
        have text : l.text ≠ "" := by simpa using given
        obtain ⟨positive, _, trimmed, _⟩ := (splitLineNumbered.mp split).facts
        rw [Listing.setTrimmed positive trimmed text]
        exact leadsModify (.put split text)

end Commands

end Action

namespace Session

variable {s t : Session} {fuel : Nat} {line : String} {r : Except CommandError Unit}

def commandOf? (line : String) : Option (Command × String) :=
  match trimChars line.toList with
  | [] => none
  | c :: rest =>
    if c.isDigit then none
    else (Command.ofName? (splitCommand (c :: rest)).1).map (·, (splitCommand (c :: rest)).2)

def IsRun (line : String) : Prop := ∃ arg, commandOf? line = some (.run, arg)

inductive Handled (fuel : Nat) (s : Session) (line : String) :
    Except CommandError Unit → Session → Prop where
  | blank (wordless : commandOf? line = none) : Handled fuel s line (.ok ()) s
  | refused {e : CommandError} {t : Session} (other : ¬ IsRun line) (talked : Talked s t) :
      Handled fuel s line (.error e) t
  | typed {t : Session} (wordless : commandOf? line = none) (typed : Typed s line t) :
      Handled fuel s line (.ok ()) t
  | done {c : Command} {arg : String} {t : Session} (given : commandOf? line = some (c, arg))
      (other : c ≠ .run) (done : Done s arg c t) : Handled fuel s line (.ok ()) t
  | ran {arg : String} {o : Outcome} {t : Session} (given : commandOf? line = some (.run, arg))
      (finished : s.runProgram fuel = some (o, t)) : Handled fuel s line (runResult o) t

theorem executeKinds (fuel : Nat) (s : Session) (line : String) :
    commandOf? line = none ∧ (s.execute fuel line = some (.ok (), s) ∨
        s.execute fuel line = some (Action.editLine line s) ∨
        ∃ e, s.execute fuel line = some (.error e, s)) ∨
      (∃ arg, commandOf? line = some (.run, arg) ∧
        s.execute fuel line = (s.runProgram fuel).map fun done => (runResult done.1, done.2)) ∨
      ∃ c arg, c ≠ .run ∧ commandOf? line = some (c, arg) ∧
        s.execute fuel line = some (Action.command arg c s) := by
  unfold execute commandOf?
  cases trimChars line.toList with
  | nil => exact .inl ⟨rfl, .inl rfl⟩
  | cons c rest =>
      by_cases digit : c.isDigit = true
      · simp only [digit, if_true]
        exact .inl ⟨trivial, .inr (.inl rfl)⟩
      · simp only [digit, Bool.false_eq_true, if_false]
        cases given : Command.ofName? (splitCommand (c :: rest)).1 with
        | none => exact .inl ⟨rfl, .inr (.inr ⟨_, rfl⟩)⟩
        | some command =>
            by_cases run : command = .run
            · subst run
              refine .inr (.inl ⟨_, rfl, ?_⟩)
              cases s.runProgram fuel <;> rfl
            · refine .inr (.inr ⟨command, _, run, rfl, ?_⟩)
              simp only
              rfl

theorem executeHandled (ran : s.execute fuel line = some (r, t)) : Handled fuel s line r t := by
  rcases executeKinds fuel s line with
    ⟨wordless, kinds⟩ | ⟨arg, given, way⟩ | ⟨c, arg, other, given, way⟩
  · have notRun : ¬ IsRun line := by
      rintro ⟨arg, given⟩
      rw [wordless] at given
      cases given
    rcases kinds with way | way | ⟨e, way⟩
    · rw [way] at ran
      cases ran
      exact .blank wordless
    · rw [way] at ran
      have leads := Action.leadsEditLine (s := s) line
      unfold Action.Leads at leads
      rw [Option.some.inj ran] at leads
      cases r with
      | ok done => exact .typed wordless leads
      | error e => exact .refused notRun leads
    · rw [way] at ran
      cases ran
      exact .refused notRun (.nothing s)
  · rw [way] at ran
    obtain ⟨⟨o, after⟩, finished, same⟩ := Option.map_eq_some_iff.mp ran
    cases same
    exact .ran given finished
  · rw [way] at ran
    have leads := Action.leadsCommand (s := s) arg other
    unfold Action.Leads at leads
    rw [Option.some.inj ran] at leads
    cases r with
    | ok done => exact .done given other leads
    | error e =>
        refine .refused ?_ leads
        rintro ⟨arg', run⟩
        rw [given] at run
        cases run
        exact other rfl

theorem executeAnswers (fuel : Nat) (s : Session) (other : ¬ IsRun line) :
    ∃ r t, s.execute fuel line = some (r, t) := by
  rcases executeKinds fuel s line with ⟨_, kinds⟩ | ⟨arg, given, _⟩ | ⟨_, _, _, _, way⟩
  · rcases kinds with way | way | ⟨e, way⟩
    · exact ⟨_, _, way⟩
    · exact ⟨_, _, way⟩
    · exact ⟨_, _, way⟩
  · exact absurd ⟨arg, given⟩ other
  · exact ⟨_, _, way⟩

end Session

inductive CommandError.BeforeRunning : CommandError → Prop where
  | nothing : BeforeRunning (.program .noProgram)
  | unparsed (line : Int) (f : SyntaxFault) : BeforeRunning (.program (.badSyntax line f))

namespace Session

variable {s t : Session} {fuel : Nat} {line : String} {o : Outcome} {e : CommandError}

def idle (s : Session) : Session := { s with host := { s.host with input := none } }

theorem afterRunNothing (s : Session) :
    s.afterRun s.workspace { s.host with input := some ⟨s.input.getD s.source, false, []⟩ } =
      s.idle := by
  cases s with
  | mk workspace source input =>
      cases input <;> rfl

theorem runFaultStamped {w w' : Workspace} {h h' : Host} {code : Code} {err : ProgramError}
    (compiled : w.code = .ok code) (ran : w.run fuel h = some (o, w', h'))
    (failed : o.error? = some err) : ∃ n f, err = .fault n f := by
  rw [runOf compiled] at ran
  obtain ⟨⟨m, ending⟩, finished, same⟩ := Option.map_eq_some_iff.mp ran
  cases same
  obtain ⟨last, _, ended⟩ := Machine.runFinished finished
  obtain ⟨f, stamped⟩ := endsStamped (Machine.stepEnds ended) failed
  exact ⟨_, f, stamped⟩

theorem runRefused (finished : s.runProgram fuel = some (o, t)) (failed : runResult o = .error e)
    (before : e.BeforeRunning) : Talked s.idle t := by
  unfold runProgram at finished
  obtain ⟨⟨o', w, h⟩, ran, rest⟩ := Option.bind_eq_some_iff.mp finished
  cases compiled : s.workspace.code with
  | error err =>
      rw [runUnparsed compiled] at ran
      cases ran
      simp only [afterRunNothing] at rest
      split at rest <;> cases rest
      · exact (Talked.nothing s.idle).writeAll _
      · exact Talked.nothing s.idle
  | ok code =>
      have same : o' = o := by
        simp only at rest
        split at rest <;> cases rest <;> rfl
      subst same
      unfold runResult at failed
      split at failed
      · rename_i err fault
        obtain ⟨n, f, rfl⟩ := runFaultStamped compiled ran fault
        cases failed
        cases before
      · cases failed

theorem failedLineChangesNothing (fuel : Nat) (s : Session) (line : String) :
    (¬ IsRun line → ∃ r t, s.execute fuel line = some (r, t) ∧ ∀ e, r = .error e → Talked s t) ∧
      (IsRun line → ∀ e t, s.execute fuel line = some (.error e, t) → e.BeforeRunning →
        Talked s.idle t) := by
  constructor
  · intro other
    obtain ⟨r, t, ran⟩ := executeAnswers fuel s other
    refine ⟨r, t, ran, ?_⟩
    rintro e rfl
    generalize failed : (.error e : Except CommandError Unit) = r at ran
    cases executeHandled ran with
    | refused _ talked => exact talked
    | ran given finished => exact absurd ⟨_, given⟩ other
    | _ => cases failed
  · rintro ⟨arg, run⟩ e t ran before
    generalize failed : (.error e : Except CommandError Unit) = r at ran
    cases executeHandled ran with
    | refused other _ => exact absurd ⟨arg, run⟩ other
    | ran given finished => exact runRefused finished failed.symm before
    | _ => cases failed

def unsavedUnparsed : Session where
  workspace := ⟨.ofLines [⟨10, "PRINT ("⟩] true, .empty, .empty, .none⟩
  source := .ofText "maybe\n Yes \n" none
  input := none
  echo := true
  host := .idle
  files := ⟨[], [], []⟩
  memory := 0
  prompt := "> "
  keepsHistory := false
  statistics := false
  width := defaultWidth
  filename := ""
  exiting := false
  history := []
  dumps := []

theorem unsavedUnparsedKept :
    (∃ f t, unsavedUnparsed.execute 1 "load lost" = some (.error (.file f), t) ∧
      Talked unsavedUnparsed t ∧ t.source.rest = []) ∧
    ∃ f t, unsavedUnparsed.execute 1 "run" = some (.error (.program (.badSyntax 10 f)), t) ∧
      Talked unsavedUnparsed.idle t := by
  constructor
  · have load : commandOf? "load lost" = some (.load, "lost") := by decide +kernel
    have other : ¬ IsRun "load lost" := by
      rintro ⟨arg, given⟩
      rw [load] at given
      cases given
    obtain ⟨r, t, ran, kept⟩ := (failedLineChangesNothing 1 unsavedUnparsed "load lost").1 other
    have fails : ∃ u, unsavedUnparsed.execute 1 "load lost" =
        some (.error (.file ⟨.open, "lost.bas", .notFound⟩), u) ∧ u.source.rest = [] :=
      ⟨_, rfl, by decide +kernel⟩
    obtain ⟨u, failed, rest⟩ := fails
    rw [ran] at failed
    cases failed
    exact ⟨_, t, ran, kept _ rfl, rest⟩
  · have run : IsRun "run" := ⟨"", by decide +kernel⟩
    have fails : ∃ f t,
        unsavedUnparsed.execute 1 "run" = some (.error (.program (.badSyntax 10 f)), t) :=
      ⟨_, _, rfl⟩
    obtain ⟨f, t, failed⟩ := fails
    exact ⟨f, t, failed,
      (failedLineChangesNothing 1 unsavedUnparsed "run").2 run _ t failed (.unparsed 10 f)⟩

end Session

end LineBasic
