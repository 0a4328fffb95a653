import LineBasic.Proofs.Host.Files
import LineBasic.Proofs.Session.Unsaved

/-!
Whole sessions, line after line. A program that does not count as changed has the lines it had when
it was last started, loaded or saved, and what was saved stands in its file.
-/
namespace LineBasic

def Command.settles : Command → Bool
  | .new => true
  | .load => true
  | .save => true
  | _ => false

namespace Session

structure Turn where
  before : Session
  line : String
  result : Except CommandError Unit
  after : Session

def Turn.settles (turn : Turn) : Bool :=
  match turn.result, commandOf? turn.line with
  | .ok _, some (c, _) => c.settles
  | _, _ => false

def latest (start : Session) (past : List Turn) : Session := (past.head?.map Turn.after).getD start

def settled (start : Session) (past : List Turn) : Session :=
  ((past.find? Turn.settles).map Turn.after).getD start

/- The lines a session has handled, the newest first. Between two of them it may read, write and
keep what it likes, but its workspace is left alone. -/
inductive History (start : Session) : List Turn → Prop where
  | opened : History start []
  | next {turn : Turn} {past : List Turn} {fuel : Nat} (earlier : History start past)
      (same : turn.before.workspace = (latest start past).workspace)
      (ran : turn.before.execute fuel turn.line = some (turn.result, turn.after)) :
      History start (turn :: past)

structure Saved (s : Session) (arg : String) (t : Session) : Prop where
  lines : t.workspace.listing.lines = s.workspace.listing.lines
  named : arg = "" ∧ t.filename = s.filename ∨ programFilename arg = .ok t.filename
  contents : t.files.read t.filename = .ok t.workspace.listing.save

variable {start s t : Session} {turn : Turn} {past : List Turn} {fuel : Nat} {line arg : String}
  {c : Command} {r : Except CommandError Unit} {lines : List Line}

theorem settlesExact : turn.settles = true ↔
    turn.result = .ok () ∧ ∃ c arg, commandOf? turn.line = some (c, arg) ∧ c.settles = true := by
  unfold Turn.settles
  cases turn.result with
  | error e => simp
  | ok done =>
      cases commandOf? turn.line with
      | none => simp
      | some given =>
          obtain ⟨c, arg⟩ := given
          simp

theorem showsUnsettled : shows c = true → c.settles = false := by
  cases c <;> decide

theorem doneSettles (done : Done s arg c t) (settles : c.settles = true) :
    t.workspace.listing.modified = false := by
  cases done with
  | bye agreed => cases settles
  | new agreed => rfl
  | load agreed named read =>
      obtain ⟨text, loaded⟩ := Action.readProgramLoads read
      obtain ⟨q, _, rfl⟩ := Listing.loadAdded loaded
      rfl
  | delete range found => cases settles
  | save named written => rfl
  | shown only aside =>
      rw [showsUnsettled only] at settles
      cases settles

theorem doneUnsettled (done : Done s arg c t) (unsettled : c.settles = false) :
    t.workspace.listing = s.workspace.listing ∨ t.workspace.listing.modified = true := by
  cases done with
  | bye agreed => exact .inl (congrArg Workspace.listing agreed.talked.kept.1)
  | new agreed => cases unsettled
  | load agreed named read => cases unsettled
  | delete range found => exact .inr (Listing.deleteBetweenModified found)
  | save named written => cases unsettled
  | shown only aside => exact .inl aside.listing

theorem doneSaves (done : Done s arg .save t) : Saved s arg t := by
  cases done with
  | save named written => exact ⟨rfl, named, Files.readWritten written⟩
  | shown only => cases only

section Turns

variable (ran : turn.before.execute fuel turn.line = some (turn.result, turn.after))

include ran

theorem turnSettles (settles : turn.settles = true) :
    turn.after.workspace.listing.modified = false := by
  obtain ⟨done, c, arg, given, settling⟩ := settlesExact.mp settles
  rw [done] at ran
  have other : c ≠ .run := by
    rintro rfl
    cases settling
  exact doneSettles (executeDone ran given other) settling

theorem turnUnsettled (other : turn.settles = false) :
    turn.after.workspace.listing = turn.before.workspace.listing ∨
      turn.after.workspace.listing.modified = true := by
  rcases executeRevises ran with ⟨c, arg, given, _, ok, done⟩ | ⟨_, revised, _⟩
  · exact doneUnsettled done (by simpa [Turn.settles, ok, given] using other)
  · exact revised.flagged

end Turns

theorem historySettled (history : History start past)
    (unchanged : (latest start past).workspace.listing.modified = false) :
    (latest start past).workspace.listing.lines = (settled start past).workspace.listing.lines := by
  induction history with
  | opened => rfl
  | @next turn past fuel earlier same ran ih =>
      cases settles : turn.settles with
      | true => simp [latest, settled, settles]
      | false =>
          have before : settled start (turn :: past) = settled start past := by
            simp [settled, settles]
          rcases turnUnsettled ran settles with kept | changed
          · rw [same] at kept
            have now : (latest start (turn :: past)).workspace.listing =
                (latest start past).workspace.listing := kept
            rw [now] at unchanged ⊢
            rw [before]
            exact ih unchanged
          · have now : (latest start (turn :: past)).workspace.listing.modified = true := changed
            rw [now] at unchanged
            cases unchanged

theorem historyTurn (history : History start past) (member : turn ∈ past) :
    ∃ fuel, turn.before.execute fuel turn.line = some (turn.result, turn.after) := by
  induction history with
  | opened => cases member
  | next earlier same ran ih =>
      rcases List.mem_cons.mp member with rfl | old
      · exact ⟨_, ran⟩
      · exact ih old

theorem unchangedSinceSettled (history : History start past) :
    ((latest start past).workspace.listing.modified = false →
      (latest start past).workspace.listing.lines = (settled start past).workspace.listing.lines) ∧
    ∀ turn ∈ past, (turn.settles = true → turn.after.workspace.listing.modified = false) ∧
      ∀ arg, commandOf? turn.line = some (.save, arg) → turn.result = .ok () →
        Saved turn.before arg turn.after := by
  refine ⟨historySettled history, ?_⟩
  intro turn member
  obtain ⟨fuel, ran⟩ := historyTurn history member
  refine ⟨turnSettles ran, ?_⟩
  intro arg given done
  rw [done] at ran
  exact doneSaves (executeDone ran given nofun)

def blank : Session :=
  { unsavedUnparsed with workspace := .new .empty .none, source := .ofText "" none }

def noted : Session := blank.holding (.ofLines [⟨10, "END"⟩] true)

def filed : Session where
  __ := blank.holding (.ofLines [⟨10, "END"⟩] false)
  files := ⟨[], [], [(["notes.bas"], "10 END\n")]⟩
  filename := "notes.bas"

def notes : List Turn :=
  [⟨filed, "list", .ok (), filed.write "10 END\n"⟩, ⟨noted, "save notes", .ok (), filed⟩,
    ⟨blank, "10 END", .ok (), noted⟩]

theorem notesSettled :
    History blank notes ∧
      (latest blank notes).workspace.listing.lines = (settled blank notes).workspace.listing.lines ∧
      Saved noted "notes" filed := by
  have typed : blank.execute 1 "10 END" = some (.ok (), noted) := rfl
  have saved : noted.execute 1 "save notes" = some (.ok (), filed) := rfl
  have listed : filed.execute 1 "list" = some (.ok (), filed.write "10 END\n") := rfl
  have history : History blank notes :=
    .next (.next (.next .opened rfl typed) rfl saved) rfl listed
  have named : commandOf? "save notes" = some (.save, "notes") := by decide +kernel
  obtain ⟨unchanged, turns⟩ := unchangedSinceSettled history
  refine ⟨history, unchanged rfl, ?_⟩
  exact (turns ⟨noted, "save notes", .ok (), filed⟩ (by simp [notes])).2 "notes" named rfl

end Session

end LineBasic
