import LineBasic.Proofs.Program.Order
import LineBasic.Session.Basic

/-!
What a session can do to its workspace: whatever is typed, the program stays in order and the
functions stay the same.
-/
namespace LineBasic

def Workspace.InOrder (functions : Functions) (w : Workspace) : Prop :=
  w.functions = functions ∧ Listing.Ascending w.listing.lines

namespace Session

variable {functions : Functions}

@[simp]
theorem writeWorkspace (s : Session) (text : String) : (s.write text).workspace = s.workspace := rfl

@[simp] theorem askWorkspace (s : Session) (prompt : String) :
    (s.ask prompt).2.workspace = s.workspace := by
  unfold ask
  simp only
  split <;> rfl

@[simp] theorem confirmWorkspace (prompt : String) (fuel : Nat) (s : Session) :
    (s.confirm prompt fuel).2.workspace = s.workspace := by
  induction fuel generalizing s with
  | zero => rfl
  | succ fuel ih =>
    have asked := askWorkspace s prompt
    unfold confirm
    split
    · rename_i f after same
      rw [same] at asked
      exact asked
    · rename_i line after same
      rw [same] at asked
      split
      · exact asked
      · exact asked
      · exact asked
      · exact asked
      · rw [ih, writeWorkspace]
        exact asked

end Session

namespace Action

variable {α β : Type} {functions : Functions}

def Keeps (functions : Functions) (x : Action α) : Prop :=
  ∀ s, s.workspace.InOrder functions → (x s).2.workspace.InOrder functions

theorem keepsPure (a : α) : (pure a : Action α).Keeps functions := fun _ kept => kept

theorem keepsFail (e : CommandError) : (fail e : Action α).Keeps functions := fun _ kept => kept

theorem keepsSay (text : String) : (say text).Keeps functions := fun _ kept => kept

theorem keepsBind {x : Action α} {k : α → Action β} (first : x.Keeps functions)
    (rest : ∀ a, (k a).Keeps functions) : (x >>= k).Keeps functions := by
  intro s kept
  have unfolded : (x >>= k) s = ExceptT.bindCont k (x s).1 (x s).2 := rfl
  have before := first s kept
  rw [unfolded]
  cases (x s).1 with
  | ok a => exact rest a _ before
  | error e => exact before

theorem keepsGet {k : Session → Action β}
    (rest : ∀ now, now.workspace.InOrder functions → (k now).Keeps functions) :
    (get >>= k).Keeps functions := fun s kept => rest s kept s kept

theorem keepsModify {f : Session → Session}
    (kept : ∀ s, s.workspace.InOrder functions → (f s).workspace.InOrder functions) :
    (modify f : Action PUnit).Keeps functions := fun s before => kept s before

theorem keepsSayLines (lines : List String) : (sayLines lines).Keeps functions := by
  induction lines with
  | nil => exact keepsPure _
  | cons line rest ih => exact keepsBind (keepsSay _) fun _ => ih

theorem keepsSetListing {p : Listing} (ordered : Listing.Ascending p.lines) :
    (setListing p).Keeps functions := fun _ kept => ⟨kept.1, ordered⟩

theorem keepsCheckModified : checkModified.Keeps functions := by
  intro s kept
  unfold checkModified
  split
  · have same := Session.confirmWorkspace "Discard modified program (yes/no)? "
      (s.source.rest.length + 2) s
    split <;> rename_i answered <;> rw [answered] at same <;> simp only at same ⊢ <;> rw [same] <;>
      exact kept
  · exact kept

theorem keepsEditLine (line : String) : (editLine line).Keeps functions := by
  refine keepsGet fun now kept => ?_
  cases splitLine line with
  | error f => exact keepsFail _
  | ok l =>
      simp only
      split
      · have ordered := Listing.deleteAscending l.number kept.2
        generalize now.workspace.listing.delete l.number = result at ordered ⊢
        obtain ⟨found, p⟩ := result
        cases found with
        | true => exact keepsSetListing ordered
        | false => exact keepsFail _
      · cases stored : now.workspace.listing.set l.number l.text with
        | ok p => exact keepsSetListing (Listing.setAscending stored kept.2)
        | error f => exact keepsFail _

theorem keepsParseRange (text : String) : (parseRange text).Keeps functions := by
  unfold parseRange
  cases LineRange.parse text with
  | ok r => exact keepsPure r
  | error f => exact keepsFail _

theorem keepsDelete (arg : String) : (delete arg).Keeps functions := by
  unfold delete
  split
  · exact keepsFail _
  · refine keepsBind (keepsParseRange arg) fun r => ?_
    refine keepsGet fun now kept => ?_
    simp only
    split
    · exact keepsFail _
    · exact keepsSetListing (Listing.deleteAllAscending _ kept.2)

theorem keepsList (arg : String) : (list arg).Keeps functions := by
  unfold list
  split
  · exact keepsBind (keepsPure _) fun _ => keepsGet fun _ _ => keepsSayLines _
  · exact keepsBind (keepsParseRange arg) fun _ => keepsGet fun _ _ => keepsSayLines _

theorem keepsBye : bye.Keeps functions :=
  keepsBind keepsCheckModified fun _ => keepsModify fun _ kept => kept

theorem keepsNew : new.Keeps functions :=
  keepsBind keepsCheckModified fun _ => keepsModify fun _ kept => ⟨kept.1, List.Pairwise.nil⟩

theorem readProgramLoads {files : Files} {name : String} {p : Listing}
    (ok : files.readProgram name = .ok p) : ∃ text, Listing.load text = .ok p := by
  unfold Files.readProgram at ok
  split at ok
  · cases ok
  · split at ok
    · split at ok <;> cases ok
    · split at ok
      · cases ok
      · rename_i loaded
        cases ok
        exact ⟨_, loaded⟩

theorem readProgramAscending {files : Files} {name : String} {p : Listing}
    (ok : files.readProgram name = .ok p) : Listing.Ascending p.lines := by
  obtain ⟨text, loaded⟩ := readProgramLoads ok
  exact Listing.loadAscending loaded

theorem keepsLoad (arg : String) : (load arg).Keeps functions := by
  refine keepsBind keepsCheckModified fun _ => ?_
  cases programFilename arg with
  | error f => exact keepsFail _
  | ok name =>
      refine keepsGet fun now _ => ?_
      cases read : now.files.readProgram name with
      | error e => exact keepsFail _
      | ok p =>
          have install : (modify fun s : Session =>
              { s with workspace := s.workspace.install p, filename := name } :
                Action PUnit).Keeps functions :=
            keepsModify fun _ kept => ⟨kept.1, readProgramAscending read⟩
          simp only
          split
          · exact keepsBind (keepsSay _) fun _ => install
          · exact install

theorem keepsSaveName (arg : String) : (saveName arg).Keeps functions := by
  unfold saveName
  split
  · exact keepsGet fun _ _ => keepsPure _
  · cases programFilename arg with
    | ok name => exact keepsPure _
    | error f => exact keepsFail _

theorem keepsSave (arg : String) : (save arg).Keeps functions := by
  refine keepsBind (keepsSaveName arg) fun name => ?_
  refine keepsGet fun now kept => ?_
  simp only
  split
  · exact keepsFail _
  · split
    · exact keepsFail _
    · cases now.files.write name now.workspace.listing.save with
      | error f => exact keepsFail _
      | ok files =>
          exact keepsBind (keepsModify fun _ kept => kept) fun _ => keepsSetListing kept.2

theorem keepsTraceWords (o : Options) (words : List String) :
    (traceWords o words).Keeps functions := by
  induction words generalizing o with
  | nil => exact keepsPure _
  | cons word rest ih =>
      unfold traceWords
      cases traceWord o word with
      | error e => exact keepsFail _
      | ok changed => exact keepsBind (keepsSay _) fun _ => ih _

theorem keepsTrace (arg : String) : (trace arg).Keeps functions := by
  unfold trace
  simp only
  split
  · exact keepsFail _
  · refine keepsGet fun now _ => ?_
    exact keepsBind (keepsTraceWords _ _) fun _ => keepsModify fun _ kept => kept

theorem keepsHelp (arg : String) : (help arg).Keeps functions := by
  unfold help
  split
  · exact keepsGet fun _ _ => keepsSayLines _
  · cases Command.ofName? arg with
    | none => exact keepsFail _
    | some c =>
        refine keepsBind (keepsSayLines _) fun _ => ?_
        split
        · exact keepsSay _
        · exact keepsPure _

theorem keepsEmitDump (d : Dump) : (emitDump d).Keeps functions :=
  keepsModify fun _ kept => kept

theorem keepsDumpProgram : dumpProgram.Keeps functions := by
  refine keepsGet fun now _ => ?_
  cases dumpedLines now.workspace with
  | error e => exact keepsFail _
  | ok lines => exact keepsEmitDump _

theorem keepsDumpLine (n : Int) : (dumpLine n).Keeps functions := by
  refine keepsGet fun now _ => ?_
  simp only
  cases now.workspace.listing.lookup? n with
  | none => exact keepsFail _
  | some text =>
      simp only
      cases parseLine now.workspace.functions.has text with
      | error f => exact keepsFail _
      | ok body => exact keepsEmitDump _

theorem keepsDump (arg : String) : (dump arg).Keeps functions := by
  unfold dump
  split
  · exact keepsBind keepsDumpProgram fun _ => keepsGet fun _ _ => keepsEmitDump _
  · cases LineRange.readBound arg.toList with
    | error f => exact keepsFail _
    | ok n => exact keepsDumpLine n

theorem keepsToggleStatistics : toggleStatistics.Keeps functions :=
  keepsBind (keepsModify fun _ kept => kept) fun _ => keepsGet fun _ _ => keepsSay _

theorem keepsCommand (arg : String) (command : Command) :
    (Action.command arg command).Keeps functions := by
  cases command with
  | bye => exact keepsBye
  | delete => exact keepsDelete arg
  | dump => exact keepsDump arg
  | help => exact keepsHelp arg
  | list => exact keepsList arg
  | load => exact keepsLoad arg
  | new => exact keepsNew
  | save => exact keepsSave arg
  | stats => exact keepsToggleStatistics
  | trace => exact keepsTrace arg
  | run => exact keepsPure _

end Action

namespace Workspace

variable {w w' : Workspace} {h h' : Host} {fuel : Nat} {o : Outcome}

theorem runKeepsProgram (ran : w.run fuel h = some (o, w', h')) :
    w'.listing = w.listing ∧ w'.functions = w.functions := by
  unfold run at ran
  cases compiled : w.code with
  | error e =>
      simp only [compiled] at ran
      cases ran
      exact ⟨rfl, rfl⟩
  | ok code =>
      simp only [compiled] at ran
      obtain ⟨⟨m, ending⟩, _, same⟩ := Option.bind_eq_some_iff.mp ran
      cases same
      exact ⟨rfl, rfl⟩

end Workspace

namespace Session

variable {functions : Functions} {s s' : Session} {fuel : Nat}

@[simp] theorem writeAllWorkspace (texts : List String) (s : Session) :
    (s.writeAll texts).workspace = s.workspace := by
  unfold writeAll
  induction texts generalizing s with
  | nil => rfl
  | cons text rest ih =>
      rw [List.foldl_cons, ih]
      rfl

@[simp] theorem afterRunWorkspace (s : Session) (w : Workspace) (h : Host) :
    (s.afterRun w h).workspace = w := by
  unfold afterRun
  simp only
  split <;> rfl

theorem runProgramKeeps {o : Outcome} (ran : s.runProgram fuel = some (o, s'))
    (kept : s.workspace.InOrder functions) : s'.workspace.InOrder functions := by
  unfold runProgram at ran
  obtain ⟨⟨o', w, h⟩, finished, rest⟩ := Option.bind_eq_some_iff.mp ran
  obtain ⟨listing, same⟩ := Workspace.runKeepsProgram finished
  have after : w.InOrder functions := by
    unfold Workspace.InOrder
    rw [listing, same]
    exact kept
  simp only at rest
  split at rest <;> cases rest
  · rw [writeAllWorkspace, afterRunWorkspace]
    exact after
  · rw [afterRunWorkspace]
    exact after

theorem executeKeeps {line : String} {r : Except CommandError Unit}
    (ran : s.execute fuel line = some (r, s')) (kept : s.workspace.InOrder functions) :
    s'.workspace.InOrder functions := by
  unfold execute at ran
  simp only at ran
  split at ran
  · cases ran
    exact kept
  · split at ran
    · have edited := Action.keepsEditLine line s kept
      have same : Action.editLine line s = (r, s') := Option.some.inj ran
      rw [same] at edited
      exact edited
    · split at ran
      · cases ran
        exact kept
      · obtain ⟨⟨o, after⟩, ran', same⟩ := Option.bind_eq_some_iff.mp ran
        cases same
        exact runProgramKeeps ran' kept
      · rename_i command _ _
        have done :=
          Action.keepsCommand (splitCommand (Text.trimChars line.toList)).2 command s kept
        have same : Action.command (splitCommand (Text.trimChars line.toList)).2 command s =
            (r, s') := Option.some.inj ran
        rw [same] at done
        exact done

/- A session that started without a program and has handled some lines since. Between two lines
everything but the workspace may have become something else. -/
inductive Used (functions : Functions) : Session → Prop where
  | fresh {s : Session} {options} (new : s.workspace = Workspace.new functions options) :
      Used functions s
  | typed {s s' : Session} {fuel line r} (before : Used functions s)
      (ran : s.execute fuel line = some (r, s')) : Used functions s'
  | apart {s s' : Session} (before : Used functions s) (same : s'.workspace = s.workspace) :
      Used functions s'

theorem usedInOrder (used : Used functions s) : s.workspace.InOrder functions := by
  induction used with
  | fresh new =>
      rw [new]
      exact ⟨rfl, List.Pairwise.nil⟩
  | typed before ran ih => exact executeKeeps ran ih
  | apart before same ih =>
      rw [same]
      exact ih

end Session

end LineBasic
