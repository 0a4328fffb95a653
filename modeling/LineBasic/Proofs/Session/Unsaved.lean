import LineBasic.Proofs.Session.Commands

/-!
Work that has not been saved. Lines are put in and taken out without a question, but only a yes
makes a session give up a changed program as a whole.
-/
namespace LineBasic

namespace Listing

/- What can become of a program that is worked on: it stays as it is, a line is put in or
taken out, or a range of lines is taken out. -/
inductive Revised (p : Listing) : Listing → Prop where
  | same : Revised p p
  | put (l : Line) : Revised p (p.put l)
  | erased (n : Int) : Revised p (p.delete n).2
  | taken {low high : Int} (found : p.between low high ≠ []) :
      Revised p (p.deleteAll (p.between low high))

variable {p q : Listing}

theorem Revised.flagged (revised : Revised p q) : q = p ∨ q.modified = true := by
  cases revised with
  | same => exact .inl rfl
  | put l => exact .inr putModified
  | erased n =>
      cases there : p.has n with
      | true => exact .inr (by simp [there])
      | false => exact .inl (by rw [deleteNothing there])
  | taken found => exact .inr (deleteBetweenModified found)

end Listing

def Command.discards : Command → Bool
  | .bye => true
  | .new => true
  | .load => true
  | _ => false

namespace Action

variable {s : Session} {c : Command}

theorem discardsRefused (arg : String) (gives : c.discards = true)
    (unsaved : s.workspace.listing.modified = true) (refuses : s.source.Refuses) :
    ∃ t, command arg c s = (.error .notSaved, t) := by
  obtain ⟨answers, r, settled⟩ := LineReader.answersNo refuses
  obtain ⟨h, _, asked⟩ := checkModifiedAsks unsaved settled
  have first : ∃ k, command arg c = checkModified >>= k := by
    cases c with
    | bye => exact ⟨_, rfl⟩
    | new => exact ⟨_, rfl⟩
    | load => exact ⟨_, rfl⟩
    | _ => cases gives
  obtain ⟨k, first⟩ := first
  have unfolded : (checkModified >>= k) s =
      ExceptT.bindCont k (checkModified s).1 (checkModified s).2 := rfl
  rw [first, unfolded, asked]
  exact ⟨_, rfl⟩

end Action

namespace Session

open Listing (Revised)

variable {s t : Session} {fuel : Nat} {line arg : String} {c : Command} {o : Outcome}
  {r : Except CommandError Unit}

@[simp] theorem afterRunExiting (s : Session) (w : Workspace) (h : Host) :
    (s.afterRun w h).exiting = s.exiting := by
  unfold afterRun
  simp only
  split <;> rfl

theorem runProgramLeaves (finished : s.runProgram fuel = some (o, t)) :
    t.workspace.listing = s.workspace.listing ∧ t.exiting = s.exiting := by
  unfold runProgram at finished
  obtain ⟨⟨o', w, h⟩, ran, rest⟩ := Option.bind_eq_some_iff.mp finished
  have listing := (Workspace.runKeepsProgram ran).1
  have program : (s.afterRun w h).workspace.listing = s.workspace.listing := by
    rw [afterRunWorkspace, listing]
  simp only at rest
  split at rest <;> cases rest
  · obtain ⟨workspace, exiting⟩ := ((Talked.nothing (s.afterRun w h)).writeAll _).kept
    rw [workspace, exiting]
    exact ⟨program, afterRunExiting s w h⟩
  · exact ⟨program, afterRunExiting s w h⟩

theorem showsKeeps : shows c = true → c.discards = false := by
  cases c <;> decide

theorem doneConsents (done : Done s arg c t) (gives : c.discards = true)
    (unsaved : s.workspace.listing.modified = true) : s.source.Consents t.source := by
  cases done with
  | bye agreed => exact agreed.consents unsaved
  | new agreed => exact agreed.consents unsaved
  | load agreed named read => exact agreed.consents unsaved
  | delete => cases gives
  | save => cases gives
  | shown only aside =>
      rw [showsKeeps only] at gives
      cases gives

theorem doneRevises (done : Done s arg c t) (keeps : c.discards = false) (other : c ≠ .save) :
    Revised s.workspace.listing t.workspace.listing ∧ t.exiting = s.exiting := by
  cases done with
  | bye agreed => cases keeps
  | new agreed => cases keeps
  | load agreed named read => cases keeps
  | delete range found => exact ⟨.taken found, rfl⟩
  | save named written => exact absurd rfl other
  | shown only aside => exact ⟨aside.listing ▸ .same, aside.exiting⟩

theorem executeRevises (ran : s.execute fuel line = some (r, t)) :
    (∃ c arg, commandOf? line = some (c, arg) ∧ (c.discards = true ∨ c = .save) ∧ r = .ok () ∧
      Done s arg c t) ∨
    ((∀ c arg, commandOf? line = some (c, arg) → r = .ok () → c.discards = false ∧ c ≠ .save) ∧
      Revised s.workspace.listing t.workspace.listing ∧ t.exiting = s.exiting) := by
  cases executeHandled ran with
  | blank wordless => exact .inr ⟨by simp [wordless], .same, rfl⟩
  | refused other talked =>
      obtain ⟨workspace, exiting⟩ := talked.kept
      refine .inr ⟨?_, workspace ▸ .same, exiting⟩
      intro c arg _ done
      cases done
  | typed wordless typed =>
      refine .inr ⟨by simp [wordless], ?_⟩
      cases typed with
      | put split given => exact ⟨.put _, rfl⟩
      | erased split blank found => exact ⟨.erased _, rfl⟩
  | @done c arg _ given other done =>
      by_cases kind : c.discards = true ∨ c = .save
      · exact .inl ⟨c, arg, given, kind, rfl, done⟩
      · rw [not_or, Bool.not_eq_true] at kind
        refine .inr ⟨?_, doneRevises done kind.1 kind.2⟩
        intro c' arg' given' _
        rw [given] at given'
        cases given'
        exact kind
  | ran given finished =>
      obtain ⟨listing, exiting⟩ := runProgramLeaves finished
      refine .inr ⟨?_, listing ▸ .same, exiting⟩
      intro c' arg' given' _
      rw [given] at given'
      cases given'
      exact ⟨rfl, nofun⟩

theorem executeCommand (given : commandOf? line = some (c, arg)) (other : c ≠ .run) :
    s.execute fuel line = some (Action.command arg c s) := by
  rcases executeKinds fuel s line with ⟨wordless, _⟩ | ⟨_, run, _⟩ | ⟨c', arg', _, given', way⟩
  · rw [wordless] at given
    cases given
  · rw [run] at given
    cases given
    exact absurd rfl other
  · rw [given'] at given
    cases given
    exact way

theorem executeDone (ran : s.execute fuel line = some (.ok (), t))
    (given : commandOf? line = some (c, arg)) (other : c ≠ .run) : Done s arg c t := by
  have leads := Action.leadsCommand (s := s) arg other
  rw [executeCommand given other] at ran
  rw [Action.Leads, Option.some.inj ran] at leads
  exact leads

def Discards (line : String) : Prop := ∃ c arg, commandOf? line = some (c, arg) ∧ c.discards = true

def Kept (s t : Session) : Prop :=
  Revised s.workspace.listing t.workspace.listing ∨ t.workspace.listing = s.workspace.listing.saved

theorem executeConsents (unsaved : s.workspace.listing.modified = true)
    (ran : s.execute fuel line = some (r, t)) :
    s.source.Consents t.source ∨
      (t.exiting = s.exiting ∧ Kept s t ∧ (r = .ok () → ¬ Discards line)) := by
  rcases executeRevises ran with ⟨c, arg, given, kind, rfl, done⟩ | ⟨small, revised, exiting⟩
  · rcases kind with gives | rfl
    · exact .inl (doneConsents done gives unsaved)
    · refine .inr ?_
      cases done with
      | save named written =>
          refine ⟨rfl, .inr rfl, ?_⟩
          rintro _ ⟨c, arg', given', gives⟩
          rw [given] at given'
          cases given'
          cases gives
      | shown only aside => cases only
  · refine .inr ⟨exiting, .inl revised, ?_⟩
    rintro done ⟨c, arg, given, gives⟩
    rw [(small c arg given done).1] at gives
    cases gives

/- Lines may go one by one without a question, all of them even, and a program may be saved. But no
session ends, no NEW or LOAD is done and no other program takes the place of this one unless the
first clear answer is a yes. -/
theorem unsavedNeedsYes (fuel : Nat) (line : String)
    (unsaved : s.workspace.listing.modified = true) :
    (∀ r t, s.execute fuel line = some (r, t) →
      (s.exiting = false ∧ t.exiting = true) ∨ (r = .ok () ∧ Discards line) ∨ ¬ Kept s t →
      s.source.Consents t.source) ∧
    (Discards line → s.source.Refuses → ∃ t, s.execute fuel line = some (.error .notSaved, t)) ∧
    CommandError.notSaved.message = "Please save the current program first" := by
  refine ⟨?_, ?_, rfl⟩
  · intro r t ran lost
    rcases executeConsents unsaved ran with consents | ⟨exiting, kept, other⟩
    · exact consents
    · rcases lost with ⟨stays, exits⟩ | ⟨done, discards⟩ | changed
      · rw [exiting, stays] at exits
        cases exits
      · exact absurd discards (other done)
      · exact absurd kept changed
  · rintro ⟨c, arg, given, gives⟩ refuses
    obtain ⟨t, refused⟩ := Action.discardsRefused arg gives unsaved refuses
    have other : c ≠ .run := by
      rintro rfl
      cases gives
    exact ⟨t, (executeCommand given other).trans (congrArg some refused)⟩

def doubtful : Session := { unsavedUnparsed with source := .ofText "why?\n N \nyes\n" none }

theorem unsavedLeftOnYes :
    (∃ t, unsavedUnparsed.execute 1 "quit" = some (.ok (), t) ∧ t.exiting = true ∧
      unsavedUnparsed.source.Consents t.source) ∧
    ∃ t, doubtful.execute 1 "old other" = some (.error .notSaved, t) := by
  constructor
  · have quits : ∃ t, unsavedUnparsed.execute 1 "quit" = some (.ok (), t) ∧ t.exiting = true :=
      ⟨_, rfl, rfl⟩
    obtain ⟨t, ran, exits⟩ := quits
    exact ⟨t, ran, exits, (unsavedNeedsYes 1 "quit" rfl).1 _ t ran (.inl ⟨rfl, exits⟩)⟩
  · have discards : Discards "old other" := ⟨.load, "other", by decide +kernel, rfl⟩
    have refuses : doubtful.source.Refuses := by
      refine ⟨["why?"], _, .line rfl (.nothing _), ?_, .inl ⟨" N ", _, rfl, ?_⟩⟩
      · simp only [List.mem_singleton, forall_eq, Unclear, saysYesLower, saysNoLower]
        decide +kernel
      · rw [saysNoLower]
        decide +kernel
    exact (unsavedNeedsYes 1 "old other" rfl).2.1 discards refuses

end Session

end LineBasic
