import Mathlib.Data.List.Forall2
import LineBasic.Session.Basic

/-!
What is said between a session and the one who types: the texts it writes, and the answers it takes
from its source when it has a question. A question is settled by the first answer that is a yes or a
no, and a source that has no further line says no.
-/
namespace LineBasic

open Text

section Words

def Spells (word text : String) : Prop :=
  List.Forall₂ (fun w c => c = w ∨ c = w.toUpper) word.toList text.toList

def SaysYes (answer : Bytes) : Prop :=
  Spells "yes" (trim answer.toText) ∨ Spells "y" (trim answer.toText)

def SaysNo (answer : Bytes) : Prop :=
  Spells "no" (trim answer.toText) ∨ Spells "n" (trim answer.toText)

def Unclear (answer : Bytes) : Prop := ¬ SaysYes answer ∧ ¬ SaysNo answer

theorem lowerLetter {w c : Char} (letter : w.isLower = true) :
    c.toLower = w ↔ c = w ∨ c = w.toUpper := by
  delta Char.isLower at letter
  delta Char.toLower Char.toUpper
  simp only [Bool.and_eq_true, decide_eq_true_eq] at letter
  simp only [dif_pos letter]
  simp only [Char.ext_iff, ← UInt32.toNat_inj, UInt32.toNat_add]
  split <;> grind [UInt32.toNat_add, UInt32.le_iff_toNat_le]

theorem lowerLetters {word cs : List Char} (letters : word.all Char.isLower = true) :
    cs.map Char.toLower = word ↔ List.Forall₂ (fun w c => c = w ∨ c = w.toUpper) word cs := by
  induction word generalizing cs with
  | nil => simp
  | cons w word ih =>
      rw [List.all_cons, Bool.and_eq_true] at letters
      obtain ⟨first, others⟩ := letters
      cases cs with
      | nil => simp
      | cons c cs => simp [lowerLetter first, ih others]

theorem lowerSpells {word text : String} (letters : word.toList.all Char.isLower = true) :
    lowerAscii text = word ↔ Spells word text := by
  rw [Spells, ← lowerLetters letters, lowerAscii, ← String.toList_inj, String.toList_ofList]

theorem saysYesLower {answer : Bytes} : SaysYes answer ↔
    lowerAscii (trim answer.toText) = "yes" ∨ lowerAscii (trim answer.toText) = "y" := by
  rw [lowerSpells (by decide), lowerSpells (by decide)]
  rfl

theorem saysNoLower {answer : Bytes} : SaysNo answer ↔
    lowerAscii (trim answer.toText) = "no" ∨ lowerAscii (trim answer.toText) = "n" := by
  rw [lowerSpells (by decide), lowerSpells (by decide)]
  rfl

end Words

namespace LineReader

inductive Takes : LineReader → List Bytes → LineReader → Prop where
  | nothing (r : LineReader) : Takes r [] r
  | line {r r' r'' : LineReader} {a : Bytes} {rest : List Bytes}
      (read : r.readLine = (.ok a, r')) (more : Takes r' rest r'') : Takes r (a :: rest) r''

inductive Answers : LineReader → List Bytes → Bool → LineReader → Prop where
  | yes {r r' : LineReader} {a : Bytes} (read : r.readLine = (.ok a, r')) (clear : SaysYes a) :
      Answers r [a] true r'
  | no {r r' : LineReader} {a : Bytes} (read : r.readLine = (.ok a, r')) (clear : SaysNo a) :
      Answers r [a] false r'
  | silence {r r' : LineReader} {f : ReadFault} (read : r.readLine = (.error f, r')) :
      Answers r [] false r'
  | again {r r' r'' : LineReader} {a : Bytes} {rest : List Bytes} {b : Bool}
      (read : r.readLine = (.ok a, r')) (unclear : Unclear a)
      (more : Answers r' rest b r'') : Answers r (a :: rest) b r''

/- The lines from one source to the other are answers of which the last is the first clear one, and
a yes. -/
def Consents (r r' : LineReader) : Prop :=
  ∃ earlier last, r.Takes (earlier ++ [last]) r' ∧ SaysYes last ∧ ∀ a ∈ earlier, Unclear a

def Refuses (r : LineReader) : Prop :=
  ∃ earlier r', r.Takes earlier r' ∧ (∀ a ∈ earlier, Unclear a) ∧
    ((∃ a r'', r'.readLine = (.ok a, r'') ∧ SaysNo a) ∨ ∃ f r'', r'.readLine = (.error f, r''))

variable {r r' : LineReader} {a : Bytes} {answers : List Bytes} {b : Bool}

theorem readLineShorter (read : r.readLine = (.ok a, r')) : r'.rest.length < r.rest.length := by
  unfold readLine at read
  simp only at read
  split at read
  · rename_i dropped
    cases read
    have lengths := congrArg List.length dropped
    simp only [List.length_drop, List.length_cons] at lengths
    simp only
    omega
  · split at read
    · cases read
    · split at read
      · cases read
      · rename_i nonempty
        cases read
        cases whole : r.rest with
        | nil => simp [whole] at nonempty
        | cons c rest => simp

theorem answersYes (settled : Answers r answers true r') : r.Consents r' := by
  generalize same : true = b at settled
  induction settled with
  | yes read clear => exact ⟨[], _, .line read (.nothing _), clear, by simp⟩
  | no read clear => cases same
  | silence read => cases same
  | again read unclear more ih =>
      obtain ⟨earlier, last, takes, clear, others⟩ := ih same
      exact ⟨_ :: earlier, last, .line read takes, clear,
        List.forall_mem_cons.mpr ⟨unclear, others⟩⟩

theorem answersNo (refuses : r.Refuses) : ∃ answers r', Answers r answers false r' := by
  obtain ⟨earlier, r', takes, unclear, settled⟩ := refuses
  induction takes with
  | nothing r =>
      rcases settled with ⟨a, r'', read, clear⟩ | ⟨f, r'', read⟩
      · exact ⟨[a], r'', .no read clear⟩
      · exact ⟨[], r'', .silence read⟩
  | line read more ih =>
      obtain ⟨first, others⟩ := List.forall_mem_cons.mp unclear
      obtain ⟨answers, r'', rest⟩ := ih others settled
      exact ⟨_ :: answers, r'', .again read first rest⟩

theorem answersShort (settled : Answers r answers b r') : answers.length ≤ r.rest.length := by
  induction settled with
  | yes read clear => exact Nat.lt_of_le_of_lt (Nat.zero_le _) (readLineShorter read)
  | no read clear => exact Nat.lt_of_le_of_lt (Nat.zero_le _) (readLineShorter read)
  | silence read => exact Nat.zero_le _
  | again read unclear more ih => exact Nat.lt_of_le_of_lt ih (readLineShorter read)

theorem answersExist (r : LineReader) : ∃ answers b r', Answers r answers b r' := by
  induction size : r.rest.length using Nat.strongRecOn generalizing r with
  | ind n ih =>
      cases next : r.readLine with
      | mk result r' =>
          cases result with
          | error f => exact ⟨[], false, r', .silence next⟩
          | ok a =>
              by_cases yes : SaysYes a
              · exact ⟨[a], true, r', .yes next yes⟩
              · by_cases no : SaysNo a
                · exact ⟨[a], false, r', .no next no⟩
                · obtain ⟨answers, b, r'', more⟩ := ih _ (size ▸ readLineShorter next) r' rfl
                  exact ⟨a :: answers, b, r'', .again next ⟨yes, no⟩ more⟩

end LineReader

inductive Host.Wrote (h : Host) : Host → Prop where
  | nothing : Wrote h h
  | text {h' : Host} (before : Wrote h h') (purpose : Purpose) (text : Bytes) :
      Wrote h (h'.writeAnyway purpose text)

theorem Host.Wrote.trans {h h' h'' : Host} (first : h.Wrote h') (second : h'.Wrote h'') :
    h.Wrote h'' := by
  induction second with
  | nothing => exact first
  | text before purpose text ih => exact .text ih purpose text

namespace Session

variable {s t : Session} {fuel : Nat} {answers : List Bytes} {b : Bool} {r : LineReader}

theorem askReads (s : Session) (prompt : String) :
    ∃ h, s.host.Wrote h ∧ s.ask prompt = (s.source.readLine.1.map Bytes.toText,
      { s with host := h, source := s.source.readLine.2 }) := by
  unfold ask
  split
  · exact ⟨_, .text .nothing .prompt prompt, rfl⟩
  · exact ⟨_, .nothing, rfl⟩

theorem confirmFollows (prompt : String) (settled : s.source.Answers answers b r)
    (enough : answers.length < fuel) :
    ∃ h, s.host.Wrote h ∧ s.confirm prompt fuel = (b, { s with host := h, source := r }) := by
  induction fuel generalizing s answers with
  | zero => cases enough
  | succ fuel ih =>
      obtain ⟨h, wrote, asked⟩ := askReads s prompt
      cases settled with
      | yes read clear =>
          rw [read, Except.map] at asked
          refine ⟨h, wrote, ?_⟩
          rcases saysYesLower.mp clear with long | short
          · simp only [confirm, asked, long]
          · simp only [confirm, asked, short]
      | no read clear =>
          rw [read, Except.map] at asked
          refine ⟨h, wrote, ?_⟩
          rcases saysNoLower.mp clear with long | short
          · simp only [confirm, asked, long]
          · simp only [confirm, asked, short]
      | silence read =>
          rw [read, Except.map] at asked
          exact ⟨h, wrote, by simp only [confirm, asked]⟩
      | @again _ mid _ a rest _ read unclear more =>
          rw [read, Except.map] at asked
          let next := ({ s with host := h, source := mid } : Session).write "Answer yes or no!\n"
          have goesOn : s.confirm prompt (fuel + 1) = next.confirm prompt fuel := by
            rw [Unclear, saysYesLower, saysNoLower] at unclear
            rw [confirm, asked]
            simp only
            split
            · exact absurd (.inl ‹_›) unclear.1
            · exact absurd (.inr ‹_›) unclear.1
            · exact absurd (.inl ‹_›) unclear.2
            · exact absurd (.inr ‹_›) unclear.2
            · rfl
          obtain ⟨h', wrote', settled'⟩ := @ih next rest more (Nat.lt_of_succ_lt_succ enough)
          rw [goesOn, settled']
          exact ⟨h', (wrote.trans (.text .nothing .result _)).trans wrote', rfl⟩

/- A session to which nothing has happened but talk: texts were written, and if there was a changed
program, a question about it may have been answered. -/
inductive Talked (s : Session) : Session → Prop where
  | mk {h : Host} {r : LineReader} (wrote : s.host.Wrote h)
      (heard : r = s.source ∨
        s.workspace.listing.modified = true ∧ ∃ answers b, s.source.Answers answers b r) :
      Talked s { s with host := h, source := r }

inductive Agreed (s : Session) : Session → Prop where
  | mk {h : Host} {r : LineReader} (wrote : s.host.Wrote h)
      (heard : s.workspace.listing.modified = false ∧ r = s.source ∨
        s.workspace.listing.modified = true ∧ ∃ answers, s.source.Answers answers true r) :
      Agreed s { s with host := h, source := r }

theorem Talked.nothing (s : Session) : Talked s s := .mk .nothing (.inl rfl)

theorem Talked.write (talked : Talked s t) (text : String) : Talked s (t.write text) := by
  cases talked with
  | mk wrote heard => exact .mk (.text wrote .result text) heard

theorem Talked.kept (talked : Talked s t) :
    t.workspace = s.workspace ∧ t.exiting = s.exiting := by
  cases talked with
  | mk wrote heard => exact ⟨rfl, rfl⟩

theorem Agreed.write (agreed : Agreed s t) (text : String) : Agreed s (t.write text) := by
  cases agreed with
  | mk wrote heard => exact .mk (.text wrote .result text) heard

theorem Agreed.talked (agreed : Agreed s t) : Talked s t := by
  cases agreed with
  | mk wrote heard =>
      rcases heard with ⟨_, same⟩ | ⟨unsaved, answers, settled⟩
      · exact .mk wrote (.inl same)
      · exact .mk wrote (.inr ⟨unsaved, answers, true, settled⟩)

theorem Agreed.consents (agreed : Agreed s t) (unsaved : s.workspace.listing.modified = true) :
    s.source.Consents t.source := by
  cases agreed with
  | mk wrote heard =>
      rcases heard with ⟨saved, _⟩ | ⟨_, answers, settled⟩
      · rw [unsaved] at saved
        cases saved
      · exact LineReader.answersYes settled

theorem Talked.writeAll (talked : Talked s t) (texts : List String) :
    Talked s (t.writeAll texts) := by
  induction texts generalizing t with
  | nil => exact talked
  | cons text rest ih => exact ih (talked.write text)

end Session

namespace Action

variable {s : Session} {answers : List Bytes} {b : Bool} {r : LineReader}

theorem checkModifiedAsks (unsaved : s.workspace.listing.modified = true)
    (settled : s.source.Answers answers b r) :
    ∃ h, s.host.Wrote h ∧ checkModified s =
      (if b then .ok () else .error .notSaved, { s with host := h, source := r }) := by
  have enough : answers.length < s.source.rest.length + 2 := by
    have short := LineReader.answersShort settled
    omega
  obtain ⟨h, wrote, confirmed⟩ :=
    Session.confirmFollows "Discard modified program (yes/no)? " settled enough
  refine ⟨h, wrote, ?_⟩
  unfold checkModified
  rw [if_pos unsaved, confirmed]
  cases b <;> rfl

end Action

end LineBasic
