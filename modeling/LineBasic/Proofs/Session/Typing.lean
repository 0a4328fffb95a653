import LineBasic.Proofs.Program.Records
import LineBasic.Session.Basic

/-!
What a text of records is loaded as, and that typing the records gives the same lines. A load goes
well exactly if every record is blank or numbered; otherwise the first that is neither is named.
-/
namespace LineBasic

open Text

def hasText (r : String) : Bool :=
  match splitLine r with
  | .ok l => l.text != ""
  | .error _ => false

theorem hasTextNumbered {r : String} :
    hasText r = true ↔ ∃ n t, Numbered r n t ∧ t ≠ "" := by
  constructor
  · intro found
    unfold hasText at found
    cases split : splitLine r with
    | ok l =>
        rw [split] at found
        exact ⟨l.number, l.text, splitLineNumbered.mp split, by simpa using found⟩
    | error f =>
        rw [split] at found
        cases found
  · rintro ⟨n, t, numbered, nonempty⟩
    have split := (splitLineNumbered (l := ⟨n, t⟩)).mpr numbered
    simpa [hasText, split] using nonempty

theorem silentNoText {r : String} (silent : Silent r) : hasText r = false := by
  rw [Bool.eq_false_iff]
  intro found
  obtain ⟨n, t, numbered, nonempty⟩ := hasTextNumbered.mp found
  exact nonempty (silent.quiet numbered)

namespace Session

variable {s : Session} {fuel k : Nat} {rs : List String} {p q : Listing}

def typeIn (fuel : Nat) : List String → Session → Option Session
  | [], s => some s
  | r :: rest, s =>
    match s.execute fuel r with
    | some (.ok (), s) => s.typeIn fuel rest
    | _ => none

theorem executeEdits {line : String} {n : Int} {t : String} (numbered : Numbered line n t) :
    s.execute fuel line = some ((Action.editLine line).run s) := by
  cases numbered with
  | @mk blanks digits rest whole before nonempty all =>
      obtain ⟨c, others, rfl⟩ := List.exists_cons_of_ne_nil nonempty
      have digit : c.isDigit = true := all c (by simp)
      have trimmed := trimNumber whole before nonempty all
      rw [List.cons_append] at trimmed
      unfold execute
      simp only [trimmed, digit, if_true]

theorem executeNumbered {line : String} {n : Int} {t : String} (numbered : Numbered line n t)
    (nonempty : t ≠ "") :
    s.execute fuel line = some (.ok (), { s with workspace := { s.workspace with
      listing := s.workspace.listing.put ⟨n, t⟩ } }) := by
  obtain ⟨positive, _, trimmed, _⟩ := numbered.facts
  have split := (splitLineNumbered (l := ⟨n, t⟩)).mpr numbered
  have stored := Listing.setTrimmed (p := s.workspace.listing) positive trimmed nonempty
  have read (k : Session → Action Unit) : (get >>= k : Action Unit).run s = (k s).run s := rfl
  rw [executeEdits numbered, Action.editLine, read]
  simp only [split, String.isEmpty_iff, if_neg nonempty, stored]
  rfl

theorem typedLines (short : ∀ r ∈ rs, r.utf8ByteSize < recordLimit)
    (ok : p.addRecords k rs = .ok q) (same : s.workspace.listing.lines = p.lines) :
    ∃ s', s.typeIn fuel (rs.filter hasText) = some s' ∧
      s'.workspace.listing.lines = q.lines := by
  induction rs generalizing p k s with
  | nil =>
      cases ok
      exact ⟨s, rfl, same⟩
  | cons r rs ih =>
      obtain ⟨first, others⟩ := List.forall_mem_cons.mp short
      rcases recordKinds r with silent | ⟨n, t, numbered, nonempty⟩ | bad
      · rw [Listing.addSilent first silent] at ok
        rw [List.filter_cons_of_neg (by simp [silentNoText silent])]
        exact ih others ok same
      · rw [Listing.addLine first numbered nonempty] at ok
        rw [List.filter_cons_of_pos (hasTextNumbered.mpr ⟨n, t, numbered, nonempty⟩), typeIn,
          executeNumbered numbered nonempty]
        exact ih others ok (Listing.putLines same)
      · obtain ⟨shown, refused⟩ : ∃ shown, p.addRecords k (r :: rs) = _ :=
          Listing.addBad first bad
        rw [refused] at ok
        cases ok

end Session

namespace Listing

variable {p : Listing} {text : String}

theorem loadOutcome (short : ∀ r ∈ recordsOf text, r.utf8ByteSize < recordLimit) :
    ((∀ r ∈ recordsOf text, ¬ Bad r) ∧ ∃ p, load text = .ok p) ∨
      ∃ before r after shown, recordsOf text = before ++ r :: after ∧ (∀ b ∈ before, ¬ Bad b) ∧
        Bad r ∧ load text = .error (.record (before.length + 1) (.text shown)) := by
  rw [loadRecords]
  rcases addRecordsOutcome (p := empty) (k := 1) short with
    ⟨good, q, added⟩ | ⟨before, r, after, shown, whole, good, bad, refused⟩
  · exact .inl ⟨good, q.saved, by rw [added]; rfl⟩
  · refine .inr ⟨before, r, after, shown, whole, good, bad, ?_⟩
    rw [refused, Nat.add_comm]
    rfl

theorem loadMember (short : ∀ r ∈ recordsOf text, r.utf8ByteSize < recordLimit)
    (ok : load text = .ok p) (n : Int) (t : String) :
    (⟨n, t⟩ : Line) ∈ p.lines ↔ LastText (recordsOf text) n t := by
  obtain ⟨q, added, rfl⟩ := loadAdded ok
  have lines := addRecordsLines short added List.Pairwise.nil n t
  rw [or_iff_left (fun old => List.not_mem_nil old.1)] at lines
  exact lines

theorem loadReadsRecords (text : String) (short : ∀ r ∈ recordsOf text, r.utf8ByteSize ≤ 65535) :
    ((∃ p, load text = .ok p) ↔
      ∀ r ∈ recordsOf text, isBlank r = false → ∃ n t, Numbered r n t) ∧
    (∀ f, load text = .error f → ∃ before r after shown, recordsOf text = before ++ r :: after ∧
      (∀ b ∈ before, ¬ Bad b) ∧ Bad r ∧ f = .record (before.length + 1) (.text shown)) ∧
    ∀ p, load text = .ok p → Ascending p.lines ∧
      (∀ n t, (⟨n, t⟩ : Line) ∈ p.lines ↔ LastText (recordsOf text) n t) ∧
      ∀ (fuel : Nat) (s : Session), s.workspace.listing.lines = [] →
        ∃ s', s.typeIn fuel ((recordsOf text).filter hasText) = some s' ∧
          s'.workspace.listing.lines = p.lines := by
  have small : ∀ r ∈ recordsOf text, r.utf8ByteSize < recordLimit :=
    fun r member => Nat.lt_succ_of_le (short r member)
  refine ⟨?_, ?_, ?_⟩
  · have good : (∀ r ∈ recordsOf text, isBlank r = false → ∃ n t, Numbered r n t) ↔
        ∀ r ∈ recordsOf text, ¬ Bad r := by simp [Bad]
    rw [good]
    rcases loadOutcome small with ⟨fine, read⟩ | ⟨before, r, after, shown, whole, _, bad, refused⟩
    · exact ⟨fun _ => fine, fun _ => read⟩
    · refine ⟨?_, fun fine => absurd bad (fine r (by simp [whole]))⟩
      rintro ⟨p, read⟩
      rw [refused] at read
      cases read
  · intro f failed
    rcases loadOutcome small with
      ⟨_, p, read⟩ | ⟨before, r, after, shown, whole, fine, bad, refused⟩
    · rw [read] at failed
      cases failed
    · rw [refused] at failed
      cases failed
      exact ⟨before, r, after, shown, whole, fine, bad, rfl⟩
  · intro p read
    refine ⟨loadAscending read, loadMember small read, fun fuel s new => ?_⟩
    obtain ⟨q, added, rfl⟩ := loadAdded read
    exact Session.typedLines (p := empty) (q := q) small added new

def scribbled : String := "20 B\n\n 007PRINT 7\n20\t C \n30\n20 \n"

theorem scribbledLoads :
    (∀ r ∈ recordsOf scribbled, r.utf8ByteSize ≤ 65535) ∧
      ∃ p, load scribbled = .ok p ∧ p.lines = [⟨7, "PRINT 7"⟩, ⟨20, "C"⟩] ∧
        ∀ (fuel : Nat) (s : Session), s.workspace.listing.lines = [] →
          ∃ s', s.typeIn fuel ["20 B", " 007PRINT 7", "20\t C "] = some s' ∧
            s'.workspace.listing.lines = [⟨7, "PRINT 7"⟩, ⟨20, "C"⟩] := by
  have short : ∀ r ∈ recordsOf scribbled, r.utf8ByteSize ≤ 65535 := by decide +kernel
  have texts : (recordsOf scribbled).filter hasText = ["20 B", " 007PRINT 7", "20\t C "] := by
    decide +kernel
  have loads : load scribbled = .ok (.ofLines [⟨7, "PRINT 7"⟩, ⟨20, "C"⟩] false) := by
    rfl
  refine ⟨short, _, loads, rfl, fun fuel s new => ?_⟩
  rw [← texts]
  exact ((loadReadsRecords scribbled short).2.2 _ loads).2.2 fuel s new

end Listing

end LineBasic
