import LineBasic.Proofs.Program.Order
import LineBasic.Proofs.Text.Decimal
import LineBasic.Proofs.Text.Runs
import LineBasic.Proofs.Text.Trim

/-!
Records, and what each of them adds to a program. A record is blank, or it has a number and perhaps
a text, or it is bad; the first bad one ends the reading, and of several with one number the last
that has a text counts.
-/
namespace LineBasic

open Text

variable {r : String} {blanks digits rest : List Char}

/- Blanks, then a positive decimal number of 64 bits, then a text. The digits end where no further
one follows, and the text is what remains, trimmed. -/
inductive Numbered (r : String) : Int → String → Prop where
  | mk {blanks digits rest : List Char} (whole : r.toList = blanks ++ digits ++ rest)
      (before : Blank blanks) (nonempty : digits ≠ []) (all : AllDigits digits)
      (stop : ∀ c ∈ rest.head?, c.isDigit = false) (positive : 0 < decimal digits)
      (fits : decimal digits ≤ maxInteger) :
      Numbered r (decimal digits) (String.ofList (trimChars rest))

section Numbers

theorem trimNumber (whole : r.toList = blanks ++ digits ++ rest) (before : Blank blanks)
    (nonempty : digits ≠ []) (all : AllDigits digits) :
    trimChars r.toList = digits ++ rest.rdropWhile isSpace := by
  have front : ∀ c ∈ (digits ++ rest).head?, isSpace c = false := by
    intro c first
    rw [List.head?_append_of_ne_nil _ nonempty] at first
    exact digitNotSpace (all c (List.mem_of_head? first))
  have back : ∀ c ∈ digits.getLast?, isSpace c = false :=
    fun c last => digitNotSpace (all c (List.mem_of_getLast? last))
  rw [whole, List.append_assoc, trimAfter before, trimSolid front, rdropAfter back]

theorem stopTrimmed (stop : ∀ c ∈ rest.head?, c.isDigit = false) :
    ∀ c ∈ (rest.rdropWhile isSpace).head?, c.isDigit = false := by
  intro c first
  obtain ⟨after, whole⟩ := List.rdropWhile_prefix isSpace rest
  refine stop c ?_
  rw [← whole, List.head?_append, first]
  rfl

theorem trimRest (rest : List Char) : trimChars (rest.rdropWhile isSpace) = trimChars rest := by
  have blank : Blank (rest.rtakeWhile isSpace) := fun c member => List.mem_rtakeWhile_imp member
  rw [← trimBefore blank, List.rdropWhile_append_rtakeWhile]

theorem splitLineParts (whole : r.toList = blanks ++ digits ++ rest) (before : Blank blanks)
    (nonempty : digits ≠ []) (all : AllDigits digits) (stop : ∀ c ∈ rest.head?, c.isDigit = false) :
    splitLine r =
      if 0 < decimal digits ∧ decimal digits ≤ maxInteger then
        .ok ⟨decimal digits, String.ofList (trimChars rest)⟩
      else .error (.text (String.ofList digits)) := by
  unfold splitLine
  simp only [trimNumber whole before nonempty all, takeWhileStop all (stopTrimmed stop),
    List.drop_left, trimRest, readIntegerValue nonempty all]
  rw [if_neg (by simpa using nonempty)]
  by_cases fits : decimal digits < 0x8000000000000000
  · have small : (decimal digits : Int) ≤ maxInteger := by
      rw [maxInteger]
      omega
    rw [if_pos fits]
    by_cases positive : 0 < decimal digits
    · rw [if_pos ⟨positive, small⟩]
      exact if_neg (by omega)
    · rw [if_neg fun good => positive good.1]
      exact if_pos (by omega)
  · have large : ¬ (decimal digits : Int) ≤ maxInteger := by
      rw [maxInteger]
      omega
    rw [if_neg fits, if_neg fun good => large good.2]

theorem numberParts (found : (trimChars r.toList).takeWhile Char.isDigit ≠ []) :
    ∃ blanks digits rest, r.toList = blanks ++ digits ++ rest ∧ Blank blanks ∧ digits ≠ [] ∧
      AllDigits digits ∧ ∀ c ∈ rest.head?, c.isDigit = false := by
  obtain ⟨before, after, whole, blank, trailing⟩ := trimParts r.toList
  generalize trimChars r.toList = cs at found whole
  refine ⟨before, cs.takeWhile Char.isDigit, cs.dropWhile Char.isDigit ++ after, ?_, blank, found,
    fun c member => List.mem_takeWhile_imp member, ?_⟩
  · have cut : cs.takeWhile Char.isDigit ++ cs.dropWhile Char.isDigit = cs :=
      List.takeWhile_append_dropWhile
    rw [whole, List.append_assoc before, List.append_assoc before,
      ← List.append_assoc (cs.takeWhile Char.isDigit), cut]
  · intro c first
    rw [List.head?_append] at first
    have stopped := List.head?_dropWhile_not Char.isDigit cs
    cases head : (cs.dropWhile Char.isDigit).head? with
    | some d =>
        rw [head] at first stopped
        cases first
        exact stopped
    | none =>
        rw [head] at first
        have space := trailing c (List.mem_of_head? first)
        cases digit : c.isDigit with
        | false => rfl
        | true =>
            rw [digitNotSpace digit] at space
            cases space

theorem splitLineNumbered {l : Line} : splitLine r = .ok l ↔ Numbered r l.number l.text := by
  constructor
  · intro ok
    have found : (trimChars r.toList).takeWhile Char.isDigit ≠ [] := by
      intro nothing
      simp only [splitLine, nothing] at ok
      cases ok
    obtain ⟨blanks, digits, rest, whole, before, nonempty, all, stop⟩ := numberParts found
    rw [splitLineParts whole before nonempty all stop] at ok
    split at ok <;> cases ok
    rename_i range
    exact .mk whole before nonempty all stop range.1 range.2
  · obtain ⟨n, t⟩ := l
    rintro ⟨whole, before, nonempty, all, stop, positive, fits⟩
    rw [splitLineParts whole before nonempty all stop, if_pos ⟨positive, fits⟩]
    rfl

theorem splitLineFails {f : LineNumberFault} (failed : splitLine r = .error f) :
    ∃ shown, f = .text shown := by
  unfold splitLine at failed
  simp only at failed
  split at failed
  · cases failed
    exact ⟨_, rfl⟩
  · split at failed
    · split at failed <;> cases failed
      exact ⟨_, rfl⟩
    · cases failed
      exact ⟨_, rfl⟩

theorem Numbered.unique {n k : Int} {t u : String} (first : Numbered r n t)
    (second : Numbered r k u) : n = k ∧ t = u := by
  have same := (splitLineNumbered (l := ⟨n, t⟩)).mpr first
  rw [(splitLineNumbered (l := ⟨k, u⟩)).mpr second] at same
  cases same
  exact ⟨rfl, rfl⟩

theorem Numbered.facts {n : Int} {t : String} (numbered : Numbered r n t) :
    0 < n ∧ n ≤ maxInteger ∧ Trimmed t.toList ∧ isBlank r = false := by
  cases numbered with
  | @mk blanks digits rest whole before nonempty all stop positive fits =>
      refine ⟨by omega, fits, ?_, ?_⟩
      · rw [String.toList_ofList]
        exact trimTrimmed rest
      · obtain ⟨c, others, rfl⟩ := List.exists_cons_of_ne_nil nonempty
        have solid := digitNotSpace (all c (by simp))
        rw [isBlank, whole]
        simp [solid]

end Numbers

def Silent (r : String) : Prop := isBlank r = true ∨ ∃ n, Numbered r n ""

def Bad (r : String) : Prop := isBlank r = false ∧ ¬ ∃ n t, Numbered r n t

def Quiet (rs : List String) (n : Int) : Prop := ∀ r ∈ rs, ∀ t, Numbered r n t → t = ""

def LastText (rs : List String) (n : Int) (t : String) : Prop :=
  ∃ before r after, rs = before ++ r :: after ∧ Numbered r n t ∧ t ≠ "" ∧ Quiet after n

section Kinds

variable {rs : List String} {n : Int} {t : String}

theorem recordKinds (r : String) :
    Silent r ∨ (∃ n t, Numbered r n t ∧ t ≠ "") ∨ Bad r := by
  cases blank : isBlank r with
  | true => exact .inl (.inl blank)
  | false =>
      by_cases found : ∃ n t, Numbered r n t
      · obtain ⟨n, t, numbered⟩ := found
        by_cases empty : t = ""
        · subst empty
          exact .inl (.inr ⟨n, numbered⟩)
        · exact .inr (.inl ⟨n, t, numbered, empty⟩)
      · exact .inr (.inr ⟨blank, found⟩)

theorem Silent.quiet (silent : Silent r) (numbered : Numbered r n t) : t = "" := by
  rcases silent with blank | ⟨k, alone⟩
  · rw [numbered.facts.2.2.2] at blank
    cases blank
  · exact (numbered.unique alone).2

theorem Silent.good (silent : Silent r) : ¬ Bad r := by
  rintro ⟨solid, unnumbered⟩
  rcases silent with blank | ⟨k, alone⟩
  · rw [solid] at blank
    cases blank
  · exact unnumbered ⟨k, "", alone⟩

theorem quietCons : Quiet (r :: rs) n ↔ (∀ t, Numbered r n t → t = "") ∧ Quiet rs n := by
  simp [Quiet]

theorem lastTextCons :
    LastText (r :: rs) n t ↔ LastText rs n t ∨ (Numbered r n t ∧ t ≠ "" ∧ Quiet rs n) := by
  constructor
  · rintro ⟨before, k, after, whole, last⟩
    cases before with
    | nil =>
        cases whole
        exact .inr last
    | cons b before =>
        cases whole
        exact .inl ⟨before, k, after, rfl, last⟩
  · rintro (⟨before, k, after, rfl, last⟩ | first)
    · exact ⟨r :: before, k, after, rfl, last⟩
    · exact ⟨[], r, rs, rfl, first⟩

end Kinds

namespace Listing

variable {p q : Listing} {rs : List String} {k : Nat}

section Adding

theorem addLong (long : recordLimit ≤ r.utf8ByteSize) :
    p.addRecords k (r :: rs) = .error .recordTooLong := by
  rw [addRecords, if_pos long]

theorem addSilent (short : r.utf8ByteSize < recordLimit) (silent : Silent r) :
    p.addRecords k (r :: rs) = p.addRecords (k + 1) rs := by
  rw [addRecords, if_neg (Nat.not_le.mpr short)]
  rcases silent with blank | ⟨n, alone⟩
  · rw [if_pos blank]
  · have split := (splitLineNumbered (l := ⟨n, ""⟩)).mpr alone
    simp [alone.facts.2.2.2, split]

theorem setTrimmed {n : Int} {t : String} (positive : 0 < n) (trimmed : Trimmed t.toList)
    (solid : t ≠ "") : p.set n t = .ok (p.put ⟨n, t⟩) := by
  have same : trim t = t := by rw [trim, trimSame trimmed, String.ofList_toList]
  unfold set
  simp [same, solid, positive]

theorem addLine {n : Int} {t : String} (short : r.utf8ByteSize < recordLimit)
    (numbered : Numbered r n t) (given : t ≠ "") :
    p.addRecords k (r :: rs) = (p.put ⟨n, t⟩).addRecords (k + 1) rs := by
  obtain ⟨positive, _, trimmed, solid⟩ := numbered.facts
  have split := (splitLineNumbered (l := ⟨n, t⟩)).mpr numbered
  have stored := setTrimmed (p := p) positive trimmed given
  rw [addRecords, if_neg (Nat.not_le.mpr short)]
  simp [solid, split, given, stored]

theorem addBad (short : r.utf8ByteSize < recordLimit) (bad : Bad r) :
    ∃ shown, p.addRecords k (r :: rs) = .error (.record k (.text shown)) := by
  rw [addRecords, if_neg (Nat.not_le.mpr short)]
  cases split : splitLine r with
  | ok l => exact absurd ⟨_, _, splitLineNumbered.mp split⟩ bad.2
  | error f =>
      obtain ⟨shown, rfl⟩ := splitLineFails split
      exact ⟨shown, by simp [bad.1]⟩

theorem addRecordsOutcome (short : ∀ r ∈ rs, r.utf8ByteSize < recordLimit) :
    ((∀ r ∈ rs, ¬ Bad r) ∧ ∃ q, p.addRecords k rs = .ok q) ∨
      ∃ before r after shown, rs = before ++ r :: after ∧ (∀ b ∈ before, ¬ Bad b) ∧ Bad r ∧
        p.addRecords k rs = .error (.record (k + before.length) (.text shown)) := by
  induction rs generalizing p k with
  | nil => exact .inl ⟨by simp, p, rfl⟩
  | cons r rs ih =>
      obtain ⟨first, others⟩ := List.forall_mem_cons.mp short
      -- all but a bad record lead to the records after it
      have onward {next : Listing} (good : ¬ Bad r)
          (same : p.addRecords k (r :: rs) = next.addRecords (k + 1) rs) :
          ((∀ b ∈ r :: rs, ¬ Bad b) ∧ ∃ q, p.addRecords k (r :: rs) = .ok q) ∨
            ∃ before b after shown, r :: rs = before ++ b :: after ∧ (∀ a ∈ before, ¬ Bad a) ∧
              Bad b ∧ p.addRecords k (r :: rs) =
                .error (.record (k + before.length) (.text shown)) := by
        rw [same]
        rcases @ih next (k + 1) others with
          ⟨fine, read⟩ | ⟨before, b, after, shown, rfl, fine, bad, refused⟩
        · exact .inl ⟨List.forall_mem_cons.mpr ⟨good, fine⟩, read⟩
        · refine .inr ⟨r :: before, b, after, shown, rfl, List.forall_mem_cons.mpr ⟨good, fine⟩,
            bad, ?_⟩
          rw [refused, List.length_cons, Nat.add_assoc, Nat.add_comm 1]
      rcases recordKinds r with silent | ⟨n, t, numbered, nonempty⟩ | bad
      · exact onward silent.good (addSilent first silent)
      · exact onward (fun bad => bad.2 ⟨n, t, numbered⟩) (addLine first numbered nonempty)
      · obtain ⟨shown, refused⟩ : ∃ shown, p.addRecords k (r :: rs) = _ := addBad first bad
        exact .inr ⟨[], r, rs, shown, rfl, by simp, bad, refused⟩

end Adding

section Lines

theorem addRecordsLines (short : ∀ r ∈ rs, r.utf8ByteSize < recordLimit)
    (ok : p.addRecords k rs = .ok q) (ordered : Ascending p.lines) (n : Int) (t : String) :
    (⟨n, t⟩ : Line) ∈ q.lines ↔ LastText rs n t ∨ ((⟨n, t⟩ : Line) ∈ p.lines ∧ Quiet rs n) := by
  induction rs generalizing p k with
  | nil =>
      cases ok
      simp [LastText, Quiet]
  | cons r rs ih =>
      obtain ⟨first, others⟩ := List.forall_mem_cons.mp short
      rw [lastTextCons, quietCons]
      rcases recordKinds r with silent | ⟨i, u, numbered, nonempty⟩ | bad
      · rw [addSilent first silent] at ok
        rw [ih others ok ordered]
        have nothing : ∀ u, Numbered r n u → u = "" := fun u => silent.quiet
        grind
      · rw [addLine first numbered nonempty] at ok
        rw [ih others ok (putAscending ordered), putExact ordered, Line.mk.injEq]
        have only : ∀ u', Numbered r n u' ↔ n = i ∧ u' = u := by
          intro u'
          constructor
          · intro same
            exact same.unique numbered
          · rintro ⟨rfl, rfl⟩
            exact numbered
        grind
      · obtain ⟨shown, refused⟩ : ∃ shown, p.addRecords k (r :: rs) = _ := addBad first bad
        rw [refused] at ok
        cases ok

end Lines

end Listing

section Texts

def recordsOf (text : String) : List String := (text.toList.splitOn '\n').map String.ofList

theorem recordsFromSplit (current cs : List Char) (done : List (List Char)) :
    done.reverse ++ List.splitOnPPrepend (· == '\n') cs current = recordsFrom current cs done ∨
      done.reverse ++ List.splitOnPPrepend (· == '\n') cs current =
        recordsFrom current cs done ++ [[]] := by
  induction cs generalizing current done with
  | nil =>
      rw [List.splitOnPPrepend_nil, recordsFrom]
      cases current with
      | nil => exact .inr rfl
      | cons c rest => exact .inl (by simp)
  | cons c rest ih =>
      rw [recordsFrom]
      by_cases ends : c = '\n'
      · have next := ih [] (current.reverse :: done)
        rw [List.splitOnPPrepend_nil_right, List.reverse_cons, List.append_assoc] at next
        rw [List.splitOnPPrepend_cons_pos (by simpa using ends), if_pos ends]
        exact next
      · rw [List.splitOnPPrepend_cons_neg (by simpa using ends), if_neg ends]
        exact ih (c :: current) done

theorem recordsSplit (text : String) :
    recordsOf text = records text ∨ recordsOf text = records text ++ [""] := by
  have parts := recordsFromSplit [] text.toList []
  rw [List.splitOnPPrepend_nil_right, List.reverse_nil, List.nil_append,
    ← List.splitOn_eq_splitOnP] at parts
  rcases parts with same | more
  · exact .inl (by rw [recordsOf, same, records])
  · refine .inr ?_
    rw [recordsOf, more, records, List.map_append]
    rfl

namespace Listing

theorem addRecordsEmpty (p : Listing) (k : Nat) (rs : List String) :
    p.addRecords k (rs ++ [""]) = p.addRecords k rs := by
  induction rs generalizing p k with
  | nil => rfl
  | cons r rs ih => simp only [List.cons_append, addRecords, ih]

theorem loadRecords (text : String) :
    load text = (empty.addRecords 1 (recordsOf text)).map saved := by
  rcases recordsSplit text with same | more
  · rw [same, load]
  · rw [more, addRecordsEmpty, load]

theorem loadAdded {p : Listing} {text : String} (done : load text = .ok p) :
    ∃ q, empty.addRecords 1 (recordsOf text) = .ok q ∧ p = q.saved := by
  rw [loadRecords] at done
  cases added : empty.addRecords 1 (recordsOf text) with
  | error f =>
      rw [added] at done
      cases done
  | ok q =>
      rw [added] at done
      cases done
      exact ⟨q, rfl, rfl⟩

end Listing

end Texts

end LineBasic
