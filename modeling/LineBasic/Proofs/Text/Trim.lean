import Mathlib.Data.List.DropRight
import LineBasic.Text.Space

/-!
Trimming. White space at the two ends of a text is set aside and nothing else is; a text without
it stays as it is.
-/
namespace LineBasic.Text

variable {cs blanks : List Char}

structure Trimmed (cs : List Char) : Prop where
  front : ∀ c ∈ cs.head?, isSpace c = false
  back : ∀ c ∈ cs.getLast?, isSpace c = false

def Blank (cs : List Char) : Prop := ∀ c ∈ cs, isSpace c = true

theorem trimBothEnds (cs : List Char) :
    trimChars cs = (cs.dropWhile isSpace).rdropWhile isSpace := rfl

theorem dropBlank (blank : Blank blanks) (cs : List Char) :
    (blanks ++ cs).dropWhile isSpace = cs.dropWhile isSpace := by
  induction blanks with
  | nil => rfl
  | cons c rest ih =>
      have first : isSpace c = true := blank c (by simp)
      have others : Blank rest := fun d member => blank d (by simp [member])
      simp [first, ih others]

theorem rdropBlank (blank : Blank blanks) (cs : List Char) :
    (cs ++ blanks).rdropWhile isSpace = cs.rdropWhile isSpace := by
  have reversed : Blank blanks.reverse := fun c member => blank c (by simpa using member)
  simp [List.rdropWhile, dropBlank reversed]

theorem rdropAfter {front : List Char} (solid : ∀ c ∈ front.getLast?, isSpace c = false) :
    (front ++ cs).rdropWhile isSpace = front ++ cs.rdropWhile isSpace := by
  induction cs using List.reverseRecOn with
  | nil =>
      rw [List.append_nil, List.rdropWhile_nil, List.append_nil, List.rdropWhile_eq_self_iff]
      intro nonempty
      simpa using solid _ (List.getLast_mem_getLast? nonempty)
  | append_singleton cs c ih =>
      rw [← List.append_assoc]
      cases space : isSpace c with
      | true =>
          rw [List.rdropWhile_concat_pos _ _ _ space, List.rdropWhile_concat_pos _ _ _ space, ih]
      | false =>
          have kept : ¬ isSpace c = true := by simp [space]
          rw [List.rdropWhile_concat_neg _ _ _ kept, List.rdropWhile_concat_neg _ _ _ kept,
            List.append_assoc]

theorem trimAfter (blank : Blank blanks) : trimChars (blanks ++ cs) = trimChars cs := by
  rw [trimBothEnds, trimBothEnds, dropBlank blank]

@[simp] theorem trimBlank : trimChars cs = [] ↔ Blank cs := by
  rw [trimBothEnds, List.rdropWhile_eq_nil_iff]
  constructor
  · intro dropped c member
    rw [← List.takeWhile_append_dropWhile (p := isSpace) (l := cs)] at member
    rcases List.mem_append.mp member with taken | left
    · exact List.mem_takeWhile_imp taken
    · exact dropped c left
  · intro blank c left
    exact blank c ((List.dropWhile_sublist isSpace).subset left)

theorem trimSolid (solid : ∀ c ∈ cs.head?, isSpace c = false) :
    trimChars cs = cs.rdropWhile isSpace := by
  rw [trimBothEnds]
  congr
  cases cs with
  | nil => rfl
  | cons c rest =>
      have first : isSpace c = false := solid c rfl
      simp [first]

theorem trimBefore (blank : Blank blanks) : trimChars (cs ++ blanks) = trimChars cs := by
  by_cases empty : Blank cs
  · have all : Blank (cs ++ blanks) := by
      intro c member
      rcases List.mem_append.mp member with first | second
      · exact empty c first
      · exact blank c second
    rw [trimBlank.mpr empty, trimBlank.mpr all]
  · have rest : cs.dropWhile isSpace ≠ [] := by
      intro nothing
      exact empty (List.dropWhile_eq_nil_iff.mp nothing)
    have dropped : (cs ++ blanks).dropWhile isSpace = cs.dropWhile isSpace ++ blanks := by
      rw [List.dropWhile_append, if_neg (by simpa using rest)]
    rw [trimBothEnds, dropped, rdropBlank blank, ← trimBothEnds]

theorem trimSame (trimmed : Trimmed cs) : trimChars cs = cs := by
  rw [trimSolid trimmed.front, List.rdropWhile_eq_self_iff]
  intro nonempty
  simpa using trimmed.back _ (List.getLast_mem_getLast? nonempty)

theorem trimTrimmed (cs : List Char) : Trimmed (trimChars cs) := by
  rw [trimBothEnds]
  constructor
  · intro c first
    obtain ⟨rest, whole⟩ := List.rdropWhile_prefix isSpace (cs.dropWhile isSpace)
    have head : c ∈ (cs.dropWhile isSpace).head? := by
      rw [← whole, List.head?_append, first]
      rfl
    have stopped := List.head?_dropWhile_not isSpace cs
    rw [head] at stopped
    simpa using stopped
  · intro c last
    obtain ⟨nonempty, rfl⟩ := List.mem_getLast?_eq_getLast last
    simpa using List.rdropWhile_last_not isSpace _ nonempty

theorem trimParts (cs : List Char) :
    ∃ before after, cs = before ++ trimChars cs ++ after ∧ Blank before ∧ Blank after := by
  refine ⟨cs.takeWhile isSpace, (cs.dropWhile isSpace).rtakeWhile isSpace, ?_, ?_, ?_⟩
  · rw [trimBothEnds, List.append_assoc, List.rdropWhile_append_rtakeWhile,
      List.takeWhile_append_dropWhile]
  · exact fun c member => List.mem_takeWhile_imp member
  · exact fun c member => List.mem_rtakeWhile_imp member

end LineBasic.Text
