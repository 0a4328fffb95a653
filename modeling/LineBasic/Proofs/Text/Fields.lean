import LineBasic.Proofs.Text.Trim

/-!
Fields of a text. A text is cut at its white space and nowhere else: between two fields stands some
of it, none stands in a field, and no field is empty.
-/
namespace LineBasic.Text

variable {cs gap field rest : List Char} {fs : List (List Char)}

def Solid (cs : List Char) : Prop := ∀ c ∈ cs, isSpace c = false

inductive Fielded : List Char → List (List Char) → Prop where
  | nil {cs : List Char} (blank : Blank cs) : Fielded cs []
  | cons {gap field rest : List Char} {fs : List (List Char)} (blank : Blank gap)
      (nonempty : field ≠ []) (solid : Solid field) (apart : ∀ c ∈ rest.head?, isSpace c = true)
      (tail : Fielded rest fs) : Fielded (gap ++ field ++ rest) (field :: fs)

theorem fieldsOverBlank (blank : Blank gap) (cs : List Char) (done : List (List Char)) :
    fieldsFrom [] (gap ++ cs) done = fieldsFrom [] cs done := by
  induction gap with
  | nil => rfl
  | cons c gap ih =>
      have first : isSpace c = true := blank c (by simp)
      rw [List.cons_append, fieldsFrom, if_pos first]
      exact ih fun d member => blank d (by simp [member])

theorem fieldsOverSolid (solid : Solid field) (current cs : List Char) (done : List (List Char)) :
    fieldsFrom current (field ++ cs) done = fieldsFrom (field.reverse ++ current) cs done := by
  induction field generalizing current with
  | nil => rfl
  | cons c field ih =>
      have first : ¬ isSpace c = true := by simp [solid c (by simp)]
      rw [List.cons_append, fieldsFrom, if_neg first, ih fun d member => solid d (by simp [member]),
        List.reverse_cons, List.append_assoc]
      rfl

theorem fieldsEnd {current : List Char} (nonempty : current ≠ [])
    (apart : ∀ c ∈ rest.head?, isSpace c = true) (done : List (List Char)) :
    fieldsFrom current rest done = fieldsFrom [] rest (current.reverse :: done) := by
  have unfinished : current.isEmpty = false := by simpa using nonempty
  cases rest with
  | nil => simp [fieldsFrom, unfinished]
  | cons c rest =>
      have first : isSpace c = true := apart c rfl
      simp [fieldsFrom, unfinished, first]

theorem fieldedFrom (fielded : Fielded cs fs) (done : List (List Char)) :
    fieldsFrom [] cs done = done.reverse ++ fs := by
  induction fielded generalizing done with
  | nil blank =>
      have whole := fieldsOverBlank blank [] done
      rw [List.append_nil] at whole
      rw [whole, List.append_nil]
      rfl
  | cons blank nonempty solid apart tail ih =>
      rw [List.append_assoc, fieldsOverBlank blank, fieldsOverSolid solid, List.append_nil,
        fieldsEnd (by simpa using nonempty) apart, List.reverse_reverse, ih, List.reverse_cons,
        List.append_assoc]
      rfl

theorem fieldedSpace {c : Char} (space : isSpace c = true) (fielded : Fielded cs fs) :
    Fielded (c :: cs) fs := by
  cases fielded with
  | nil blank => exact .nil (by simpa [Blank, space] using blank)
  | @cons gap field rest fs blank nonempty solid apart tail =>
      have longer : Blank (c :: gap) := by simpa [Blank, space] using blank
      exact @Fielded.cons (c :: gap) field rest fs longer nonempty solid apart tail

theorem fieldedSolid {c : Char} (solid : isSpace c = false) (fielded : Fielded cs fs) :
    ∃ fs', Fielded (c :: cs) fs' := by
  have alone : (∀ d ∈ cs.head?, isSpace d = true) → Fielded (c :: cs) ([c] :: fs) := fun apart =>
    @Fielded.cons [] [c] cs fs (by simp [Blank]) (by simp) (by simpa [Solid] using solid) apart
      fielded
  cases fielded with
  | nil blank => exact ⟨_, alone fun d first => blank d (List.mem_of_mem_head? first)⟩
  | @cons gap field rest fs blank nonempty inner apart tail =>
      cases gap with
      | nil =>
          have longer : Solid (c :: field) := by simpa [Solid, solid] using inner
          exact ⟨_, @Fielded.cons [] (c :: field) rest fs blank (by simp) longer apart tail⟩
      | cons d gap =>
          refine ⟨_, alone fun x first => blank x ?_⟩
          cases first
          simp

theorem fieldedSome (cs : List Char) : ∃ fs, Fielded cs fs := by
  induction cs with
  | nil => exact ⟨[], .nil (by simp [Blank])⟩
  | cons c cs ih =>
      obtain ⟨fs, fielded⟩ := ih
      cases space : isSpace c with
      | true => exact ⟨fs, fieldedSpace space fielded⟩
      | false => exact fieldedSolid space fielded

theorem fieldsExact : Fielded cs fs ↔ fieldsFrom [] cs [] = fs := by
  constructor
  · exact fun fielded => fieldedFrom fielded []
  · rintro rfl
    obtain ⟨fs, fielded⟩ := fieldedSome cs
    rw [fieldedFrom fielded []]
    exact fielded

end LineBasic.Text
