import Mathlib.Data.List.Infix
import LineBasic.Host.Files

/-!
A file that was written can be read back under the same name. Writing makes no directories, so every
name stands for the same place afterwards.
-/
namespace LineBasic.Files

variable {fs fs' : Files} {p q : Path} {name text : String}

theorem directoryExact : fs.isDirectory q = true ↔
    ((q = [] ∨ q <+: fs.current) ∨ ∃ d ∈ fs.directories, q <+: d) ∨
      ∃ e ∈ fs.entries, q <+: e.1 ∧ q ≠ e.1 := by
  simp only [isDirectory, Bool.or_eq_true, List.any_eq_true, Bool.and_eq_true, bne_iff_ne,
    List.isPrefixOf_iff_prefix, List.isEmpty_iff]

theorem directoryAbove (above : q <+: p) (found : fs.isDirectory p = true) :
    fs.isDirectory q = true := by
  rw [directoryExact] at found ⊢
  rcases found with ((rfl | current) | ⟨d, member, below⟩) | ⟨e, member, below, other⟩
  · exact .inl (.inl (.inl (List.prefix_nil.mp above)))
  · exact .inl (.inl (.inr (above.trans current)))
  · exact .inl (.inr ⟨d, member, above.trans below⟩)
  · refine .inr ⟨e, member, above.trans below, ?_⟩
    rintro rfl
    exact other (below.eq_of_length_le above.length_le)

theorem properPrefix (above : q <+: p) (other : q ≠ p) : q <+: p.dropLast := by
  cases p using List.reverseRecOn with
  | nil => exact absurd (List.prefix_nil.mp above) other
  | append_singleton parent last =>
      rw [List.dropLast_concat]
      exact (List.prefix_concat_iff.mp above).resolve_left other

section Put

variable (p text) (entries : List (Path × String))

theorem putFound : (put p text entries).find? (fun e => e.1 == p) = some (p, text) := by
  induction entries with
  | nil => simp [put]
  | cons e rest ih =>
      unfold put
      split
      · simp
      · rename_i other
        simp [other, ih]

theorem putPlaces {P : Path → Prop} :
    (∃ e ∈ put p text entries, P e.1) ↔ P p ∨ ∃ e ∈ entries, P e.1 := by
  induction entries with
  | nil => simp [put]
  | cons e rest ih =>
      unfold put
      split
      · rename_i same
        simp [beq_iff_eq.mp same]
      · simp only [List.exists_mem_cons_iff, ih]
        exact or_left_comm

end Put

theorem putDirectories (text : String) (inside : fs.isDirectory p.dropLast = true) (q : Path) :
    isDirectory { fs with entries := put p text fs.entries } q = fs.isDirectory q := by
  have above : q <+: p ∧ q ≠ p → fs.isDirectory q = true :=
    fun proper => directoryAbove (properPrefix proper.1 proper.2) inside
  rw [Bool.eq_iff_iff, directoryExact, directoryExact]
  rw [directoryExact] at above
  simp only [putPlaces p text fs.entries (P := fun r => q <+: r ∧ q ≠ r)]
  rw [or_left_comm]
  exact or_iff_right_of_imp above

theorem walkSame (same : ∀ q, fs'.isDirectory q = fs.isDirectory q) {here : Path}
    {names : List String} (walked : fs.walk here names = .ok p) : fs'.walk here names = .ok p := by
  fun_induction fs.walk here names with
  | case1 here => exact walked
  | case2 here name rest missing => cases walked
  | case3 here name rest directory stays ih =>
      rw [walk, same, if_neg directory, if_pos stays]
      exact ih walked
  | case4 here name rest directory moves up ih =>
      rw [walk, same, if_neg directory, if_neg moves, if_pos up]
      exact ih walked
  | case5 here name rest directory moves down long => cases walked
  | case6 here name rest directory moves down short ih =>
      rw [walk, same, if_neg directory, if_neg moves, if_neg down, if_neg short]
      exact ih walked

theorem locateSame (same : ∀ q, fs'.isDirectory q = fs.isDirectory q)
    (current : fs'.current = fs.current) (located : fs.locate name = .ok p) :
    fs'.locate name = .ok p := by
  unfold locate at located ⊢
  simp only at located ⊢
  split at located
  · cases located
  · split at located
    · cases located
    · split at located
      · cases located
      · rename_i valid short rooted
        rw [if_neg valid, if_neg short, if_neg rooted, current]
        exact walkSame same located

theorem readWritten (written : fs.write name text = .ok fs') : fs'.read name = .ok text := by
  unfold write at written
  cases located : fs.locate name with
  | error reason => simp [located] at written
  | ok p =>
      simp only [located] at written
      split at written
      · cases written
      · split at written
        · cases written
        · rename_i inside
          have directory : fs.isDirectory p.dropLast = true := by simpa using inside
          cases written
          have again := locateSame (putDirectories text directory) rfl located
          simp only [read, again, contents?, putFound, Option.map_some]

end LineBasic.Files
