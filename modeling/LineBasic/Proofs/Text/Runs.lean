/-!
Runs of characters. The longest run of one kind at the front of a text is followed by a character of
another kind, or by nothing.
-/
namespace LineBasic.Text

variable {p : Char → Bool} {cs rest : List Char}

theorem takeWhileLength (p : Char → Bool) (cs : List Char) :
    (cs.takeWhile p).length ≤ cs.length :=
  (List.takeWhile_prefix p).length_le

theorem dropTakeWhile (p : Char → Bool) (cs : List Char) :
    cs.drop (cs.takeWhile p).length = cs.dropWhile p := by
  have whole := List.takeWhile_append_dropWhile (p := p) (l := cs)
  calc cs.drop (cs.takeWhile p).length
      = (cs.takeWhile p ++ cs.dropWhile p).drop (cs.takeWhile p).length := by rw [whole]
    _ = cs.dropWhile p := List.drop_left

theorem takeWhileStop (all : ∀ c ∈ cs, p c = true) (stop : ∀ c ∈ rest.head?, p c = false) :
    (cs ++ rest).takeWhile p = cs := by
  rw [List.takeWhile_append_of_pos all]
  cases rest with
  | nil => simp
  | cons c others => simp [stop c rfl]

theorem dropWhileStops (p : Char → Bool) (cs : List Char) :
    ∀ c ∈ (cs.dropWhile p).head?, p c = false := by
  intro c first
  have stopped := List.head?_dropWhile_not p cs
  rw [first] at stopped
  simpa using stopped

end LineBasic.Text
