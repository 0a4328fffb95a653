import Mathlib.Data.List.Forall2
import Mathlib.Data.String.Basic
import LineBasic.Session.Columns

/-!
The layout of words in columns. Its lines make up a table of the words: read down the columns, from
the first to the last, the table is the list that was laid out. Each word stands at the start of its
column and only the last one of a line is not filled up, so no line runs over the screen unless a
single word does.
-/
namespace LineBasic.Columns

def readDown (columns : Nat) (table : List (List String)) : List String :=
  (List.range columns).flatMap fun c => table.filterMap (·[c]?)

/- What a line shows: each word from the start of its column on, with blanks up to the next column
behind it, and nothing behind the last. -/
structure Shows (w : Nat) (cells : List String) (line : String) : Prop where
  nonempty : cells ≠ []
  starts (c : Nat) (word : String) (held : cells[c]? = some word) :
    word.toList <+: line.toList.drop (c * w)
  filled (c : Nat) (word : String) (held : cells[c]? = some word) (more : c + 1 < cells.length) :
    (line.toList.drop (c * w)).take w =
      word.toList ++ List.replicate (w - word.length) ' '
  last (word : String) (held : cells.getLast? = some word) :
    line.toList.drop ((cells.length - 1) * w) = word.toList

section Lines

def lineOf (w : Nat) : List String → String
  | [] => ""
  | [word] => word
  | word :: next :: rest => pad w word ++ lineOf w (next :: rest)

@[simp] theorem padText (w : Nat) (word : String) :
    (pad w word).toList = word.toList ++ List.replicate (w - word.length) ' ' := by
  simp [pad]

theorem padLength {w : Nat} {word : String} (short : word.length ≤ w) :
    (pad w word).toList.length = w := by
  rw [padText, List.length_append, List.length_replicate, String.length_toList]
  omega

theorem showsOne (w : Nat) (word : String) : Shows w [word] word where
  nonempty := by simp
  starts := by
    intro c x held
    cases c with
    | zero =>
        cases held
        simp
    | succ c => cases held
  filled := by simp
  last := by simp

theorem Shows.cons {w : Nat} {word : String} {cells : List String} {line : String}
    (shown : Shows w cells line) (short : word.length ≤ w) :
    Shows w (word :: cells) (pad w word ++ line) := by
  have first : (pad w word ++ line).toList = (pad w word).toList ++ line.toList :=
    String.toList_append
  have behind (c : Nat) : (pad w word ++ line).toList.drop ((c + 1) * w) =
      line.toList.drop (c * w) := by
    rw [first, Nat.succ_mul, Nat.add_comm, ← List.drop_drop, List.drop_left' (padLength short)]
  refine ⟨by simp, fun c x held => ?starts, fun c x held more => ?filled, fun x held => ?last⟩
  case starts =>
    cases c with
    | zero =>
        cases held
        rw [Nat.zero_mul, List.drop_zero, first, padText, List.append_assoc]
        exact List.prefix_append _ _
    | succ c =>
        rw [behind]
        exact shown.starts c x held
  case filled =>
    cases c with
    | zero =>
        cases held
        rw [Nat.zero_mul, List.drop_zero, first, List.take_left' (padLength short), padText]
    | succ c =>
        rw [behind]
        exact shown.filled c x held (Nat.lt_of_succ_lt_succ more)
  case last =>
    obtain ⟨next, rest, rfl⟩ := List.exists_cons_of_ne_nil shown.nonempty
    have columns : (word :: next :: rest).length - 1 = (next :: rest).length - 1 + 1 := by simp
    rw [columns, behind]
    exact shown.last x (by simpa using held)

theorem lineShows {w : Nat} {cells : List String} (nonempty : cells ≠ [])
    (short : ∀ word ∈ cells, word.length ≤ w) : Shows w cells (lineOf w cells) := by
  induction cells with
  | nil => exact absurd rfl nonempty
  | cons word rest ih =>
      cases rest with
      | nil => exact showsOne w word
      | cons next rest =>
          obtain ⟨first, later⟩ := List.forall_mem_cons.mp short
          exact (ih (by simp) later).cons first

theorem Shows.length {w longest : Nat} {cells : List String} {line : String}
    (shows : Shows w cells line) (short : ∀ word ∈ cells, word.length ≤ longest) :
    line.length ≤ (cells.length - 1) * w + longest := by
  obtain ⟨word, held⟩ :=
    Option.ne_none_iff_exists'.mp (List.getLast?_eq_none_iff.not.mpr shows.nonempty)
  have rest := congrArg List.length (shows.last word held)
  rw [List.length_drop, String.length_toList, String.length_toList] at rest
  have := short word (List.mem_of_getLast? held)
  omega

end Lines

section Table

variable (words : List String) (rows r : Nat)

def cellsFrom : Nat → Nat → List String
  | 0, _ => []
  | columns + 1, c =>
    match words[c * rows + r]? with
    | none => []
    | some word => word :: cellsFrom columns (c + 1)

theorem cellsMember {word : String} {columns c : Nat}
    (member : word ∈ cellsFrom words rows r columns c) : word ∈ words := by
  induction columns generalizing c with
  | zero => cases member
  | succ columns ih =>
      rw [cellsFrom] at member
      split at member
      · cases member
      · rename_i found
        rcases List.mem_cons.mp member with rfl | later
        · exact List.mem_of_getElem? found
        · exact ih later

theorem cellsLength (columns c : Nat) : (cellsFrom words rows r columns c).length ≤ columns := by
  induction columns generalizing c with
  | zero => exact Nat.le_refl 0
  | succ columns ih =>
      rw [cellsFrom]
      split
      · exact Nat.zero_le _
      · exact Nat.succ_le_succ (ih (c + 1))

theorem cellsAt {columns c j : Nat} (inside : j < columns) :
    (cellsFrom words rows r columns c)[j]? = words[(c + j) * rows + r]? := by
  induction columns generalizing c j with
  | zero => exact absurd inside (Nat.not_lt_zero j)
  | succ columns ih =>
      rw [cellsFrom]
      cases found : words[c * rows + r]? with
      | none =>
          have past : words.length ≤ (c + j) * rows + r := by
            have outside := List.getElem?_eq_none_iff.mp found
            have grown := Nat.mul_le_mul_right rows (Nat.le_add_right c j)
            omega
          simp [past]
      | some word =>
          cases j with
          | zero => exact found.symm
          | succ j =>
              rw [List.getElem?_cons_succ, ih (Nat.lt_of_succ_lt_succ inside)]
              congr 3
              omega

theorem rowShown (w columns c : Nat) :
    row words w rows r columns c = lineOf w (cellsFrom words rows r columns c) := by
  induction columns generalizing c with
  | zero => rfl
  | succ columns ih =>
      rw [row, cellsFrom]
      cases words[c * rows + r]? with
      | none => rfl
      | some word =>
          simp only
          split
          · rename_i final
            have nothing : cellsFrom words rows r columns (c + 1) = [] := by
              cases columns with
              | zero => rfl
              | succ columns =>
                  have past : words.length ≤ (c + 1) * rows + r := by simpa using final
                  rw [cellsFrom, List.getElem?_eq_none_iff.mpr past]
            rw [nothing, lineOf]
          · rename_i more
            rw [ih]
            cases columns with
            | zero => simp at more
            | succ columns =>
                have inside : (c + 1) * rows + r < words.length := by simpa using more
                rw [cellsFrom, List.getElem?_eq_getElem inside, lineOf]

theorem columnRead (c : Nat) : (List.range rows).filterMap (fun r => words[c * rows + r]?) =
    (words.drop (c * rows)).take rows := by
  have readFront (l : List String) (n : Nat) :
      (List.range n).filterMap (fun r => l[r]?) = l.take n := by
    induction n with
    | zero => simp
    | succ n ih =>
        rw [List.range_succ, List.filterMap_append, ih, List.take_add_one]
        cases found : l[n]? <;> simp [found]
  rw [← readFront]
  simp only [List.getElem?_drop]

theorem columnsRead (columns : Nat) :
    (List.range columns).flatMap (fun c => (words.drop (c * rows)).take rows) =
      words.take (columns * rows) := by
  induction columns with
  | zero => simp
  | succ columns ih =>
      rw [List.range_succ, List.flatMap_append, ih, Nat.succ_mul, List.take_add]
      simp

end Table

section Size

theorem bytesOfNarrow {word : String} (narrow : ∀ c ∈ word.toList, c.utf8Size = 1) :
    word.utf8ByteSize = word.length := by
  have sizes (cs : List Char) (single : ∀ c ∈ cs, c.utf8Size = 1) :
      String.utf8Len cs = cs.length := by
    induction cs with
    | nil => rfl
    | cons c cs ih =>
        obtain ⟨first, later⟩ := List.forall_mem_cons.mp single
        rw [String.utf8Len_cons, ih later, first, List.length_cons]
  rw [← String.utf8Len_toList, sizes _ narrow, String.length_toList]

theorem foldlMaxLe {sizes : List Nat} {least most : Nat} :
    sizes.foldl max least ≤ most ↔ least ≤ most ∧ ∀ n ∈ sizes, n ≤ most := by
  induction sizes generalizing least with
  | nil => simp
  | cons n sizes ih => rw [List.foldl_cons, ih, List.forall_mem_cons, Nat.max_le, and_assoc]

theorem columnWidthNarrow {words : List String} {longest : Nat}
    (narrow : ∀ word ∈ words, ∀ c ∈ word.toList, c.utf8Size = 1)
    (bound : ∀ word ∈ words, word.length ≤ longest)
    (reached : ∃ word ∈ words, word.length = longest) : columnWidth words = longest + 2 := by
  have lengths : words.map String.utf8ByteSize = words.map String.length :=
    List.map_congr_left fun word member => bytesOfNarrow (narrow word member)
  have above : (words.map String.length).foldl max 0 ≤ longest :=
    foldlMaxLe.mpr ⟨Nat.zero_le _, by simpa using bound⟩
  have below : longest ≤ (words.map String.length).foldl max 0 := by
    obtain ⟨word, member, rfl⟩ := reached
    exact (foldlMaxLe.mp (Nat.le_refl _)).2 _ (List.mem_map_of_mem member)
  rw [columnWidth, lengths, Nat.le_antisymm above below]

theorem columnCountPos (width : Int) (w : Nat) : 1 ≤ columnCount width w := by
  unfold columnCount
  omega

theorem columnCountFits (width : Int) {w : Nat} (positive : 0 < w) :
    columnCount width w = 1 ∨ ((columnCount width w * w : Nat) : Int) ≤ width := by
  unfold columnCount
  rcases Int.lt_or_le 1 (Int.tdiv width w) with several | one
  · refine .inr ?_
    have positive : 0 ≤ width := by
      by_contra negative
      have below := Int.tdiv_nonneg (a := -width) (b := w) (by omega) (Int.natCast_nonneg w)
      rw [Int.neg_tdiv] at below
      omega
    rw [Int.max_eq_right (Int.le_of_lt several), Int.natCast_mul, Int.toNat_of_nonneg (by omega),
      Int.tdiv_eq_ediv_of_nonneg positive]
    exact Int.ediv_mul_le width (by omega)
  · exact .inl (by omega)

end Size

section Layout

variable {words : List String} {longest : Nat} (width : Int)

def tableOf (words : List String) (width : Int) : List (List String) :=
  let columns := columnCount width (columnWidth words)
  let rows := (words.length + columns - 1) / columns
  (List.range rows).map fun r => cellsFrom words rows r columns 0

theorem layoutLines (words : List String) :
    layout words width = (tableOf words width).map (lineOf (columnWidth words)) := by
  simp only [layout, tableOf, List.map_map, rowShown]
  rfl

theorem tableCells {cells : List String} (member : cells ∈ tableOf words width) :
    cells ≠ [] ∧ (∀ word ∈ cells, word ∈ words) ∧
      cells.length ≤ columnCount width (columnWidth words) := by
  unfold tableOf at member
  have positive := columnCountPos width (columnWidth words)
  generalize columnCount width (columnWidth words) = columns at member positive ⊢
  obtain ⟨r, inside, rfl⟩ := List.mem_map.mp member
  refine ⟨?_, fun word => cellsMember words _ r, cellsLength words _ r columns 0⟩
  -- there are no more rows than words, so the first column has a word in each of them
  have below : r < words.length := by
    have row := List.mem_range.mp inside
    have enough := (Nat.lt_div_iff_mul_lt positive).mp row
    have grown := Nat.le_mul_of_pos_right r positive
    omega
  have first := cellsAt words ((words.length + columns - 1) / columns) r (c := 0) positive
  rw [Nat.zero_add, Nat.zero_mul, Nat.zero_add, List.getElem?_eq_getElem below] at first
  intro nothing
  rw [nothing] at first
  cases first

theorem tableRead : readDown (columnCount width (columnWidth words)) (tableOf words width) =
    words := by
  unfold readDown tableOf
  have positive := columnCountPos width (columnWidth words)
  generalize columnCount width (columnWidth words) = columns at positive ⊢
  simp only
  generalize rowsOf : (words.length + columns - 1) / columns = rows
  have column (c : Nat) (inside : c ∈ List.range columns) :
      ((List.range rows).map fun r => cellsFrom words rows r columns 0).filterMap (·[c]?) =
        (words.drop (c * rows)).take rows := by
    rw [← columnRead, List.filterMap_map]
    refine List.filterMap_congr fun r _ => ?_
    rw [Function.comp_apply, cellsAt words rows r (List.mem_range.mp inside), Nat.zero_add]
  have whole : words.length ≤ columns * rows := by
    have covered := Nat.lt_mul_div_succ (words.length + columns - 1) positive
    rw [rowsOf, Nat.mul_succ] at covered
    omega
  rw [List.flatMap_congr column, columnsRead, List.take_of_length_le whole]

/- The words of a table are those of the list, each in one place, and a line holds its row of the
table and nothing else. -/
theorem columnsReadBack (narrow : ∀ word ∈ words, ∀ c ∈ word.toList, c.utf8Size = 1)
    (bound : ∀ word ∈ words, word.length ≤ longest)
    (reached : ∃ word ∈ words, word.length = longest) :
    ∃ columns table, List.Forall₂ (Shows (longest + 2)) table (layout words width) ∧
      (∀ cells ∈ table, cells.length ≤ columns) ∧ readDown columns table = words ∧
      ∀ line ∈ layout words width, (line.length : Int) ≤ max width longest := by
  have size := columnWidthNarrow narrow bound reached
  have shows : ∀ cells ∈ tableOf words width,
      Shows (longest + 2) cells (lineOf (longest + 2) cells) := by
    intro cells member
    obtain ⟨nonempty, given, _⟩ := tableCells width member
    exact lineShows nonempty fun word inside => (bound word (given word inside)).trans (by omega)
  refine ⟨_, tableOf words width, ?_, fun cells member => (tableCells width member).2.2,
    tableRead width, ?_⟩
  · rw [layoutLines, size, List.forall₂_map_right_iff, List.forall₂_same]
    exact shows
  · intro line member
    rw [layoutLines, size] at member
    obtain ⟨cells, inside, rfl⟩ := List.mem_map.mp member
    obtain ⟨_, given, few⟩ := tableCells width inside
    have short := (shows cells inside).length fun word own => bound word (given word own)
    rw [size] at few
    rcases columnCountFits width (w := longest + 2) (by omega) with single | fits
    · have one : cells.length - 1 = 0 := by omega
      rw [one, Nat.zero_mul] at short
      omega
    · have room := Nat.mul_le_mul_right (longest + 2) few
      rw [Nat.sub_mul] at short
      omega

def shortWords : List String := ["a", "bb", "c", "d", "e"]

theorem shortWordsReadBack :
    (∀ word ∈ shortWords, ∀ c ∈ word.toList, c.utf8Size = 1) ∧
      (∀ word ∈ shortWords, word.length ≤ 2) ∧ (∃ word ∈ shortWords, word.length = 2) ∧
      layout shortWords 8 = ["a   d", "bb  e", "c"] ∧
      ∃ columns table, List.Forall₂ (Shows 4) table ["a   d", "bb  e", "c"] ∧
        (∀ cells ∈ table, cells.length ≤ columns) ∧ readDown columns table = shortWords := by
  have narrow : ∀ word ∈ shortWords, ∀ c ∈ word.toList, c.utf8Size = 1 := by
    have single : shortWords.all (fun word => word.toList.all (·.utf8Size == 1)) := by decide
    simpa using single
  have bound : ∀ word ∈ shortWords, word.length ≤ 2 := by decide
  have reached : ∃ word ∈ shortWords, word.length = 2 := by decide
  have lines : layout shortWords 8 = ["a   d", "bb  e", "c"] := by decide +kernel
  obtain ⟨columns, table, shows, few, read, _⟩ := columnsReadBack 8 narrow bound reached
  rw [lines] at shows
  exact ⟨narrow, bound, reached, lines, columns, table, shows, few, read⟩

end Layout

end LineBasic.Columns
