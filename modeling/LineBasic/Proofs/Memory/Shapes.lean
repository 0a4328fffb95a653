import Mathlib.Algebra.GroupWithZero.Nat
import LineBasic.Proofs.Memory.History

/-!
The shape of an array. The products that its dimensions are checked by, and those that say how far
apart its cells are, never leave 64 bits, also where the check fails. An array that is made has one
cell for each tuple of subscripts inside its dimensions and no other; the cells stand in the order
of the tuples.
-/
namespace LineBasic

def strides : List Nat → List Nat
  | [] => []
  | _ :: ds => volume ds :: strides ds

section Words

def product64? (a b : Nat) : Option Nat := if a * b < 2 ^ 63 then some (a * b) else none

def checkDims64? (total : Nat) : List Int → Option (Except ShapeProblem (List Nat))
  | [] => some (.ok [])
  | d :: ds =>
    if d ≤ 0 then some (.error .notPositive)
    else if maxCells / d.toNat < total then some (.error .tooLarge)
    else do
      let next ← product64? total d.toNat
      let rest ← checkDims64? next ds
      some (rest.map (d.toNat :: ·))

def strides64? : List Nat → Option (List Nat × Nat)
  | [] => some ([], 1)
  | d :: ds => do
    let (later, step) ← strides64? ds
    let next ← product64? step d
    some (step :: later, next)

def shape64? (dims : List Int) : Option (Except ShapeProblem (List Nat × List Nat)) := do
  match ← checkDims64? 1 dims with
  | .error problem => some (.error problem)
  | .ok sizes =>
    let (steps, _) ← strides64? sizes
    some (.ok (sizes, steps))

theorem productFits {a b : Nat} (small : a * b ≤ maxCells) : product64? a b = some (a * b) := by
  have below : maxCells < 2 ^ 63 := by decide
  exact if_pos (by omega)

theorem checkDimsFits (total : Nat) (dims : List Int) :
    checkDims64? total dims = some (checkDims total dims) := by
  induction dims generalizing total with
  | nil => rfl
  | cons d ds ih =>
      rw [checkDims64?, checkDims]
      split
      · rfl
      · rename_i positive
        split
        · rfl
        · rename_i small
          have fits : total * d.toNat ≤ maxCells :=
            (Nat.le_div_iff_mul_le (by omega)).mp (Nat.not_lt.mp small)
          simp only [productFits fits, ih, bind, Option.bind]

theorem stridesFit {dims : List Nat} (positive : ∀ d ∈ dims, 0 < d)
    (small : volume dims ≤ maxCells) : strides64? dims = some (strides dims, volume dims) := by
  induction dims with
  | nil => rfl
  | cons d ds ih =>
      obtain ⟨first, later⟩ := List.forall_mem_cons.mp positive
      have whole : volume ds * d ≤ maxCells := by rwa [Nat.mul_comm]
      have inner : volume ds ≤ maxCells := (Nat.le_mul_of_pos_right _ first).trans whole
      simp only [strides64?, ih later inner, productFits whole, bind, Option.bind]
      rw [Nat.mul_comm]
      rfl

theorem volumeProduct {dims : List Int} (positive : ∀ d ∈ dims, 0 < d) :
    (volume (dims.map Int.toNat) : Int) = dims.prod := by
  induction dims with
  | nil => rfl
  | cons d ds ih =>
      obtain ⟨first, later⟩ := List.forall_mem_cons.mp positive
      rw [List.map_cons, volume, Int.natCast_mul, ih later,
        Int.toNat_of_nonneg (Int.le_of_lt first), List.prod_cons]

theorem shapeFits (dims : List Int) : shape64? dims =
    some ((checkDims 1 dims).map fun sizes => (sizes, strides sizes)) := by
  unfold shape64?
  rw [checkDimsFits]
  cases checked : checkDims 1 dims with
  | error problem => rfl
  | ok sizes =>
      obtain ⟨⟨positive, small⟩, rfl⟩ := checkDimsGood.mp checked
      have sizesPositive : ∀ n ∈ dims.map Int.toNat, 0 < n := by
        intro n member
        obtain ⟨d, inside, rfl⟩ := List.mem_map.mp member
        have := positive d inside
        omega
      have sizesSmall : volume (dims.map Int.toNat) ≤ maxCells := by
        have same := volumeProduct positive
        omega
      have steps := stridesFit sizesPositive sizesSmall
      simp only [steps, bind, Option.bind]
      rfl

end Words

section Order

def tupleAt : List Nat → Nat → List Int
  | [], _ => []
  | _ :: ds, n => (n / volume ds + 1 : Nat) :: tupleAt ds (n % volume ds)

theorem offsetCons {d : Nat} {ds : List Nat} {index : List Int} {place : Nat} :
    (∃ p : Fin (volume (d :: ds)), p.val = place ∧ offset? (d :: ds) index = some p) ↔
      ∃ i is, index = i :: is ∧ (1 ≤ i ∧ i ≤ d) ∧ ∃ r : Fin (volume ds),
        offset? ds is = some r ∧ place = (i - 1).toNat * volume ds + r := by
  constructor
  · rintro ⟨p, rfl, found⟩
    cases index with
    | nil => cases found
    | cons i is =>
        rw [offset?] at found
        split at found <;> [skip; cases found]
        rename_i inside
        obtain ⟨r, rest, rfl⟩ := Option.map_eq_some_iff.mp found
        exact ⟨i, is, rfl, inside, r, rest, rfl⟩
  · rintro ⟨i, is, rfl, inside, r, rest, rfl⟩
    refine ⟨⟨_, step_lt_volume (by omega) r.isLt⟩, rfl, ?_⟩
    rw [offset?, dif_pos inside, rest]
    rfl

@[simp] theorem offsetTuple (dims : List Nat) (place : Fin (volume dims)) :
    offset? dims (tupleAt dims place) = some place := by
  induction dims with
  | nil =>
      obtain ⟨n, bound⟩ := place
      obtain rfl : n = 0 := by simpa [volume] using bound
      rfl
  | cons d ds ih =>
      obtain ⟨n, bound⟩ := place
      have positive : 0 < volume ds := Nat.pos_of_mul_pos_left (Nat.zero_lt_of_lt bound)
      have row : n / volume ds < d := (Nat.div_lt_iff_lt_mul positive).mpr bound
      have later := ih ⟨n % volume ds, Nat.mod_lt n positive⟩
      have whole := Nat.div_add_mod' n (volume ds)
      rw [tupleAt]
      generalize n / volume ds = q at row whole ⊢
      obtain ⟨p, same, found⟩ :=
        offsetCons (d := d).mpr ⟨((q + 1 : Nat) : Int), _, rfl, by omega, _, later, rfl⟩
      rw [found]
      have rows : (((q + 1 : Nat) : Int) - 1).toNat = q := by omega
      rw [rows] at same
      exact congrArg _ (Fin.ext (same.trans whole))

theorem rowsOrdered {a b r t v : Nat} (row : r < v) (other : t < v) :
    a * v + r < b * v + t ↔ a < b ∨ a = b ∧ r < t := by
  rcases Nat.lt_trichotomy a b with less | same | more
  · have next : (a + 1) * v ≤ b * v := Nat.mul_le_mul_right v less
    rw [Nat.succ_mul] at next
    exact iff_of_true (by omega) (.inl less)
  · subst same
    simp
  · have next : (b + 1) * v ≤ a * v := Nat.mul_le_mul_right v more
    rw [Nat.succ_mul] at next
    exact iff_of_false (by omega) (by omega)

theorem offsetOrdered {dims : List Nat} {index other : List Int} {p q : Fin (volume dims)}
    (first : offset? dims index = some p) (second : offset? dims other = some q) :
    p < q ↔ List.Lex (· < ·) index other := by
  induction dims generalizing index other with
  | nil =>
      cases index with
      | cons i is => cases first
      | nil =>
          cases other with
          | cons j js => cases second
          | nil =>
              cases first
              cases second
              simp
  | cons d ds ih =>
      obtain ⟨i, is, rfl, low, r, rest, here⟩ := offsetCons.mp ⟨p, rfl, first⟩
      obtain ⟨j, js, rfl, high, t, rest', there⟩ := offsetCons.mp ⟨q, rfl, second⟩
      rw [List.cons_lex_cons_iff, ← ih rest rest', Fin.lt_def, here, there,
        rowsOrdered r.isLt t.isLt, Fin.lt_def]
      have less : (i - 1).toNat < (j - 1).toNat ↔ i < j := by omega
      have same : (i - 1).toNat = (j - 1).toNat ↔ i = j := by omega
      rw [less, same]

theorem offsetStrided {dims : List Nat} {index : List Int} {place : Fin (volume dims)}
    (found : offset? dims index = some place) :
    place.val = (List.zipWith (fun i step => (i - 1).toNat * step) index (strides dims)).sum := by
  induction dims generalizing index with
  | nil =>
      cases index with
      | cons i is => cases found
      | nil =>
          cases found
          rfl
  | cons d ds ih =>
      obtain ⟨i, is, rfl, _, r, rest, here⟩ := offsetCons.mp ⟨place, rfl, found⟩
      rw [here, strides, List.zipWith_cons_cons, List.sum_cons, ← ih rest]

end Order

namespace Grid

@[simp]
theorem locateOk (g : Grid) (name : String) {index : List Int} {place : Fin (volume g.dims)} :
    g.locate name index = .ok place ↔ offset? g.dims index = some place := by
  unfold locate
  cases offset? g.dims index with
  | some p => simp
  | none => by_cases rank : index.length = g.dims.length <;> simp [rank]

theorem locateOutside {g : Grid} {name : String} {index : List Int}
    (outside : offset? g.dims index = none) :
    ∃ f, g.locate name index = .error f ∧ f.OutOfRange := by
  unfold locate
  rw [outside]
  by_cases rank : index.length = g.dims.length <;> simp [rank, Fault.OutOfRange]

structure Dense (dims : List Int) (g : Grid) : Prop where
  sizes : g.dims = dims.map Int.toNat
  cells : (volume g.dims : Int) = dims.prod
  inside (name : String) (index : List Int) :
    Inside dims index ↔ ∃ place, g.locate name index = .ok place
  outside (name : String) (index : List Int) (out : ¬ Inside dims index) :
    ∃ f, g.locate name index = .error f ∧ f.OutOfRange
  once (name : String) (place : Fin (volume g.dims)) : ∃! index, g.locate name index = .ok place
  ordered (name : String) {i j : List Int} {p q : Fin (volume g.dims)}
    (first : g.locate name i = .ok p) (second : g.locate name j = .ok q) :
    p < q ↔ List.Lex (· < ·) i j
  strided (name : String) {i : List Int} {p : Fin (volume g.dims)}
    (found : g.locate name i = .ok p) :
    p.val = (List.zipWith (fun i step => (i - 1).toNat * step) i (strides g.dims)).sum

theorem blankDense {dims : List Int} (positive : ∀ d ∈ dims, 0 < d) (texts : Bool) :
    Dense dims (blank texts (dims.map Int.toNat)) := by
  have sizes : (dims.map Int.toNat).map Int.ofNat = dims := by
    rw [List.map_map]
    refine (List.map_congr_left fun d member => ?_).trans (List.map_id dims)
    exact Int.toNat_of_nonneg (Int.le_of_lt (positive d member))
  have found (index : List Int) :
      Inside dims index ↔ (offset? (dims.map Int.toNat) index).isSome := by
    rw [offsetFound, sizes]
  exact {
    sizes := rfl
    cells := volumeProduct positive
    inside := by
      intro name index
      rw [found, Option.isSome_iff_exists]
      exact exists_congr fun place => (locateOk (blank texts (dims.map Int.toNat)) name).symm
    outside := by
      intro name index out
      rw [found, Option.not_isSome_iff_eq_none] at out
      exact locateOutside out
    once := by
      intro name place
      refine ⟨_, (locateOk _ name).mpr (offsetTuple _ place), fun other there => ?_⟩
      exact offsetUnique ((locateOk _ name).mp there) (offsetTuple _ place)
    ordered := fun name _ _ _ _ first second =>
      offsetOrdered ((locateOk _ name).mp first) ((locateOk _ name).mp second)
    strided := fun name _ _ there => offsetStrided ((locateOk _ name).mp there) }

end Grid

namespace Variables

/- The limit is on the product of all dimensions, not on each of them, and it is the product itself
that is meant: none of those that are formed on the way overflows. -/
theorem arraysDense (vs : Variables) (name : String) (first : Int) (rest : List Int) :
    shape64? (first :: rest) =
        some ((checkDims 1 (first :: rest)).map fun sizes => (sizes, strides sizes)) ∧
      ((∃ vs', vs.dimension name (first :: rest) = .ok vs') ↔
        (∀ d ∈ first :: rest, 0 < d) ∧ (first :: rest).prod ≤ 2 ^ 24) ∧
      ∀ vs', vs.dimension name (first :: rest) = .ok vs' →
        ∃ g, vs'.array name = .ok g ∧ g.Dense (first :: rest) := by
  refine ⟨shapeFits _, ?_, fun vs' made => ?_⟩
  · rw [exists_congr fun vs' => dimensionOk (by simp), exists_and_left]
    exact and_iff_left ⟨_, rfl⟩
  · obtain ⟨⟨positive, _⟩, rfl⟩ := (dimensionOk (by simp)).mp made
    refine ⟨_, ?_, Grid.blankDense positive (isTextName name)⟩
    simp [array]

/- Six cells in two rows. The second row starts behind the third cell, and a dimension too large for
the rest is refused without multiplying by it. -/
theorem twoByThreeDense : ∃ vs g, empty.dimension "A" [2, 3] = .ok vs ∧ vs.array "A" = .ok g ∧
    (∃ p, g.locate "A" [2, 1] = .ok p ∧ p.val = 3) ∧
    (∃ f, g.locate "A" [1, 4] = .error f ∧ f.OutOfRange) ∧
    shape64? [2, 2 ^ 62, 2 ^ 62] = some (.error .tooLarge) ∧
    ¬ ∃ vs', empty.dimension "A" [2, 2 ^ 62, 2 ^ 62] = .ok vs' := by
  obtain ⟨_, exact, dense⟩ := arraysDense empty "A" 2 [3]
  obtain ⟨fits, refused, _⟩ := arraysDense empty "A" 2 [2 ^ 62, 2 ^ 62]
  obtain ⟨vs, made⟩ := exact.mpr (by decide)
  obtain ⟨g, found, shape⟩ := dense vs made
  refine ⟨vs, g, made, found, ?_, shape.outside "A" [1, 4] (by simp [Inside]), fits,
    refused.not.mpr (by decide)⟩
  obtain ⟨p, there⟩ := (shape.inside "A" [2, 1]).mp (by simp [Inside])
  refine ⟨p, there, ?_⟩
  rw [shape.strided "A" there, shape.sizes]
  rfl

end Variables

end LineBasic
