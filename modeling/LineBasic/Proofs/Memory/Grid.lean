import Mathlib.Algebra.BigOperators.Group.List.Basic
import Mathlib.Algebra.Ring.Int.Defs
import Mathlib.Data.List.Forall2
import LineBasic.Memory.Grid

/-!
Arrays by their subscripts. Dimensions are good if they are positive and their product is not too
large; a place in the flat row of cells belongs to one tuple of subscripts only, so that a store is
seen at the tuple it was made at and nowhere else.
-/
namespace LineBasic

def GoodShape (dims : List Int) : Prop := (∀ d ∈ dims, 0 < d) ∧ dims.prod ≤ maxCells

instance (dims : List Int) : Decidable (GoodShape dims) :=
  inferInstanceAs (Decidable ((∀ d ∈ dims, 0 < d) ∧ dims.prod ≤ maxCells))

def Inside (dims index : List Int) : Prop := List.Forall₂ (fun d i => 1 ≤ i ∧ i ≤ d) dims index

section Shapes

theorem prodPositive {dims : List Int} (positive : ∀ d ∈ dims, 0 < d) : 0 < dims.prod := by
  induction dims with
  | nil => simp
  | cons d ds ih =>
      rw [List.prod_cons]
      exact Int.mul_pos (positive d (by simp)) (ih fun e member => positive e (by simp [member]))

theorem checkDimsCons {total : Nat} {d : Int} {ds : List Int} {sizes : List Nat} :
    checkDims total (d :: ds) = .ok sizes ↔
      0 < d ∧ total * d.toNat ≤ maxCells ∧
        ∃ rest, checkDims (total * d.toNat) ds = .ok rest ∧ sizes = d.toNat :: rest := by
  rw [checkDims]
  split
  · rename_i bad
    exact iff_of_false nofun fun good => absurd good.1 (Int.not_lt.mpr bad)
  · rename_i positive
    have step : total ≤ maxCells / d.toNat ↔ total * d.toNat ≤ maxCells :=
      Nat.le_div_iff_mul_le (by omega)
    split
    · rename_i large
      exact iff_of_false nofun fun good => absurd (step.mpr good.2.1) (Nat.not_le.mpr large)
    · rename_i small
      have fits := step.mp (Nat.not_lt.mp small)
      have above : 0 < d := by omega
      cases checkDims (total * d.toNat) ds with
      | error e => simp [Except.map]
      | ok rest => simp [Except.map, above, fits, eq_comm]

theorem checkDimsOk {total : Nat} {dims : List Int} {sizes : List Nat} (fits : total ≤ maxCells) :
    checkDims total dims = .ok sizes ↔
      ((∀ d ∈ dims, 0 < d) ∧ total * dims.prod ≤ maxCells) ∧ sizes = dims.map Int.toNat := by
  induction dims generalizing total sizes with
  | nil => simp [checkDims, fits, eq_comm]
  | cons d ds ih =>
      have product (positive : 0 < d) :
          ((total * d.toNat : Nat) : Int) * ds.prod = total * (d :: ds).prod := by
        rw [List.prod_cons, Int.natCast_mul, Int.toNat_of_nonneg (Int.le_of_lt positive),
          Int.mul_assoc]
      rw [checkDimsCons]
      constructor
      · rintro ⟨positive, small, rest, checked, rfl⟩
        obtain ⟨⟨later, bound⟩, rfl⟩ := (ih small).mp checked
        refine ⟨⟨?_, (product positive).symm.trans_le bound⟩, rfl⟩
        simpa using ⟨positive, later⟩
      · rintro ⟨⟨positive, bound⟩, rfl⟩
        obtain ⟨first, later⟩ := List.forall_mem_cons.mp positive
        have whole := (product first).trans_le bound
        -- the dimensions that follow only make the product larger
        have grown : ((total * d.toNat : Nat) : Int) * 1 ≤ (total * d.toNat : Nat) * ds.prod :=
          Int.mul_le_mul_of_nonneg_left (prodPositive later) (Int.natCast_nonneg _)
        have small : total * d.toNat ≤ maxCells := by omega
        exact ⟨first, small, _, (ih small).mpr ⟨⟨later, whole⟩, rfl⟩, rfl⟩

theorem checkDimsGood {dims : List Int} {sizes : List Nat} :
    checkDims 1 dims = .ok sizes ↔ GoodShape dims ∧ sizes = dims.map Int.toNat := by
  rw [checkDimsOk (by decide)]
  simp [GoodShape]

end Shapes

section Places

theorem offsetFound {dims : List Nat} {index : List Int} :
    (offset? dims index).isSome ↔ Inside (dims.map Int.ofNat) index := by
  unfold Inside
  induction dims generalizing index with
  | nil =>
      cases index with
      | nil => simp [offset?]
      | cons i is => simp [offset?]
  | cons d ds ih =>
      cases index with
      | nil => simp [offset?]
      | cons i is =>
          rw [offset?, List.map_cons, List.forall₂_cons, ← ih]
          split
          · rename_i inside
            simp [inside]
          · rename_i outside
            simpa using fun low high => absurd ⟨low, high⟩ outside

theorem rowUnique {i j r q v : Nat} (row : r < v) (other : q < v) (same : i * v + r = j * v + q) :
    i = j ∧ r = q := by
  have rows : i = j := by
    have first : (i * v + r) / v = i := by
      rw [mul_comm, Nat.mul_add_div (by omega), Nat.div_eq_of_lt row, Nat.add_zero]
    have second : (j * v + q) / v = j := by
      rw [mul_comm, Nat.mul_add_div (by omega), Nat.div_eq_of_lt other, Nat.add_zero]
    rw [← first, same, second]
  subst rows
  exact ⟨rfl, by omega⟩

theorem offsetUnique {dims : List Nat} {index other : List Int} {place : Fin (volume dims)}
    (first : offset? dims index = some place) (second : offset? dims other = some place) :
    index = other := by
  induction dims generalizing index other with
  | nil =>
      cases index with
      | cons i is => cases first
      | nil =>
          cases other with
          | cons j js => cases second
          | nil => rfl
  | cons d ds ih =>
      cases index with
      | nil => cases first
      | cons i is =>
          cases other with
          | nil => cases second
          | cons j js =>
              rw [offset?] at first second
              split at first <;> [skip; cases first]
              split at second <;> [skip; cases second]
              rename_i low high
              obtain ⟨r, rest, here⟩ := Option.map_eq_some_iff.mp first
              obtain ⟨q, rest', there⟩ := Option.map_eq_some_iff.mp second
              have cells : (i - 1).toNat * volume ds + r = (j - 1).toNat * volume ds + q :=
                congrArg Fin.val (here.trans there.symm)
              obtain ⟨rows, columns⟩ := rowUnique r.isLt q.isLt cells
              have same : r = q := Fin.ext columns
              subst same
              rw [ih rest rest']
              have equal : i = j := by omega
              rw [equal]

end Places

namespace Grid

def at? (g : Grid) (index : List Int) : Option Value := (offset? g.dims index).map g.read

def holdsTexts (g : Grid) : Bool :=
  match g.cells with
  | .numbers _ => false
  | .texts _ => true

def stored (texts : Bool) (v : Value) : Value :=
  if texts then .text v.asText else .number v.asNumber

def initial (texts : Bool) : Value := if texts then .text [] else .number 0

theorem atFound {g : Grid} {index : List Int} :
    (g.at? index).isSome ↔ Inside (g.dims.map Int.ofNat) index := by
  rw [at?, Option.isSome_map, offsetFound]

@[simp]
theorem blankKind (texts : Bool) (dims : List Nat) : (blank texts dims).holdsTexts = texts := by
  cases texts <;> rfl

theorem blankAt {texts : Bool} {dims : List Nat} {index : List Int}
    (inside : Inside (dims.map Int.ofNat) index) :
    (blank texts dims).at? index = some (initial texts) := by
  obtain ⟨place, found⟩ := Option.isSome_iff_exists.mp (offsetFound.mpr inside)
  have same : offset? (blank texts dims).dims index = some place := found
  rw [at?, same]
  cases texts <;> simp [blank, read, initial]

theorem putShape (g : Grid) (index : List Int) (v : Value) :
    (g.put index v).dims = g.dims ∧ (g.put index v).holdsTexts = g.holdsTexts := by
  obtain ⟨dims, cells⟩ := g
  unfold put
  split
  · cases cells <;> exact ⟨rfl, rfl⟩
  · exact ⟨rfl, rfl⟩

theorem putFound {g : Grid} {index : List Int} {place : Fin (volume g.dims)} {v : Value}
    (found : offset? g.dims index = some place) : g.put index v = g.write place v := by
  simp only [put, found]

theorem putAt {g : Grid} {index : List Int} {v : Value}
    (inside : Inside (g.dims.map Int.ofNat) index) :
    (g.put index v).at? index = some (stored g.holdsTexts v) := by
  obtain ⟨place, found⟩ := Option.isSome_iff_exists.mp (offsetFound.mpr inside)
  rw [putFound found]
  obtain ⟨dims, cells⟩ := g
  simp only at found
  cases cells <;> simp [write, at?, found, read, stored, holdsTexts]

theorem putElsewhere {g : Grid} {index other : List Int} {v : Value} (apart : index ≠ other) :
    (g.put index v).at? other = g.at? other := by
  unfold put
  split
  · rename_i place found
    obtain ⟨dims, cells⟩ := g
    cases there : offset? dims other with
    | none => cases cells <;> simp [write, at?, there]
    | some cell =>
        have different : place.val ≠ cell.val := by
          intro same
          exact apart (offsetUnique found (there.trans (congrArg some (Fin.ext same.symm))))
        cases cells <;> simp [write, at?, there, read, different]
  · rfl

end Grid

end LineBasic
