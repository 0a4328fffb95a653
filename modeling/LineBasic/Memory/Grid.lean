import LineBasic.Fault
import LineBasic.Value

/-!
Arrays: a fixed number of dimensions, subscripts from 1, one cell for every tuple of subscripts in
row-major order.
-/
namespace LineBasic

def volume : List Nat → Nat
  | [] => 1
  | d :: ds => d * volume ds

def maxCells : Nat := 0x1000000

inductive ShapeProblem where
  | notPositive
  | tooLarge
  deriving DecidableEq, Repr

/-- The dimensions as sizes, if all are positive and their product times `total` is at most
`maxCells`. The test divides, so nothing grows beyond the limit on the way. -/
def checkDims (total : Nat) : List Int → Except ShapeProblem (List Nat)
  | [] => .ok []
  | d :: ds =>
    if d ≤ 0 then .error .notPositive
    else if maxCells / d.toNat < total then .error .tooLarge
    else (checkDims (total * d.toNat) ds).map (d.toNat :: ·)

theorem step_lt_volume {d v i r : Nat} (hi : i < d) (hr : r < v) : i * v + r < d * v := by
  have : (i + 1) * v ≤ d * v := Nat.mul_le_mul_right v hi
  rw [Nat.add_mul, Nat.one_mul] at this
  omega

def offset? : (dims : List Nat) → List Int → Option (Fin (volume dims))
  | [], [] => some ⟨0, Nat.one_pos⟩
  | d :: ds, i :: is =>
    if h : 1 ≤ i ∧ i ≤ d then
      (offset? ds is).map fun (r : Fin (volume ds)) =>
        ⟨(i - 1).toNat * volume ds + r.val, step_lt_volume (by omega) r.isLt⟩
    else none
  | _, _ => none

def firstOutside : List Nat → List Int → Option Nat
  | d :: ds, i :: is => if 1 ≤ i ∧ i ≤ d then firstOutside ds is else some d
  | _, _ => none

inductive Cells (n : Nat) where
  | numbers (cells : Vector Float n)
  | texts (cells : Vector Bytes n)

structure Grid where
  dims : List Nat
  cells : Cells (volume dims)

def isTextName (name : String) : Bool := name.toList.getLast? == some '$'

namespace Grid

def blank (texts : Bool) (dims : List Nat) : Grid :=
  ⟨dims, if texts then .texts (Vector.replicate _ []) else .numbers (Vector.replicate _ 0)⟩

def read (g : Grid) (i : Fin (volume g.dims)) : Value :=
  match g.cells with
  | .numbers cells => .number cells[i]
  | .texts cells => .text cells[i]

def write (g : Grid) (i : Fin (volume g.dims)) (v : Value) : Grid :=
  match g with
  | ⟨dims, .numbers cells⟩ => ⟨dims, .numbers (cells.set i v.asNumber i.isLt)⟩
  | ⟨dims, .texts cells⟩ => ⟨dims, .texts (cells.set i v.asText i.isLt)⟩

def locate (name : String) (g : Grid) (index : List Int) : Except Fault (Fin (volume g.dims)) :=
  match offset? g.dims index with
  | some i => .ok i
  | none =>
    if index.length ≠ g.dims.length then .error (.wrongRank name g.dims.length index.length)
    else .error (.outOfBounds name index ((firstOutside g.dims index).getD 0))

def put (g : Grid) (index : List Int) (v : Value) : Grid :=
  match offset? g.dims index with
  | some i => g.write i v
  | none => g

end Grid

def subscript (v : Value) : Except Fault Int :=
  match Number.floorIndex? v.asNumber with
  | some n => .ok n
  | none => .error (.badSubscript v.asText.toText)

end LineBasic
