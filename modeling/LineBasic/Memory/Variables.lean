import Std.Data.TreeMap
import LineBasic.Memory.Grid

/-!
The variables of a program. Scalars and arrays have separate names, so `A` and `A(1)` have nothing
to do with each other, and an array exists only once it is dimensioned.
-/
namespace LineBasic

structure Variables where
  scalars : Std.TreeMap String Value
  arrays : Std.TreeMap String Grid

namespace Variables

def empty : Variables := ⟨∅, ∅⟩

def get (vs : Variables) (name : String) : Value := vs.scalars.getD name Value.zero

def set (vs : Variables) (name : String) (v : Value) : Variables :=
  { vs with scalars := vs.scalars.insert name v }

def dimension (vs : Variables) (name : String) (dims : List Int) : Except Fault Variables :=
  if dims.isEmpty then .error (.internal .noDimensions)
  else
    match checkDims 1 dims with
    | .ok sizes =>
      .ok { vs with arrays := vs.arrays.insert name (Grid.blank (isTextName name) sizes) }
    | .error .notPositive => .error (.badDimension name dims)
    | .error .tooLarge => .error (.tooManyElements name dims)

def array (vs : Variables) (name : String) : Except Fault Grid :=
  match vs.arrays[name]? with
  | some g => .ok g
  | none => .error (.undimensioned name)

def element (vs : Variables) (name : String) (index : List Int) : Except Fault Value := do
  let g ← vs.array name
  let i ← g.locate name index
  .ok (g.read i)

def putElement (vs : Variables) (name : String) (index : List Int) (v : Value) : Variables :=
  { vs with arrays := vs.arrays.modify name (·.put index v) }

def setElement (vs : Variables) (name : String) (index : List Int) (v : Value) :
    Except Fault Variables := do
  let g ← vs.array name
  let _ ← g.locate name index
  .ok (vs.putElement name index v)

end Variables

end LineBasic
