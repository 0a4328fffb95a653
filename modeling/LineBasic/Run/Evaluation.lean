import LineBasic.Function.Table
import LineBasic.Memory.Variables

/-!
The value of an expression. Evaluation reads variables and may use the host through functions; it
changes no variable and transfers no control.
-/
namespace LineBasic

def ArithOp.apply (op : ArithOp) (l r : Value) : Except Fault Value :=
  match op with
  | .add =>
    if l.isText || r.isText then .ok (.text (l.asText ++ r.asText))
    else .ok (.number (l.asNumber + r.asNumber))
  | op =>
    if l.isText || r.isText then .error (.typeMismatch (.textOperand op))
    else
      let a := l.asNumber
      let b := r.asNumber
      match op with
      | .subtract => .ok (.number (a - b))
      | .multiply => .ok (.number (a * b))
      | .divide => if b == 0 then .error .divisionByZero else .ok (.number (a / b))
      | .add => .ok (.number (a + b))

def Relation.holds : Relation → Ordering → Bool
  | equal, o => o == .eq
  | notEqual, o => o != .eq
  | less, o => o == .lt
  | atMost, o => o != .gt
  | greater, o => o == .gt
  | atLeast, o => o != .lt

def compareNumbers (a b : Float) : Option Ordering :=
  if a < b then some .lt
  else if b < a then some .gt
  else if a == b then some .eq
  else none

def Value.order (l r : Value) : Option Ordering :=
  if l.isText || r.isText then some (compare l.asText r.asText)
  else compareNumbers l.asNumber r.asNumber

def Relation.apply (op : Relation) (l r : Value) : Value :=
  match l.order r with
  | some o => .ofBool (op.holds o)
  | none => .ofBool (op == .notEqual)

section Evaluation

variable (fns : Functions) (vs : Variables)

mutual

def Expr.eval : Expr → Effect Value
  | .number x => pure (.number x)
  | .text s => pure (.text (Bytes.ofString s))
  | .scalar name => pure (vs.get name)
  | .element name index => do
    let index ← evalIndex index
    Effect.ofExcept (vs.element name index)
  | .call name args => do
    let args ← evalArgs args
    fns.call name args
  | .negate e => do
    let v ← e.eval
    if v.isText then Effect.fault (.typeMismatch .negatedText)
    else pure (.number (-v.asNumber))
  | .arith op l r => do
    let a ← l.eval
    let b ← r.eval
    Effect.ofExcept (op.apply a b)
  | .compare op l r => do
    let a ← l.eval
    let b ← r.eval
    pure (op.apply a b)

def evalIndex : List Expr → Effect (List Int)
  | [] => pure []
  | e :: es => do
    let v ← e.eval
    let i ← Effect.ofExcept (subscript v)
    let is ← evalIndex es
    pure (i :: is)

def evalArgs : List Expr → Effect (List Value)
  | [] => pure []
  | e :: es => do
    let v ← e.eval
    let rest ← evalArgs es
    pure (v :: rest)

end

def Expr.evalNumber (what : String) (e : Expr) : Effect Float := do
  match (← e.eval fns vs) with
  | .number x => pure x
  | .text _ => Effect.fault (.typeMismatch (.mustBeNumeric what))

def evalDims : List Expr → Effect (List Int)
  | [] => pure []
  | e :: es => do
    let x ← e.evalNumber fns vs "array dimension"
    let rest ← evalDims es
    pure (Number.floorClamped x :: rest)

end Evaluation

end LineBasic
