import LineBasic.Function.Table
import LineBasic.Number.Power
import LineBasic.Number.Trigonometry

/-!
Functions of numbers, and random numbers.
-/
namespace LineBasic.Function

def sign (x : Float) : Float := if 0 < x then 1 else if x < 0 then -1 else 0

def drawBetween (lo hi : Int) : Effect Value := do
  let k ← Effect.drawBelow (hi - lo + 1)
  pure (.number (Float.ofInt (lo + k)))

def rnd : NamedFunction where
  name := "RND"
  body
    | [] => do
      let x ← Effect.drawFraction
      pure (.number x)
    | [v] =>
      let n := v.asInteger
      if n ≤ 0 then Effect.fault (.badArgument "RND" (.limit n)) else drawBetween 1 n
    | [a, b] => drawBetween (min a.asInteger b.asInteger) (max a.asInteger b.asInteger)
    | args => wrongCount "RND" 0 2 args

def sqr : NamedFunction := ofOne "SQR" fun v =>
  let x := v.asNumber
  if x < 0 then Effect.fault (.badArgument "SQR" (.negative x)) else pure (.number x.sqrt)

def log : NamedFunction := ofOne "LOG" fun v =>
  let x := v.asNumber
  if x ≤ 0 then Effect.fault (.badArgument "LOG" (.notPositive x))
  else pure (.number (Number.log x))

def pow : NamedFunction := ofTwo "POW" fun x y =>
  pure (.number (Number.power x.asNumber y.asNumber))

-- the remainder of a floored division has the sign of the divisor
def mod : NamedFunction := ofTwo "MOD" fun a b =>
  let x := a.asNumber
  let y := b.asNumber
  if y == 0 then Effect.fault .divisionByZero
  else pure (.number (x - Number.floor (x / y) * y))

def mathFunctions : List NamedFunction :=
  [rnd, unary "INT" Number.floor, unary "ABS" Float.abs, unary "SGN" sign, sqr,
    unary "SIN" Number.sin, unary "COS" Number.cos, unary "TAN" Number.tan,
    unary "ATN" Number.atan, unary "EXP" Number.exp, log, pow, mod]

end LineBasic.Function
