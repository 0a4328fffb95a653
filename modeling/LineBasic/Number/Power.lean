import LineBasic.Number.Exponential

/-!
Powers. The integer part of the exponent is handled by repeated squaring on significand and binary
exponent apart, so that powers that are numbers come out exactly; only a fractional part needs a
logarithm.
-/
namespace LineBasic.Number

def isNegative (x : Float) : Bool := 0x8000000000000000 ≤ x.toBits.toNat

def isInfinite (x : Float) : Bool :=
  match decode x with
  | .infinite _ => true
  | _ => false

def split (x : Float) : Float × Int :=
  match decode x with
  | .finite negative d =>
    if d.mantissa = 0 then (x, 0)
    else
      let width := d.mantissa.log2 + 1
      let m := d.mantissa * Nat.pow 2 (53 - width)
      (ofMagnitudeBits negative (1021 * 0x10000000000000 + m), width + d.exponent)
  | _ => (x, 0)

structure Scaled where
  significand : Float
  exponent : Int

def Scaled.mul (a b : Scaled) : Scaled :=
  ⟨a.significand * b.significand, a.exponent + b.exponent⟩

def Scaled.square (a : Scaled) : Scaled :=
  let s := a.significand * a.significand
  if s < 0.5 then ⟨s + s, 2 * a.exponent - 1⟩ else ⟨s, 2 * a.exponent⟩

def raise : Nat → Nat → Scaled → Scaled → Scaled
  | 0, _, _, acc => acc
  | fuel + 1, n, base, acc =>
    if n = 0 then acc
    -- here the exponent has left the range of all numbers
    else if base.exponent < -4096 ∨ 4096 < base.exponent then
      { acc with exponent := acc.exponent + base.exponent }
    else
      raise fuel (n / 2) base.square (if n % 2 = 1 then acc.mul base else acc)

def wholeAndFraction (y : Float) : Nat × Float :=
  match decode y with
  | .finite _ d =>
    let whole := (floorOf false d).toNat
    (whole, y.abs - floor y.abs)
  | _ => (0, 0)

def isOddInteger (y : Float) : Bool :=
  match decode y with
  | .finite _ d =>
    if 0 ≤ d.exponent then d.mantissa % 2 = 1 && d.exponent = 0
    else
      let unit := Nat.pow 2 (-d.exponent).toNat
      d.mantissa % unit = 0 && d.mantissa / unit % 2 = 1
  | _ => false

def powerOfZero (x y : Float) : Float :=
  let negative := isNegative x && isOddInteger y
  if y < 0 then infinity negative else if negative then x else 0

def powerBeyond (x : Float) (positiveExponent : Bool) : Float :=
  if x == -1 then 1
  else if (x.abs < 1) == positiveExponent then 0
  else infinity false

def powerFinite (x y : Float) : Float :=
  let (whole, fraction) := wholeAndFraction y
  if fraction != 0 && x < 0 then 0.0 / 0.0
  else if 0x8000000000000000 ≤ whole then powerBeyond x (0 < y)
  else
    let up : Bool := 0.5 < fraction
    let rest := if up then fraction - 1 else fraction
    let start := if fraction == 0 then 1 else exp (rest * log x)
    let (f, e) := split x
    let r := raise 64 (if up then whole + 1 else whole) ⟨f, e⟩ ⟨start, 0⟩
    if y < 0 then scale (1 / r.significand) (-r.exponent) else scale r.significand r.exponent

def power (x y : Float) : Float :=
  if y == 0 || x == 1 then 1
  else if y == 1 then x
  else if x.isNaN || y.isNaN then 0.0 / 0.0
  else if x == 0 then powerOfZero x y
  else if isInfinite y then powerBeyond x (0 < y)
  else if isInfinite x then
    if isNegative x then powerOfZero (1 / x) (-y)
    else if y < 0 then 0 else infinity false
  else if y == 0.5 then x.sqrt
  else if y == -0.5 then 1 / x.sqrt
  else powerFinite x y

end LineBasic.Number
