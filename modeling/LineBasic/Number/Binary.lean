/-!
Binary64 numbers as exact values: a finite number is its sign and m · 2^q, a positive quotient has
one nearest number, and the floor of a number is an integer.
-/
namespace LineBasic.Number

structure Dyadic where
  mantissa : Nat
  exponent : Int
  deriving DecidableEq, Repr

inductive Decoded where
  | notANumber
  | infinite (negative : Bool)
  | finite (negative : Bool) (magnitude : Dyadic)
  deriving DecidableEq, Repr

def decodeBits (bits : Nat) : Decoded :=
  let negative := 0x8000000000000000 ≤ bits
  let biased : Nat := bits / 0x10000000000000 % 0x800
  let fraction : Nat := bits % 0x10000000000000
  if biased = 0x7FF then
    if fraction = 0 then .infinite negative else .notANumber
  else if biased = 0 then .finite negative ⟨fraction, -1074⟩
  else .finite negative ⟨0x10000000000000 + fraction, (biased : Int) - 1075⟩

def decode (x : Float) : Decoded := decodeBits x.toBits.toNat

def infinityBits : Nat := 2047 * 0x10000000000000

def ofMagnitudeBits (negative : Bool) (bits : Nat) : Float :=
  Float.ofBits (UInt64.ofNat (if negative then 0x8000000000000000 + bits else bits))

def infinity (negative : Bool) : Float := ofMagnitudeBits negative infinityBits

def roundQuotient (num den : Nat) : Nat :=
  let q := num / den
  let r := num % den
  if 2 * r < den then q
  else if den < 2 * r then q + 1
  else q + q % 2

def floorLog2 (num den : Nat) : Int :=
  let e : Int := (num.log2 : Int) - den.log2
  if den * Nat.pow 2 e.toNat ≤ num * Nat.pow 2 (-e).toNat then e else e - 1

/-- The bits of the number nearest to `num / den`, a half going to the even neighbour; at or beyond
`infinityBits` the quotient is too large for a number. Both arguments are positive. -/
def nearestBits (num den : Nat) : Nat :=
  let q : Int := max (floorLog2 num den - 52) (-1074)
  let m := roundQuotient (num * Nat.pow 2 (-q).toNat) (den * Nat.pow 2 q.toNat)
  (q + 1074).toNat * 0x10000000000000 + m

def ofScaled (negative : Bool) (mantissa : Nat) (exponent : Int) : Float :=
  if mantissa = 0 then ofMagnitudeBits negative 0
  else
    let bits := nearestBits (mantissa * Nat.pow 2 exponent.toNat) (Nat.pow 2 (-exponent).toNat)
    ofMagnitudeBits negative (min bits infinityBits)

def scale (x : Float) (e : Int) : Float :=
  match decode x with
  | .finite negative d => ofScaled negative d.mantissa (d.exponent + max (-5000) (min 5000 e))
  | _ => x

def shiftUp (negative : Bool) (n : Nat) (e : Int) : Int :=
  let m := n * Nat.pow 2 e.toNat
  if negative then -m else m

def mulAdd (a b c : Float) : Float :=
  match decode a, decode b, decode c with
  | .finite sa da, .finite sb db, .finite sc dc =>
    let e := da.exponent + db.exponent
    let least := min e dc.exponent
    let sum := shiftUp (sa != sb) (da.mantissa * db.mantissa) (e - least) +
      shiftUp sc dc.mantissa (dc.exponent - least)
    if sum = 0 then a * b + c else ofScaled (sum < 0) sum.natAbs least
  | _, _, _ => a * b + c

def nearestInteger (x : Float) : Int :=
  match decode x with
  | .finite negative d =>
    let n := roundQuotient (d.mantissa * Nat.pow 2 d.exponent.toNat)
      (Nat.pow 2 (-d.exponent).toNat)
    if negative then -n else n
  | _ => 0

def floorOf (negative : Bool) (d : Dyadic) : Int :=
  let scaled := d.mantissa * Nat.pow 2 d.exponent.toNat
  let unit := Nat.pow 2 (-d.exponent).toNat
  if negative then -((scaled + (unit - 1)) / unit : Nat) else (scaled / unit : Nat)

def floor? (x : Float) : Option Int :=
  match decode x with
  | .finite negative d => some (floorOf negative d)
  | _ => none

def floor (x : Float) : Float :=
  match decode x with
  | .finite negative d =>
    if d.mantissa = 0 ∨ 0 ≤ d.exponent then x else Float.ofInt (floorOf negative d)
  | _ => x

def minIndex : Int := -0x80000000
def maxIndex : Int := 0x80000000 - 1

def floorIndex? (x : Float) : Option Int :=
  (floor? x).filter fun n => minIndex ≤ n && n ≤ maxIndex

def floorClamped (x : Float) : Int :=
  match decode x with
  | .notANumber => 0
  | .infinite negative => if negative then minIndex else maxIndex
  | .finite negative d => max minIndex (min maxIndex (floorOf negative d))

def truncate64 (x : Float) : Int :=
  match decode x with
  | .finite negative d =>
    let n := floorOf false d
    let n := if negative then -n else n
    if -0x8000000000000000 ≤ n ∧ n < 0x8000000000000000 then n else -0x8000000000000000
  | _ => -0x8000000000000000

end LineBasic.Number
