import LineBasic.Number.Exponential

/-!
Sine, cosine, tangent and arc tangent in binary64. An angle is brought to at most an eighth of a
turn, where a polynomial or a quotient of two gives the value.
-/
namespace LineBasic.Number

/-! ### Angles -/

structure Angle where
  eighths : Nat
  rest : Float

def eighthUpper : Float := 7.85398125648498535156e-1
def eighthMiddle : Float := 3.77489470793079817668e-8
def eighthLower : Float := 2.69515142907905952645e-15

def quarterPi : Float := 0.785398163397448309615660845819875721
def halfPi : Float := 1.57079632679489661923132169163975144
def fourOverPi : Float := 1.27323954473516268615107010698011489

def coarseFrom : Float := 536870912

def fourOverPiWords : List Nat :=
  [0x0000000000000001, 0x45f306dc9c882a53, 0xf84eafa3ea69bb81, 0xb6c52b3278872083,
    0xfca2c757bd778ac3, 0x6e48dc74849ba5c0, 0x0c925dd413a32439, 0xfc3bd63962534e7d,
    0xd1046bea5d768909, 0xd338e04d68befc82, 0x7323ac7306a673e9, 0x3908bf177bf25076,
    0x3ff12fffbc0b301f, 0xde5e2316b414da3e, 0xda6cfd9e4f96136e, 0x9e8c7ecd3cbfd45a,
    0xea4f758fd7cbe2f6, 0x7a0e73ef14a525d4, 0xd7f6bf623f1aba10, 0xac06608df8f6d757]

def wordSize : Nat := 0x10000000000000000

def fourOverPiDigits : Nat := fourOverPiWords.foldl (fun n w => n * wordSize + w) 0

def fourOverPiSlice (skipped : Nat) : Nat :=
  fourOverPiDigits / Nat.pow 2 (1088 - skipped) % (wordSize * wordSize * wordSize)

def fractionOfWords (high low : Nat) : Float :=
  let zeros := 63 - high.log2
  let shifted := (high * Nat.pow 2 (zeros + 1) + low / Nat.pow 2 (63 - zeros)) % wordSize
  ofMagnitudeBits false ((1022 - zeros) * 0x10000000000000 + shifted / 0x1000)

def Angle.ofLarge (d : Dyadic) : Angle :=
  let product := fourOverPiSlice (d.exponent + 61).toNat * d.mantissa / wordSize
  let low := product % wordSize
  let high := product / wordSize % wordSize
  let eighths := high / 0x2000000000000000
  let fraction := fractionOfWords ((high * 8 + low / 0x2000000000000000) % wordSize) low
  if eighths % 2 = 1 then ⟨(eighths + 1) % 8, (fraction - 1) * quarterPi⟩
  else ⟨eighths, fraction * quarterPi⟩

def Angle.ofMagnitude (x : Float) : Angle :=
  if coarseFrom ≤ x then
    match decode x with
    | .finite _ d => Angle.ofLarge d
    | _ => ⟨0, x⟩
  else
    let n := (x * fourOverPi).toUInt64.toNat
    let n := n + n % 2
    let y := Float.ofNat n
    ⟨n % 8, ((x - y * eighthUpper) - y * eighthMiddle) - y * eighthLower⟩

/-! ### Sine and cosine -/

def sineCoefficients : List Float :=
  [1.58962301576546568060e-10, -2.50507477628578072866e-8, 2.75573136213857245213e-6,
    -1.98412698295895385996e-4, 8.33333333332211858878e-3, -1.66666666666666307295e-1]

def cosineCoefficients : List Float :=
  [-1.13585365213876817300e-11, 2.08757008419747316778e-9, -2.75573141792967388112e-7,
    2.48015872888517045348e-5, -1.38888888888730564116e-3, 4.16666666666665929218e-2]

def sineNearZero (z : Float) : Float :=
  let zz := z * z
  z + z * zz * polynomial sineCoefficients zz

def cosineNearZero (z : Float) : Float :=
  let zz := z * z
  1 - 0.5 * zz + zz * zz * polynomial cosineCoefficients zz

def negateIf (negative : Bool) (x : Float) : Float := if negative then -x else x

def Angle.sine (a : Angle) : Float :=
  negateIf (3 < a.eighths)
    (if a.eighths % 4 = 2 then cosineNearZero a.rest else sineNearZero a.rest)

def Angle.cosine (a : Angle) : Float :=
  negateIf (1 < a.eighths && a.eighths < 6)
    (if a.eighths % 4 = 2 then sineNearZero a.rest else cosineNearZero a.rest)

def oddFunction (f : Float → Float) (x : Float) : Float :=
  match decode x with
  | .notANumber => x
  | .infinite _ => 0.0 / 0.0
  | .finite negative d => if d.mantissa = 0 then x else negateIf negative (f x.abs)

def sin (x : Float) : Float := oddFunction (fun x => (Angle.ofMagnitude x).sine) x

def cos (x : Float) : Float :=
  match decode x with
  | .finite _ _ => (Angle.ofMagnitude x.abs).cosine
  | _ => 0.0 / 0.0

/-! ### Tangent and arc tangent -/

def tangentOver : List Float :=
  [-1.30936939181383734205e4, 1.15351664838587416140e6, -1.79565251976484877988e7]
def tangentUnder : List Float :=
  [1, 1.36812963470692954678e4, -1.32089234440210967447e6, 2.50083801823357915839e7,
    -5.38695755929454629881e7]

def Angle.tangent (a : Angle) : Float :=
  let z := a.rest
  let zz := z * z
  let y :=
    if 1e-14 < zz then z + z * (zz * polynomial tangentOver zz / polynomial tangentUnder zz) else z
  if a.eighths % 4 = 2 then -1 / y else y

def tan (x : Float) : Float := oddFunction (fun x => (Angle.ofMagnitude x).tangent) x

def arcTangentOver : List Float :=
  [-8.750608600031904122785e-01, -1.615753718733365076637e+01, -7.500855792314704667340e+01,
    -1.228866684490136173410e+02, -6.485021904942025371773e+01]
def arcTangentUnder : List Float :=
  [1, 2.485846490142306297962e+01, 1.650270098316988542046e+02, 4.328810604912902668951e+02,
    4.853903996359136964868e+02, 1.945506571482613964425e+02]

def arcTangentNearZero (x : Float) : Float :=
  let z := x * x
  x * (z * polynomial arcTangentOver z / polynomial arcTangentUnder z) + x

def halfPiLack : Float := 6.123233995736765886130e-17

def tangentOfThreeSixteenths : Float := 2.41421356237309504880

def arcTangentOfMagnitude (x : Float) : Float :=
  if x ≤ 0.66 then arcTangentNearZero x
  else if tangentOfThreeSixteenths < x then halfPi - arcTangentNearZero (1 / x) + halfPiLack
  else quarterPi + arcTangentNearZero ((x - 1) / (x + 1)) + 0.5 * halfPiLack

def atan (x : Float) : Float :=
  if x == 0 then x
  else if 0 < x then arcTangentOfMagnitude x
  else -arcTangentOfMagnitude (-x)

end LineBasic.Number
