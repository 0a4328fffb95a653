import LineBasic.Number.Binary

/-!
The exponential function and the natural logarithm in binary64. Both split off a power of two and
evaluate a short polynomial on what is left, so their results are determined to the last bit.
-/
namespace LineBasic.Number

def polynomial : List Float → Float → Float
  | [], _ => 0
  | c :: rest, x => rest.foldl (fun sum c => sum * x + c) c

def fusedPolynomial : List Float → Float → Float
  | [], _ => 0
  | c :: rest, x => rest.foldl (fun sum c => mulAdd sum x c) c

/-! ### The exponential function -/

def expLn2Upper : Float := 0.69314718055966295651160180568695068359375
def expLn2Lower : Float := 0.28235290563031577122588448175013436025525412068e-12

def log2e : Float := 1.4426950408889634073599246810018920

def expLimit : Float := 7.09782712893384e+02

def expCoefficients : List Float :=
  [2.4801587301587301587e-5, 1.9841269841269841270e-4, 1.3888888888888888889e-3,
    8.3333333333333333333e-3, 4.1666666666666666667e-2, 1.6666666666666666667e-1, 0.5, 1]

def doubleArgument (y : Float) : Float := y * (y + 2)

def expReduced (r : Float) : Float :=
  let r := r * 0.0625
  let y := doubleArgument (doubleArgument (doubleArgument (r * fusedPolynomial expCoefficients r)))
  mulAdd y (y + 2) 1

def expFinite (x : Float) : Float :=
  let k := nearestInteger (log2e * x)
  if k < -1075 then 0
  else if 1024 ≤ k then infinity false
  else
    let n := Float.ofInt k
    let r := mulAdd (-expLn2Lower) n (mulAdd (-expLn2Upper) n x)
    scale (expReduced r) k

def exp (x : Float) : Float :=
  match decode x with
  | .notANumber => x
  | .infinite negative => if negative then 0 else x
  | .finite _ _ => if expLimit < x then infinity false else expFinite x

/-! ### The natural logarithm -/

def logLn2Upper : Float := 6.93147180369123816490e-01
def logLn2Lower : Float := 1.90821492927058770002e-10

def halfSqrt2 : Float := 7.07106781186547524401e-01

def logOdd : List Float :=
  [1.479819860511658591e-01, 1.818357216161805012e-01, 2.857142874366239149e-01,
    6.666666666666735130e-01]
def logEven : List Float :=
  [1.531383769920937332e-01, 2.222219843214978396e-01, 3.999999999940941908e-01]

def logScaled (f k : Float) : Float :=
  let s := f / (2 + f)
  let s2 := s * s
  let s4 := s2 * s2
  let series := s2 * polynomial logOdd s4 + s4 * polynomial logEven s4
  let half := 0.5 * f * f
  k * logLn2Upper - ((half - (s * (half + series) + k * logLn2Lower)) - f)

/-- The logarithm of a positive finite number from its bits. The bits of the fraction are taken as
they are also where the number has no leading one, so that below the least number with one the
result stays near its logarithm. -/
def logFinite (x : Float) : Float :=
  let bits := x.toBits.toNat
  let f := ofMagnitudeBits false (1022 * 0x10000000000000 + bits % 0x10000000000000)
  let k := Float.ofInt ((bits / 0x10000000000000 : Nat) - 1022)
  if f < halfSqrt2 then logScaled (f * 2 - 1) (k - 1) else logScaled (f - 1) k

def log (x : Float) : Float :=
  match decode x with
  | .notANumber => x
  | .infinite negative => if negative then 0.0 / 0.0 else x
  | .finite negative d =>
    if d.mantissa = 0 then infinity true
    else if negative then 0.0 / 0.0
    else logFinite x

end LineBasic.Number
