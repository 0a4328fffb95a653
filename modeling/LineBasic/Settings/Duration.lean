import LineBasic.Number.Reader
import LineBasic.Text.Integer

/-!
Spans of time in nanoseconds: written in hours, minutes and seconds, or in one small unit below a
second, and read as a sum of numbers that each have their unit.
-/
namespace LineBasic

structure Duration where
  nanoseconds : Int
  deriving DecidableEq, Repr

namespace Duration

def ofMilliseconds (n : Int) : Duration := ⟨n * 1000000⟩
def ofSeconds (n : Int) : Duration := ⟨n * 1000000000⟩

inductive TimeUnit where
  | nanosecond
  | microsecond
  | millisecond
  | second
  | minute
  | hour
  deriving DecidableEq, Repr

def TimeUnit.nanoseconds : TimeUnit → Nat
  | nanosecond => 1
  | microsecond => 1000
  | millisecond => 1000000
  | second => 1000000000
  | minute => 60000000000
  | hour => 3600000000000

def TimeUnit.ofSpelling? : String → Option TimeUnit
  | "ns" => some nanosecond
  | "us" => some microsecond
  | "\u00b5s" => some microsecond
  | "\u03bcs" => some microsecond
  | "ms" => some millisecond
  | "s" => some second
  | "m" => some minute
  | "h" => some hour
  | _ => none

/-! ### Writing -/

def decimal (n places : Nat) : String :=
  let fraction := n % Nat.pow 10 places
  let digits := Nat.toDigits 10 fraction
  let padded := List.replicate (places - digits.length) '0' ++ digits
  let kept := (padded.reverse.dropWhile (· == '0')).reverse
  let whole := toString (n / Nat.pow 10 places)
  if fraction = 0 then whole else whole ++ "." ++ String.ofList kept

def smallShown (n : Nat) : String :=
  if n = 0 then "0s"
  else if n < 1000 then toString n ++ "ns"
  else if n < 1000000 then decimal n 3 ++ "\u00b5s"
  else decimal n 6 ++ "ms"

def largeShown (n : Nat) : String :=
  let seconds := decimal (n % 60000000000) 9 ++ "s"
  let minutes := n / 60000000000
  if minutes = 0 then seconds
  else if minutes / 60 = 0 then toString minutes ++ "m" ++ seconds
  else toString (minutes / 60) ++ "h" ++ toString (minutes % 60) ++ "m" ++ seconds

def shown (d : Duration) : String :=
  let n := d.nanoseconds.natAbs
  let magnitude := if n < 1000000000 then smallShown n else largeShown n
  if d.nanoseconds < 0 then "-" ++ magnitude else magnitude

/-! ### Reading -/

def limit : Nat := 0x8000000000000000

def fractionFrom (n : Nat) (scale : Float) : List Char → Nat × Float
  | [] => (n, scale)
  | c :: rest =>
    let next := n * 10 + Text.digitValue c
    if (limit - 1) / 10 < n || limit < next then (n, scale)
    else fractionFrom next (scale * 10) rest

def fractionNanoseconds (unit : TimeUnit) (fraction : Nat) (scale : Float) : Nat :=
  (Float.ofNat fraction * (Float.ofNat unit.nanoseconds / scale)).toUInt64.toNat

def readPart (cs : List Char) : Option (Nat × List Char) :=
  let (m, rest) := Number.readMantissa Char.isDigit cs
  let whole := m.digits.take (m.digits.length - m.fraction)
  let spelling := rest.takeWhile fun c => c != '.' && !c.isDigit
  if m.digits.isEmpty then none
  else do
    let unit ← TimeUnit.ofSpelling? (String.ofList spelling)
    let n := Number.digitsValue 10 whole * unit.nanoseconds
    let (fraction, scale) := fractionFrom 0 1 (m.digits.drop whole.length)
    let n' := n + if fraction = 0 then 0 else fractionNanoseconds unit fraction scale
    if limit < n' then none else some (n', rest.drop spelling.length)

def readParts : Nat → Nat → List Char → Option Nat
  | 0, _, _ => none
  | fuel + 1, sum, cs => do
    let (n, rest) ← readPart cs
    let sum := (sum + n) % (2 * limit)
    if limit < sum then none
    else if rest.isEmpty then some sum
    else readParts fuel sum rest

def readUnsigned (cs : List Char) : Option Nat :=
  -- every part takes up characters
  if cs = ['0'] then some 0 else readParts (cs.length + 1) 0 cs

def read? (s : String) : Option Duration :=
  match s.toList with
  | '-' :: rest => (readUnsigned rest).map fun n => ⟨-n⟩
  | cs => do
    let n ← readUnsigned (if cs.head? == some '+' then cs.tail else cs)
    if n < limit then some ⟨n⟩ else none

end Duration

end LineBasic
