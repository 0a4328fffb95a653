import LineBasic.Number.Binary

/-!
Reading a number: a decimal with an optional exponent, a hexadecimal with a mandatory binary
exponent, an infinity or not-a-number. Underscores may stand between digits. The result is the
number nearest to what is written.
-/
namespace LineBasic.Number

inductive Reading where
  | value (x : Float)
  | tooLarge (negative : Bool)
  | malformed

inductive Before where
  | start
  | digit
  | underscore
  | other
  deriving DecidableEq, Repr

def isHexDigit (c : Char) : Bool :=
  c.isDigit || ('a' ≤ c && c ≤ 'f') || ('A' ≤ c && c ≤ 'F')

def underscoresBetween (digit : Char → Bool) : Before → List Char → Bool
  | before, [] => before != .underscore
  | before, c :: rest =>
    if digit c then underscoresBetween digit .digit rest
    else if c == '_' then before == .digit && underscoresBetween digit .underscore rest
    else before != .underscore && underscoresBetween digit .other rest

def underscoresPlaced : List Char → Bool
  | '0' :: mark :: rest =>
    if mark.toLower == 'x' then underscoresBetween isHexDigit .digit rest
    else if mark.toLower == 'b' || mark.toLower == 'o' then
      underscoresBetween Char.isDigit .digit rest
    else underscoresBetween Char.isDigit .start ('0' :: mark :: rest)
  | cs => underscoresBetween Char.isDigit .start cs

def hexValue (c : Char) : Nat :=
  if c.isDigit then c.toNat - '0'.toNat else c.toLower.toNat - 'a'.toNat + 10

def digitsValue (base : Nat) (cs : List Char) : Nat :=
  cs.foldl (fun n c => n * base + hexValue c) 0

structure Mantissa where
  digits : List Char
  fraction : Nat

def readMantissa (digit : Char → Bool) (cs : List Char) : Mantissa × List Char :=
  let whole := cs.takeWhile digit
  match cs.drop whole.length with
  | '.' :: rest =>
    let fraction := rest.takeWhile digit
    (⟨whole ++ fraction, fraction.length⟩, rest.drop fraction.length)
  | rest => (⟨whole, 0⟩, rest)

def exponentMagnitude (cs : List Char) : Nat :=
  cs.foldl (fun e c => if e < 10000 then e * 10 + hexValue c else e) 0

def readExponentDigits (cs : List Char) : Option Nat :=
  if cs.isEmpty || !cs.all Char.isDigit then none else some (exponentMagnitude cs)

def readExponent : List Char → Option Int
  | '-' :: rest => (readExponentDigits rest).map fun e => -(e : Int)
  | '+' :: rest => (readExponentDigits rest).map fun e => (e : Int)
  | cs => (readExponentDigits cs).map fun e => (e : Int)

def nearest (negative : Bool) (num den : Nat) : Reading :=
  let bits := nearestBits num den
  if infinityBits ≤ bits then .tooLarge negative else .value (ofMagnitudeBits negative bits)

def zero (negative : Bool) : Reading := .value (ofMagnitudeBits negative 0)

def nearestDecimal (negative : Bool) (n : Nat) (e : Int) : Reading :=
  let point := (Nat.toDigits 10 n).length + e
  if n = 0 then zero negative
  -- with the point this far out nothing needs to be computed
  else if 310 < point then .tooLarge negative
  else if point < -330 then zero negative
  else nearest negative (n * Nat.pow 10 e.toNat) (Nat.pow 10 (-e).toNat)

def nearestBinary (negative : Bool) (n : Nat) (e : Int) : Reading :=
  if n = 0 then zero negative else nearest negative (n * Nat.pow 2 e.toNat) (Nat.pow 2 (-e).toNat)

def readDecimal (negative : Bool) (cs : List Char) : Reading :=
  let (m, rest) := readMantissa Char.isDigit cs
  if m.digits.isEmpty then .malformed
  else
    let n := digitsValue 10 m.digits
    match rest with
    | [] => nearestDecimal negative n (-m.fraction)
    | mark :: rest =>
      if mark == 'e' || mark == 'E' then
        match readExponent rest with
        | some e => nearestDecimal negative n (e - m.fraction)
        | none => .malformed
      else .malformed

def readHexadecimal (negative : Bool) (cs : List Char) : Reading :=
  let (m, rest) := readMantissa isHexDigit cs
  if m.digits.isEmpty then .malformed
  else
    match rest with
    | [] => .malformed
    | mark :: rest =>
      if mark == 'p' || mark == 'P' then
        match readExponent rest with
        | some e => nearestBinary negative (digitsValue 16 m.digits) (e - 4 * m.fraction)
        | none => .malformed
      else .malformed

def readFinite (negative : Bool) (cs : List Char) : Reading :=
  if cs.contains '_' && !underscoresPlaced cs then .malformed
  else
    match cs.filter (· != '_') with
    | '0' :: 'x' :: rest => readHexadecimal negative rest
    | '0' :: 'X' :: rest => readHexadecimal negative rest
    | plain => readDecimal negative plain

def isInfinityWord (cs : List Char) : Bool :=
  let word := cs.map Char.toLower
  word == "inf".toList || word == "infinity".toList

def readUnsigned (negative : Bool) (cs : List Char) : Reading :=
  if isInfinityWord cs then .value (infinity negative) else readFinite negative cs

def readChars : List Char → Reading
  | '-' :: rest => readUnsigned true rest
  | '+' :: rest => readUnsigned false rest
  | cs =>
    if cs.map Char.toLower == "nan".toList then .value (0.0 / 0.0) else readUnsigned false cs

def read (s : String) : Reading := readChars s.toList

def read? (s : String) : Option Float :=
  match read s with
  | .value x => some x
  | _ => none

end LineBasic.Number
