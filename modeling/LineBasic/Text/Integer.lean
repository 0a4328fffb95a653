/-!
Decimal integers of 64 bits: an optional sign and digits, nothing else.
-/
namespace LineBasic.Text

inductive IntegerFault where
  | malformed
  | outOfRange
  deriving DecidableEq, Repr

def digitValue (c : Char) : Nat := c.toNat - '0'.toNat

def readDigits (n : Nat) : List Char → Except IntegerFault Nat
  | [] => .ok n
  | c :: rest =>
    if !c.isDigit then .error .malformed
    else if 0x10000000000000000 ≤ n * 10 + digitValue c then .error .outOfRange
    else readDigits (n * 10 + digitValue c) rest

def readMagnitude : List Char → Except IntegerFault Nat
  | [] => .error .malformed
  | cs => readDigits 0 cs

def readInteger : List Char → Except IntegerFault Int
  | '-' :: rest => do
    let n ← readMagnitude rest
    if n ≤ 0x8000000000000000 then .ok (-n) else .error .outOfRange
  | '+' :: rest => do
    let n ← readMagnitude rest
    if n < 0x8000000000000000 then .ok n else .error .outOfRange
  | cs => do
    let n ← readMagnitude cs
    if n < 0x8000000000000000 then .ok n else .error .outOfRange

def readInteger? (s : String) : Option Int := (readInteger s.toList).toOption

def negateWrapping (n : Int) : Int := Int.bmod (-n) (0x10000000000000000)

def maxInteger : Int := 0x8000000000000000 - 1

end LineBasic.Text
