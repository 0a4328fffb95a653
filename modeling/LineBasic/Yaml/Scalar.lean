import LineBasic.Number.Reader
import LineBasic.Yaml.Base64
import LineBasic.Yaml.Timestamp

/-!
Scalars and what they stand for. A scalar without quotes may stand for something else than its text,
and a tag says what a scalar is to stand for.
-/
namespace LineBasic.Yaml

structure Scalar where
  text : String
  plain : Bool
  tag : Option String
  deriving DecidableEq, Repr

inductive Atom where
  | null
  | boolean (b : Bool)
  | integer (n : Int)
  | real (x : Float)
  | date
  | text (s : String)

/-! ### Numbers -/

def readDigits? (base : Nat) (cs : List Char) : Option Nat :=
  if !cs.isEmpty && cs.all (fun c => Number.isHexDigit c && Number.hexValue c < base) then
    some (Number.digitsValue base cs)
  else none

def readMagnitude? : List Char → Option Nat
  | ['0'] => some 0
  | '0' :: mark :: rest =>
    if rest.isEmpty then readDigits? 8 [mark]
    else if mark == 'x' || mark == 'X' then readDigits? 16 rest
    else if mark == 'b' || mark == 'B' then readDigits? 2 rest
    else if mark == 'o' || mark == 'O' then readDigits? 8 rest
    else readDigits? 8 (mark :: rest)
  | cs => readDigits? 10 cs

def readInteger? (magnitude : List Char → Option Nat) : List Char → Option Int
  | '-' :: rest => (magnitude rest).bind fun n => if n ≤ 0x8000000000000000 then some (-n) else none
  | '+' :: rest => (magnitude rest).bind fun n => if n < 0x8000000000000000 then some n else none
  | cs => (magnitude cs).bind fun n => if n < 0x10000000000000000 then some n else none

def readInnerSign? : List Char → Option Int
  | '0' :: 'b' :: rest => readInteger? (readDigits? 2) rest
  | '0' :: 'o' :: rest => readInteger? (readDigits? 8) rest
  | _ => none

def readReal : List Char → Number.Reading
  | '-' :: rest => Number.readDecimal true rest
  | '+' :: rest => Number.readDecimal false rest
  | cs => Number.readDecimal false cs

def readNumber (s : String) : Atom :=
  let cs := s.toList.filter (· != '_')
  match readInteger? readMagnitude? cs with
  | some n => .integer n
  | none =>
    match readReal cs with
    | .value x => .real x
    | _ =>
      match readInnerSign? cs with
      | some n => .integer n
      | none => .text s

/-! ### Plain scalars -/

def wordAtom? : String → Option Atom
  | "" => some .null
  | "~" => some .null
  | "null" => some .null
  | "Null" => some .null
  | "NULL" => some .null
  | "true" => some (.boolean true)
  | "True" => some (.boolean true)
  | "TRUE" => some (.boolean true)
  | "false" => some (.boolean false)
  | "False" => some (.boolean false)
  | "FALSE" => some (.boolean false)
  | ".nan" => some (.real (0.0 / 0.0))
  | ".NaN" => some (.real (0.0 / 0.0))
  | ".NAN" => some (.real (0.0 / 0.0))
  | ".inf" => some (.real (Number.infinity false))
  | ".Inf" => some (.real (Number.infinity false))
  | ".INF" => some (.real (Number.infinity false))
  | "+.inf" => some (.real (Number.infinity false))
  | "+.Inf" => some (.real (Number.infinity false))
  | "+.INF" => some (.real (Number.infinity false))
  | "-.inf" => some (.real (Number.infinity true))
  | "-.Inf" => some (.real (Number.infinity true))
  | "-.INF" => some (.real (Number.infinity true))
  | _ => none

def plainAtom (dates : Bool) (s : String) : Atom :=
  match wordAtom? s with
  | some a => a
  | none =>
    match s.toList with
    | '.' :: _ =>
      match Number.read? s with
      | some x => .real x
      | none => .text s
    | c :: _ =>
      if c.isDigit || c == '-' || c == '+' then
        if dates && isTimestamp s then .date else readNumber s
      else .text s
    | [] => .null

/-! ### Tags -/

def realAtom? : Atom → Option Atom
  | .integer n => if n < 0x8000000000000000 then some (.real (Float.ofInt n)) else none
  | .real x => some (.real x)
  | _ => none

def taggedAtom? (tag text : String) : Option Atom :=
  match tag with
  | "!!str" => some (.text text)
  | "!!binary" => (decodeBase64? text).map .text
  | "!!merge" => if text = "<<" then some (.text text) else none
  | "!!float" => realAtom? (plainAtom false text)
  | "!!timestamp" => if isTimestamp text then some .date else none
  | _ =>
    match tag, plainAtom false text with
    | "!!null", .null => some .null
    | "!!bool", .boolean b => some (.boolean b)
    | "!!int", .integer n => some (.integer n)
    | _, _ => none

namespace Scalar

def omitted : Scalar := ⟨"", true, none⟩

def atom? (s : Scalar) : Option Atom :=
  match s.tag with
  | some tag => taggedAtom? tag s.text
  | none => some (if s.plain then plainAtom true s.text else .text s.text)

def isMerge (s : Scalar) : Bool :=
  s.text == "<<" && (match s.tag with
    | some tag => tag == "!!merge"
    | none => s.plain)

end Scalar

end LineBasic.Yaml
