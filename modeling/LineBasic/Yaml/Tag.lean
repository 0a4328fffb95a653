import LineBasic.Number.Reader
import LineBasic.Text.Bytes
import LineBasic.Yaml.Spelling

/-!
What may stand before a node or a document: anchors and aliases, tags, and directives.
-/
namespace LineBasic.Yaml

open Read

/-! ### Anchors and aliases -/

def endsAnchor (cs : List Char) : Bool :=
  endsWord cs || cs.head?.any ("?:,]\x7d%@\x60".toList.contains ·)

def readAnchorName : Read String := do
  skip
  let name ← span isWord
  if name.isEmpty || !endsAnchor (← get).rest then fail else return String.ofList name

/-! ### Tags -/

structure TagSpelling where
  handle : String
  suffix : String
  deriving DecidableEq, Repr

def tagMarks : List Char := ";/?:@&=+$,.!~*\x27()[]".toList

def readEscapedBytes : Nat → Read (List UInt8)
  | 0 => return []
  | n + 1 => do
    need 3
    match (← get).rest with
    | '%' :: a :: b :: _ =>
      if !Number.isHexDigit a || !Number.isHexDigit b then fail
      else do
        skipMany 3
        return UInt8.ofNat (Number.digitsValue 16 [a, b]) :: (← readEscapedBytes n)
    | _ => fail

-- the number of bytes of a character whose first byte this is
def leadingWidth? (byte : UInt8) : Option Nat :=
  let n := byte.toNat
  if n < 0x80 then some 1
  else if n / 0x20 == 6 then some 2
  else if n / 0x10 == 0xE then some 3
  else if n / 8 == 0x1E then some 4
  else none

def readEscapedChar : Read (List Char) := do
  let first ← readEscapedBytes 1
  match first.head?.bind leadingWidth? with
  | none => fail
  | some n =>
    let more ← readEscapedBytes (n - 1)
    if more.all (fun b => b.toNat / 0x40 == 2) then return Text.chars (first ++ more) else fail

def readTagFrom (found : List Char) : Nat → Read (List Char)
  | 0 => fail
  | fuel + 1 => do
    need 1
    match ← next? with
    | none => return found
    | some c =>
      if c == '%' then do
        let cs ← readEscapedChar
        readTagFrom (cs.reverse ++ found) fuel
      else if isWord c || tagMarks.contains c then do
        skip
        readTagFrom (c :: found) fuel
      else return found

def readTagText (head : List Char) : Read String := do
  let found ← readTagFrom head.tail.reverse (← enough)
  if head.isEmpty && found.isEmpty then fail else return String.ofList found.reverse

def readHandle : Read (List Char) := do
  need 1
  if (← next?) != some '!' then fail
  else do
    skip
    let word ← span isWord
    if (← next?) == some '!' then do
      skip
      return '!' :: (word ++ ['!'])
    else return '!' :: word

def readTag : Read TagSpelling := do
  need 2
  let tag ← (do
    match (← get).rest with
    | '!' :: '<' :: _ => do
      skipMany 2
      let suffix ← readTagText []
      if (← next?) == some '>' then do
        skip
        return TagSpelling.mk "" suffix
      else fail
    | _ =>
      let handle ← readHandle
      if 1 < handle.length && handle.getLast? == some '!' then
        return TagSpelling.mk (String.ofList handle) (← readTagText [])
      else
        let suffix ← readTagText handle
        return if suffix.isEmpty then TagSpelling.mk "" "!" else TagSpelling.mk "!" suffix)
  need 1
  if endsWord (← get).rest then return tag else fail

/-! ### Directives -/

inductive Directive where
  | version (major minor : Nat)
  | tag (handle expansion : String)
  deriving DecidableEq, Repr

def readVersionNumber : Read Nat := do
  let digits ← span Char.isDigit
  if digits.isEmpty || 2 < digits.length then fail else return Number.digitsValue 10 digits

def readDirectiveValue (name : String) : Read Directive := do
  skipWhile isBlank
  match name with
  | "YAML" =>
    let major ← readVersionNumber
    if (← next?) == some '.' then do
      skip
      return .version major (← readVersionNumber)
    else fail
  | "TAG" =>
    let handle ← readHandle
    if handle ≠ ['!'] && (handle.length < 2 || handle.getLast? != some '!') then fail
    else
      need 1
      if !(← next?).any isBlank then fail
      else
        skipWhile isBlank
        let expansion ← readTagText []
        need 1
        if endsWord (← get).rest then return .tag (String.ofList handle) expansion else fail
  | _ => fail

def readDirective : Read Directive := do
  skip
  let name ← span isWord
  if name.isEmpty || !endsWord (← get).rest then fail
  else
    let d ← readDirectiveValue (String.ofList name)
    finishLine
    return d

end LineBasic.Yaml
