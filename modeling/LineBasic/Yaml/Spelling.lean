import LineBasic.Number.Reader
import LineBasic.Yaml.Source

/-!
How the text of a scalar is written: without quotes, in single or double quotes, or as a block of
lines. A line end inside a scalar is folded into a blank, unless the block is a literal one.
-/
namespace LineBasic.Yaml

open Read

/-! ### Gaps -/

inductive Gap where
  | blanks (cs : List Char)
  | lines (first : Option Char) (more : List Char)
  deriving DecidableEq, Repr

namespace Gap

def none : Gap := blanks []

def text : Gap → List Char
  | blanks cs => cs.reverse
  | lines first more =>
    if first == some '\n' then if more.isEmpty then [' '] else more.reverse
    else first.toList ++ more.reverse

def addBlank (c : Char) : Gap → Gap
  | blanks cs => blanks (c :: cs)
  | g => g

def addLineEnd (c : Option Char) : Gap → Gap
  | blanks _ => lines c []
  | lines first more => lines first (c.toList ++ more)

def hasLineEnd : Gap → Bool
  | blanks _ => false
  | lines _ _ => true

end Gap

def readGap (margin : Nat) (gap : Gap) : Nat → Read Gap
  | 0 => fail
  | fuel + 1 => do
    need 1
    let s ← get
    match s.rest with
    | [] => return gap
    | c :: _ =>
      if isBlank c then
        if gap.hasLineEnd && s.column < margin && c == '\t' then fail
        else do
          skip
          readGap margin (gap.addBlank c) fuel
      else if isBreak c then do
        need 2
        let e ← lineEnd?
        readGap margin (gap.addLineEnd e) fuel
      else return gap

/-! ### Without quotes -/

def flowMarks : List Char := ",?[]\x7b\x7d".toList

def endsPlain (inFlow : Bool) : List Char → Bool
  | [] => true
  | c :: rest =>
    isBlank c || isBreak c || (c == ':' && endsWord rest) || (inFlow && flowMarks.contains c)

def readPlainWord (inFlow : Bool) (found : List Char) (gap : Gap) : Nat → Read (List Char × Gap)
  | 0 => fail
  | fuel + 1 => do
    let s ← get
    match s.rest with
    | [] => return (found, gap)
    | c :: _ =>
      if endsPlain inFlow s.rest then return (found, gap)
      else do
        skip
        need 2
        readPlainWord inFlow (c :: (gap.text.reverse ++ found)) .none fuel

def readPlainWords (inFlow : Bool) (margin : Nat) (found : List Char) (gap : Gap) :
    Nat → Read (List Char × Gap)
  | 0 => fail
  | fuel + 1 => do
    need 4
    let s ← get
    if (s.column = 0 && atDocumentMark s.rest) || s.rest.head? == some '#' then return (found, gap)
    else
      let (found, gap) ← readPlainWord inFlow found gap (← enough)
      match ← next? with
      | none => return (found, gap)
      | some c =>
        if !isBlank c && !isBreak c then return (found, gap)
        else
          let gap ← readGap margin gap (← enough)
          if !inFlow && (← get).column < margin then return (found, gap)
          else readPlainWords inFlow margin found gap fuel

def readPlain (inFlow : Bool) (margin : Nat) : Read (String × Bool) := do
  let (found, gap) ← readPlainWords inFlow margin [] .none (← enough)
  return (String.ofList found.reverse, gap.hasLineEnd)

/-! ### In quotes -/

def escaped? : Char → Option Char
  | '0' => some '\x00'
  | 'a' => some '\x07'
  | 'b' => some '\x08'
  | 't' => some '\t'
  | '\t' => some '\t'
  | 'n' => some '\n'
  | 'v' => some '\x0b'
  | 'f' => some '\x0c'
  | 'r' => some '\r'
  | 'e' => some '\x1b'
  | ' ' => some ' '
  | '"' => some '"'
  | '\x27' => some '\x27'
  | '\\' => some '\\'
  | 'N' => some '\u0085'
  | '_' => some '\u00a0'
  | 'L' => some '\u2028'
  | 'P' => some '\u2029'
  | _ => none

def escapeDigits? : Char → Option Nat
  | 'x' => some 2
  | 'u' => some 4
  | 'U' => some 8
  | _ => none

def readEscape : Read Char := do
  match ← next? with
  | none => fail
  | some c =>
    match escaped? c, escapeDigits? c with
    | some e, _ => do
      skip
      return e
    | none, some n => do
      skip
      need n
      let digits := (← get).rest.take n
      let value := Number.digitsValue 16 digits
      if digits.length < n || !digits.all Number.isHexDigit || !value.isValidChar then fail
      else do
        skipMany n
        return Char.ofNat value
    | none, none => fail

/-- Reads a word of a scalar in quotes, of which `found` has been read, the last character first.
The result also says whether the word was ended by a backslash before a line end, which is passed
over. -/
def readQuotedWord (single : Bool) (found : List Char) : Nat → Read (List Char × Bool)
  | 0 => fail
  | fuel + 1 => do
    let s ← get
    match s.rest with
    | [] => return (found, false)
    | c :: rest =>
      if isBlank c || isBreak c then return (found, false)
      else if single && c == '\x27' then
        if rest.head? == some '\x27' then do
          skipMany 2
          need 2
          readQuotedWord single ('\x27' :: found) fuel
        else return (found, false)
      else if !single && c == '"' then return (found, false)
      else if !single && c == '\\' then
        if rest.head?.any isBreak then do
          need 3
          skip
          skipLineEnd
          return (found, true)
        else do
          skip
          let e ← readEscape
          need 2
          readQuotedWord single (e :: found) fuel
      else do
        skip
        need 2
        readQuotedWord single (c :: found) fuel

def readQuotedWords (single : Bool) (found : List Char) : Nat → Read (List Char)
  | 0 => fail
  | fuel + 1 => do
    need 4
    let s ← get
    if s.rest.isEmpty || (s.column = 0 && atDocumentMark s.rest) then fail
    else
      let (found, joined) ← readQuotedWord single found (← enough)
      need 1
      if (← next?) == some (if single then '\x27' else '"') then do
        skip
        return found
      else
        let gap ← readGap 0 (if joined then .lines Option.none [] else .none) (← enough)
        readQuotedWords single (gap.text.reverse ++ found) fuel

def readQuoted (single : Bool) : Read String := do
  skip
  let found ← readQuotedWords single [] (← enough)
  return String.ofList found.reverse

/-! ### As a block of lines -/

inductive Chomping where
  | clip
  | keep
  | strip
  deriving DecidableEq, Repr

def Chomping.ofSign? : Char → Option Chomping
  | '+' => some keep
  | '-' => some strip
  | _ => none

def readBlockHeader : Read (Chomping × Option Nat) := do
  let sign : Read (Option Chomping) := do
    need 1
    match (← next?).bind Chomping.ofSign? with
    | some k => do
      skip
      return some k
    | none => return none
  let indentation : Read (Option Nat) := do
    need 1
    match ← next? with
    | some c =>
      if c == '0' then fail
      else if c.isDigit then do
        skip
        return some (Number.hexValue c)
      else return none
    | none => return none
  match ← sign with
  | some k => return (k, ← indentation)
  | none =>
    let n ← indentation
    if n.isNone then return (.clip, none) else return ((← sign).getD .clip, n)

def finishLine : Read Unit := do
  skipWhile isBlank
  if (← next?) == some '#' then skipWhile (!isBreak ·)
  match ← next? with
  | none => pure ()
  | some c => if isBreak c then do need 2; skipLineEnd else fail

def readBlankLines (indent : Option Nat) (breaks : List Char) (widest : Nat) :
    Nat → Read (List Char × Nat)
  | 0 => fail
  | fuel + 1 => do
    let inside (column : Nat) : Bool := indent.all (column < ·)
    let s ← get
    let room := match indent with
      | some n => n - s.column
      | none => s.left
    let spaces := ((s.rest.take room).takeWhile (· == ' ')).length
    need (spaces + 1)
    skipMany spaces
    let s ← get
    let widest := max widest s.column
    match s.rest with
    | [] => return (breaks, widest)
    | c :: _ =>
      if inside s.column && c == '\t' then fail
      else if isBreak c then do
        need 2
        let e ← lineEnd?
        readBlankLines indent (e.toList ++ breaks) widest fuel
      else return (breaks, widest)

structure BlockLines where
  found : List Char
  last : Option Char
  blank : List Char
  indented : Bool

def BlockLines.join (b : BlockLines) (literal startsBlank : Bool) : List Char :=
  let before :=
    if !literal && !b.indented && !startsBlank && b.last == some '\n' then
      if b.blank.isEmpty then [' '] else []
    else b.last.toList
  b.blank ++ (before ++ b.found)

def readBlockLines (literal : Bool) (indent : Nat) (b : BlockLines) : Nat → Read BlockLines
  | 0 => fail
  | fuel + 1 => do
    need 1
    let s ← get
    match s.rest with
    | [] => return b
    | c :: _ =>
      if s.column ≠ indent then return b
      else
        let start := b.join literal (isBlank c)
        let line ← span (!isBreak ·)
        need 2
        let last ← lineEnd?
        let (blank, _) ← readBlankLines (some indent) [] 0 (← enough)
        readBlockLines literal indent ⟨line.reverse ++ start, last, blank, isBlank c⟩ fuel

def readBlock (literal : Bool) (margin : Nat) : Read String := do
  skip
  let (chomping, given) ← readBlockHeader
  finishLine
  let indent := given.map (· + (margin - 1))
  let (blank, widest) ← readBlankLines indent [] 0 (← enough)
  let b ← readBlockLines literal (indent.getD (max 1 (max widest margin)))
    ⟨[], none, blank, false⟩ (← enough)
  let ending := match chomping with
    | .clip => b.last.toList
    | .keep => b.blank ++ b.last.toList
    | .strip => []
  return String.ofList (ending ++ b.found).reverse

end LineBasic.Yaml
