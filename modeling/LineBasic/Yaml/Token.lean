import LineBasic.Yaml.Tag

/-!
The tokens of a YAML text. Blocks are told apart by their columns, so marks for their starts and
ends are put between the tokens that are written. A key is known only by the colon after it:
whatever may turn out to be one is held back until that is settled, and its marks are then put
before it. Tokens are read two ahead of the one that is used.
-/
namespace LineBasic.Yaml

inductive Token where
  | streamEnd
  | directive (d : Directive)
  | documentStart
  | documentEnd
  | listStart
  | mapStart
  | blockEnd
  | bracketOpen
  | bracketClose
  | braceOpen
  | braceClose
  | entry
  | comma
  | key
  | value
  | alias (name : String)
  | anchor (name : String)
  | tag (t : TagSpelling)
  | scalar (text : String) (plain : Bool)
  deriving DecidableEq, Repr

structure PossibleKey where
  possible : Bool
  required : Bool
  number : Nat
  index : Nat
  line : Nat
  column : Nat
  deriving DecidableEq, Repr

def keyLength : Nat := 1024

def depthLimit : Nat := 10000

structure Tokens where
  source : Source
  queue : List Token
  used : Nat
  margin : Nat
  outer : List Nat
  keyAllowed : Bool
  level : Nat
  keys : List PossibleKey
  held : List (Nat × Nat)
  deriving DecidableEq, Repr

def Tokens.ofText (text : String) : Tokens :=
  ⟨Source.ofText text, [], 0, 0, [], true, 0, [⟨false, false, 0, 0, 0, 0⟩], []⟩

abbrev Scan := StateT Tokens Option

namespace Scan

def fail {α : Type} : Scan α := fun _ => none

def inSource {α : Type} (r : Read α) : Scan α := do
  let t ← get
  match r t.source with
  | some (a, source) => do
    set { t with source }
    return a
  | none => fail

def inFlow : Scan Bool := do return 0 < (← get).level

def allowKey (allowed : Bool) : Scan Unit := modify fun t => { t with keyAllowed := allowed }

def push (token : Token) : Scan Unit := modify fun t => { t with queue := t.queue ++ [token] }

def insert (number : Nat) (token : Token) : Scan Unit := modify fun t =>
  if number < t.used then { t with queue := t.queue ++ [token] }
  else { t with queue := t.queue.insertIdx (number - t.used) token }

/-! ### Possible keys -/

def forget (number : Nat) : Scan Unit :=
  modify fun t => { t with held := t.held.filter (·.1 != number) }

def keyAt? (level : Nat) : Scan (Option PossibleKey) := do
  let t ← get
  return if t.level < level then none else t.keys[t.level - level]?

def setKey (level : Nat) (k : PossibleKey) : Scan Unit :=
  modify fun t => { t with keys := t.keys.set (t.level - level) k }

def isPossible (level : Nat) : Scan Bool := do
  match ← keyAt? level with
  | none => return false
  | some k =>
    let s := (← get).source
    if !k.possible then return false
    else if k.line < s.line || k.index + keyLength < s.index then
      if k.required then fail
      else do
        setKey level { k with possible := false }
        return false
    else return true

def dropKey : Scan Unit := do
  let n := (← get).level
  match ← keyAt? n with
  | none => pure ()
  | some k =>
    if k.possible then
      if k.required then fail
      else do
        setKey n { k with possible := false }
        forget k.number

def saveKey : Scan Unit := do
  let t ← get
  if t.keyAllowed then
    let number := t.used + t.queue.length
    let required := !(← inFlow) && t.margin == t.source.column + 1
    dropKey
    let n := t.level
    setKey n ⟨true, required, number, t.source.index, t.source.line, t.source.column⟩
    modify fun t => { t with held := (number, n) :: t.held.filter (·.1 != number) }

/-! ### Brackets and blocks -/

def openFlow : Scan Unit := do
  let t ← get
  let s := t.source
  if depthLimit ≤ t.level then fail
  else
    set { t with
      level := t.level + 1
      keys := ⟨false, false, t.used + t.queue.length, s.index, s.line, s.column⟩ :: t.keys }

def closeFlow : Scan Unit := do
  match (← get).keys with
  | k :: outer :: rest => do
    forget k.number
    modify fun t => { t with level := t.level - 1, keys := outer :: rest }
  | _ => pure ()

def openBlock (column : Nat) (number : Option Nat) (token : Token) : Scan Unit := do
  let t ← get
  if !(← inFlow) && t.margin ≤ column then
    if depthLimit ≤ t.outer.length then fail
    else do
      set { t with outer := t.margin :: t.outer, margin := column + 1 }
      match number with
      | some n => insert n token
      | none => push token

def closeBlocks (margin : Nat) : List Nat → Scan Unit
  | [] => pure ()
  | outer :: rest => do
    if margin < (← get).margin then
      push .blockEnd
      modify fun t => { t with margin := outer, outer := rest }
      closeBlocks margin rest

def closeBlocksTo (margin : Nat) : Scan Unit := do
  if !(← inFlow) then closeBlocks margin (← get).outer

/-! ### Tokens -/

def readSeparate (token : Scan Token) : Scan Unit := do
  closeBlocksTo 0
  dropKey
  allowKey false
  push (← token)

def readMark (length : Nat) (token : Token) : Scan Unit := do
  inSource (Read.skipMany length)
  push token

def readOpening (token : Token) : Scan Unit := do
  saveKey
  openFlow
  allowKey true
  readMark 1 token

def readClosing (token : Token) : Scan Unit := do
  dropKey
  closeFlow
  allowKey false
  readMark 1 token

def readComma : Scan Unit := do
  dropKey
  allowKey true
  readMark 1 .comma

def readEntry : Scan Unit := do
  let t ← get
  if !(← inFlow) then
    if !t.keyAllowed then fail
    openBlock t.source.column none .listStart
  dropKey
  allowKey true
  readMark 1 .entry

def readKeyMark : Scan Unit := do
  let t ← get
  let flow ← inFlow
  if !flow then
    if !t.keyAllowed then fail
    openBlock t.source.column none .mapStart
  dropKey
  allowKey !flow
  readMark 1 .key

def readColon : Scan Unit := do
  let n := (← get).level
  if ← isPossible n then
    match ← keyAt? n with
    | none => fail
    | some k =>
      insert k.number .key
      openBlock k.column (some k.number) .mapStart
      setKey n { k with possible := false }
      forget k.number
      allowKey false
  else
    let t ← get
    let flow ← inFlow
    if !flow then
      if !t.keyAllowed then fail
      openBlock t.source.column none .mapStart
    allowKey !flow
  readMark 1 .value

def readPart (token : Scan Token) : Scan Unit := do
  saveKey
  allowKey false
  push (← token)

def readPlainScalar : Scan Unit := do
  saveKey
  allowKey false
  let flow ← inFlow
  let (text, ended) ← inSource (readPlain flow (← get).margin)
  push (.scalar text true)
  if ended then allowKey true

def readBlockScalar (literal : Bool) : Scan Unit := do
  dropKey
  allowKey true
  let text ← inSource (readBlock literal (← get).margin)
  push (.scalar text false)

def indicators : List Char := ",[]\x7b\x7d#&*!|>\x27\"%@\x60".toList

def startsPlain (flow : Bool) : List Char → Bool
  | [] => false
  | c :: rest =>
    if c == '-' then !rest.head?.any isBlank
    else if c == '?' || c == ':' then !flow && !endsWord rest
    else !isBlank c && !isBreak c && !indicators.contains c

def readWritten (flow : Bool) (cs : List Char) : Scan Unit := do
  match cs with
  | [] => fail
  | c :: rest =>
    if c == '-' && endsWord rest then readEntry
    else
      if c == '[' then readOpening .bracketOpen
      else if c == '\x7b' then readOpening .braceOpen
      else if c == ']' then readClosing .bracketClose
      else if c == '\x7d' then readClosing .braceClose
      else if c == ',' then readComma
      else if c == '?' && (flow || endsWord rest) then readKeyMark
      else if c == ':' && (flow || endsWord rest) then readColon
      else if c == '*' then readPart (do return .alias (← inSource readAnchorName))
      else if c == '&' then readPart (do return .anchor (← inSource readAnchorName))
      else if c == '!' then readPart (do return .tag (← inSource readTag))
      else if c == '|' && !flow then readBlockScalar true
      else if c == '>' && !flow then readBlockScalar false
      else if c == '\x27' then readPart (do return .scalar (← inSource (readQuoted true)) false)
      else if c == '"' then readPart (do return .scalar (← inSource (readQuoted false)) false)
      else if startsPlain flow cs then readPlainScalar
      else fail
      inSource Read.skipLineComment

def readToken : Scan Unit := do
  let flow ← inFlow
  let t ← get
  let allowed ← inSource (do Read.skipToToken flow t.keyAllowed (← Read.enough))
  allowKey allowed
  closeBlocksTo ((← get).source.column + 1)
  inSource (Read.need 4)
  let s := (← get).source
  match s.rest with
  | [] => do
    modify fun t =>
      if s.column = 0 then t
      else { t with source := { s with column := 0, line := s.line + 1 } }
    readSeparate (return .streamEnd)
  | c :: _ =>
    if s.column = 0 && c == '%' then readSeparate (do return .directive (← inSource readDirective))
    else if s.column = 0 && atDocumentMark s.rest then
      readSeparate (do
        inSource (Read.skipMany 3)
        return if c == '-' then .documentStart else .documentEnd)
    else readWritten flow s.rest

/-- Whether the first token in the queue may be used: two more have been read, and it is not held
back. -/
def isReady : Scan Bool := do
  let t ← get
  if t.queue.length < 3 then return false
  else
    match t.held.lookup t.used with
    | none => return true
    | some n => return !(← isPossible n)

def readAhead : Nat → Scan Unit
  | 0 => fail
  | fuel + 1 => do
    if ← isReady then pure ()
    else do
      readToken
      readAhead fuel

def peek : Scan Token := do
  readAhead ((← get).source.left + 8)
  match (← get).queue with
  | token :: _ => return token
  | [] => fail

def next : Scan Unit := modify fun t =>
  { t with
    queue := t.queue.tail
    used := t.used + 1
    held := t.held.filter (t.used < ·.1) }

end Scan

end LineBasic.Yaml
