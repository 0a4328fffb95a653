/-!
A YAML text that is being read: the characters to come and the place of the next one. The text is
looked at through windows of a fixed number of bytes, and a character that no text may hold is found
as soon as its window is needed, however far ahead it stands.
-/
namespace LineBasic.Yaml

/-! ### Characters -/

def isBlank (c : Char) : Bool := c == ' ' || c == '\t'

def isBreak (c : Char) : Bool :=
  c == '\n' || c == '\r' || c == '\u0085' || c == '\u2028' || c == '\u2029'

def byteOrderMark : Char := '\ufeff'

def isAllowed (c : Char) : Bool :=
  let n := c.toNat
  isBreak c || c == '\t' || (0x20 ≤ n && n ≤ 0x7E) || (0xA0 ≤ n && n ≤ 0xFFFD) || 0x10000 ≤ n

def isWord (c : Char) : Bool := c.isAlphanum || c == '_' || c == '-'

def endsWord : List Char → Bool
  | [] => true
  | c :: _ => isBlank c || isBreak c

def atDocumentMark : List Char → Bool
  | '-' :: '-' :: '-' :: rest => endsWord rest
  | '.' :: '.' :: '.' :: rest => endsWord rest
  | _ => false

/-! ### Windows -/

def windowSize : Nat := 512

def clearBefore (left start count : Nat) : List Char → Option Nat
  | [] => none
  | c :: rest =>
    let fits := c.utf8Size ≤ left
    let start := if fits then start else count
    let left := if fits then left else windowSize
    if isAllowed c then clearBefore (left - c.utf8Size) start (count + 1) rest else some start

structure Source where
  rest : List Char
  size : Nat
  index : Nat
  line : Nat
  column : Nat
  fresh : Bool
  clear : Option Nat
  deriving DecidableEq, Repr

def Source.ofText (text : String) : Source :=
  match text.toList with
  | [] => ⟨[], 0, 0, 0, 0, false, none⟩
  | c :: rest =>
    if c == byteOrderMark then
      ⟨rest, rest.length, 0, 0, 0, false, clearBefore (windowSize - c.utf8Size) 0 0 rest⟩
    else ⟨c :: rest, rest.length + 1, 0, 0, 0, false, clearBefore windowSize 0 0 (c :: rest)⟩

def Source.left (s : Source) : Nat := s.size - s.index

/-! ### Reading -/

abbrev Read := StateT Source Option

namespace Read

def fail {α : Type} : Read α := fun _ => none

def need (n : Nat) : Read Unit := do
  match (← get).clear with
  | some k => if k < n then fail else pure ()
  | none => pure ()

def next? : Read (Option Char) := do return (← get).rest.head?

def skip : Read Unit := modify fun s =>
  match s.rest with
  | [] => s
  | c :: rest =>
    { s with
      rest
      index := s.index + 1
      column := s.column + 1
      fresh := s.fresh && isBlank c
      clear := s.clear.map (· - 1) }

def skipMany : Nat → Read Unit
  | 0 => pure ()
  | n + 1 => do skip; skipMany n

def lineEnd? : Read (Option Char) := do
  let s ← get
  let pass (n : Nat) (rest : List Char) : Read Unit := set
    { s with
      rest
      index := s.index + n
      line := s.line + 1
      column := 0
      fresh := true
      clear := s.clear.map (· - n) }
  match s.rest with
  | '\r' :: '\n' :: rest => do pass 2 rest; return some '\n'
  | c :: rest =>
    if isBreak c then
      pass 1 rest
      return some (if c == '\u2028' || c == '\u2029' then c else '\n')
    else return none
  | [] => return none

def skipLineEnd : Read Unit := do
  let _ ← lineEnd?

def spanFrom (p : Char → Bool) (found : List Char) : Nat → Read (List Char)
  | 0 => fail
  | fuel + 1 => do
    need 1
    match ← next? with
    | some c => if p c then do skip; spanFrom p (c :: found) fuel else return found.reverse
    | none => return found.reverse

def enough : Read Nat := do return (← get).left + 1

def span (p : Char → Bool) : Read (List Char) := do spanFrom p [] (← enough)

def skipWhile (p : Char → Bool) : Read Unit := do
  let _ ← span p

/-! ### Comments -/

def commentReach : Nat := 512

def skipLineComment : Read Unit := do
  let s ← get
  let blanks := (s.rest.takeWhile isBlank).length
  if s.fresh then pure ()
  else
    need (min commentReach (blanks + 1))
    if blanks < commentReach && s.rest[blanks]? == some '#' then skipWhile (!isBreak ·)

def skipTo (index : Nat) : Nat → Read Unit
  | 0 => fail
  | fuel + 1 => do
    need 1
    let s ← get
    if index ≤ s.index then pure ()
    else
      match s.rest with
      | [] => pure ()
      | c :: _ =>
        if isBreak c then do need 2; skipLineEnd else skip
        skipTo index fuel

def skipComments : Nat → Read Unit
  | 0 => fail
  | fuel + 1 => do
    skipWhile (!isBreak ·)
    let s ← get
    let single (c : Char) : Bool := isBlank c || c == '\n' || c == '\r'
    match s.rest with
    | [] => pure ()
    | c :: rest =>
      if !single c then need 2
      else
        let ahead := 1 + (rest.takeWhile single).length
        if commentReach ≤ ahead then need commentReach
        else
          match s.rest[ahead]? with
          | some '#' => do
            need (ahead + 1)
            skipTo (s.index + ahead) (← enough)
            skipComments fuel
          | some c => need (if isBreak c then min commentReach (ahead + 2) else ahead + 1)
          | none => need (ahead + 1)

def skipToToken (inFlow keyAllowed : Bool) : Nat → Read Bool
  | 0 => fail
  | fuel + 1 => do
    need 1
    let s ← get
    if s.column = 0 && s.rest.head? == some byteOrderMark then skip
    skipWhile fun c => c == ' ' || ((inFlow || !keyAllowed) && c == '\t')
    if (← next?) == some '#' then skipComments (← enough)
    match ← next? with
    | some c =>
      if isBreak c then do
        need 2
        skipLineEnd
        skipToToken inFlow (keyAllowed || !inFlow) fuel
      else return keyAllowed
    | none => return keyAllowed

end Read

end LineBasic.Yaml
