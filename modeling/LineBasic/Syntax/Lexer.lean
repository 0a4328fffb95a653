import LineBasic.Syntax.Token
import LineBasic.Text.Classes
import LineBasic.Text.Space

/-!
Reading tokens from a line. A cursor stands somewhere in the line and reads one token at a time;
the token stream of a line is what it reads up to the end or to the first fault. The lexer adds a
token of look-ahead and remembers a fault.
-/
namespace LineBasic

inductive LexProblem where
  | unexpected (c : Char)
  | unterminated
  deriving DecidableEq, Repr

structure LexFault where
  problem : LexProblem
  pos : Nat
  deriving DecidableEq, Repr

def LexProblem.message : LexProblem → String
  | unexpected c => "Unexpected character '" ++ c.toString ++ "'"
  | unterminated => "Unterminated string literal"

def LexFault.message (f : LexFault) : String :=
  f.problem.message ++ " at column " ++ toString (f.pos + 1)

namespace Lexeme

def isNameChar (c : Char) : Bool :=
  Text.isLetter c || Text.isDecimal c || c == '$' || c == '_'

def startsNumber : List Char → Bool
  | '.' :: c :: _ => c.isDigit
  | c :: _ => c.isDigit
  | [] => false

def numberWidth (cs : List Char) : Nat :=
  let whole := (cs.takeWhile Char.isDigit).length
  match cs.drop whole with
  | '.' :: rest => whole + 1 + (rest.takeWhile Char.isDigit).length
  | _ => whole

def quotedFrom (done : List Char) (width : Nat) : List Char → Option (List Char × Nat)
  | [] => none
  | '"' :: '"' :: rest => quotedFrom ('"' :: done) (width + 2) rest
  | '"' :: _ => some (done.reverse, width + 1)
  | c :: rest => quotedFrom (c :: done) (width + 1) rest

def symbol2? : Char → Char → Option Symbol
  | '<', '>' => some .notEqual
  | '<', '=' => some .atMost
  | '>', '=' => some .atLeast
  | _, _ => none

def symbol1? : Char → Option Symbol
  | '+' => some .plus
  | '-' => some .minus
  | '*' => some .times
  | '/' => some .divide
  | '(' => some .open
  | ')' => some .close
  | '=' => some .equal
  | ',' => some .comma
  | ';' => some .semicolon
  | ':' => some .colon
  | '<' => some .less
  | '>' => some .greater
  | _ => none

def symbol? : List Char → Option (Symbol × Nat)
  | [] => none
  | [a] => (symbol1? a).map (·, 1)
  | a :: b :: _ =>
    match symbol2? a b with
    | some s => some (s, 2)
    | none => (symbol1? a).map (·, 1)

def isSign (c : Char) : Bool := c == '+' || c == '-'

/-- The token at the front of a text that does not start with white space, and its width. A sign
directly before a number belongs to it unless an operand ends before the sign. -/
def read (afterOperand : Bool) : List Char → Except LexProblem (Lexeme × Nat)
  | [] => .ok (.endOfLine, 0)
  | c :: rest =>
    if c = '"' then
      match quotedFrom [] 1 rest with
      | some (contents, width) => .ok (.text (String.ofList contents), width)
      | none => .error .unterminated
    else if startsNumber (c :: rest) then
      let width := numberWidth (c :: rest)
      .ok (.number (String.ofList ((c :: rest).take width)), width)
    else if isSign c && !afterOperand && startsNumber rest then
      let width := numberWidth rest
      .ok (.number (String.ofList (c :: rest.take width)), width + 1)
    else if Text.isLetter c then
      let more := rest.takeWhile isNameChar
      .ok (.name (String.ofList (c :: more)), more.length + 1)
    else
      match symbol? (c :: rest) with
      | some (s, width) => .ok (.symbol s, width)
      | none => .error (.unexpected c)

end Lexeme

structure Cursor where
  pos : Nat
  rest : List Char
  afterOperand : Bool
  deriving DecidableEq, Repr

namespace Cursor

def start (line : String) : Cursor := ⟨0, line.toList, false⟩

def skipSpaces (c : Cursor) : Cursor :=
  let spaces := (c.rest.takeWhile Text.isSpace).length
  { c with pos := c.pos + spaces, rest := c.rest.drop spaces }

def skip (c : Cursor) (width : Nat) : Cursor :=
  { c with pos := c.pos + width, rest := c.rest.drop width }

def skipAll (c : Cursor) : Cursor := c.skip c.rest.length

def next (c : Cursor) : Except LexFault (Token × Cursor) :=
  let c := c.skipSpaces
  match Lexeme.read c.afterOperand c.rest with
  | .ok (lexeme, width) =>
    .ok (⟨lexeme, c.pos⟩, { c.skip width with afterOperand := lexeme.endsOperand })
  | .error problem => .error ⟨problem, c.pos⟩

end Cursor

structure TokenStream where
  tokens : List Token
  ending : Except LexFault Nat

namespace TokenStream

def readFrom : Nat → List Token → Cursor → TokenStream
  | 0, done, c => ⟨done.reverse, .ok c.pos⟩
  | fuel + 1, done, c =>
    match c.next with
    | .error f => ⟨done.reverse, .error f⟩
    | .ok (t, after) =>
      if t.lexeme = .endOfLine then ⟨done.reverse, .ok t.pos⟩
      else readFrom fuel (t :: done) after

def ofLine (line : String) : TokenStream :=
  readFrom (line.length + 1) [] (Cursor.start line)

def peek (s : TokenStream) : Except LexFault Token :=
  match s.tokens with
  | t :: _ => .ok t
  | [] => s.ending.map fun pos => ⟨.endOfLine, pos⟩

def advance (s : TokenStream) : TokenStream := { s with tokens := s.tokens.tail }

end TokenStream

structure Lexer where
  line : String
  cursor : Cursor
  peeked : Option Token
  fault : Option LexFault

namespace Lexer

def ofLine (line : String) : Lexer := ⟨line, Cursor.start line, none, none⟩

def stoppedAt (c : Cursor) : LexProblem → Cursor
  -- nothing is left behind a text that is never closed
  | .unterminated => c.skipSpaces.skipAll
  | .unexpected _ => c.skipSpaces

def scan (l : Lexer) : Except LexFault Token × Lexer :=
  match l.fault with
  | some f => (.error f, l)
  | none =>
    match l.cursor.next with
    | .ok (t, c) => (.ok t, { l with cursor := c })
    | .error f => (.error f, { l with cursor := stoppedAt l.cursor f.problem, fault := some f })

def peek (l : Lexer) : Except LexFault Token × Lexer :=
  match l.peeked with
  | some t => (.ok t, l)
  | none =>
    match l.scan with
    | (.ok t, l) => (.ok t, { l with peeked := some t })
    | (.error f, l) => (.error f, l)

def next (l : Lexer) : Except LexFault Token × Lexer :=
  match l.peeked with
  | some t => (.ok t, { l with peeked := none })
  | none => l.scan

def upcoming (l : Lexer) : List Char × Lexer :=
  match l.peeked with
  | some t => (if t.lexeme = .endOfLine then [] else l.line.toList.drop t.pos, l)
  | none =>
    let c := l.cursor.skipSpaces
    (c.rest, { l with cursor := c })

def remaining (l : Lexer) : String × Lexer :=
  let (rest, l) := l.upcoming
  (String.ofList rest, l)

def hasMore (l : Lexer) : Bool × Lexer :=
  let (rest, l) := l.upcoming
  (!rest.isEmpty, l)

def skipRest (l : Lexer) : String × Lexer :=
  let (rest, l) := l.remaining
  (rest, { l with cursor := l.cursor.skipAll, peeked := none })

end Lexer

end LineBasic
