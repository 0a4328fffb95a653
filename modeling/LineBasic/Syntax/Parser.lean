import LineBasic.Number.Reader
import LineBasic.Syntax.Keyword
import LineBasic.Syntax.Lexer
import LineBasic.Syntax.Statement
import LineBasic.Text.Case
import LineBasic.Text.Integer
import LineBasic.Text.Quoted

/-!
The statements of a line. The parser reads the token stream of the line with one token of
look-ahead, so a fault in the characters is met only when the parser gets that far. Expressions
have, from the loosest binding to the tightest: one comparison, sums, products, signs, operands.
-/
namespace LineBasic

inductive ParseFault where
  | expected (what : String) (got : Lexeme)
  | expectedVariable (got : Lexeme)
  | expectedLineNumber (got : Lexeme)
  | expectedListEnd (got : Lexeme)
  | unknownStatement (got : Lexeme)
  | missingTarget
  | endOfExpression
  | illegalNumber (spelling : String)
  | unexpected (got : Lexeme)
  | leftover (text : String)
  | tooDeep
  deriving DecidableEq, Repr

def ParseFault.message : ParseFault → String
  | expected what got => "Expected " ++ Text.quote what ++ ", got " ++ got.shown
  | expectedVariable got => "Expected variable, got " ++ got.shown
  | expectedLineNumber got => "Expected line number, got " ++ got.shown
  | expectedListEnd got => "Expected \")\" or \",\", got " ++ got.shown
  | unknownStatement got => "Unknown statement " ++ got.shown
  | missingTarget => "IF ... THEN without target"
  | endOfExpression => "Unexpected end of expression"
  | illegalNumber spelling => "Illegal number " ++ Text.quote spelling
  | unexpected got => "Unexpected " ++ got.shown
  | leftover text => "Unexpected text " ++ Text.quote text
  | tooDeep => "Expression nested too deeply"

inductive SyntaxFault where
  | lexical (f : LexFault)
  | grammar (f : ParseFault)
  deriving DecidableEq, Repr

def SyntaxFault.message : SyntaxFault → String
  | lexical f => f.message
  | grammar f => f.message

abbrev Parser := StateT TokenStream (Except SyntaxFault)

namespace Parser

def fail {α : Type} (f : ParseFault) : Parser α := fun _ => .error (.grammar f)

def peek : Parser Lexeme := fun s =>
  match s.peek with
  | .ok t => .ok (t.lexeme, s)
  | .error f => .error (.lexical f)

def skip : Parser Unit := fun s => .ok ((), s.advance)

def next : Parser Lexeme := do
  let t ← peek
  skip
  pure t

def accept (s : Symbol) : Parser Bool := do
  if (← peek) = .symbol s then
    skip
    pure true
  else pure false

def expect (s : Symbol) : Parser Unit := do
  let t ← next
  if t = .symbol s then pure () else fail (.expected s.spelling t)

def isConnective (w : Connective) : Lexeme → Bool
  | .name spelling => w.matches spelling
  | _ => false

def acceptWord (w : Connective) : Parser Bool := do
  if isConnective w (← peek) then
    skip
    pure true
  else pure false

def expectWord (w : Connective) : Parser Unit := do
  let t ← next
  if isConnective w t then pure () else fail (.expected w.spelling t)

def expectName : Parser String := do
  match (← next) with
  | .name spelling => pure (Text.upper spelling)
  | t => fail (.expectedVariable t)

def lineNumber? : Lexeme → Option Int
  | .number spelling => Text.readInteger? spelling
  | _ => none

def expectLineNumber : Parser Int := do
  let negative ← accept .minus
  let t ← next
  match lineNumber? t with
  | some n => pure (if negative then Text.negateWrapping n else n)
  | none => fail (.expectedLineNumber t)

def isStatementEnd : Lexeme → Bool
  | .endOfLine => true
  | .symbol .colon => true
  | _ => false

def relation? : Lexeme → Option Relation
  | .symbol .equal => some .equal
  | .symbol .notEqual => some .notEqual
  | .symbol .less => some .less
  | .symbol .atMost => some .atMost
  | .symbol .greater => some .greater
  | .symbol .atLeast => some .atLeast
  | _ => none

def sumOp? : Lexeme → Option ArithOp
  | .symbol .plus => some .add
  | .symbol .minus => some .subtract
  | _ => none

def productOp? : Lexeme → Option ArithOp
  | .symbol .times => some .multiply
  | .symbol .divide => some .divide
  | _ => none

section Expressions

-- Which names are functions.
variable (isFunction : String → Bool)

mutual

/-- A sum, or two sums compared. The first argument of this and the following functions bounds the
depth of the recursion. -/
def expression : Nat → Parser Expr
  | 0 => fail .tooDeep
  | n + 1 => do
    let left ← sum n
    match relation? (← peek) with
    | none => pure left
    | some op =>
      skip
      let right ← sum n
      pure (.compare op left right)

def sum : Nat → Parser Expr
  | 0 => fail .tooDeep
  | n + 1 => do
    let first ← product n
    sumRest n first

def sumRest : Nat → Expr → Parser Expr
  | 0, _ => fail .tooDeep
  | n + 1, left => do
    match sumOp? (← peek) with
    | none => pure left
    | some op =>
      skip
      let right ← product n
      sumRest n (.arith op left right)

def product : Nat → Parser Expr
  | 0 => fail .tooDeep
  | n + 1 => do
    let first ← signed n
    productRest n first

def productRest : Nat → Expr → Parser Expr
  | 0, _ => fail .tooDeep
  | n + 1, left => do
    match productOp? (← peek) with
    | none => pure left
    | some op =>
      skip
      let right ← signed n
      productRest n (.arith op left right)

def signed : Nat → Parser Expr
  | 0 => fail .tooDeep
  | n + 1 => do
    match (← peek) with
    | .symbol .plus =>
      skip
      signed n
    | .symbol .minus =>
      skip
      let e ← signed n
      pure (.negate e)
    | _ => operand n

def operand : Nat → Parser Expr
  | 0 => fail .tooDeep
  | n + 1 => do
    match (← next) with
    | .endOfLine => fail .endOfExpression
    | .number spelling =>
      match Number.read? spelling with
      | some x => pure (.number x)
      | none => fail (.illegalNumber spelling)
    | .text contents => pure (.text contents)
    | .name spelling => named n (Text.upper spelling)
    | .symbol .open => do
      let e ← expression n
      expect .close
      pure e
    | t => fail (.unexpected t)

def named : Nat → String → Parser Expr
  | 0, _ => fail .tooDeep
  | n + 1, name => do
    if (← peek) = .symbol .open then
      skip
      if isFunction name then
        let args ← arguments n
        pure (.call name args)
      else
        let index ← expressions n
        pure (.element name index)
    else pure (.scalar name)

def arguments : Nat → Parser (List Expr)
  | 0 => fail .tooDeep
  | n + 1 => do
    if (← accept .close) then pure [] else expressions n

def expressions : Nat → Parser (List Expr)
  | 0 => fail .tooDeep
  | n + 1 => do
    let first ← expression n
    match (← next) with
    | .symbol .comma =>
      let rest ← expressions n
      pure (first :: rest)
    | .symbol .close => pure [first]
    | t => fail (.expectedListEnd t)

end

end Expressions

section Statements

-- Which names are functions, the text of the line, and how deep expressions may nest.
variable (isFunction : String → Bool) (line : List Char) (depth : Nat)

def separator? : Lexeme → Option Separator
  | .symbol .semicolon => some .join
  | .symbol .comma => some .blank
  | _ => none

def printRest : Nat → Parser (List (Separator × Expr))
  | 0 => fail .tooDeep
  | n + 1 => do
    match separator? (← peek) with
    | none => pure []
    | some separator =>
      skip
      let e ← expression isFunction depth
      let rest ← printRest n
      pure ((separator, e) :: rest)

def printItems : Parser (Option PrintList) := do
  if isStatementEnd (← peek) then pure none
  else
    let first ← expression isFunction depth
    let rest ← printRest isFunction depth depth
    pure (some ⟨first, rest⟩)

def assignmentTo (name : String) : Parser Stmt := do
  if (← accept .open) then
    let index ← expressions isFunction depth
    expect .equal
    let value ← expression isFunction depth
    pure (.assign (.element name index) value)
  else
    expect .equal
    let value ← expression isFunction depth
    pure (.assign (.scalar name) value)

def loopRest (name : String) : Parser Stmt := do
  expect .equal
  let start ← expression isFunction depth
  expectWord .toWord
  let limit ← expression isFunction depth
  if (← acceptWord .stepWord) then
    let step ← expression isFunction depth
    pure (.loop name start limit (some step))
  else pure (.loop name start limit none)

def declarations : Nat → Parser (List Declaration)
  | 0 => fail .tooDeep
  | n + 1 => do
    let name ← expectName
    expect .open
    let dims ← expressions isFunction depth
    if (← accept .comma) then
      let rest ← declarations n
      pure (⟨name, dims⟩ :: rest)
    else pure [⟨name, dims⟩]

def randomizeRest : Parser Stmt := do
  if isStatementEnd (← peek) then pure (.randomize none)
  else
    let seed ← expression isFunction depth
    pure (.randomize (some seed))

def remarkAfter (pos width : Nat) : Parser Stmt := fun _ =>
  .ok (.remark (String.ofList (Text.trimChars (line.drop (pos + width)))), ⟨[], .ok line.length⟩)

def nameStatement (name : String) : Parser Stmt := do
  if (← peek) = .symbol .open ∧ isFunction name then
    skip
    let args ← arguments isFunction depth
    pure (.call name args)
  else assignmentTo isFunction depth name

def peekPos : Parser Nat := fun s =>
  match s.peek with
  | .ok t => .ok (t.pos, s)
  | .error f => .error (.lexical f)

/-- What follows THEN decides: a number is a jump, anything else one statement, which may be empty
only before a colon. -/
def branch (inner : Parser Stmt) : Parser Stmt := do
  let condition ← expression isFunction depth
  expectWord .thenWord
  match (← peek) with
  | .endOfLine => fail .missingTarget
  | .number _ =>
    let target ← expectLineNumber
    pure (.jumpIf condition target)
  | .symbol .minus =>
    let target ← expectLineNumber
    pure (.jumpIf condition target)
  | _ =>
    let s ← inner
    pure (.doIf condition s)

def keywordStatement (inner : Parser Stmt) (pos : Nat) : Keyword → Parser Stmt
  | .printKw => Stmt.print <$> printItems isFunction depth
  | .letKw => do
    let name ← expectName
    assignmentTo isFunction depth name
  | .inputKw => Stmt.input <$> expectName
  | .ifKw => branch isFunction depth inner
  | .gotoKw => Stmt.goto <$> expectLineNumber
  | .gosubKw => Stmt.gosub <$> expectLineNumber
  | .returnKw => pure .goBack
  | .forKw => do
    let name ← expectName
    loopRest isFunction depth name
  | .nextKw => Stmt.next <$> expectName
  | .dimKw => Stmt.dim <$> declarations isFunction depth depth
  | .randomizeKw => randomizeRest isFunction depth
  | .endKw => pure (.finish .endWord)
  | .stopKw => pure (.finish .stopWord)
  | .remKw => remarkAfter line pos Keyword.remKw.spelling.length

def statement : Nat → Parser Stmt
  | 0 => fail .tooDeep
  | n + 1 => do
    match (← peek) with
    | .endOfLine => pure (.remark "")
    | .symbol .colon => pure (.remark "")
    | .name spelling =>
      let pos ← peekPos
      skip
      let word := Text.upper spelling
      match Keyword.ofUpper? word with
      | some k => keywordStatement isFunction line depth (statement n) pos k
      | none => nameStatement isFunction depth word
    | t => fail (.unknownStatement t)

def statements : Nat → Parser (List Stmt)
  | 0 => fail .tooDeep
  | n + 1 => do
    if (← accept .colon) then
      let s ← statement isFunction line depth depth
      let rest ← statements n
      pure (s :: rest)
    else pure []

def body : Parser Body := do
  let first ← statement isFunction line depth depth
  let rest ← statements isFunction line depth depth
  match (← peek) with
  | .endOfLine => pure ⟨first, rest⟩
  | _ =>
    let pos ← peekPos
    fail (.leftover (String.ofList (line.drop pos)))

end Statements

def depthFor (tokens : Nat) : Nat := 8 * (tokens + 2)

end Parser

def parseLine (isFunction : String → Bool) (text : String) : Except SyntaxFault Body :=
  let stream := TokenStream.ofLine text
  let depth := Parser.depthFor stream.tokens.length
  ((Parser.body isFunction text.toList depth).run stream).map Prod.fst

end LineBasic
