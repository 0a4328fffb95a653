import LineBasic.Syntax.Parser

/-!
The grammar of a line, as relations between the lexemes of a phrase and the tree it stands for.
Nothing here says how a phrase is found: sums and products are left-recursive, a phrase is any
part of the line, and there is no look-ahead. A remark is the one place where the text of the line
itself matters, because what follows REM is not read as tokens.
-/
namespace LineBasic.Grammar

section Expressions

variable (isFunction : String → Bool)

mutual

inductive Expression : List Lexeme → Expr → Prop where
  | sum {w e} (sum : Sum w e) : Expression w e
  | compare {u v l r} (op : Relation) (left : Sum u l) (right : Sum v r) :
      Expression (u ++ .symbol op.symbol :: v) (.compare op l r)

inductive Sum : List Lexeme → Expr → Prop where
  | product {w e} (product : Product w e) : Sum w e
  | add {u v l r op} (kind : op = ArithOp.add ∨ op = ArithOp.subtract) (left : Sum u l)
      (right : Product v r) : Sum (u ++ .symbol op.symbol :: v) (.arith op l r)

inductive Product : List Lexeme → Expr → Prop where
  | signed {w e} (signed : Signed w e) : Product w e
  | multiply {u v l r op} (kind : op = ArithOp.multiply ∨ op = ArithOp.divide)
      (left : Product u l) (right : Signed v r) :
      Product (u ++ .symbol op.symbol :: v) (.arith op l r)

inductive Signed : List Lexeme → Expr → Prop where
  | operand {w e} (operand : Operand w e) : Signed w e
  | plus {w e} (inner : Signed w e) : Signed (.symbol .plus :: w) e
  | minus {w e} (inner : Signed w e) : Signed (.symbol .minus :: w) (.negate e)

inductive Operand : List Lexeme → Expr → Prop where
  | number {spelling x} (value : Number.read? spelling = some x) :
      Operand [.number spelling] (.number x)
  | text (contents : String) : Operand [.text contents] (.text contents)
  | scalar (spelling : String) : Operand [.name spelling] (.scalar (Text.upper spelling))
  | call {spelling w args} (known : isFunction (Text.upper spelling) = true)
      (list : ArgumentList w args) :
      Operand (.name spelling :: .symbol .open :: (w ++ [.symbol .close]))
        (.call (Text.upper spelling) args)
  | element {spelling w index} (unknown : isFunction (Text.upper spelling) = false)
      (list : Expressions w index) :
      Operand (.name spelling :: .symbol .open :: (w ++ [.symbol .close]))
        (.element (Text.upper spelling) index)
  | group {w e} (inner : Expression w e) :
      Operand (.symbol .open :: (w ++ [.symbol .close])) e

inductive ArgumentList : List Lexeme → List Expr → Prop where
  | none : ArgumentList [] []
  | some {w es} (list : Expressions w es) : ArgumentList w es

inductive Expressions : List Lexeme → List Expr → Prop where
  | one {w e} (only : Expression w e) : Expressions w [e]
  | more {u v e es} (first : Expression u e) (rest : Expressions v es) :
      Expressions (u ++ .symbol .comma :: v) (e :: es)

end

end Expressions

/- A keyword counts as one in any case, and only where a statement starts: `PRINT REM` shows a
variable. Each keyword has its own spelling, so at most one of them is spelled by a name. -/
def Spells (k : Keyword) (spelling : String) : Prop := Text.upper spelling = k.spelling

def NoKeyword (spelling : String) : Prop := ∀ k, ¬ Spells k spelling

def SpellsWord (word : Connective) (spelling : String) : Prop :=
  Text.upper spelling = word.spelling

inductive JumpTarget : List Lexeme → Int → Prop where
  | plain {spelling n} (value : Text.readInteger? spelling = some n) :
      JumpTarget [.number spelling] n
  | negated {spelling n} (value : Text.readInteger? spelling = some n) :
      JumpTarget [.symbol .minus, .number spelling] (Text.negateWrapping n)

section Statements

variable (isFunction : String → Bool)

inductive Items : List Lexeme → List (Separator × Expr) → Prop where
  | done : Items [] []
  | more {u v e rest} (separator : Separator) (item : Expression isFunction u e)
      (others : Items v rest) :
      Items (.symbol separator.symbol :: (u ++ v)) ((separator, e) :: rest)

inductive Declarations : List Lexeme → List Declaration → Prop where
  | one {spelling w dims} (list : Expressions isFunction w dims) :
      Declarations (.name spelling :: .symbol .open :: (w ++ [.symbol .close]))
        [⟨Text.upper spelling, dims⟩]
  | more {spelling w dims v others} (list : Expressions isFunction w dims)
      (rest : Declarations v others) :
      Declarations
        (.name spelling :: .symbol .open :: (w ++ .symbol .close :: .symbol .comma :: v))
        (⟨Text.upper spelling, dims⟩ :: others)

inductive Assignment (name : String) (free : Prop) : List Lexeme → Stmt → Prop where
  | scalar {w value} (right : Expression isFunction w value) :
      Assignment name free (.symbol .equal :: w) (.assign (.scalar name) value)
  | element {w v index value} (allowed : free) (list : Expressions isFunction w index)
      (right : Expression isFunction v value) :
      Assignment name free (.symbol .open :: (w ++ .symbol .close :: .symbol .equal :: v))
        (.assign (.element name index) value)

/- The forms whose lexemes are all their own: neither empty nor a remark nor an IF with a statement
inside it. -/
inductive Simple : List Lexeme → Stmt → Prop where
  | printLine {k} (word : Spells .printKw k) : Simple [.name k] (.print none)
  | print {k u v first rest} (word : Spells .printKw k) (item : Expression isFunction u first)
      (others : Items isFunction v rest) :
      Simple (.name k :: (u ++ v)) (.print (some ⟨first, rest⟩))
  | letAssign {k spelling w s} (word : Spells .letKw k)
      (rest : Assignment isFunction (Text.upper spelling) True w s) :
      Simple (.name k :: .name spelling :: w) s
  | assign {spelling w s} (plain : NoKeyword spelling)
      (rest : Assignment isFunction (Text.upper spelling)
        (isFunction (Text.upper spelling) = false) w s) :
      Simple (.name spelling :: w) s
  | call {spelling w args} (plain : NoKeyword spelling)
      (known : isFunction (Text.upper spelling) = true) (list : ArgumentList isFunction w args) :
      Simple (.name spelling :: .symbol .open :: (w ++ [.symbol .close]))
        (.call (Text.upper spelling) args)
  | input {k spelling} (word : Spells .inputKw k) :
      Simple [.name k, .name spelling] (.input (Text.upper spelling))
  | jumpIf {k t u v condition line} (word : Spells .ifKw k)
      (test : Expression isFunction u condition) (thenWord : SpellsWord .thenWord t)
      (target : JumpTarget v line) :
      Simple (.name k :: (u ++ .name t :: v)) (.jumpIf condition line)
  | goto {k w line} (word : Spells .gotoKw k) (target : JumpTarget w line) :
      Simple (.name k :: w) (.goto line)
  | gosub {k w line} (word : Spells .gosubKw k) (target : JumpTarget w line) :
      Simple (.name k :: w) (.gosub line)
  | goBack {k} (word : Spells .returnKw k) : Simple [.name k] .goBack
  | loop {k spelling t u v start limit} (word : Spells .forKw k)
      (first : Expression isFunction u start) (toWord : SpellsWord .toWord t)
      (last : Expression isFunction v limit) :
      Simple (.name k :: .name spelling :: .symbol .equal :: (u ++ .name t :: v))
        (.loop (Text.upper spelling) start limit none)
  | loopStep {k spelling t p u v w start limit step} (word : Spells .forKw k)
      (first : Expression isFunction u start) (toWord : SpellsWord .toWord t)
      (last : Expression isFunction v limit) (stepWord : SpellsWord .stepWord p)
      (stride : Expression isFunction w step) :
      Simple (.name k :: .name spelling :: .symbol .equal :: (u ++ .name t :: (v ++ .name p :: w)))
        (.loop (Text.upper spelling) start limit (some step))
  | next {k spelling} (word : Spells .nextKw k) :
      Simple [.name k, .name spelling] (.next (Text.upper spelling))
  | dim {k w arrays} (word : Spells .dimKw k) (list : Declarations isFunction w arrays) :
      Simple (.name k :: w) (.dim arrays)
  | reseed {k} (word : Spells .randomizeKw k) : Simple [.name k] (.randomize none)
  | randomize {k w seed} (word : Spells .randomizeKw k) (value : Expression isFunction w seed) :
      Simple (.name k :: w) (.randomize (some seed))
  | finishEnd {k} (word : Spells .endKw k) : Simple [.name k] (.finish .endWord)
  | finishStop {k} (word : Spells .stopKw k) : Simple [.name k] (.finish .stopWord)

/- What comes after the lexemes of a statement: a colon, the end of the line, or, when the last of
them is REM, text that is not read as tokens. -/
inductive Close where
  | colon
  | endOfLine
  | remark (raw : List Char)

def Close.Plain : Close → Prop
  | colon => True
  | endOfLine => True
  | remark _ => False

/- The statement after THEN may be empty only before a colon: behind it there would be nothing to
show that a statement was meant. -/
inductive Statement : Close → List Lexeme → Stmt → Prop where
  | simple {c w s} (plain : c.Plain) (form : Simple isFunction w s) :
      Statement c w s
  | empty {c} (plain : c.Plain) : Statement c [] (.remark "")
  | remark {k} (raw : List Char) (word : Spells .remKw k) :
      Statement (.remark raw) [.name k] (.remark (String.ofList (Text.trimChars raw)))
  | doIf {c k t u v condition inner} (word : Spells .ifKw k)
      (test : Expression isFunction u condition) (thenWord : SpellsWord .thenWord t)
      (body : Statement c v inner) (shown : v = [] → c = .colon) :
      Statement c (.name k :: (u ++ .name t :: v)) (.doIf condition inner)

inductive Statements (c : Close) : List Lexeme → List Stmt → Prop where
  | last {w s} (final : c ≠ .colon) (only : Statement isFunction c w s) : Statements c w [s]
  | more {u v s rest} (first : Statement isFunction .colon u s) (others : Statements c v rest) :
      Statements c (u ++ .symbol .colon :: v) (s :: rest)

/- Either all tokens of the line can be read and make up its statements, or the line is read up to a
REM and the characters after it are the remark. Whether tokens could be read behind the REM does not
matter. -/
inductive LineOf (text : String) (body : Body) : Prop where
  | whole {tokens length} (read : TokenStream.ofLine text = ⟨tokens, .ok length⟩)
      (statements : Statements isFunction .endOfLine (tokens.map Token.lexeme) body.toList)
  | remarked {before k pos after ending}
      (read : TokenStream.ofLine text = ⟨before ++ ⟨.name k, pos⟩ :: after, ending⟩)
      (statements : Statements isFunction (.remark (text.toList.drop (pos + k.length)))
        (before.map Token.lexeme ++ [.name k]) body.toList)

end Statements

end LineBasic.Grammar
