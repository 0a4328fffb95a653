import LineBasic.Proofs.Syntax.Lines
import LineBasic.Proofs.Syntax.SignTokens

/-!
Folded signs do not matter. With every sign as a token of its own a line has the same statements,
in which the negation of a number stands where a number with a minus was.
-/
namespace LineBasic

mutual

def Expr.apart : Expr → Expr
  | .number x => if Number.isNegative x then .negate (.number (-x)) else .number x
  | .text s => .text s
  | .scalar name => .scalar name
  | .element name index => .element name (Expr.allApart index)
  | .call name args => .call name (Expr.allApart args)
  | .negate e => .negate e.apart
  | .arith op l r => .arith op l.apart r.apart
  | .compare op l r => .compare op l.apart r.apart

def Expr.allApart : List Expr → List Expr
  | [] => []
  | e :: es => e.apart :: Expr.allApart es

end

def Target.apart : Target → Target
  | .scalar name => .scalar name
  | .element name index => .element name (Expr.allApart index)

def PrintList.apart (items : PrintList) : PrintList :=
  ⟨items.first.apart, items.rest.map fun item => (item.1, item.2.apart)⟩

def Declaration.apart (d : Declaration) : Declaration := ⟨d.name, Expr.allApart d.dims⟩

def Stmt.apart : Stmt → Stmt
  | .print items => .print (items.map PrintList.apart)
  | .assign target value => .assign target.apart value.apart
  | .jumpIf condition line => .jumpIf condition.apart line
  | .doIf condition inner => .doIf condition.apart inner.apart
  | .loop name start limit step => .loop name start.apart limit.apart (step.map Expr.apart)
  | .dim arrays => .dim (arrays.map Declaration.apart)
  | .randomize seed => .randomize (seed.map Expr.apart)
  | .call name args => .call name (Expr.allApart args)
  | s => s

def Body.apart (b : Body) : Body := ⟨b.first.apart, b.rest.map Stmt.apart⟩

section Twice

mutual

@[simp] theorem Expr.apartTwice : (e : Expr) → e.apart.apart = e.apart
  | .number x => by
      cases negative : Number.isNegative x with
      | true => simp [apart, negative, Number.negatedSign negative]
      | false => simp [apart, negative]
  | .text _ => rfl
  | .scalar _ => rfl
  | .element _ index => by simp only [apart, Expr.allApartTwice index]
  | .call _ args => by simp only [apart, Expr.allApartTwice args]
  | .negate e => by simp only [apart, Expr.apartTwice e]
  | .arith _ l r => by simp only [apart, Expr.apartTwice l, Expr.apartTwice r]
  | .compare _ l r => by simp only [apart, Expr.apartTwice l, Expr.apartTwice r]

@[simp] theorem Expr.allApartTwice : (es : List Expr) →
    Expr.allApart (Expr.allApart es) = Expr.allApart es
  | [] => rfl
  | e :: es => by simp only [allApart, Expr.apartTwice e, Expr.allApartTwice es]

end

@[simp] theorem Stmt.apartTwice (s : Stmt) : s.apart.apart = s.apart := by
  induction s with
  | print items =>
      cases items <;> simp [apart, PrintList.apart, Function.comp_def]
  | assign target value =>
      cases target <;> simp [apart, Target.apart]
  | jumpIf condition line => simp [apart]
  | doIf condition inner ih => simp [apart, ih]
  | loop name start limit step => cases step <;> simp [apart]
  | dim arrays => simp [apart, Declaration.apart, Function.comp_def]
  | randomize seed => cases seed <;> simp [apart]
  | call name args => simp [apart]
  | _ => rfl

@[simp] theorem Body.apartTwice (b : Body) : b.apart.apart = b.apart := by
  simp [apart, Function.comp_def]

end Twice

theorem Expr.apartPlain {x : Float} (magnitude : Number.IsMagnitude x) :
    (Expr.number x).apart = .number x := by
  rw [apart, Number.plainMagnitude magnitude]
  rfl

theorem Expr.apartMinus {x : Float} (magnitude : Number.IsMagnitude x) :
    (Expr.number (-x)).apart = .negate (.number x) := by
  rw [apart, Number.minusMagnitude magnitude, if_pos rfl, Number.negNegMagnitude magnitude]

namespace Lexed

variable {u v w : List Lexeme}

theorem within (lexed : Lexed w) (inside : u <:+: w) : Lexed u :=
  ⟨fun spelling member => lexed.numerals spelling (inside.subset member),
    lexed.chained.infix inside⟩

theorem left (lexed : Lexed (u ++ v)) : Lexed u := lexed.within (List.prefix_append u v).isInfix

theorem right (lexed : Lexed (u ++ v)) : Lexed v := lexed.within (List.suffix_append u v).isInfix

theorem tail {t : Lexeme} (lexed : Lexed (t :: v)) : Lexed v :=
  lexed.within (List.suffix_cons t v).isInfix

end Lexed

namespace Grammar

open Lexeme

variable {isFunction : String → Bool}

theorem numberApart {spelling : String} {x : Float} (numeral : Numeral spelling)
    (value : Number.read? spelling = some x) :
    Signed isFunction (apart (.number spelling)) (Expr.number x).apart := by
  cases numeral with
  | plain unsigned =>
      rw [apartPlain unsigned, Expr.apartPlain (Number.readPlain unsigned value)]
      exact .operand (.number value)
  | minus unsigned =>
      rw [Number.readMinus unsigned] at value
      obtain ⟨y, read, rfl⟩ := Option.map_eq_some_iff.mp value
      rw [apartMinus, Expr.apartMinus (Number.readPlain unsigned read)]
      exact .minus (.operand (.number read))
  | plus unsigned =>
      rw [Number.readPlus unsigned] at value
      rw [apartPlus, Expr.apartPlain (Number.readPlain unsigned value)]
      exact .plus (.operand (.number value))

@[simp] theorem apartSymbol (x : Symbol) : apart (.symbol x) = [.symbol x] := rfl
@[simp] theorem apartName (k : String) : apart (.name k) = [.name k] := rfl
@[simp] theorem apartText (contents : String) : apart (.text contents) = [.text contents] := rfl

mutual

theorem expressionApart {w e} : Expression isFunction w e → Lexed w →
    Expression isFunction (w.flatMap apart) e.apart
  | .sum form, lexed => .sum (sumApart form lexed)
  | .compare op left right, lexed => by
      have first := sumApart left lexed.left
      have second := sumApart right lexed.right.tail
      simpa [Expr.apart] using Expression.compare op first second

theorem sumApart {w e} : Sum isFunction w e → Lexed w →
    Sum isFunction (w.flatMap apart) e.apart
  | .product form, lexed => .product (productApart form lexed)
  | .add kind left right, lexed => by
      have first := sumApart left lexed.left
      have second := productApart right lexed.right.tail
      simpa [Expr.apart] using Sum.add kind first second

theorem productApart {w e} : Product isFunction w e → Lexed w →
    Product isFunction (w.flatMap apart) e.apart
  | .signed form, lexed => .signed (signedApart form lexed)
  | .multiply kind left right, lexed => by
      have first := productApart left lexed.left
      have second := signedApart right lexed.right.tail
      simpa [Expr.apart] using Product.multiply kind first second

theorem signedApart {w e} : Signed isFunction w e → Lexed w →
    Signed isFunction (w.flatMap apart) e.apart
  | .operand form, lexed => operandApart form lexed
  | .plus inner, lexed => by
      simpa using Signed.plus (signedApart inner lexed.tail)
  | .minus inner, lexed => by
      simpa [Expr.apart] using Signed.minus (signedApart inner lexed.tail)

theorem operandApart {w e} : Operand isFunction w e → Lexed w →
    Signed isFunction (w.flatMap apart) e.apart
  | .number value, lexed => by
      simpa using numberApart (lexed.numerals _ (by simp)) value
  | .text contents, _ => .operand (.text contents)
  | .scalar spelling, _ => .operand (.scalar spelling)
  | .call known list, lexed => by
      have inner := argumentsApart list lexed.tail.tail.left
      simpa [Expr.apart] using Signed.operand (Operand.call known inner)
  | .element unknown list, lexed => by
      have inner := expressionsApart list lexed.tail.tail.left
      simpa [Expr.apart] using Signed.operand (Operand.element unknown inner)
  | .group inner, lexed => by
      have inside := expressionApart inner lexed.tail.left
      simpa using Signed.operand (Operand.group inside)

theorem argumentsApart {w es} : ArgumentList isFunction w es → Lexed w →
    ArgumentList isFunction (w.flatMap apart) (Expr.allApart es)
  | .none, _ => .none
  | .some list, lexed => .some (expressionsApart list lexed)

theorem expressionsApart {w es} : Expressions isFunction w es → Lexed w →
    Expressions isFunction (w.flatMap apart) (Expr.allApart es)
  | .one only, lexed => .one (expressionApart only lexed)
  | .more first rest, lexed => by
      have head := expressionApart first lexed.left
      have others := expressionsApart rest lexed.right.tail
      simpa [Expr.allApart] using Expressions.more head others

end

section Forms

variable {w : List Lexeme}

theorem itemsApart {list} (items : Items isFunction w list) (lexed : Lexed w) :
    Items isFunction (w.flatMap apart) (list.map fun item => (item.1, item.2.apart)) := by
  induction items with
  | done => exact .done
  | more separator item others ih =>
      have first := expressionApart item lexed.tail.left
      have rest := ih lexed.tail.right
      simpa using Items.more separator first rest

theorem declarationsApart {list} (declarations : Declarations isFunction w list)
    (lexed : Lexed w) :
    Declarations isFunction (w.flatMap apart) (list.map Declaration.apart) := by
  induction declarations with
  | one list =>
      have dims := expressionsApart list lexed.tail.tail.left
      simpa [Declaration.apart] using Declarations.one dims
  | more list rest ih =>
      have dims := expressionsApart list lexed.tail.tail.left
      have others := ih lexed.tail.tail.right.tail.tail
      simpa [Declaration.apart] using Declarations.more dims others

theorem assignmentApart {name free st} (form : Assignment isFunction name free w st)
    (lexed : Lexed w) : Assignment isFunction name free (w.flatMap apart) st.apart := by
  cases form with
  | scalar right =>
      have value := expressionApart right lexed.tail
      simpa [Stmt.apart, Target.apart] using Assignment.scalar value
  | element allowed list right =>
      have index := expressionsApart list lexed.tail.left
      have value := expressionApart right lexed.tail.right.tail.tail
      simpa [Stmt.apart, Target.apart] using Assignment.element allowed index value

theorem targetWhole {k : String} {line : Int} (word : JumpWord k) (target : JumpTarget w line)
    (lexed : Lexed (.name k :: w)) (plain : PlainTargets (.name k :: w)) :
    w.flatMap apart = w := by
  cases target with
  | @plain spelling _ value =>
      have whole : apart (.number spelling) = [.number spelling] :=
        (List.isChain_cons_cons.mp lexed.chained).1 rfl
      simp [whole]
  | @negated spelling _ value =>
      simp [plain k spelling word (List.infix_refl _)]

theorem PlainTargets.within {u : List Lexeme} (plain : PlainTargets w) (inside : u <:+: w) :
    PlainTargets u :=
  fun k spelling word found => plain k spelling word (found.trans inside)

theorem simpleApart {st} (form : Simple isFunction w st) (lexed : Lexed w)
    (plain : PlainTargets w) : Simple isFunction (w.flatMap apart) st.apart := by
  cases form with
  | printLine word => exact .printLine word
  | print word item others =>
      have first := expressionApart item lexed.tail.left
      have rest := itemsApart others lexed.tail.right
      simpa [Stmt.apart, PrintList.apart] using Simple.print word first rest
  | letAssign word rest =>
      simpa using Simple.letAssign word (assignmentApart rest lexed.tail.tail)
  | assign noKeyword rest =>
      simpa using Simple.assign noKeyword (assignmentApart rest lexed.tail)
  | call noKeyword known list =>
      have args := argumentsApart list lexed.tail.tail.left
      simpa [Stmt.apart] using Simple.call noKeyword known args
  | input word => exact .input word
  | @jumpIf k t u v condition line word test thenWord target =>
      have first := expressionApart test lexed.tail.left
      have inside : .name t :: v <:+: .name k :: (u ++ .name t :: v) :=
        ⟨.name k :: u, [], by simp⟩
      have same := targetWhole (.inr (.inr thenWord)) target (lexed.within inside)
        (plain.within inside)
      simpa [Stmt.apart, same] using Simple.jumpIf word first thenWord target
  | goto word target =>
      have same := targetWhole (.inl word) target lexed plain
      simpa [Stmt.apart, same] using Simple.goto word target
  | gosub word target =>
      have same := targetWhole (.inr (.inl word)) target lexed plain
      simpa [Stmt.apart, same] using Simple.gosub word target
  | goBack word => exact .goBack word
  | loop word first toWord last =>
      have start := expressionApart first lexed.tail.tail.tail.left
      have limit := expressionApart last lexed.tail.tail.tail.right.tail
      simpa [Stmt.apart] using Simple.loop word start toWord limit
  | loopStep word first toWord last stepWord stride =>
      have start := expressionApart first lexed.tail.tail.tail.left
      have limit := expressionApart last lexed.tail.tail.tail.right.tail.left
      have step := expressionApart stride lexed.tail.tail.tail.right.tail.right.tail
      simpa [Stmt.apart] using Simple.loopStep word start toWord limit stepWord step
  | next word => exact .next word
  | dim word list =>
      simpa [Stmt.apart] using Simple.dim word (declarationsApart list lexed.tail)
  | reseed word => exact .reseed word
  | randomize word value =>
      simpa [Stmt.apart] using Simple.randomize word (expressionApart value lexed.tail)
  | finishEnd word => exact .finishEnd word
  | finishStop word => exact .finishStop word

theorem apartForms (t : Lexeme) : t.apart = [t] ∨ ∃ spelling x d, t = .number spelling ∧
    (x = .minus ∨ x = .plus) ∧ t.apart = [.symbol x, .number d] := by
  unfold apart
  split
  · split
    · exact .inr ⟨_, _, _, rfl, .inl rfl, rfl⟩
    · exact .inr ⟨_, _, _, rfl, .inr rfl, rfl⟩
    · exact .inl rfl
  · exact .inl rfl

theorem apartNothing (empty : w.flatMap apart = []) : w = [] := by
  cases w with
  | nil => rfl
  | cons t w =>
      rw [List.flatMap_cons] at empty
      rcases apartForms t with whole | ⟨_, x, d, _, _, parts⟩
      · rw [whole] at empty
        cases empty
      · rw [parts] at empty
        cases empty

theorem statementApart {c st} (form : Statement isFunction c w st) (lexed : Lexed w)
    (plain : PlainTargets w) : Statement isFunction c (w.flatMap apart) st.apart := by
  induction form with
  | simple closed form => exact .simple closed (simpleApart form lexed plain)
  | empty closed => exact .empty closed
  | remark raw word => exact .remark raw word
  | @doIf c k t u v condition inner word test thenWord body shown ih =>
      have inside : v <:+: .name k :: (u ++ .name t :: v) :=
        ⟨.name k :: (u ++ [.name t]), [], by simp⟩
      have first := expressionApart test lexed.tail.left
      have rest := ih (lexed.within inside) (plain.within inside)
      have visible : v.flatMap apart = [] → c = .colon := fun empty => shown (apartNothing empty)
      simpa [Stmt.apart] using Statement.doIf word first thenWord rest visible

theorem statementsApart {c list} (forms : Statements isFunction c w list) (lexed : Lexed w)
    (plain : PlainTargets w) :
    Statements isFunction c (w.flatMap apart) (list.map Stmt.apart) := by
  induction forms with
  | last final only => exact .last final (statementApart only lexed plain)
  | @more u v s rest first others ih =>
      have front : u <:+: u ++ .symbol .colon :: v := ⟨[], .symbol .colon :: v, by simp⟩
      have behind : v <:+: u ++ .symbol .colon :: v := ⟨u ++ [.symbol .colon], [], by simp⟩
      have head := statementApart first (lexed.within front) (plain.within front)
      have tail := ih (lexed.within behind) (plain.within behind)
      simpa using Statements.more head tail

end Forms

end Grammar

end LineBasic
