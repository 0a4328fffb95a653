import LineBasic.Syntax.Parser

/-!
The limit on the depth of the recursion. A higher limit changes nothing but the answer that the
limit was too low, so a parse that ends below the limit is the parse without any.
-/
namespace LineBasic.Parser

def Extends {α : Type} (p q : Parser α) : Prop :=
  ∀ s, p s ≠ .error (.grammar .tooDeep) → q s = p s

section Rules

variable {α β : Type}

theorem extendsRefl (p : Parser α) : Extends p p := fun _ _ => rfl

theorem Extends.trans {p q r : Parser α} (first : Extends p q) (second : Extends q r) :
    Extends p r := by
  intro s answers
  have same := first s answers
  rw [← same] at answers
  exact (second s answers).trans same

theorem extendsDeep (q : Parser α) : Extends (fail .tooDeep) q :=
  fun _ answers => absurd rfl answers

theorem extendsBind {p q : Parser α} {f g : α → Parser β} (first : Extends p q)
    (rest : ∀ a, Extends (f a) (g a)) : Extends (p >>= f) (q >>= g) := by
  intro s answers
  have left : (p >>= f) s = Except.bind (p s) (fun r => f r.1 r.2) := rfl
  have right : (q >>= g) s = Except.bind (q s) (fun r => g r.1 r.2) := rfl
  rw [left] at answers ⊢
  rw [right]
  cases ran : p s with
  | error e =>
      have answered : p s ≠ .error (.grammar .tooDeep) := by
        rintro cut
        rw [cut] at answers
        exact answers rfl
      rw [first s answered, ran]
      rfl
  | ok r =>
      have answered : p s ≠ .error (.grammar .tooDeep) := by
        rw [ran]
        nofun
      rw [ran] at answers
      rw [first s answered, ran]
      exact rest r.1 r.2 answers

theorem sameBind {p : Parser α} {f g : α → Parser β} (rest : ∀ a, Extends (f a) (g a)) :
    Extends (p >>= f) (p >>= g) := extendsBind (extendsRefl p) rest

theorem extendsMap {p q : Parser α} (f : α → β) (first : Extends p q) :
    Extends (f <$> p) (f <$> q) := by
  rw [← bind_pure_comp, ← bind_pure_comp]
  exact extendsBind first fun a => extendsRefl (pure (f a))

end Rules

section Expressions

structure Deeper (isFunction : String → Bool) (n : Nat) : Prop where
  expression : Extends (expression isFunction n) (expression isFunction (n + 1))
  sum : Extends (sum isFunction n) (sum isFunction (n + 1))
  sumRest (left) : Extends (sumRest isFunction n left) (sumRest isFunction (n + 1) left)
  product : Extends (product isFunction n) (product isFunction (n + 1))
  productRest (left) : Extends (productRest isFunction n left) (productRest isFunction (n + 1) left)
  signed : Extends (signed isFunction n) (signed isFunction (n + 1))
  operand : Extends (operand isFunction n) (operand isFunction (n + 1))
  named (name) : Extends (named isFunction n name) (named isFunction (n + 1) name)
  arguments : Extends (arguments isFunction n) (arguments isFunction (n + 1))
  expressions : Extends (expressions isFunction n) (expressions isFunction (n + 1))

theorem deeperZero (isFunction : String → Bool) : Deeper isFunction 0 where
  expression := extendsDeep _
  sum := extendsDeep _
  sumRest _ := extendsDeep _
  product := extendsDeep _
  productRest _ := extendsDeep _
  signed := extendsDeep _
  operand := extendsDeep _
  named _ := extendsDeep _
  arguments := extendsDeep _
  expressions := extendsDeep _

theorem operatorsExtend {op? : Lexeme → Option ArithOp} {operand operand' : Parser Expr}
    {rest rest' : Expr → Parser Expr} {left : Expr} (first : Extends operand operand')
    (more : ∀ e, Extends (rest e) (rest' e)) : Extends (do
      match op? (← peek) with
      | none => pure left
      | some op =>
        skip
        let right ← operand
        rest (.arith op left right)) (do
      match op? (← peek) with
      | none => pure left
      | some op =>
        skip
        let right ← operand'
        rest' (.arith op left right)) := by
  refine sameBind fun t => ?_
  cases op? t with
  | none => exact extendsRefl _
  | some op => exact sameBind fun _ => extendsBind first fun right => more _

variable {isFunction : String → Bool} {n : Nat} (ih : Deeper isFunction n)
include ih

theorem expressionDeeper :
    Extends (expression isFunction (n + 1)) (expression isFunction (n + 1 + 1)) := by
  refine extendsBind ih.sum fun left => sameBind fun t => ?_
  cases relation? t with
  | none => exact extendsRefl _
  | some op => exact sameBind fun _ => extendsBind ih.sum fun right => extendsRefl _

theorem sumRestDeeper (left : Expr) :
    Extends (sumRest isFunction (n + 1) left) (sumRest isFunction (n + 1 + 1) left) :=
  operatorsExtend ih.product ih.sumRest

theorem productRestDeeper (left : Expr) :
    Extends (productRest isFunction (n + 1) left) (productRest isFunction (n + 1 + 1) left) :=
  operatorsExtend ih.signed ih.productRest

theorem signedDeeper : Extends (signed isFunction (n + 1)) (signed isFunction (n + 1 + 1)) := by
  refine sameBind fun t => ?_
  cases t with
  | symbol x =>
      cases x
      case plus => exact sameBind fun _ => ih.signed
      case minus => exact sameBind fun _ => extendsBind ih.signed fun e => extendsRefl _
      all_goals exact ih.operand
  | _ => exact ih.operand

theorem operandDeeper : Extends (operand isFunction (n + 1)) (operand isFunction (n + 1 + 1)) := by
  refine sameBind fun t => ?_
  cases t with
  | name k => exact ih.named _
  | symbol x =>
      cases x
      case «open» => exact extendsBind ih.expression fun e => extendsRefl _
      all_goals exact extendsRefl _
  | _ => exact extendsRefl _

theorem namedDeeper (name : String) :
    Extends (named isFunction (n + 1) name) (named isFunction (n + 1 + 1) name) := by
  refine sameBind fun t => ?_
  by_cases opened : t = .symbol .open
  · rw [if_pos opened, if_pos opened]
    refine sameBind fun _ => ?_
    cases isFunction name with
    | true => exact extendsBind ih.arguments fun args => extendsRefl _
    | false => exact extendsBind ih.expressions fun index => extendsRefl _
  · rw [if_neg opened, if_neg opened]
    exact extendsRefl _

theorem argumentsDeeper :
    Extends (arguments isFunction (n + 1)) (arguments isFunction (n + 1 + 1)) := by
  refine sameBind fun closed => ?_
  cases closed with
  | true => exact extendsRefl _
  | false => exact ih.expressions

theorem expressionsDeeper :
    Extends (expressions isFunction (n + 1)) (expressions isFunction (n + 1 + 1)) := by
  refine extendsBind ih.expression fun first => sameBind fun t => ?_
  cases t with
  | symbol x =>
      cases x
      case comma => exact extendsBind ih.expressions fun rest => extendsRefl _
      all_goals exact extendsRefl _
  | _ => exact extendsRefl _

end Expressions

theorem deeperAt (isFunction : String → Bool) (n : Nat) : Deeper isFunction n := by
  induction n with
  | zero => exact deeperZero isFunction
  | succ n ih =>
      exact {
        expression := expressionDeeper ih
        sum := extendsBind ih.product ih.sumRest
        sumRest := sumRestDeeper ih
        product := extendsBind ih.signed ih.productRest
        productRest := productRestDeeper ih
        signed := signedDeeper ih
        operand := operandDeeper ih
        named := namedDeeper ih
        arguments := argumentsDeeper ih
        expressions := expressionsDeeper ih }

section Statements

variable {isFunction : String → Bool} {line : List Char} {d : Nat}

theorem expressionExtends : Extends (expression isFunction d) (expression isFunction (d + 1)) :=
  (deeperAt isFunction d).expression

theorem printRestExtends (n : Nat) :
    Extends (printRest isFunction d n) (printRest isFunction (d + 1) (n + 1)) := by
  induction n with
  | zero => exact extendsDeep _
  | succ n ih =>
      refine sameBind fun t => ?_
      cases separator? t with
      | none => exact extendsRefl _
      | some separator =>
          exact sameBind fun _ => extendsBind expressionExtends fun e =>
            extendsBind ih fun rest => extendsRefl _

theorem printItemsExtends :
    Extends (printItems isFunction d) (printItems isFunction (d + 1)) := by
  refine sameBind fun t => ?_
  cases isStatementEnd t with
  | true => exact extendsRefl _
  | false =>
      exact extendsBind expressionExtends fun first =>
        extendsBind (printRestExtends d) fun rest => extendsRefl _

theorem assignmentToExtends (name : String) :
    Extends (assignmentTo isFunction d name) (assignmentTo isFunction (d + 1) name) := by
  refine sameBind fun indexed => ?_
  cases indexed with
  | true =>
      exact extendsBind (deeperAt isFunction d).expressions fun index => sameBind fun _ =>
        extendsBind expressionExtends fun value => extendsRefl _
  | false => exact sameBind fun _ => extendsBind expressionExtends fun value => extendsRefl _

theorem loopRestExtends (name : String) :
    Extends (loopRest isFunction d name) (loopRest isFunction (d + 1) name) := by
  refine sameBind fun _ => extendsBind expressionExtends fun start => sameBind fun _ =>
    extendsBind expressionExtends fun limit => sameBind fun stepped => ?_
  cases stepped with
  | true => exact extendsBind expressionExtends fun step => extendsRefl _
  | false => exact extendsRefl _

theorem declarationsExtends (n : Nat) :
    Extends (declarations isFunction d n) (declarations isFunction (d + 1) (n + 1)) := by
  induction n with
  | zero => exact extendsDeep _
  | succ n ih =>
      refine sameBind fun name => sameBind fun _ =>
        extendsBind (deeperAt isFunction d).expressions fun dims => sameBind fun more => ?_
      cases more with
      | true => exact extendsBind ih fun rest => extendsRefl _
      | false => exact extendsRefl _

theorem randomizeRestExtends :
    Extends (randomizeRest isFunction d) (randomizeRest isFunction (d + 1)) := by
  refine sameBind fun t => ?_
  cases isStatementEnd t with
  | true => exact extendsRefl _
  | false => exact extendsBind expressionExtends fun seed => extendsRefl _

theorem nameStatementExtends (name : String) :
    Extends (nameStatement isFunction d name) (nameStatement isFunction (d + 1) name) := by
  refine sameBind fun t => ?_
  by_cases called : t = .symbol .open ∧ isFunction name = true
  · rw [if_pos called, if_pos called]
    exact sameBind fun _ => extendsBind (deeperAt isFunction d).arguments fun args =>
      extendsRefl _
  · rw [if_neg called, if_neg called]
    exact assignmentToExtends name

theorem branchExtends {inner inner' : Parser Stmt} (nested : Extends inner inner') :
    Extends (branch isFunction d inner) (branch isFunction (d + 1) inner') := by
  refine extendsBind expressionExtends fun condition => sameBind fun _ => sameBind fun t => ?_
  have body : Extends (do pure (Stmt.doIf condition (← inner)))
      (do pure (Stmt.doIf condition (← inner'))) := extendsBind nested fun s => extendsRefl _
  cases t with
  | symbol x =>
      cases x
      case minus => exact extendsRefl _
      all_goals exact body
  | endOfLine => exact extendsRefl _
  | number k => exact extendsRefl _
  | _ => exact body

theorem keywordExtends {inner inner' : Parser Stmt} (nested : Extends inner inner') (pos : Nat)
    (k : Keyword) : Extends (keywordStatement isFunction line d inner pos k)
      (keywordStatement isFunction line (d + 1) inner' pos k) := by
  cases k with
  | printKw => exact extendsMap _ printItemsExtends
  | letKw => exact sameBind assignmentToExtends
  | ifKw => exact branchExtends nested
  | forKw => exact sameBind loopRestExtends
  | dimKw => exact extendsMap _ (declarationsExtends d)
  | randomizeKw => exact randomizeRestExtends
  | _ => exact extendsRefl _

theorem statementExtends (n : Nat) :
    Extends (statement isFunction line d n) (statement isFunction line (d + 1) (n + 1)) := by
  induction n with
  | zero => exact extendsDeep _
  | succ n ih =>
      refine sameBind fun t => ?_
      cases t with
      | name k =>
          refine sameBind fun pos => sameBind fun _ => ?_
          dsimp only
          cases Keyword.ofUpper? (Text.upper k) with
          | none => exact nameStatementExtends _
          | some kw => exact keywordExtends ih pos kw
      | symbol x => cases x <;> exact extendsRefl _
      | _ => exact extendsRefl _

theorem statementsExtends (n : Nat) :
    Extends (statements isFunction line d n) (statements isFunction line (d + 1) (n + 1)) := by
  induction n with
  | zero => exact extendsDeep _
  | succ n ih =>
      refine sameBind fun more => ?_
      cases more with
      | true =>
          exact extendsBind (statementExtends d) fun s => extendsBind ih fun rest => extendsRefl _
      | false => exact extendsRefl _

theorem bodyExtends {most : Nat} (more : d ≤ most) :
    Extends (body isFunction line d) (body isFunction line most) := by
  have step (d : Nat) : Extends (body isFunction line d) (body isFunction line (d + 1)) :=
    extendsBind (statementExtends d) fun first => extendsBind (statementsExtends d) fun rest =>
      extendsRefl _
  induction more with
  | refl => exact extendsRefl _
  | step _ ih => exact ih.trans (step _)

end Statements

end LineBasic.Parser
