import LineBasic.Proofs.Syntax.Colons
import LineBasic.Proofs.Syntax.LetterCase

/-!
Parsing does not see the case of names. The parser takes the same way on streams that are alike, so
it stops in the same manner; where it succeeds, the grammar gives both lines the same statements.
-/
namespace LineBasic

namespace Parser

open TokenStream

/- How two parses end: both with a result, both at the same fault in the characters, or both at a
fault of the grammar. -/
inductive EndsAlike {α : Type} (R : α → α → Prop) :
    Except SyntaxFault (α × TokenStream) → Except SyntaxFault (α × TokenStream) → Prop where
  | ok {a b s s'} (results : R a b) (rest : Alike s s') : EndsAlike R (.ok (a, s)) (.ok (b, s'))
  | lexical (f : LexFault) : EndsAlike R (.error (.lexical f)) (.error (.lexical f))
  | grammar (f g : ParseFault) : EndsAlike R (.error (.grammar f)) (.error (.grammar g))

def Twins {α : Type} (R : α → α → Prop) (p q : Parser α) : Prop :=
  ∀ ⦃s s'⦄, Alike s s' → EndsAlike R (p s) (q s')

abbrev Blind {α : Type} (p : Parser α) : Prop := Twins Eq p p

section Rules

variable {α β : Type} {R : α → α → Prop} {S : β → β → Prop}

theorem twinsPure {a b : α} (related : R a b) : Twins R (pure a) (pure b) :=
  fun _ _ alike => .ok related alike

theorem twinsFail (f g : ParseFault) : Twins R (fail f) (fail g) := fun _ _ _ => .grammar f g

theorem twinsBind {p q : Parser α} {f g : α → Parser β} (first : Twins R p q)
    (rest : ∀ a b, R a b → Twins S (f a) (g b)) : Twins S (p >>= f) (q >>= g) := by
  intro s s' alike
  have left : (p >>= f) s = Except.bind (p s) (fun r => f r.1 r.2) := rfl
  have right : (q >>= g) s' = Except.bind (q s') (fun r => g r.1 r.2) := rfl
  have ends := first alike
  rw [left, right]
  generalize p s = one at ends
  generalize q s' = two at ends
  cases ends with
  | ok related others => exact rest _ _ related others
  | lexical f => exact .lexical f
  | grammar f g => exact .grammar f g

theorem blindBind {p : Parser α} {f g : α → Parser β} (first : Blind p)
    (rest : ∀ a, Twins S (f a) (g a)) : Twins S (p >>= f) (p >>= g) :=
  twinsBind first fun a _ same => same ▸ rest a

theorem twinsMap {p q : Parser α} {f g : α → β} (first : Twins R p q)
    (results : ∀ a b, R a b → S (f a) (g b)) : Twins S (f <$> p) (g <$> q) := by
  rw [← bind_pure_comp, ← bind_pure_comp]
  exact twinsBind first fun a b related => twinsPure (results a b related)

theorem blindMap {p : Parser α} (f : α → β) (first : Blind p) : Blind (f <$> p) :=
  twinsMap first fun _ _ same => congrArg f same

theorem peekAlike {s s' : TokenStream} (alike : Alike s s') :
    (∃ t t', s.peek = .ok t ∧ s'.peek = .ok t' ∧ Token.Alike t t') ∨
      ∃ f, s.peek = .error f ∧ s'.peek = .error f := by
  obtain ⟨tokens, ending⟩ := s
  obtain ⟨tokens', ending'⟩ := s'
  obtain ⟨both, same⟩ := alike
  simp only at both same
  subst same
  cases both with
  | nil =>
      cases ending with
      | ok pos => exact .inl ⟨_, _, rfl, rfl, .same _, rfl⟩
      | error f => exact .inr ⟨f, rfl, rfl⟩
  | cons first rest => exact .inl ⟨_, _, rfl, rfl, first⟩

theorem advanceAlike {s s' : TokenStream} (alike : Alike s s') : Alike s.advance s'.advance := by
  obtain ⟨tokens, ending⟩ := s
  obtain ⟨tokens', ending'⟩ := s'
  obtain ⟨both, same⟩ := alike
  refine ⟨?_, same⟩
  cases both with
  | nil => exact .nil
  | cons first rest => exact rest

theorem twinsPeek : Twins Lexeme.Alike peek peek := by
  intro s s' alike
  unfold peek
  rcases peekAlike alike with ⟨t, t', left, right, same⟩ | ⟨f, left, right⟩
  · rw [left, right]
    exact .ok same.lexeme alike
  · rw [left, right]
    exact .lexical f

theorem blindPeekPos : Blind peekPos := by
  intro s s' alike
  unfold peekPos
  rcases peekAlike alike with ⟨t, t', left, right, same⟩ | ⟨f, left, right⟩
  · rw [left, right]
    exact .ok same.pos alike
  · rw [left, right]
    exact .lexical f

theorem blindSkip : Blind skip := fun _ _ alike => .ok rfl (advanceAlike alike)

theorem twinsNext : Twins Lexeme.Alike next next :=
  twinsBind twinsPeek fun _ _ alike => blindBind blindSkip fun _ => twinsPure alike

theorem lexemeBind {p : Parser Lexeme} {f g : Lexeme → Parser β} (shown : Twins Lexeme.Alike p p)
    (same : ∀ t, Twins S (f t) (g t))
    (names : ∀ {k k'}, Text.upper k = Text.upper k' → Twins S (f (.name k)) (g (.name k'))) :
    Twins S (p >>= f) (p >>= g) := by
  refine twinsBind shown fun t t' alike => ?_
  cases alike with
  | same t => exact same t
  | name upper => exact names upper

end Rules

section Words

theorem isConnectiveUpper (w : Connective) {k k' : String} (upper : Text.upper k = Text.upper k') :
    isConnective w (.name k) = isConnective w (.name k') := by
  simp only [isConnective, Connective.matches, upper]

theorem blindAccept (x : Symbol) : Blind (accept x) := by
  refine lexemeBind twinsPeek (fun t => ?_) (fun _ => ?_)
  · split
    · exact blindBind blindSkip fun _ => twinsPure rfl
    · exact twinsPure rfl
  · simp only [reduceCtorEq, if_false]
    exact twinsPure rfl

theorem blindExpect (x : Symbol) : Blind (expect x) := by
  refine lexemeBind twinsNext (fun t => ?_) (fun _ => ?_)
  · split
    · exact twinsPure rfl
    · exact twinsFail _ _
  · simp only [reduceCtorEq, if_false]
    exact twinsFail _ _

theorem blindAcceptWord (w : Connective) : Blind (acceptWord w) := by
  have step : ∀ t, Blind (if isConnective w t = true then do skip; pure true else pure false) := by
    intro t
    split
    · exact blindBind blindSkip fun _ => twinsPure rfl
    · exact twinsPure rfl
  refine lexemeBind twinsPeek step (fun upper => ?_)
  rw [isConnectiveUpper w upper]
  exact step _

theorem blindExpectWord (w : Connective) : Blind (expectWord w) := by
  have step : ∀ t t', isConnective w t = isConnective w t' →
      Twins Eq (if isConnective w t = true then pure () else fail (.expected w.spelling t))
        (if isConnective w t' = true then pure () else fail (.expected w.spelling t')) := by
    intro t t' same
    rw [same]
    split
    · exact twinsPure rfl
    · exact twinsFail _ _
  exact lexemeBind twinsNext (fun t => step t t rfl)
    (fun upper => step _ _ (isConnectiveUpper w upper))

theorem blindExpectName : Blind expectName := by
  refine lexemeBind twinsNext (fun t => ?_) (fun upper => twinsPure upper)
  cases t with
  | name k => exact twinsPure rfl
  | _ => exact twinsFail _ _

theorem blindExpectLineNumber : Blind expectLineNumber := by
  refine blindBind (blindAccept .minus) fun negative => ?_
  refine lexemeBind twinsNext (fun t => ?_) (fun _ => twinsFail _ _)
  split
  · exact twinsPure rfl
  · exact twinsFail _ _

end Words

section Expressions

variable (isFunction : String → Bool)

structure AllBlind (n : Nat) : Prop where
  expression : Blind (expression isFunction n)
  sum : Blind (sum isFunction n)
  sumRest : ∀ left, Blind (sumRest isFunction n left)
  product : Blind (product isFunction n)
  productRest : ∀ left, Blind (productRest isFunction n left)
  signed : Blind (signed isFunction n)
  operand : Blind (operand isFunction n)
  named : ∀ name, Blind (named isFunction n name)
  arguments : Blind (arguments isFunction n)
  expressions : Blind (expressions isFunction n)

theorem allBlindZero : AllBlind isFunction 0 where
  expression := twinsFail _ _
  sum := twinsFail _ _
  sumRest _ := twinsFail _ _
  product := twinsFail _ _
  productRest _ := twinsFail _ _
  signed := twinsFail _ _
  operand := twinsFail _ _
  named _ := twinsFail _ _
  arguments := twinsFail _ _
  expressions := twinsFail _ _

variable {isFunction} {n : Nat} (ih : AllBlind isFunction n)
include ih

theorem expressionBlind : Blind (expression isFunction (n + 1)) := by
  refine blindBind ih.sum fun left => lexemeBind twinsPeek (fun t => ?_) (fun _ => twinsPure rfl)
  cases relation? t with
  | none => exact twinsPure rfl
  | some op => exact blindBind blindSkip fun _ => blindBind ih.sum fun right => twinsPure rfl

theorem sumRestBlind (left : Expr) : Blind (sumRest isFunction (n + 1) left) := by
  refine lexemeBind twinsPeek (fun t => ?_) (fun _ => twinsPure rfl)
  cases sumOp? t with
  | none => exact twinsPure rfl
  | some op => exact blindBind blindSkip fun _ => blindBind ih.product fun right => ih.sumRest _

theorem productRestBlind (left : Expr) : Blind (productRest isFunction (n + 1) left) := by
  refine lexemeBind twinsPeek (fun t => ?_) (fun _ => twinsPure rfl)
  cases productOp? t with
  | none => exact twinsPure rfl
  | some op => exact blindBind blindSkip fun _ => blindBind ih.signed fun right => ih.productRest _

theorem signedBlind : Blind (signed isFunction (n + 1)) := by
  refine lexemeBind twinsPeek (fun t => ?_) (fun _ => ih.operand)
  split
  · exact blindBind blindSkip fun _ => ih.signed
  · exact blindBind blindSkip fun _ => blindBind ih.signed fun e => twinsPure rfl
  · exact ih.operand

theorem operandBlind : Blind (operand isFunction (n + 1)) := by
  refine lexemeBind twinsNext (fun t => ?_) (fun upper => ?_)
  · split
    · exact twinsFail _ _
    · split
      · exact twinsPure rfl
      · exact twinsFail _ _
    · exact twinsPure rfl
    · exact ih.named _
    · exact blindBind ih.expression fun e => blindBind (blindExpect .close) fun _ => twinsPure rfl
    · exact twinsFail _ _
  · simp only [upper]
    exact ih.named _

theorem namedBlind (name : String) : Blind (named isFunction (n + 1) name) := by
  refine lexemeBind twinsPeek (fun t => ?_) (fun _ => ?_)
  · split
    · refine blindBind blindSkip fun _ => ?_
      split
      · exact blindBind ih.arguments fun args => twinsPure rfl
      · exact blindBind ih.expressions fun index => twinsPure rfl
    · exact twinsPure rfl
  · simp only [reduceCtorEq, if_false]
    exact twinsPure rfl

theorem argumentsBlind : Blind (arguments isFunction (n + 1)) := by
  refine blindBind (blindAccept .close) fun closed => ?_
  split
  · exact twinsPure rfl
  · exact ih.expressions

theorem expressionsBlind : Blind (expressions isFunction (n + 1)) := by
  refine blindBind ih.expression fun first => lexemeBind twinsNext (fun t => ?_)
    (fun _ => twinsFail _ _)
  split
  · exact blindBind ih.expressions fun rest => twinsPure rfl
  · exact twinsPure rfl
  · exact twinsFail _ _

end Expressions

theorem allBlind (isFunction : String → Bool) (n : Nat) : AllBlind isFunction n := by
  induction n with
  | zero => exact allBlindZero isFunction
  | succ n ih =>
      exact {
        expression := expressionBlind ih
        sum := blindBind ih.product ih.sumRest
        sumRest := sumRestBlind ih
        product := blindBind ih.signed ih.productRest
        productRest := productRestBlind ih
        signed := signedBlind ih
        operand := operandBlind ih
        named := namedBlind ih
        arguments := argumentsBlind ih
        expressions := expressionsBlind ih }

section Statements

variable {isFunction : String → Bool} {depth : Nat}

theorem blindExpression : Blind (expression isFunction depth) :=
  (allBlind isFunction depth).expression

theorem blindPrintRest (n : Nat) : Blind (printRest isFunction depth n) := by
  induction n with
  | zero => exact twinsFail _ _
  | succ n ih =>
      refine lexemeBind twinsPeek (fun t => ?_) (fun _ => twinsPure rfl)
      cases separator? t with
      | none => exact twinsPure rfl
      | some separator =>
          exact blindBind blindSkip fun _ => blindBind blindExpression fun e =>
            blindBind ih fun rest => twinsPure rfl

theorem endOrRest {α : Type} {S : α → α → Prop} {p q : Parser α} {ended ended' : α}
    (same : S ended ended') (rest : Twins S p q) :
    Twins S (do if isStatementEnd (← peek) then pure ended else p)
      (do if isStatementEnd (← peek) then pure ended' else q) := by
  refine lexemeBind twinsPeek (fun t => ?_) (fun _ => rest)
  split
  · exact twinsPure same
  · exact rest

theorem blindPrintItems : Blind (printItems isFunction depth) :=
  endOrRest rfl <| blindBind blindExpression fun _ =>
    blindBind (blindPrintRest depth) fun _ => twinsPure rfl

theorem blindAssignmentTo (name : String) : Blind (assignmentTo isFunction depth name) := by
  refine blindBind (blindAccept .open) fun indexed => ?_
  split
  · exact blindBind (allBlind isFunction depth).expressions fun index =>
      blindBind (blindExpect .equal) fun _ => blindBind blindExpression fun value => twinsPure rfl
  · exact blindBind (blindExpect .equal) fun _ =>
      blindBind blindExpression fun value => twinsPure rfl

theorem blindLoopRest (name : String) : Blind (loopRest isFunction depth name) := by
  refine blindBind (blindExpect .equal) fun _ => blindBind blindExpression fun start =>
    blindBind (blindExpectWord .toWord) fun _ => blindBind blindExpression fun limit =>
    blindBind (blindAcceptWord .stepWord) fun stepped => ?_
  split
  · exact blindBind blindExpression fun step => twinsPure rfl
  · exact twinsPure rfl

theorem blindDeclarations (n : Nat) : Blind (declarations isFunction depth n) := by
  induction n with
  | zero => exact twinsFail _ _
  | succ n ih =>
      refine blindBind blindExpectName fun name => blindBind (blindExpect .open) fun _ =>
        blindBind (allBlind isFunction depth).expressions fun dims =>
        blindBind (blindAccept .comma) fun more => ?_
      split
      · exact blindBind ih fun rest => twinsPure rfl
      · exact twinsPure rfl

theorem blindRandomizeRest : Blind (randomizeRest isFunction depth) :=
  endOrRest rfl <| blindBind blindExpression fun _ => twinsPure rfl

theorem blindNameStatement (name : String) : Blind (nameStatement isFunction depth name) := by
  refine lexemeBind twinsPeek (fun t => ?_) (fun _ => ?_)
  · split
    · exact blindBind blindSkip fun _ =>
        blindBind (allBlind isFunction depth).arguments fun args => twinsPure rfl
    · exact blindAssignmentTo name
  · simp only [reduceCtorEq, false_and, if_false]
    exact blindAssignmentTo name

abbrev Any {α : Type} (_ _ : α) : Prop := True

theorem Blind.any {α : Type} {p : Parser α} (blind : Blind p) : Twins Any p p := by
  intro s s' alike
  have ends := blind alike
  generalize p s = one at ends
  generalize p s' = two at ends
  cases ends with
  | ok _ rest => exact .ok trivial rest
  | lexical f => exact .lexical f
  | grammar f g => exact .grammar f g

variable {line line' : List Char}

theorem twinsBranch {inner inner' : Parser Stmt} (nested : Twins Any inner inner') :
    Twins Any (branch isFunction depth inner) (branch isFunction depth inner') := by
  refine blindBind blindExpression fun condition => blindBind (blindExpectWord .thenWord) fun _ =>
    lexemeBind twinsPeek (fun t => ?_) (fun _ => twinsBind nested fun _ _ _ => twinsPure trivial)
  split
  · exact twinsFail _ _
  · exact blindBind blindExpectLineNumber fun target => twinsPure trivial
  · exact blindBind blindExpectLineNumber fun target => twinsPure trivial
  · exact twinsBind nested fun _ _ _ => twinsPure trivial

theorem twinsKeyword (length : line.length = line'.length) {inner inner' : Parser Stmt}
    (nested : Twins Any inner inner') (pos : Nat) (k : Keyword) :
    Twins Any (keywordStatement isFunction line depth inner pos k)
      (keywordStatement isFunction line' depth inner' pos k) := by
  cases k with
  | printKw => exact (blindMap _ blindPrintItems).any
  | letKw => exact Blind.any (blindBind blindExpectName blindAssignmentTo)
  | inputKw => exact (blindMap _ blindExpectName).any
  | ifKw => exact twinsBranch nested
  | gotoKw => exact (blindMap _ blindExpectLineNumber).any
  | gosubKw => exact (blindMap _ blindExpectLineNumber).any
  | returnKw => exact twinsPure trivial
  | forKw => exact Blind.any (blindBind blindExpectName blindLoopRest)
  | nextKw => exact (blindMap _ blindExpectName).any
  | dimKw => exact (blindMap _ (blindDeclarations depth)).any
  | randomizeKw => exact blindRandomizeRest.any
  | endKw => exact twinsPure trivial
  | stopKw => exact twinsPure trivial
  | remKw =>
      intro s s' alike
      exact .ok trivial ⟨.nil, congrArg Except.ok length⟩

theorem twinsStatement (length : line.length = line'.length) (n : Nat) :
    Twins Any (statement isFunction line depth n) (statement isFunction line' depth n) := by
  induction n with
  | zero => exact twinsFail _ _
  | succ n ih =>
      refine lexemeBind twinsPeek (fun t => ?_) (fun upper => ?_)
      · split
        · exact twinsPure trivial
        · exact twinsPure trivial
        · refine blindBind blindPeekPos fun pos => blindBind blindSkip fun _ => ?_
          dsimp only
          split
          · exact twinsKeyword length ih pos _
          · exact (blindNameStatement _).any
        · exact twinsFail _ _
      · simp only [upper]
        refine blindBind blindPeekPos fun pos => blindBind blindSkip fun _ => ?_
        split
        · exact twinsKeyword length ih pos _
        · exact (blindNameStatement _).any

theorem twinsStatements (length : line.length = line'.length) (n : Nat) :
    Twins Any (statements isFunction line depth n) (statements isFunction line' depth n) := by
  induction n with
  | zero => exact twinsFail _ _
  | succ n ih =>
      refine blindBind (blindAccept .colon) fun more => ?_
      split
      · exact twinsBind (twinsStatement length depth) fun _ _ _ =>
          twinsBind ih fun _ _ _ => twinsPure trivial
      · exact twinsPure trivial

theorem twinsBody (length : line.length = line'.length) :
    Twins Any (body isFunction line depth) (body isFunction line' depth) := by
  refine twinsBind (twinsStatement length depth) fun _ _ _ =>
    twinsBind (twinsStatements length depth) fun _ _ _ =>
    lexemeBind twinsPeek (fun t => ?_) (fun _ => ?_)
  · split
    · exact twinsPure trivial
    · exact blindBind blindPeekPos fun pos => twinsFail _ _
  · exact blindBind blindPeekPos fun pos => twinsFail _ _

end Statements

end Parser

namespace Grammar

variable {isFunction : String → Bool}

abbrev Alikes (w w' : List Lexeme) : Prop := List.Forall₂ Lexeme.Alike w w'

section Alikes

variable {w w' u v : List Lexeme}

theorem alikesAppend {α β : Type} {R : α → β → Prop} {u v : List α} {w' : List β}
    (alike : List.Forall₂ R (u ++ v) w') :
    ∃ u' v', w' = u' ++ v' ∧ List.Forall₂ R u u' ∧ List.Forall₂ R v v' := by
  induction u generalizing w' with
  | nil => exact ⟨[], w', rfl, .nil, alike⟩
  | cons t u ih =>
      obtain ⟨t', rest, first, tail, rfl⟩ := List.forall₂_cons_left_iff.mp alike
      obtain ⟨u', v', rfl, left, right⟩ := ih tail
      exact ⟨t' :: u', v', rfl, .cons first left, right⟩

theorem alikesSymbol {x : Symbol} (alike : Alikes (.symbol x :: w) w') :
    ∃ v', w' = .symbol x :: v' ∧ Alikes w v' := by
  obtain ⟨t', rest, first, tail, rfl⟩ := List.forall₂_cons_left_iff.mp alike
  cases first
  exact ⟨rest, rfl, tail⟩

theorem alikesName {k : String} (alike : Alikes (.name k :: w) w') :
    ∃ k' v', w' = .name k' :: v' ∧ Text.upper k' = Text.upper k ∧ Alikes w v' := by
  obtain ⟨t', rest, first, tail, rfl⟩ := List.forall₂_cons_left_iff.mp alike
  cases first with
  | same => exact ⟨k, rest, rfl, rfl, tail⟩
  | name upper => exact ⟨_, rest, rfl, upper.symm, tail⟩

theorem alikesParens (alike : Alikes (.symbol .open :: (u ++ .symbol .close :: v)) w') :
    ∃ u' v', w' = .symbol .open :: (u' ++ .symbol .close :: v') ∧ Alikes u u' ∧ Alikes v v' := by
  obtain ⟨inside, rfl, closed⟩ := alikesSymbol alike
  obtain ⟨u', last, rfl, list, close⟩ := alikesAppend closed
  obtain ⟨v', rfl, behind⟩ := alikesSymbol close
  exact ⟨u', v', rfl, list, behind⟩

end Alikes

mutual

theorem expressionAlike {w w' e} :
    Expression isFunction w e → Alikes w w' → Expression isFunction w' e
  | .sum form, alike => .sum (sumAlike form alike)
  | .compare op left right, alike => by
      obtain ⟨u', rest, rfl, first, tail⟩ := alikesAppend alike
      obtain ⟨v', rfl, second⟩ := alikesSymbol tail
      exact .compare op (sumAlike left first) (sumAlike right second)

theorem sumAlike {w w' e} : Sum isFunction w e → Alikes w w' → Sum isFunction w' e
  | .product form, alike => .product (productAlike form alike)
  | .add kind left right, alike => by
      obtain ⟨u', rest, rfl, first, tail⟩ := alikesAppend alike
      obtain ⟨v', rfl, second⟩ := alikesSymbol tail
      exact .add kind (sumAlike left first) (productAlike right second)

theorem productAlike {w w' e} : Product isFunction w e → Alikes w w' → Product isFunction w' e
  | .signed form, alike => .signed (signedAlike form alike)
  | .multiply kind left right, alike => by
      obtain ⟨u', rest, rfl, first, tail⟩ := alikesAppend alike
      obtain ⟨v', rfl, second⟩ := alikesSymbol tail
      exact .multiply kind (productAlike left first) (signedAlike right second)

theorem signedAlike {w w' e} : Signed isFunction w e → Alikes w w' → Signed isFunction w' e
  | .operand form, alike => .operand (operandAlike form alike)
  | .plus inner, alike => by
      obtain ⟨v', rfl, tail⟩ := alikesSymbol alike
      exact .plus (signedAlike inner tail)
  | .minus inner, alike => by
      obtain ⟨v', rfl, tail⟩ := alikesSymbol alike
      exact .minus (signedAlike inner tail)

theorem operandAlike {w w' e} : Operand isFunction w e → Alikes w w' → Operand isFunction w' e
  | .number value, alike => by
      cases alike with
      | cons first rest =>
          cases first
          cases rest
          exact .number value
  | .text contents, alike => by
      cases alike with
      | cons first rest =>
          cases first
          cases rest
          exact .text contents
  | .scalar spelling, alike => by
      obtain ⟨k', v', rfl, upper, rest⟩ := alikesName alike
      cases rest
      rw [← upper]
      exact .scalar k'
  | .call known list, alike => by
      obtain ⟨k', v', rfl, upper, rest⟩ := alikesName alike
      obtain ⟨w', last, rfl, args, nothing⟩ := alikesParens rest
      cases nothing
      rw [← upper] at known ⊢
      exact .call known (argumentsAlike list args)
  | .element unknown list, alike => by
      obtain ⟨k', v', rfl, upper, rest⟩ := alikesName alike
      obtain ⟨w', last, rfl, index, nothing⟩ := alikesParens rest
      cases nothing
      rw [← upper] at unknown ⊢
      exact .element unknown (expressionsAlike list index)
  | .group inner, alike => by
      obtain ⟨w', last, rfl, form, nothing⟩ := alikesParens alike
      cases nothing
      exact .group (expressionAlike inner form)

theorem argumentsAlike {w w' es} :
    ArgumentList isFunction w es → Alikes w w' → ArgumentList isFunction w' es
  | .none, alike => by
      cases alike
      exact .none
  | .some list, alike => .some (expressionsAlike list alike)

theorem expressionsAlike {w w' es} :
    Expressions isFunction w es → Alikes w w' → Expressions isFunction w' es
  | .one only, alike => .one (expressionAlike only alike)
  | .more first rest, alike => by
      obtain ⟨u', others, rfl, left, tail⟩ := alikesAppend alike
      obtain ⟨v', rfl, right⟩ := alikesSymbol tail
      exact .more (expressionAlike first left) (expressionsAlike rest right)

end

section Statements

variable {w w' : List Lexeme}

theorem itemsAlike {list} (items : Items isFunction w list) (alike : Alikes w w') :
    Items isFunction w' list := by
  induction items generalizing w' with
  | done =>
      cases alike
      exact .done
  | more separator item others ih =>
      obtain ⟨rest, rfl, tail⟩ := alikesSymbol alike
      obtain ⟨u', v', rfl, left, right⟩ := alikesAppend tail
      exact .more separator (expressionAlike item left) (ih right)

theorem declarationsAlike {list} (declarations : Declarations isFunction w list)
    (alike : Alikes w w') : Declarations isFunction w' list := by
  induction declarations generalizing w' with
  | one list =>
      obtain ⟨k', v', rfl, upper, rest⟩ := alikesName alike
      obtain ⟨u', last, rfl, dims, nothing⟩ := alikesParens rest
      cases nothing
      rw [← upper]
      exact .one (expressionsAlike list dims)
  | more list rest ih =>
      obtain ⟨k', v', rfl, upper, tail⟩ := alikesName alike
      obtain ⟨u', behind, rfl, dims, comma⟩ := alikesParens tail
      obtain ⟨others, rfl, right⟩ := alikesSymbol comma
      rw [← upper]
      exact .more (expressionsAlike list dims) (ih right)

theorem assignmentAlike {name free st} (form : Assignment isFunction name free w st)
    (alike : Alikes w w') : Assignment isFunction name free w' st := by
  cases form with
  | scalar right =>
      obtain ⟨v', rfl, tail⟩ := alikesSymbol alike
      exact .scalar (expressionAlike right tail)
  | element allowed list right =>
      obtain ⟨u', behind, rfl, index, equal⟩ := alikesParens alike
      obtain ⟨v', rfl, tail⟩ := alikesSymbol equal
      exact .element allowed (expressionsAlike list index) (expressionAlike right tail)

theorem targetAlike {n} (target : JumpTarget w n) (alike : Alikes w w') : JumpTarget w' n := by
  have same : w = w' := by
    cases target with
    | plain value =>
        obtain ⟨_, _, first, nothing, rfl⟩ := List.forall₂_cons_left_iff.mp alike
        cases first
        cases nothing
        rfl
    | negated value =>
        obtain ⟨_, rfl, tail⟩ := alikesSymbol alike
        obtain ⟨_, _, first, nothing, rfl⟩ := List.forall₂_cons_left_iff.mp tail
        cases first
        cases nothing
        rfl
  exact same ▸ target

theorem spellsAlike {kw : Keyword} {k k' : String} (upper : Text.upper k' = Text.upper k)
    (word : Spells kw k) : Spells kw k' := upper.trans word

theorem spellsWordAlike {word : Connective} {k k' : String} (upper : Text.upper k' = Text.upper k)
    (spells : SpellsWord word k) : SpellsWord word k' := upper.trans spells

theorem noKeywordAlike {k k' : String} (upper : Text.upper k' = Text.upper k)
    (plain : NoKeyword k) : NoKeyword k' := fun kw word => plain kw (upper.symm.trans word)

theorem simpleAlike {st} (form : Simple isFunction w st) (alike : Alikes w w') :
    Simple isFunction w' st := by
  cases form with
  | printLine word =>
      obtain ⟨k', v', rfl, upper, nothing⟩ := alikesName alike
      cases nothing
      exact .printLine (spellsAlike upper word)
  | print word item others =>
      obtain ⟨k', rest, rfl, upper, tail⟩ := alikesName alike
      obtain ⟨u', v', rfl, left, right⟩ := alikesAppend tail
      exact .print (spellsAlike upper word) (expressionAlike item left) (itemsAlike others right)
  | letAssign word rest =>
      obtain ⟨k', _, rfl, upper, tail⟩ := alikesName alike
      obtain ⟨name, v', rfl, upperName, right⟩ := alikesName tail
      rw [← upperName] at rest
      exact .letAssign (spellsAlike upper word) (assignmentAlike rest right)
  | assign plain rest =>
      obtain ⟨k', v', rfl, upper, tail⟩ := alikesName alike
      rw [← upper] at rest
      exact .assign (noKeywordAlike upper plain) (assignmentAlike rest tail)
  | call plain known list =>
      obtain ⟨k', v', rfl, upper, tail⟩ := alikesName alike
      obtain ⟨u', last, rfl, args, nothing⟩ := alikesParens tail
      cases nothing
      rw [← upper] at known ⊢
      exact .call (noKeywordAlike upper plain) known (argumentsAlike list args)
  | input word =>
      obtain ⟨k', _, rfl, upper, tail⟩ := alikesName alike
      obtain ⟨name, _, rfl, upperName, nothing⟩ := alikesName tail
      cases nothing
      rw [← upperName]
      exact .input (spellsAlike upper word)
  | jumpIf word test thenWord target =>
      obtain ⟨k', _, rfl, upper, tail⟩ := alikesName alike
      obtain ⟨u', _, rfl, left, behind⟩ := alikesAppend tail
      obtain ⟨t', v', rfl, upperThen, right⟩ := alikesName behind
      exact .jumpIf (spellsAlike upper word) (expressionAlike test left)
        (spellsWordAlike upperThen thenWord) (targetAlike target right)
  | goto word target =>
      obtain ⟨k', v', rfl, upper, tail⟩ := alikesName alike
      exact .goto (spellsAlike upper word) (targetAlike target tail)
  | gosub word target =>
      obtain ⟨k', v', rfl, upper, tail⟩ := alikesName alike
      exact .gosub (spellsAlike upper word) (targetAlike target tail)
  | goBack word =>
      obtain ⟨k', v', rfl, upper, nothing⟩ := alikesName alike
      cases nothing
      exact .goBack (spellsAlike upper word)
  | loop word first toWord last =>
      obtain ⟨k', _, rfl, upper, tail⟩ := alikesName alike
      obtain ⟨name, _, rfl, upperName, equal⟩ := alikesName tail
      obtain ⟨_, rfl, range⟩ := alikesSymbol equal
      obtain ⟨u', _, rfl, left, behind⟩ := alikesAppend range
      obtain ⟨t', v', rfl, upperTo, right⟩ := alikesName behind
      rw [← upperName]
      exact .loop (spellsAlike upper word) (expressionAlike first left)
        (spellsWordAlike upperTo toWord) (expressionAlike last right)
  | loopStep word first toWord last stepWord stride =>
      obtain ⟨k', _, rfl, upper, tail⟩ := alikesName alike
      obtain ⟨name, _, rfl, upperName, equal⟩ := alikesName tail
      obtain ⟨_, rfl, range⟩ := alikesSymbol equal
      obtain ⟨u', _, rfl, left, behind⟩ := alikesAppend range
      obtain ⟨t', _, rfl, upperTo, limited⟩ := alikesName behind
      obtain ⟨v', _, rfl, right, stepped⟩ := alikesAppend limited
      obtain ⟨p', x', rfl, upperStep, by'⟩ := alikesName stepped
      rw [← upperName]
      exact .loopStep (spellsAlike upper word) (expressionAlike first left)
        (spellsWordAlike upperTo toWord) (expressionAlike last right)
        (spellsWordAlike upperStep stepWord) (expressionAlike stride by')
  | next word =>
      obtain ⟨k', _, rfl, upper, tail⟩ := alikesName alike
      obtain ⟨name, _, rfl, upperName, nothing⟩ := alikesName tail
      cases nothing
      rw [← upperName]
      exact .next (spellsAlike upper word)
  | dim word list =>
      obtain ⟨k', v', rfl, upper, tail⟩ := alikesName alike
      exact .dim (spellsAlike upper word) (declarationsAlike list tail)
  | reseed word =>
      obtain ⟨k', v', rfl, upper, nothing⟩ := alikesName alike
      cases nothing
      exact .reseed (spellsAlike upper word)
  | randomize word value =>
      obtain ⟨k', v', rfl, upper, tail⟩ := alikesName alike
      exact .randomize (spellsAlike upper word) (expressionAlike value tail)
  | finishEnd word =>
      obtain ⟨k', v', rfl, upper, nothing⟩ := alikesName alike
      cases nothing
      exact .finishEnd (spellsAlike upper word)
  | finishStop word =>
      obtain ⟨k', v', rfl, upper, nothing⟩ := alikesName alike
      cases nothing
      exact .finishStop (spellsAlike upper word)

theorem statementAlike {c st} (form : Statement isFunction c w st) (alike : Alikes w w') :
    Statement isFunction c w' st := by
  induction form generalizing w' with
  | simple plain form => exact .simple plain (simpleAlike form alike)
  | empty plain =>
      cases alike
      exact .empty plain
  | remark raw word =>
      obtain ⟨k', v', rfl, upper, nothing⟩ := alikesName alike
      cases nothing
      exact .remark raw (spellsAlike upper word)
  | doIf word test thenWord body shown ih =>
      obtain ⟨k', _, rfl, upper, tail⟩ := alikesName alike
      obtain ⟨u', _, rfl, left, behind⟩ := alikesAppend tail
      obtain ⟨t', v', rfl, upperThen, right⟩ := alikesName behind
      refine .doIf (spellsAlike upper word) (expressionAlike test left)
        (spellsWordAlike upperThen thenWord) (ih right) ?_
      rintro rfl
      exact shown (List.forall₂_nil_right_iff.mp right)

theorem statementsAlike {c list} (forms : Statements isFunction c w list) (alike : Alikes w w') :
    Statements isFunction c w' list := by
  induction forms generalizing w' with
  | last final only => exact .last final (statementAlike only alike)
  | more first others ih =>
      obtain ⟨u', _, rfl, left, colon⟩ := alikesAppend alike
      obtain ⟨v', rfl, right⟩ := alikesSymbol colon
      exact .more (statementAlike first left) (ih right)

end Statements

end Grammar

open Grammar

/- The second line is the first with ASCII letters put into the other case, none of them in a quoted
text and none in a remark. -/
structure Recased (isFunction : String → Bool) (text text' : String) : Prop where
  letters : SameLetters text.toList text'.toList
  literals : ∀ t ∈ (TokenStream.ofLine text).tokens, t.Kept text.toList text'.toList
  remark : ∀ start, Remarked isFunction text start →
    text'.toList.drop start = text.toList.drop start

section Recased

variable {isFunction : String → Bool} {text text' : String}

theorem alikesLexemes {tokens tokens' : List Token}
    (alike : List.Forall₂ Token.Alike tokens tokens') :
    Alikes (tokens.map Token.lexeme) (tokens'.map Token.lexeme) := by
  refine List.forall₂_map_left_iff.mpr (List.forall₂_map_right_iff.mpr ?_)
  exact alike.imp fun _ _ token => token.lexeme

theorem recasedLine (recased : Recased isFunction text text') {body : Body}
    (derived : LineOf isFunction text body) : LineOf isFunction text' body := by
  have alike := TokenStream.ofLineAlike recased.letters recased.literals
  cases stream : TokenStream.ofLine text' with
  | mk tokens' ending' =>
    rw [stream] at alike
    cases derived with
    | whole read forms =>
        rw [read] at alike
        have ended : _ = ending' := alike.ending
        subst ended
        exact .whole stream (statementsAlike forms (alikesLexemes alike.tokens))
    | @remarked before k pos after ending read forms =>
        have kept := recased.remark _ (.intro read forms)
        rw [read] at alike
        obtain ⟨before', rest, rfl, front, others⟩ := alikesAppend alike.tokens
        obtain ⟨⟨t', pos'⟩, after', rem, _, rfl⟩ := List.forall₂_cons_left_iff.mp others
        obtain ⟨lexeme, place⟩ := rem
        simp only at lexeme place
        subst place
        obtain ⟨k', v', shape, upper, nothing⟩ := alikesName (.cons lexeme .nil)
        cases nothing
        cases shape
        have length : k'.length = k.length := by
          rw [← Parser.upperLength k', upper, Parser.upperLength]
        refine .remarked stream ?_
        rw [length, kept]
        exact statementsAlike forms (List.rel_append (alikesLexemes front) (.cons lexeme .nil))

theorem recasedEnds (letters : SameLetters text.toList text'.toList)
    (literals : ∀ t ∈ (TokenStream.ofLine text).tokens, t.Kept text.toList text'.toList) :
    (∃ body body', parseLine isFunction text = .ok body ∧
      parseLine isFunction text' = .ok body') ∨
    (∃ f, parseLine isFunction text = .error (.lexical f) ∧
      parseLine isFunction text' = .error (.lexical f)) ∨
    ∃ f g, parseLine isFunction text = .error (.grammar f) ∧
      parseLine isFunction text' = .error (.grammar g) := by
  have alike := TokenStream.ofLineAlike letters literals
  have twins (depth : Nat) : Parser.Twins Parser.Any
      (Parser.body isFunction text.toList depth) (Parser.body isFunction text'.toList depth) :=
    Parser.twinsBody letters.length_eq
  have ends := twins (Parser.depthFor (TokenStream.ofLine text).tokens.length) alike
  simp only [parseLine, StateT.run, ← alike.tokens.length_eq]
  generalize Parser.body isFunction text.toList _ (TokenStream.ofLine text) = one at ends
  generalize Parser.body isFunction text'.toList _ (TokenStream.ofLine text') = two at ends
  cases ends with
  | ok _ _ => exact .inl ⟨_, _, rfl, rfl⟩
  | lexical f => exact .inr (.inl ⟨f, rfl, rfl⟩)
  | grammar f g => exact .inr (.inr ⟨f, g, rfl, rfl⟩)

theorem caseBlind (isFunction : String → Bool) (text text' : String)
    (recased : Recased isFunction text text') :
    (∃ body, parseLine isFunction text = .ok body ∧ parseLine isFunction text' = .ok body) ∨
    (∃ f, parseLine isFunction text = .error (.lexical f) ∧
      parseLine isFunction text' = .error (.lexical f)) ∨
    ∃ f g, parseLine isFunction text = .error (.grammar f) ∧
      parseLine isFunction text' = .error (.grammar g) := by
  rcases recasedEnds recased.letters recased.literals with ⟨body, _, ok, _⟩ | failed
  · exact .inl ⟨body, ok, parseLineComplete (recasedLine recased (parseLineSound ok))⟩
  · exact .inr failed

theorem caseBlindRemark : ∃ body,
    parseLine (fun _ => false) "if x then print \"Ab\": rem Hi" = .ok body ∧
    parseLine (fun _ => false) "IF X Then PRINT \"Ab\": rEm Hi" = .ok body := by
  have read : TokenStream.ofLine "if x then print \"Ab\": rem Hi" =
      ⟨[⟨.name "if", 0⟩, ⟨.name "x", 3⟩, ⟨.name "then", 5⟩, ⟨.name "print", 10⟩, ⟨.text "Ab", 16⟩,
        ⟨.symbol .colon, 20⟩] ++ ⟨.name "rem", 22⟩ :: [⟨.name "Hi", 26⟩], .ok 28⟩ := rfl
  have tokens : (TokenStream.ofLine "if x then print \"Ab\": rem Hi").tokens =
      [⟨.name "if", 0⟩, ⟨.name "x", 3⟩, ⟨.name "then", 5⟩, ⟨.name "print", 10⟩, ⟨.text "Ab", 16⟩,
        ⟨.symbol .colon, 20⟩, ⟨.name "rem", 22⟩, ⟨.name "Hi", 26⟩] :=
    congrArg TokenStream.tokens read
  have recased : Recased (fun _ => false) "if x then print \"Ab\": rem Hi"
      "IF X Then PRINT \"Ab\": rEm Hi" := by
    refine ⟨by decide +kernel, ?_, ?_⟩
    · intro t member contents text
      rw [tokens] at member
      simp only [List.mem_cons, List.not_mem_nil, or_false] at member
      rcases member with rfl | rfl | rfl | rfl | rfl | rfl | rfl | rfl <;> cases text
      decide +kernel
    · intro start remarked
      obtain ⟨k, pos, member, spells, rfl⟩ := remarked.word
      rw [tokens] at member
      simp only [List.mem_cons, Token.mk.injEq, Lexeme.name.injEq, reduceCtorEq, false_and,
        false_or, or_false, List.not_mem_nil] at member
      rcases member with ⟨rfl, _⟩ | ⟨rfl, _⟩ | ⟨rfl, _⟩ | ⟨rfl, _⟩ | ⟨rfl, rfl⟩ | ⟨rfl, _⟩
      · exact absurd spells (by decide)
      · exact absurd spells (by decide)
      · exact absurd spells (by decide)
      · exact absurd spells (by decide)
      · decide +kernel
      · exact absurd spells (by decide)
  have shown : Simple (fun _ => false) (.name "print" :: ([.text "Ab"] ++ []))
      (.print (some ⟨.text "Ab", []⟩)) :=
    .print rfl (.sum (.product (.signed (.operand (.text "Ab"))))) .done
  have branch : Statement (fun _ => false) .colon
      (.name "if" :: ([.name "x"] ++ .name "then" :: (.name "print" :: ([.text "Ab"] ++ []))))
      (.doIf (.scalar "X") (.print (some ⟨.text "Ab", []⟩))) :=
    .doIf rfl (.sum (.product (.signed (.operand (.scalar "x"))))) rfl (.simple trivial shown)
      (by simp)
  have accepted : parseLine (fun _ => false) "if x then print \"Ab\": rem Hi" = .ok
      ⟨.doIf (.scalar "X") (.print (some ⟨.text "Ab", []⟩)), [.remark "Hi"]⟩ :=
    parseLineComplete (.remarked read (.more branch (.last (by simp)
      (.remark [' ', 'H', 'i'] rfl))))
  rcases caseBlind _ _ _ recased with both | ⟨f, failed, _⟩ | ⟨f, g, failed, _⟩
  · exact both
  · cases accepted.symm.trans failed
  · cases accepted.symm.trans failed

end Recased

end LineBasic
