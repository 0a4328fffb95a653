import LineBasic.Proofs.Syntax.Folding

/-!
Back from signs apart to folded signs. Where an operator is wanted an operand ends before, so the
sign there has not been folded; where an operand is wanted a folded sign is as good as one apart.
So no statement is gained by taking the signs apart, and parsing either way comes to the same.
-/
namespace LineBasic

/- Where a list is cut whose members have been taken apart, the list itself can be cut, unless a
second part stands behind the cut. -/
theorem cutAt {α : Type} {f : α → List α} {P : α → Prop}
    (forms : ∀ t, f t = [t] ∨ ∃ a b, f t = [a, b] ∧ ¬ P b) {x : α} (mark : P x)
    {l u' v' : List α} (shape : l.flatMap f = u' ++ x :: v') :
    ∃ u v, l = u ++ v ∧ u.flatMap f = u' ∧ v.flatMap f = x :: v' := by
  induction l generalizing u' with
  | nil => cases u' <;> cases shape
  | cons t l ih =>
      cases u' with
      | nil => exact ⟨[], t :: l, rfl, rfl, shape⟩
      | cons t' u' =>
          rw [List.flatMap_cons] at shape
          rcases forms t with whole | ⟨a, b, parts, other⟩
          · rw [whole] at shape
            obtain ⟨rfl, rest⟩ := List.cons.inj shape
            obtain ⟨u, v, rfl, front, behind⟩ := ih rest
            exact ⟨t :: u, v, rfl, by simp [whole, front], behind⟩
          · rw [parts] at shape
            obtain ⟨rfl, second⟩ := List.cons.inj shape
            cases u' with
            | nil =>
                cases second
                exact absurd mark other
            | cons t'' u' =>
                obtain ⟨rfl, rest⟩ := List.cons.inj second
                obtain ⟨u, v, rfl, front, behind⟩ := ih rest
                exact ⟨t :: u, v, rfl, by simp [parts, front], behind⟩

namespace Grammar

open Lexeme

section Cuts

variable {w u' v' : List Lexeme}

inductive Front (w : List Lexeme) (t : Lexeme) (rest : List Lexeme) : Prop where
  | whole {v} (shape : w = t :: v) (alone : t.apart = [t]) (behind : v.flatMap apart = rest)
  | signed {spelling x d v} (shape : w = .number spelling :: v)
      (parts : apart (.number spelling) = [.symbol x, .number d])
      (kind : x = .minus ∨ x = .plus) (sign : t = .symbol x)
      (behind : rest = .number d :: v.flatMap apart)

theorem front {t : Lexeme} {rest : List Lexeme} (shape : w.flatMap apart = t :: rest) :
    Front w t rest := by
  cases w with
  | nil => cases shape
  | cons t' v =>
      rw [List.flatMap_cons] at shape
      rcases apartForms t' with alone | ⟨spelling, x, d, rfl, kind, parts⟩
      · rw [alone] at shape
        cases shape
        exact .whole rfl alone rfl
      · rw [parts] at shape
        cases shape
        exact .signed rfl parts kind rfl rfl

theorem frontPlain {t : Lexeme} (plain : t ≠ .symbol .minus ∧ t ≠ .symbol .plus)
    (shape : w.flatMap apart = t :: v') :
    ∃ v, w = t :: v ∧ t.apart = [t] ∧ v.flatMap apart = v' := by
  cases front shape with
  | whole shape alone behind => exact ⟨_, shape, alone, behind⟩
  | signed shape parts kind sign behind =>
      subst sign
      rcases kind with rfl | rfl
      · exact absurd rfl plain.1
      · exact absurd rfl plain.2

theorem frontName {k : String} (shape : w.flatMap apart = .name k :: v') :
    ∃ v, w = .name k :: v ∧ v.flatMap apart = v' := by
  obtain ⟨v, same, _, rest⟩ := frontPlain (by simp) shape
  exact ⟨v, same, rest⟩

theorem cutBefore {t : Lexeme} (other : ∀ d, t ≠ .number d)
    (shape : w.flatMap apart = u' ++ t :: v') :
    ∃ u v, w = u ++ v ∧ u.flatMap apart = u' ∧ v.flatMap apart = t :: v' := by
  refine cutAt (P := fun t => ∀ d, t ≠ .number d) (fun t => ?_) other shape
  rcases apartForms t with whole | ⟨_, x, d, _, _, parts⟩
  · exact .inl whole
  · exact .inr ⟨_, _, parts, fun all => all d rfl⟩

theorem cutPlain {t : Lexeme} (other : ∀ d, t ≠ .number d)
    (plain : t ≠ .symbol .minus ∧ t ≠ .symbol .plus)
    (shape : w.flatMap apart = u' ++ t :: v') :
    ∃ u v, w = u ++ t :: v ∧ u.flatMap apart = u' ∧ v.flatMap apart = v' := by
  obtain ⟨u, behind, rfl, left, rest⟩ := cutBefore other shape
  obtain ⟨v, rfl, _, right⟩ := frontPlain plain rest
  exact ⟨u, v, rfl, left, right⟩

theorem cutName {k : String} (shape : w.flatMap apart = u' ++ .name k :: v') :
    ∃ u v, w = u ++ .name k :: v ∧ u.flatMap apart = u' ∧ v.flatMap apart = v' :=
  cutPlain (by simp) (by simp) shape

theorem cutParens (shape : w.flatMap apart = .symbol .open :: (u' ++ .symbol .close :: v')) :
    ∃ u v, w = .symbol .open :: (u ++ .symbol .close :: v) ∧ u.flatMap apart = u' ∧
      v.flatMap apart = v' := by
  obtain ⟨inside, rfl, _, closed⟩ := frontPlain (by simp) shape
  obtain ⟨u, v, rfl, list, behind⟩ := cutPlain (by simp) (by simp) closed
  exact ⟨u, v, rfl, list, behind⟩

def EndsOperand (w : List Lexeme) : Prop := ∃ v t, w = v ++ [t] ∧ t.endsOperand = true

theorem endsBack {u : List Lexeme} (ends : EndsOperand (u.flatMap apart)) : EndsOperand u := by
  obtain ⟨v, t, shape, operand⟩ := ends
  rcases List.eq_nil_or_concat u with rfl | ⟨front, last, rfl⟩
  · simp at shape
  · refine ⟨front, last, by simp, ?_⟩
    rw [List.concat_eq_append, List.flatMap_append, List.flatMap_singleton] at shape
    rcases apartForms last with whole | ⟨spelling, x, d, rfl, _, parts⟩
    · rw [whole] at shape
      obtain ⟨_, same⟩ := List.append_inj' shape rfl
      cases same
      exact operand
    · rfl

theorem cutOperator {x : Symbol} (lexed : Lexed w) (ends : EndsOperand u')
    (shape : w.flatMap apart = u' ++ .symbol x :: v') :
    ∃ u v, w = u ++ .symbol x :: v ∧ u.flatMap apart = u' ∧ v.flatMap apart = v' := by
  obtain ⟨u, behind, rfl, left, rest⟩ := cutBefore (by simp) shape
  cases front rest with
  | whole same alone right =>
      subst same
      exact ⟨u, _, rfl, left, right⟩
  | @signed spelling x d v same parts kind sign right =>
      subst same left
      obtain ⟨before, t, rfl, operand⟩ := endsBack ends
      have chained := lexed.chained
      rw [List.append_assoc] at chained
      have whole := (List.isChain_cons_cons.mp chained.right_of_append).1 operand
      rw [parts] at whole
      cases whole

end Cuts

variable {isFunction : String → Bool}

theorem operandEnds {w e} (form : Operand isFunction w e) : EndsOperand w := by
  cases form with
  | number value => exact ⟨[], _, rfl, rfl⟩
  | text contents => exact ⟨[], _, rfl, rfl⟩
  | scalar spelling => exact ⟨[], _, rfl, rfl⟩
  | @call spelling v args known list =>
      exact ⟨.name spelling :: .symbol .open :: v, .symbol .close, rfl, rfl⟩
  | @element spelling v index unknown list =>
      exact ⟨.name spelling :: .symbol .open :: v, .symbol .close, rfl, rfl⟩
  | @group v e inner => exact ⟨.symbol .open :: v, .symbol .close, rfl, rfl⟩

theorem endsBehind {u v : List Lexeme} (ends : EndsOperand v) : EndsOperand (u ++ v) := by
  obtain ⟨front, t, rfl, operand⟩ := ends
  exact ⟨u ++ front, t, by simp, operand⟩

theorem signedEnds {w e} (form : Signed isFunction w e) : EndsOperand w := by
  induction w generalizing e with
  | nil =>
      cases form with
      | operand form => exact operandEnds form
  | cons t w ih =>
      cases form with
      | operand form => exact operandEnds form
      | plus inner => exact endsBehind (u := [.symbol .plus]) (ih inner)
      | minus inner => exact endsBehind (u := [.symbol .minus]) (ih inner)

theorem productEnds {w e} (form : Product isFunction w e) : EndsOperand w := by
  cases form with
  | signed form => exact signedEnds form
  | multiply kind left right => exact endsBehind (endsBehind (u := [_]) (signedEnds right))

theorem sumEnds {w e} (form : Sum isFunction w e) : EndsOperand w := by
  cases form with
  | product form => exact productEnds form
  | add kind left right => exact endsBehind (endsBehind (u := [_]) (productEnds right))

theorem wholeNumber {spelling : String} {x : Float} (numeral : Numeral spelling)
    (alone : apart (.number spelling) = [.number spelling])
    (value : Number.read? spelling = some x) : (Expr.number x).apart = .number x := by
  cases numeral with
  | plain unsigned => exact Expr.apartPlain (Number.readPlain unsigned value)
  | minus unsigned =>
      rw [apartMinus] at alone
      cases alone
  | plus unsigned =>
      rw [apartPlus] at alone
      cases alone

theorem signedNumber {spelling d : String} {x : Symbol} {y : Float} (numeral : Numeral spelling)
    (parts : apart (.number spelling) = [.symbol x, .number d])
    (value : Number.read? d = some y) :
    (x = .minus ∧ Number.read? spelling = some (-y) ∧
      (Expr.number (-y)).apart = .negate (.number y)) ∨
    (x = .plus ∧ Number.read? spelling = some y ∧ (Expr.number y).apart = .number y) := by
  cases numeral with
  | plain unsigned =>
      rw [apartPlain unsigned] at parts
      cases parts
  | minus unsigned =>
      rw [apartMinus] at parts
      cases parts
      refine .inl ⟨rfl, ?_, Expr.apartMinus (Number.readPlain unsigned value)⟩
      rw [Number.readMinus unsigned, value]
      rfl
  | plus unsigned =>
      rw [apartPlus] at parts
      cases parts
      refine .inr ⟨rfl, ?_, Expr.apartPlain (Number.readPlain unsigned value)⟩
      rw [Number.readPlus unsigned, value]

theorem signedOnly {d : String} {v : List Lexeme} {e : Expr}
    (form : Signed isFunction (.number d :: v) e) :
    v = [] ∧ ∃ y, Number.read? d = some y ∧ e = .number y := by
  cases form with
  | operand form =>
      cases form with
      | number value => exact ⟨rfl, _, value, rfl⟩

mutual

theorem expressionFolded {w w' e'} : Expression isFunction w' e' → w.flatMap apart = w' → Lexed w →
    ∃ e, Expression isFunction w e ∧ e.apart = e'
  | .sum form, shape, lexed => by
      obtain ⟨e, found, rfl⟩ := sumFolded form shape lexed
      exact ⟨e, .sum found, rfl⟩
  | .compare op left right, shape, lexed => by
      obtain ⟨u, v, rfl, first, second⟩ := cutOperator lexed (sumEnds left) shape
      obtain ⟨l, leftForm, rfl⟩ := sumFolded left first lexed.left
      obtain ⟨r, rightForm, rfl⟩ := sumFolded right second lexed.right.tail
      exact ⟨.compare op l r, .compare op leftForm rightForm, rfl⟩

theorem sumFolded {w w' e'} : Sum isFunction w' e' → w.flatMap apart = w' → Lexed w →
    ∃ e, Sum isFunction w e ∧ e.apart = e'
  | .product form, shape, lexed => by
      obtain ⟨e, found, rfl⟩ := productFolded form shape lexed
      exact ⟨e, .product found, rfl⟩
  | .add kind left right, shape, lexed => by
      obtain ⟨u, v, rfl, first, second⟩ := cutOperator lexed (sumEnds left) shape
      obtain ⟨l, leftForm, rfl⟩ := sumFolded left first lexed.left
      obtain ⟨r, rightForm, rfl⟩ := productFolded right second lexed.right.tail
      exact ⟨.arith _ l r, .add kind leftForm rightForm, rfl⟩

theorem productFolded {w w' e'} : Product isFunction w' e' → w.flatMap apart = w' → Lexed w →
    ∃ e, Product isFunction w e ∧ e.apart = e'
  | .signed form, shape, lexed => by
      obtain ⟨e, found, rfl⟩ := signedFolded form shape lexed
      exact ⟨e, .signed found, rfl⟩
  | .multiply kind left right, shape, lexed => by
      obtain ⟨u, v, rfl, first, second⟩ := cutOperator lexed (productEnds left) shape
      obtain ⟨l, leftForm, rfl⟩ := productFolded left first lexed.left
      obtain ⟨r, rightForm, rfl⟩ := signedFolded right second lexed.right.tail
      exact ⟨.arith _ l r, .multiply kind leftForm rightForm, rfl⟩

theorem signedFolded {w w' e'} : Signed isFunction w' e' → w.flatMap apart = w' → Lexed w →
    ∃ e, Signed isFunction w e ∧ e.apart = e'
  | .operand form, shape, lexed => by
      obtain ⟨e, found, rfl⟩ := operandFolded form shape lexed
      exact ⟨e, .operand found, rfl⟩
  | .plus inner, shape, lexed => by
      cases front shape with
      | whole same alone behind =>
          subst same
          obtain ⟨e, found, rfl⟩ := signedFolded inner behind lexed.tail
          exact ⟨e, .plus found, rfl⟩
      | signed same parts kind sign behind =>
          subst same behind
          obtain ⟨nothing, y, value, rfl⟩ := signedOnly inner
          cases apartNothing nothing
          have numeral := lexed.numerals _ (List.mem_singleton_self _)
          cases sign
          rcases signedNumber numeral parts value with ⟨other, _, _⟩ | ⟨_, read, same⟩
          · cases other
          · exact ⟨_, .operand (.number read), same⟩
  | .minus inner, shape, lexed => by
      cases front shape with
      | whole same alone behind =>
          subst same
          obtain ⟨e, found, rfl⟩ := signedFolded inner behind lexed.tail
          exact ⟨.negate e, .minus found, rfl⟩
      | signed same parts kind sign behind =>
          subst same behind
          obtain ⟨nothing, y, value, rfl⟩ := signedOnly inner
          cases apartNothing nothing
          have numeral := lexed.numerals _ (List.mem_singleton_self _)
          cases sign
          rcases signedNumber numeral parts value with ⟨_, read, same⟩ | ⟨other, _, _⟩
          · exact ⟨_, .operand (.number read), same⟩
          · cases other

theorem operandFolded {w w' e'} : Operand isFunction w' e' → w.flatMap apart = w' → Lexed w →
    ∃ e, Operand isFunction w e ∧ e.apart = e'
  | .number value, shape, lexed => by
      obtain ⟨v, rfl, alone, nothing⟩ := frontPlain (by simp) shape
      cases apartNothing nothing
      have numeral := lexed.numerals _ (List.mem_singleton_self _)
      exact ⟨_, .number value, wholeNumber numeral alone value⟩
  | .text contents, shape, _ => by
      obtain ⟨v, rfl, _, nothing⟩ := frontPlain (by simp) shape
      cases apartNothing nothing
      exact ⟨_, .text contents, rfl⟩
  | .scalar spelling, shape, _ => by
      obtain ⟨v, rfl, nothing⟩ := frontName shape
      cases apartNothing nothing
      exact ⟨_, .scalar spelling, rfl⟩
  | .call known list, shape, lexed => by
      obtain ⟨v, rfl, rest⟩ := frontName shape
      obtain ⟨u, last, rfl, inner, nothing⟩ := cutParens rest
      cases apartNothing nothing
      obtain ⟨args, found, rfl⟩ := argumentsFolded list inner lexed.tail.tail.left
      exact ⟨_, .call known found, rfl⟩
  | .element unknown list, shape, lexed => by
      obtain ⟨v, rfl, rest⟩ := frontName shape
      obtain ⟨u, last, rfl, inner, nothing⟩ := cutParens rest
      cases apartNothing nothing
      obtain ⟨index, found, rfl⟩ := expressionsFolded list inner lexed.tail.tail.left
      exact ⟨_, .element unknown found, rfl⟩
  | .group inner, shape, lexed => by
      obtain ⟨u, last, rfl, inside, nothing⟩ := cutParens shape
      cases apartNothing nothing
      obtain ⟨e, found, rfl⟩ := expressionFolded inner inside lexed.tail.left
      exact ⟨e, .group found, rfl⟩

theorem argumentsFolded {w w' es'} : ArgumentList isFunction w' es' → w.flatMap apart = w' →
    Lexed w → ∃ es, ArgumentList isFunction w es ∧ Expr.allApart es = es'
  | .none, shape, _ => by
      cases apartNothing shape
      exact ⟨[], .none, rfl⟩
  | .some list, shape, lexed => by
      obtain ⟨es, found, rfl⟩ := expressionsFolded list shape lexed
      exact ⟨es, .some found, rfl⟩

theorem expressionsFolded {w w' es'} : Expressions isFunction w' es' → w.flatMap apart = w' →
    Lexed w → ∃ es, Expressions isFunction w es ∧ Expr.allApart es = es'
  | .one only, shape, lexed => by
      obtain ⟨e, found, rfl⟩ := expressionFolded only shape lexed
      exact ⟨[e], .one found, rfl⟩
  | .more first rest, shape, lexed => by
      obtain ⟨u, v, rfl, left, right⟩ := cutPlain (by simp) (by simp) shape
      obtain ⟨e, head, rfl⟩ := expressionFolded first left lexed.left
      obtain ⟨es, others, rfl⟩ := expressionsFolded rest right lexed.right.tail
      exact ⟨e :: es, .more head others, rfl⟩

end

theorem cutItems {w u' v' : List Lexeme} {list : List (Separator × Expr)}
    (items : Items isFunction v' list) (shape : w.flatMap apart = u' ++ v') :
    ∃ u v, w = u ++ v ∧ u.flatMap apart = u' ∧ v.flatMap apart = v' := by
  cases items with
  | done => exact ⟨w, [], by simp, by simpa using shape, rfl⟩
  | more separator item others => exact cutBefore (by simp) shape

theorem separatorPlain (x : Separator) :
    Lexeme.symbol x.symbol ≠ .symbol .minus ∧ Lexeme.symbol x.symbol ≠ .symbol .plus := by
  cases x <;> simp [Separator.symbol]

section Forms

variable {w w' : List Lexeme} (shape : w.flatMap apart = w') (lexed : Lexed w)
include shape lexed

theorem itemsFolded {list'} (items : Items isFunction w' list') :
    ∃ list, Items isFunction w list ∧ list.map (fun item => (item.1, item.2.apart)) = list' := by
  induction items generalizing w with
  | done =>
      cases apartNothing shape
      exact ⟨[], .done, rfl⟩
  | more separator item others ih =>
      obtain ⟨both, rfl, _, rest⟩ := frontPlain (separatorPlain separator) shape
      obtain ⟨u, v, rfl, left, right⟩ := cutItems others rest
      obtain ⟨e, first, rfl⟩ := expressionFolded item left lexed.tail.left
      obtain ⟨list, more, rfl⟩ := ih right lexed.tail.right
      exact ⟨(separator, e) :: list, .more separator first more, rfl⟩

theorem declarationsFolded {list'} (declarations : Declarations isFunction w' list') :
    ∃ list, Declarations isFunction w list ∧ list.map Declaration.apart = list' := by
  induction declarations generalizing w with
  | one list =>
      obtain ⟨v, rfl, rest⟩ := frontName shape
      obtain ⟨u, last, rfl, inner, nothing⟩ := cutParens rest
      cases apartNothing nothing
      obtain ⟨dims, found, rfl⟩ := expressionsFolded list inner lexed.tail.tail.left
      exact ⟨[⟨_, dims⟩], .one found, rfl⟩
  | more list rest ih =>
      obtain ⟨v, rfl, tail⟩ := frontName shape
      obtain ⟨u, last, rfl, inner, behind⟩ := cutParens tail
      obtain ⟨more, rfl, _, others⟩ := frontPlain (by simp) behind
      obtain ⟨dims, found, rfl⟩ := expressionsFolded list inner lexed.tail.tail.left
      obtain ⟨arrays, remaining, rfl⟩ := ih others lexed.tail.tail.right.tail.tail
      exact ⟨⟨_, dims⟩ :: arrays, .more found remaining, rfl⟩

theorem assignmentFolded {name free st'} (form : Assignment isFunction name free w' st') :
    ∃ st, Assignment isFunction name free w st ∧ st.apart = st' := by
  cases form with
  | scalar right =>
      obtain ⟨v, rfl, _, tail⟩ := frontPlain (by simp) shape
      obtain ⟨value, found, rfl⟩ := expressionFolded right tail lexed.tail
      exact ⟨_, .scalar found, rfl⟩
  | element allowed list right =>
      obtain ⟨u, behind, rfl, inner, equal⟩ := cutParens shape
      obtain ⟨v, rfl, _, tail⟩ := frontPlain (by simp) equal
      obtain ⟨index, places, rfl⟩ := expressionsFolded list inner lexed.tail.left
      obtain ⟨value, found, rfl⟩ := expressionFolded right tail lexed.tail.right.tail.tail
      exact ⟨_, .element allowed places found, rfl⟩

end Forms

theorem targetFolded {k : String} {w w' : List Lexeme} {line : Int}
    (shape : w.flatMap apart = w') (lexed : Lexed (.name k :: w)) (target : JumpTarget w' line) :
    JumpTarget w line := by
  cases target with
  | plain value =>
      obtain ⟨v, rfl, _, nothing⟩ := frontPlain (by simp) shape
      cases apartNothing nothing
      exact .plain value
  | negated value =>
      cases front shape with
      | whole same alone behind =>
          subst same
          obtain ⟨v, rfl, _, nothing⟩ := frontPlain (by simp) behind
          cases apartNothing nothing
          exact .negated value
      | signed same parts kind sign behind =>
          subst same
          have whole := (List.isChain_cons_cons.mp lexed.chained).1 rfl
          rw [parts] at whole
          cases whole

theorem simpleFolded {w w' : List Lexeme} {st'} (form : Simple isFunction w' st')
    (shape : w.flatMap apart = w') (lexed : Lexed w) :
    ∃ st, Simple isFunction w st ∧ st.apart = st' := by
  cases form with
  | printLine word =>
      obtain ⟨v, rfl, nothing⟩ := frontName shape
      cases apartNothing nothing
      exact ⟨_, .printLine word, rfl⟩
  | print word item others =>
      obtain ⟨both, rfl, rest⟩ := frontName shape
      obtain ⟨u, v, rfl, left, right⟩ := cutItems others rest
      obtain ⟨first, found, rfl⟩ := expressionFolded item left lexed.tail.left
      obtain ⟨list, more, rfl⟩ := itemsFolded right lexed.tail.right others
      exact ⟨_, .print word found more, rfl⟩
  | letAssign word rest =>
      obtain ⟨tail, rfl, named⟩ := frontName shape
      obtain ⟨v, rfl, behind⟩ := frontName named
      obtain ⟨st, found, rfl⟩ := assignmentFolded behind lexed.tail.tail rest
      exact ⟨st, .letAssign word found, rfl⟩
  | assign noKeyword rest =>
      obtain ⟨v, rfl, behind⟩ := frontName shape
      obtain ⟨st, found, rfl⟩ := assignmentFolded behind lexed.tail rest
      exact ⟨st, .assign noKeyword found, rfl⟩
  | call noKeyword known list =>
      obtain ⟨v, rfl, rest⟩ := frontName shape
      obtain ⟨u, last, rfl, inner, nothing⟩ := cutParens rest
      cases apartNothing nothing
      obtain ⟨args, found, rfl⟩ := argumentsFolded list inner lexed.tail.tail.left
      exact ⟨_, .call noKeyword known found, rfl⟩
  | input word =>
      obtain ⟨tail, rfl, named⟩ := frontName shape
      obtain ⟨v, rfl, nothing⟩ := frontName named
      cases apartNothing nothing
      exact ⟨_, .input word, rfl⟩
  | jumpIf word test thenWord target =>
      obtain ⟨tail, rfl, rest⟩ := frontName shape
      obtain ⟨u, v, rfl, left, right⟩ := cutName rest
      obtain ⟨condition, found, rfl⟩ := expressionFolded test left lexed.tail.left
      have jump := targetFolded right lexed.tail.right target
      exact ⟨_, .jumpIf word found thenWord jump, rfl⟩
  | goto word target =>
      obtain ⟨v, rfl, rest⟩ := frontName shape
      exact ⟨_, .goto word (targetFolded rest lexed target), rfl⟩
  | gosub word target =>
      obtain ⟨v, rfl, rest⟩ := frontName shape
      exact ⟨_, .gosub word (targetFolded rest lexed target), rfl⟩
  | goBack word =>
      obtain ⟨v, rfl, nothing⟩ := frontName shape
      cases apartNothing nothing
      exact ⟨_, .goBack word, rfl⟩
  | loop word first toWord last =>
      obtain ⟨tail, rfl, named⟩ := frontName shape
      obtain ⟨_, rfl, assigned⟩ := frontName named
      obtain ⟨range, rfl, _, bounds⟩ := frontPlain (by simp) assigned
      obtain ⟨u, v, rfl, left, right⟩ := cutName bounds
      obtain ⟨start, from', rfl⟩ := expressionFolded first left lexed.tail.tail.tail.left
      obtain ⟨limit, to', rfl⟩ := expressionFolded last right lexed.tail.tail.tail.right.tail
      exact ⟨_, .loop word from' toWord to', rfl⟩
  | loopStep word first toWord last stepWord stride =>
      obtain ⟨tail, rfl, named⟩ := frontName shape
      obtain ⟨_, rfl, assigned⟩ := frontName named
      obtain ⟨range, rfl, _, bounds⟩ := frontPlain (by simp) assigned
      obtain ⟨u, rest, rfl, left, limited⟩ := cutName bounds
      obtain ⟨v, by', rfl, right, stepped⟩ := cutName limited
      have others := lexed.tail.tail.tail.right.tail
      obtain ⟨start, from', rfl⟩ := expressionFolded first left lexed.tail.tail.tail.left
      obtain ⟨limit, to', rfl⟩ := expressionFolded last right others.left
      obtain ⟨step, size, rfl⟩ := expressionFolded stride stepped others.right.tail
      exact ⟨_, .loopStep word from' toWord to' stepWord size, rfl⟩
  | next word =>
      obtain ⟨tail, rfl, named⟩ := frontName shape
      obtain ⟨v, rfl, nothing⟩ := frontName named
      cases apartNothing nothing
      exact ⟨_, .next word, rfl⟩
  | dim word list =>
      obtain ⟨v, rfl, rest⟩ := frontName shape
      obtain ⟨arrays, found, rfl⟩ := declarationsFolded rest lexed.tail list
      exact ⟨_, .dim word found, rfl⟩
  | reseed word =>
      obtain ⟨v, rfl, nothing⟩ := frontName shape
      cases apartNothing nothing
      exact ⟨_, .reseed word, rfl⟩
  | randomize word value =>
      obtain ⟨v, rfl, rest⟩ := frontName shape
      obtain ⟨seed, found, rfl⟩ := expressionFolded value rest lexed.tail
      exact ⟨_, .randomize word found, rfl⟩
  | finishEnd word =>
      obtain ⟨v, rfl, nothing⟩ := frontName shape
      cases apartNothing nothing
      exact ⟨_, .finishEnd word, rfl⟩
  | finishStop word =>
      obtain ⟨v, rfl, nothing⟩ := frontName shape
      cases apartNothing nothing
      exact ⟨_, .finishStop word, rfl⟩

theorem statementFolded {c w w' st'} (form : Statement isFunction c w' st')
    (shape : w.flatMap apart = w') (lexed : Lexed w) :
    ∃ st, Statement isFunction c w st ∧ st.apart = st' := by
  induction form generalizing w with
  | simple plain form =>
      obtain ⟨st, found, rfl⟩ := simpleFolded form shape lexed
      exact ⟨st, .simple plain found, rfl⟩
  | empty plain =>
      cases apartNothing shape
      exact ⟨_, .empty plain, rfl⟩
  | remark raw word =>
      obtain ⟨v, rfl, nothing⟩ := frontName shape
      cases apartNothing nothing
      exact ⟨_, .remark raw word, rfl⟩
  | doIf word test thenWord body shown ih =>
      obtain ⟨tail, rfl, rest⟩ := frontName shape
      obtain ⟨u, v, rfl, left, right⟩ := cutName rest
      obtain ⟨condition, found, rfl⟩ := expressionFolded test left lexed.tail.left
      obtain ⟨inner, nested, rfl⟩ := ih right lexed.tail.right.tail
      refine ⟨.doIf condition inner, .doIf word found thenWord nested ?_, rfl⟩
      rintro rfl
      exact shown right.symm

theorem statementsFolded {c w w' list'} (forms : Statements isFunction c w' list')
    (shape : w.flatMap apart = w') (lexed : Lexed w) :
    ∃ list, Statements isFunction c w list ∧ list.map Stmt.apart = list' := by
  induction forms generalizing w with
  | last final only =>
      obtain ⟨st, found, rfl⟩ := statementFolded only shape lexed
      exact ⟨[st], .last final found, rfl⟩
  | more first others ih =>
      obtain ⟨u, v, rfl, left, right⟩ := cutPlain (by simp) (by simp) shape
      obtain ⟨st, found, rfl⟩ := statementFolded first left lexed.left
      obtain ⟨list, rest, rfl⟩ := ih right lexed.right.tail
      exact ⟨st :: list, .more found rest, rfl⟩

end Grammar

section Lines

open LineBasic.Parser Grammar

variable {isFunction : String → Bool} {text : String}

def parseApart (isFunction : String → Bool) (text : String) : Except SyntaxFault Body :=
  parseStream isFunction text (TokenStream.signsApart text)

@[simp] theorem lexemesApart (tokens : List Token) : (tokens.flatMap Token.apart).map Token.lexeme =
    (tokens.map Token.lexeme).flatMap Lexeme.apart := by
  rw [List.map_flatMap, List.flatMap_map]
  exact congrArg (tokens.flatMap ·) (funext Token.apartLexemes)

theorem untilName (before after : List Token) (k : String) (pos : Nat) :
    before.map Token.lexeme ++ [.name k] <:+:
      (before ++ ⟨.name k, pos⟩ :: after).map Token.lexeme :=
  ⟨[], after.map Token.lexeme, by simp⟩

theorem untilNameApart (before : List Token) (k : String) :
    (before.map Token.lexeme ++ [Lexeme.name k]).flatMap Lexeme.apart =
      (before.flatMap Token.apart).map Token.lexeme ++ [.name k] := by
  rw [List.flatMap_append, List.flatMap_singleton, apartName, ← lexemesApart]

theorem lineApart (single : SingleSigns text) {body : Body}
    (derived : LineOf isFunction text body) :
    StreamOf isFunction text (TokenStream.signsApart text) body.apart := by
  have lexed := TokenStream.ofLineLexed text
  have plain := singleSignsPlain single
  have apart := TokenStream.signsApartLine text
  cases derived with
  | whole read forms =>
      rw [read] at lexed plain apart
      refine .whole apart ?_
      rw [lexemesApart]
      exact statementsApart forms lexed plain
  | @remarked before k pos after ending read forms =>
      rw [read] at lexed plain apart
      have inside := untilName before after k pos
      have shape : (before ++ ⟨.name k, pos⟩ :: after).flatMap Token.apart =
          before.flatMap Token.apart ++ ⟨.name k, pos⟩ :: after.flatMap Token.apart := by
        simp [Token.apart]
      simp only [shape] at apart
      have forms := statementsApart forms (lexed.within inside) (plain.within inside)
      rw [untilNameApart] at forms
      exact .remarked apart forms

theorem tokensCut {tokens before' after' : List Token} {k : String} {pos : Nat}
    (shape : tokens.flatMap Token.apart = before' ++ ⟨.name k, pos⟩ :: after') :
    ∃ before after, tokens = before ++ ⟨.name k, pos⟩ :: after ∧
      before.flatMap Token.apart = before' := by
  have forms : ∀ t : Token, t.apart = [t] ∨ ∃ a b, t.apart = [a, b] ∧
      ¬ (∀ d, b.lexeme ≠ .number d) ∧ a.lexeme ≠ .name k := by
    intro t
    rcases apartForms t.lexeme with whole | ⟨_, x, d, _, _, parts⟩
    · exact .inl (Token.apartOne whole)
    · exact .inr ⟨_, _, Token.apartTwo parts, fun all => all d rfl, by simp⟩
  have cuts : ∀ t : Token, t.apart = [t] ∨ ∃ a b, t.apart = [a, b] ∧
      ¬ (∀ d, b.lexeme ≠ .number d) :=
    fun t => (forms t).imp id fun ⟨a, b, parts, other, _⟩ => ⟨a, b, parts, other⟩
  obtain ⟨before, rest, rfl, front, behind⟩ :=
    cutAt (P := fun t : Token => ∀ d, t.lexeme ≠ .number d) cuts (by simp) shape
  cases rest with
  | nil => cases behind
  | cons t after =>
      rw [List.flatMap_cons] at behind
      rcases forms t with whole | ⟨a, b, parts, _, other⟩
      · rw [whole] at behind
        cases behind
        exact ⟨before, after, rfl, front⟩
      · rw [parts] at behind
        cases behind
        exact absurd rfl other

theorem bodyFolded {c : Close} {w w' : List Lexeme} {body' : Body}
    (forms : Statements isFunction c w' body'.toList) (shape : w.flatMap Lexeme.apart = w')
    (lexed : Lexed w) : ∃ body : Body, Statements isFunction c w body.toList ∧
      body.apart = body' := by
  obtain ⟨list, found, same⟩ := statementsFolded forms shape lexed
  obtain ⟨first, rest, rfl, one, others⟩ := List.map_eq_cons_iff.mp same
  refine ⟨⟨first, rest⟩, found, ?_⟩
  rw [Body.apart, one, others]

theorem lineFolded {body' : Body}
    (derived : StreamOf isFunction text (TokenStream.signsApart text) body') :
    ∃ body, LineOf isFunction text body ∧ body.apart = body' := by
  have lexed := TokenStream.ofLineLexed text
  generalize same : TokenStream.ofLine text = stream at lexed
  have apart := TokenStream.signsApartLine text
  rw [same] at apart
  obtain ⟨tokens, ending⟩ := stream
  cases derived with
  | @whole tokens' length read forms =>
      obtain ⟨shape, rfl⟩ := TokenStream.mk.inj (apart.symm.trans read)
      have shape : (tokens.map Token.lexeme).flatMap Lexeme.apart = tokens'.map Token.lexeme := by
        rw [← lexemesApart, shape]
      obtain ⟨body, found, rfl⟩ := bodyFolded forms shape lexed
      exact ⟨body, .whole same found, rfl⟩
  | @remarked before' k pos after' ending' read forms =>
      obtain ⟨shape, rfl⟩ := TokenStream.mk.inj (apart.symm.trans read)
      obtain ⟨before, after, rfl, front⟩ := tokensCut shape
      have inside := untilName before after k pos
      subst front
      obtain ⟨body, found, rfl⟩ :=
        bodyFolded forms (untilNameApart before k) (lexed.within inside)
      exact ⟨body, .remarked same found, rfl⟩

theorem parseApartSound {body : Body} (ok : parseApart isFunction text = .ok body) :
    StreamOf isFunction text (TokenStream.signsApart text) body :=
  parseStreamSound ((TokenStream.scanWithExact Cursor.nextApartAdvances).mp rfl).tokens ok

theorem parseApartExact (single : SingleSigns text) :
    (parseApart isFunction text).toOption =
      (parseLine isFunction text).toOption.map Body.apart := by
  cases folded : parseLine isFunction text with
  | ok body =>
      have derived := lineApart single (parseLineSound folded)
      rw [parseApart, parseStreamComplete derived]
      rfl
  | error f =>
      cases apart : parseApart isFunction text with
      | error g => rfl
      | ok body' =>
          obtain ⟨body, derived, _⟩ := lineFolded (parseApartSound apart)
          cases folded.symm.trans (parseLineComplete derived)

end Lines

end LineBasic
