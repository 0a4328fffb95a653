import LineBasic.Proofs.Syntax.Reading

/-!
The parser of expressions reads exactly the phrases of the grammar. Soundness goes by the depth
that bounds the recursion, completeness by the derivation: a phrase of `n` lexemes needs a depth
of `8 * n` at most, and a loop over a sum or product has come back to its head with the operands
so far.
-/
namespace LineBasic.Parser

open TokenStream Grammar

@[simp] theorem relationSome {t : Lexeme} {op : Relation} :
    relation? t = some op ↔ t = .symbol op.symbol := by
  constructor
  · intro found
    unfold relation? at found
    split at found <;> cases found <;> rfl
  · intro same
    subst same
    cases op <;> rfl

theorem sumOpSome {t : Lexeme} {op : ArithOp} :
    sumOp? t = some op ↔ (op = .add ∨ op = .subtract) ∧ t = .symbol op.symbol := by
  constructor
  · intro found
    unfold sumOp? at found
    split at found <;> cases found <;> simp [ArithOp.symbol]
  · intro shape
    obtain ⟨kind, rfl⟩ := shape
    rcases kind with rfl | rfl <;> rfl

theorem productOpSome {t : Lexeme} {op : ArithOp} :
    productOp? t = some op ↔ (op = .multiply ∨ op = .divide) ∧ t = .symbol op.symbol := by
  constructor
  · intro found
    unfold productOp? at found
    split at found <;> cases found <;> simp [ArithOp.symbol]
  · intro shape
    obtain ⟨kind, rfl⟩ := shape
    rcases kind with rfl | rfl <;> rfl

variable {isFunction : String → Bool}

/- What a success of each parser says at one depth. A loop is entered behind the operands `u` that
make up its left side, and the whole phrase counts from there. -/
structure Sound (isFunction : String → Bool) (n : Nat) : Prop where
  expression : ∀ {s e s'}, expression isFunction n s = .ok (e, s') →
    ∃ w, Reads s w s' ∧ Expression isFunction w e
  sum : ∀ {s e s'}, sum isFunction n s = .ok (e, s') →
    ∃ w, Reads s w s' ∧ Sum isFunction w e
  sumRest : ∀ {left s e s' u start}, Reads start u s → Sum isFunction u left →
    sumRest isFunction n left s = .ok (e, s') → ∃ w, Reads start w s' ∧ Sum isFunction w e
  product : ∀ {s e s'}, product isFunction n s = .ok (e, s') →
    ∃ w, Reads s w s' ∧ Product isFunction w e
  productRest : ∀ {left s e s' u start}, Reads start u s → Product isFunction u left →
    productRest isFunction n left s = .ok (e, s') →
    ∃ w, Reads start w s' ∧ Product isFunction w e
  signed : ∀ {s e s'}, signed isFunction n s = .ok (e, s') →
    ∃ w, Reads s w s' ∧ Signed isFunction w e
  operand : ∀ {s e s'}, operand isFunction n s = .ok (e, s') →
    ∃ w, Reads s w s' ∧ Operand isFunction w e
  named : ∀ {k s e s'}, named isFunction n (Text.upper k) s = .ok (e, s') →
    ∃ w, Reads s w s' ∧ Operand isFunction (.name k :: w) e
  arguments : ∀ {s es s'}, arguments isFunction n s = .ok (es, s') →
    ∃ w, Reads s (w ++ [.symbol .close]) s' ∧ ArgumentList isFunction w es
  expressions : ∀ {s es s'}, expressions isFunction n s = .ok (es, s') →
    ∃ w, Reads s (w ++ [.symbol .close]) s' ∧ Expressions isFunction w es

theorem soundZero : Sound isFunction 0 where
  expression ok := nomatch ok
  sum ok := nomatch ok
  sumRest _ _ ok := nomatch ok
  product ok := nomatch ok
  productRest _ _ ok := nomatch ok
  signed ok := nomatch ok
  operand ok := nomatch ok
  named ok := nomatch ok
  arguments ok := nomatch ok
  expressions ok := nomatch ok

section Step

variable {n : Nat} {s s' : TokenStream} {e : Expr}

theorem expressionSound (ih : Sound isFunction n)
    (ok : expression isFunction (n + 1) s = .ok (e, s')) :
    ∃ w, Reads s w s' ∧ Expression isFunction w e := by
  simp only [expression, bindOk, peekOk] at ok
  obtain ⟨left, mid, first, t, _, ⟨ahead, rfl⟩, rest⟩ := ok
  obtain ⟨u, readU, leftSum⟩ := ih.sum first
  cases op : relation? t with
  | none =>
      simp only [op, pureOk] at rest
      obtain ⟨rfl, rfl⟩ := rest
      exact ⟨u, readU, .sum leftSum⟩
  | some r =>
      simp only [op, bindOk, skipOk, pureOk] at rest
      obtain ⟨_, _, rfl, right, _, second, rfl, rfl⟩ := rest
      obtain ⟨v, readV, rightSum⟩ := ih.sum second
      have shape := relationSome.mp op
      subst shape
      have readOp := ahead.reads (by simp)
      exact ⟨_, readU.trans (readOp.cons readV), .compare r leftSum rightSum⟩

theorem sumRestSound (ih : Sound isFunction n) {left u start} (readU : Reads start u s)
    (leftSum : Sum isFunction u left) (ok : sumRest isFunction (n + 1) left s = .ok (e, s')) :
    ∃ w, Reads start w s' ∧ Sum isFunction w e := by
  simp only [sumRest, bindOk, peekOk] at ok
  obtain ⟨t, _, ⟨ahead, rfl⟩, rest⟩ := ok
  cases op : sumOp? t with
  | none =>
      simp only [op, pureOk] at rest
      obtain ⟨rfl, rfl⟩ := rest
      exact ⟨u, readU, leftSum⟩
  | some r =>
      simp only [op, bindOk, skipOk] at rest
      obtain ⟨_, _, rfl, right, mid, second, more⟩ := rest
      obtain ⟨v, readV, rightProduct⟩ := ih.product second
      obtain ⟨kind, rfl⟩ := sumOpSome.mp op
      have readOp := ahead.reads (by simp)
      exact ih.sumRest (readU.trans (readOp.cons readV)) (.add kind leftSum rightProduct) more

theorem productRestSound (ih : Sound isFunction n) {left u start} (readU : Reads start u s)
    (leftProduct : Product isFunction u left)
    (ok : productRest isFunction (n + 1) left s = .ok (e, s')) :
    ∃ w, Reads start w s' ∧ Product isFunction w e := by
  simp only [productRest, bindOk, peekOk] at ok
  obtain ⟨t, _, ⟨ahead, rfl⟩, rest⟩ := ok
  cases op : productOp? t with
  | none =>
      simp only [op, pureOk] at rest
      obtain ⟨rfl, rfl⟩ := rest
      exact ⟨u, readU, leftProduct⟩
  | some r =>
      simp only [op, bindOk, skipOk] at rest
      obtain ⟨_, _, rfl, right, mid, second, more⟩ := rest
      obtain ⟨v, readV, rightSigned⟩ := ih.signed second
      obtain ⟨kind, rfl⟩ := productOpSome.mp op
      have readOp := ahead.reads (by simp)
      exact ih.productRest (readU.trans (readOp.cons readV))
        (.multiply kind leftProduct rightSigned)
        more

theorem signedSound (ih : Sound isFunction n)
    (ok : signed isFunction (n + 1) s = .ok (e, s')) :
    ∃ w, Reads s w s' ∧ Signed isFunction w e := by
  simp only [signed, bindOk, peekOk] at ok
  obtain ⟨t, _, ⟨ahead, rfl⟩, rest⟩ := ok
  split at rest
  · simp only [bindOk, skipOk] at rest
    obtain ⟨_, _, rfl, more⟩ := rest
    obtain ⟨w, readW, inner⟩ := ih.signed more
    exact ⟨_, (ahead.reads (by simp)).cons readW, .plus inner⟩
  · simp only [bindOk, skipOk, pureOk] at rest
    obtain ⟨_, _, rfl, x, _, more, rfl, rfl⟩ := rest
    obtain ⟨w, readW, inner⟩ := ih.signed more
    exact ⟨_, (ahead.reads (by simp)).cons readW, .minus inner⟩
  · obtain ⟨w, readW, inner⟩ := ih.operand rest
    exact ⟨w, readW, .operand inner⟩

theorem operandSound (ih : Sound isFunction n)
    (ok : operand isFunction (n + 1) s = .ok (e, s')) :
    ∃ w, Reads s w s' ∧ Operand isFunction w e := by
  simp only [operand, bindOk, nextOk] at ok
  obtain ⟨t, _, ⟨ahead, rfl⟩, rest⟩ := ok
  cases t with
  | endOfLine => exact absurd rest failOk
  | number k =>
      simp only at rest
      cases value : Number.read? k with
      | none =>
          simp only [value] at rest
          exact absurd rest failOk
      | some x =>
          simp only [value, pureOk] at rest
          obtain ⟨rfl, rfl⟩ := rest
          exact ⟨_, ahead.reads (by simp), .number value⟩
  | text contents =>
      obtain ⟨rfl, rfl⟩ := pureOk.mp rest
      exact ⟨_, ahead.reads (by simp), .text contents⟩
  | name k =>
      obtain ⟨w, readW, form⟩ := ih.named rest
      exact ⟨_, (ahead.reads (by simp)).cons readW, form⟩
  | symbol x =>
      cases x
      case «open» =>
        simp only [bindOk, expectOk, pureOk] at rest
        obtain ⟨inner, mid, found, _, _, close, rfl, rfl⟩ := rest
        obtain ⟨w, readW, form⟩ := ih.expression found
        exact ⟨_, (ahead.reads (by simp)).cons (readW.trans close), .group form⟩
      all_goals exact absurd rest failOk

theorem namedSound (ih : Sound isFunction n) {k}
    (ok : named isFunction (n + 1) (Text.upper k) s = .ok (e, s')) :
    ∃ w, Reads s w s' ∧ Operand isFunction (.name k :: w) e := by
  simp only [named, bindOk, peekOk] at ok
  obtain ⟨t, _, ⟨ahead, rfl⟩, rest⟩ := ok
  split at rest
  · rename_i opened
    subst opened
    simp only [bindOk, skipOk] at rest
    obtain ⟨_, _, rfl, more⟩ := rest
    have readOpen := ahead.reads (by simp)
    cases known : isFunction (Text.upper k) with
    | true =>
        simp only [known, if_true, bindOk, pureOk] at more
        obtain ⟨args, _, list, rfl, rfl⟩ := more
        obtain ⟨w, readW, form⟩ := ih.arguments list
        exact ⟨_, readOpen.cons readW, .call known form⟩
    | false =>
        simp only [known, Bool.false_eq_true, if_false, bindOk, pureOk] at more
        obtain ⟨index, _, list, rfl, rfl⟩ := more
        obtain ⟨w, readW, form⟩ := ih.expressions list
        exact ⟨_, readOpen.cons readW, .element known form⟩
  · obtain ⟨rfl, rfl⟩ := pureOk.mp rest
    exact ⟨[], readsNothing s, .scalar k⟩

theorem argumentsSound (ih : Sound isFunction n) {es}
    (ok : arguments isFunction (n + 1) s = .ok (es, s')) :
    ∃ w, Reads s (w ++ [.symbol .close]) s' ∧ ArgumentList isFunction w es := by
  simp only [arguments, bindOk] at ok
  obtain ⟨closed, mid, first, rest⟩ := ok
  cases closed with
  | true =>
      obtain ⟨rfl, rfl⟩ := pureOk.mp rest
      exact ⟨[], acceptYes.mp first, .none⟩
  | false =>
      obtain ⟨rfl, _⟩ := acceptNo.mp first
      obtain ⟨w, readW, form⟩ := ih.expressions rest
      exact ⟨w, readW, .some form⟩

theorem expressionsSound (ih : Sound isFunction n) {es}
    (ok : expressions isFunction (n + 1) s = .ok (es, s')) :
    ∃ w, Reads s (w ++ [.symbol .close]) s' ∧ Expressions isFunction w es := by
  simp only [expressions, bindOk, nextOk] at ok
  obtain ⟨first, mid, found, t, _, ⟨ahead, rfl⟩, rest⟩ := ok
  obtain ⟨u, readU, form⟩ := ih.expression found
  split at rest
  · simp only [bindOk, pureOk] at rest
    obtain ⟨others, _, more, rfl, rfl⟩ := rest
    obtain ⟨v, readV, list⟩ := ih.expressions more
    have readComma := ahead.reads (by simp)
    refine ⟨u ++ .symbol .comma :: v, ?_, .more form list⟩
    simpa using readU.trans (readComma.cons readV)
  · obtain ⟨rfl, rfl⟩ := pureOk.mp rest
    exact ⟨u, readU.trans (ahead.reads (by simp)), .one form⟩
  · exact absurd rest failOk

end Step

theorem soundSucc {n} (ih : Sound isFunction n) : Sound isFunction (n + 1) where
  expression := expressionSound ih
  sum := by
    intro s e s' ok
    simp only [sum, bindOk] at ok
    obtain ⟨first, mid, found, rest⟩ := ok
    obtain ⟨u, readU, form⟩ := ih.product found
    exact ih.sumRest readU (.product form) rest
  sumRest := sumRestSound ih
  product := by
    intro s e s' ok
    simp only [product, bindOk] at ok
    obtain ⟨first, mid, found, rest⟩ := ok
    obtain ⟨u, readU, form⟩ := ih.signed found
    exact ih.productRest readU (.signed form) rest
  productRest := productRestSound ih
  signed := signedSound ih
  operand := operandSound ih
  named := namedSound ih
  arguments := argumentsSound ih
  expressions := expressionsSound ih

theorem soundAt (isFunction : String → Bool) (n : Nat) : Sound isFunction n := by
  induction n with
  | zero => exact soundZero
  | succ n ih => exact soundSucc ih

def EndsProduct (t : Lexeme) : Prop := productOp? t = none ∧ t ≠ .symbol .open
def EndsSum (t : Lexeme) : Prop := sumOp? t = none ∧ EndsProduct t
def EndsExpression (t : Lexeme) : Prop := relation? t = none ∧ EndsSum t

theorem relationEndsSum (op : Relation) : EndsSum (.symbol op.symbol) := by
  cases op <;> simp [EndsSum, EndsProduct, Relation.symbol, sumOp?, productOp?]

theorem sumOpEndsProduct {op : ArithOp} (kind : op = .add ∨ op = .subtract) :
    EndsProduct (.symbol op.symbol) := by
  rcases kind with rfl | rfl <;> simp [EndsProduct, ArithOp.symbol, productOp?]

theorem productOpNotOpen {op : ArithOp} (kind : op = .multiply ∨ op = .divide) :
    Lexeme.symbol op.symbol ≠ .symbol .open := by
  rcases kind with rfl | rfl <;> simp [ArithOp.symbol]

theorem closeEnds : EndsExpression (.symbol .close) := by
  simp [EndsExpression, EndsSum, EndsProduct, relation?, sumOp?, productOp?]

theorem commaEnds : EndsExpression (.symbol .comma) := by
  simp [EndsExpression, EndsSum, EndsProduct, relation?, sumOp?, productOp?]

def StartsOperand : Lexeme → Prop
  | .number _ => True
  | .text _ => True
  | .name _ => True
  | .symbol x => x = .plus ∨ x = .minus ∨ x = .open
  | .endOfLine => False

mutual

theorem expressionStarts {w e} : Expression isFunction w e → ∃ t v, w = t :: v ∧ StartsOperand t
  | .sum form => sumStarts form
  | .compare op left right => by
      obtain ⟨t, v, rfl, starts⟩ := sumStarts left
      exact ⟨t, _, rfl, starts⟩

theorem sumStarts {w e} : Sum isFunction w e → ∃ t v, w = t :: v ∧ StartsOperand t
  | .product form => productStarts form
  | .add kind left right => by
      obtain ⟨t, v, rfl, starts⟩ := sumStarts left
      exact ⟨t, _, rfl, starts⟩

theorem productStarts {w e} : Product isFunction w e → ∃ t v, w = t :: v ∧ StartsOperand t
  | .signed form => signedStarts form
  | .multiply kind left right => by
      obtain ⟨t, v, rfl, starts⟩ := productStarts left
      exact ⟨t, _, rfl, starts⟩

theorem signedStarts {w e} : Signed isFunction w e → ∃ t v, w = t :: v ∧ StartsOperand t
  | .operand form => operandStarts form
  | .plus inner => ⟨_, _, rfl, .inl rfl⟩
  | .minus inner => ⟨_, _, rfl, .inr (.inl rfl)⟩

theorem operandStarts {w e} : Operand isFunction w e → ∃ t v, w = t :: v ∧ StartsOperand t
  | .number value => ⟨_, _, rfl, trivial⟩
  | .text contents => ⟨_, _, rfl, trivial⟩
  | .scalar spelling => ⟨_, _, rfl, trivial⟩
  | .call known list => ⟨_, _, rfl, trivial⟩
  | .element unknown list => ⟨_, _, rfl, trivial⟩
  | .group inner => ⟨_, _, rfl, .inr (.inr rfl)⟩

end

theorem expressionLength {w e} (form : Expression isFunction w e) : 0 < w.length := by
  obtain ⟨t, v, rfl, _⟩ := expressionStarts form
  simp

theorem sumLength {w e} (form : Sum isFunction w e) : 0 < w.length := by
  obtain ⟨t, v, rfl, _⟩ := sumStarts form
  simp

theorem productLength {w e} (form : Product isFunction w e) : 0 < w.length := by
  obtain ⟨t, v, rfl, _⟩ := productStarts form
  simp

theorem signedLength {w e} (form : Signed isFunction w e) : 0 < w.length := by
  obtain ⟨t, v, rfl, _⟩ := signedStarts form
  simp

theorem expressionsStarts {w es} (list : Expressions isFunction w es) :
    ∃ t v, w = t :: v ∧ StartsOperand t := by
  cases list with
  | one only => exact expressionStarts only
  | more first rest =>
      obtain ⟨t, v, rfl, starts⟩ := expressionStarts first
      exact ⟨t, _, rfl, starts⟩

theorem sumRestDone {n left s t} (enough : 0 < n) (ahead : Ahead s t) (ends : sumOp? t = none) :
    sumRest isFunction n left s = .ok (left, s) := by
  obtain ⟨n, rfl⟩ := Nat.exists_eq_add_of_lt enough
  rw [Nat.zero_add, sumRest, bindRun (peekRun ahead)]
  simp only [ends]
  rfl

theorem productRestDone {n left s t} (enough : 0 < n) (ahead : Ahead s t)
    (ends : productOp? t = none) : productRest isFunction n left s = .ok (left, s) := by
  obtain ⟨n, rfl⟩ := Nat.exists_eq_add_of_lt enough
  rw [Nat.zero_add, productRest, bindRun (peekRun ahead)]
  simp only [ends]
  rfl

/- Completeness for all phrases of fewer than `k` lexemes. The loops are stated as far as their head
and not to their end, so that a longer phrase can go on from there. -/
structure Complete (isFunction : String → Bool) (k : Nat) : Prop where
  expression : ∀ {w e n s s' t}, Expression isFunction w e → w.length < k →
    8 * w.length ≤ n + 2 → Reads s w s' → Ahead s' t → EndsExpression t →
    expression isFunction n s = .ok (e, s')
  sumLoop : ∀ {w e n s s' t}, Sum isFunction w e → w.length < k → 8 * w.length ≤ n + 3 →
    Reads s w s' → Ahead s' t → EndsProduct t →
    ∃ m, n ≤ m + w.length ∧ sum isFunction n s = sumRest isFunction m e s'
  productLoop : ∀ {w e n s s' t}, Product isFunction w e → w.length < k → 8 * w.length ≤ n + 4 →
    Reads s w s' → Ahead s' t → t ≠ .symbol .open →
    ∃ m, n ≤ m + w.length ∧ product isFunction n s = productRest isFunction m e s'
  signed : ∀ {w e n s s' t}, Signed isFunction w e → w.length < k → 8 * w.length ≤ n + 5 →
    Reads s w s' → Ahead s' t → t ≠ .symbol .open → signed isFunction n s = .ok (e, s')
  expressions : ∀ {w es n s s'}, Expressions isFunction w es → w.length < k →
    8 * w.length ≤ n + 1 → Reads s (w ++ [.symbol .close]) s' →
    expressions isFunction n s = .ok (es, s')

section Longer

variable {k n : Nat} {s s' : TokenStream} {t : Lexeme} {w : List Lexeme} {e : Expr}

theorem argumentsComplete (ih : Complete isFunction k) {es} (list : ArgumentList isFunction w es)
    (size : w.length < k) (enough : 8 * w.length ≤ n) (one : 0 < n)
    (reads : Reads s (w ++ [.symbol .close]) s') : arguments isFunction n s = .ok (es, s') := by
  obtain ⟨n, rfl⟩ := Nat.exists_eq_add_of_lt one
  rw [Nat.zero_add, arguments]
  cases list with
  | none =>
      rw [bindRun (acceptYes.mpr reads)]
      rfl
  | some list =>
      have other : accept .close s = .ok (false, s) := by
        obtain ⟨t, v, rfl, starts⟩ := expressionsStarts list
        refine acceptNo.mpr ⟨rfl, t, reads.ahead, ?_⟩
        intro same
        subst same
        simp [StartsOperand] at starts
      rw [bindRun other]
      exact ih.expressions list size (by omega) reads

theorem operandComplete (ih : Complete isFunction k) (form : Operand isFunction w e)
    (size : w.length ≤ k) (enough : 8 * w.length ≤ n + 6) (reads : Reads s w s')
    (ahead : Ahead s' t) (ends : t ≠ .symbol .open) : operand isFunction n s = .ok (e, s') := by
  obtain ⟨n, rfl⟩ : ∃ m, n = m + 2 := by
    obtain ⟨t, v, rfl, _⟩ := operandStarts form
    simp only [List.length_cons] at enough
    exact ⟨n - 2, by omega⟩
  rw [operand]
  cases form with
  | number value =>
      rw [bindRun (nextRun reads)]
      simp only [value]
      rfl
  | text contents =>
      rw [bindRun (nextRun reads)]
      rfl
  | scalar spelling =>
      rw [bindRun (nextRun reads)]
      simp only [named]
      rw [bindRun (peekRun ahead), if_neg ends]
      rfl
  | call known list =>
      simp only [List.length_cons, List.length_append, List.length_nil] at enough size
      obtain ⟨mid, readName, readRest⟩ := reads.uncons
      obtain ⟨after, readOpen, readList⟩ := readRest.uncons
      rw [bindRun (nextRun readName)]
      simp only [named]
      rw [bindRun (peekRun readOpen.ahead), if_pos rfl, bindRun (skipRun readOpen), if_pos known,
        bindRun (argumentsComplete ih list (by omega) (by omega) (by omega) readList)]
      rfl
  | element unknown list =>
      simp only [List.length_cons, List.length_append, List.length_nil] at enough size
      obtain ⟨mid, readName, readRest⟩ := reads.uncons
      obtain ⟨after, readOpen, readList⟩ := readRest.uncons
      rw [bindRun (nextRun readName)]
      simp only [named]
      rw [bindRun (peekRun readOpen.ahead), if_pos rfl, bindRun (skipRun readOpen),
        if_neg (by simp [unknown]),
        bindRun (ih.expressions list (by omega) (by omega) readList)]
      rfl
  | group inner =>
      simp only [List.length_cons, List.length_append, List.length_nil] at enough size
      obtain ⟨mid, readOpen, readRest⟩ := reads.uncons
      obtain ⟨after, readW, readClose⟩ := readRest.split
      have closed : expect .close after = .ok ((), s') := expectOk.mpr readClose
      rw [bindRun (nextRun readOpen)]
      simp only
      rw [bindRun (ih.expression inner (by omega) (by omega) readW readClose.ahead closeEnds),
        bindRun closed]
      rfl

theorem signedComplete (ih : Complete isFunction k) (form : Signed isFunction w e)
    (size : w.length ≤ k) (enough : 8 * w.length ≤ n + 5) (reads : Reads s w s')
    (ahead : Ahead s' t) (ends : t ≠ .symbol .open) : signed isFunction n s = .ok (e, s') := by
  have length := signedLength form
  obtain ⟨n, rfl⟩ : ∃ m, n = m + 1 := ⟨n - 1, by omega⟩
  rw [signed]
  cases form with
  | operand form =>
      have run := operandComplete ih form (n := n) size (by omega) reads ahead ends
      cases form <;> rw [bindRun (peekRun reads.ahead)] <;> exact run
  | plus inner =>
      simp only [List.length_cons] at enough size
      obtain ⟨mid, readSign, readW⟩ := reads.uncons
      rw [bindRun (peekRun readSign.ahead)]
      simp only
      rw [bindRun (skipRun readSign), ih.signed inner (by omega) (by omega) readW ahead ends]
  | minus inner =>
      simp only [List.length_cons] at enough size
      obtain ⟨mid, readSign, readW⟩ := reads.uncons
      rw [bindRun (peekRun readSign.ahead)]
      simp only
      rw [bindRun (skipRun readSign),
        bindRun (ih.signed inner (by omega) (by omega) readW ahead ends)]
      rfl

theorem productLoopComplete (ih : Complete isFunction k) (form : Product isFunction w e)
    (size : w.length ≤ k) (enough : 8 * w.length ≤ n + 4) (reads : Reads s w s')
    (ahead : Ahead s' t) (ends : t ≠ .symbol .open) :
    ∃ m, n ≤ m + w.length ∧ product isFunction n s = productRest isFunction m e s' := by
  have length := productLength form
  cases form with
  | signed form =>
      obtain ⟨n, rfl⟩ : ∃ m, n = m + 1 := ⟨n - 1, by omega⟩
      refine ⟨n, by omega, ?_⟩
      rw [product, bindRun (signedComplete ih form size (by omega) reads ahead ends)]
  | multiply kind left right =>
      have leftLength := productLength left
      simp only [List.length_append, List.length_cons] at enough size ⊢
      obtain ⟨mid, readU, readRest⟩ := reads.split
      obtain ⟨after, readOp, readV⟩ := readRest.uncons
      obtain ⟨m, fuel, run⟩ := ih.productLoop left (n := n) (by omega) (by omega) readU
        readOp.ahead (productOpNotOpen kind)
      obtain ⟨m, rfl⟩ : ∃ k, m = k + 1 := ⟨m - 1, by omega⟩
      refine ⟨m, by omega, ?_⟩
      rw [run, productRest, bindRun (peekRun readOp.ahead)]
      simp only [productOpSome.mpr ⟨kind, rfl⟩]
      rw [bindRun (skipRun readOp),
        bindRun (ih.signed right (by omega) (by omega) readV ahead ends)]

theorem productDone (form : Product isFunction w e)
    (loop : ∃ m, n ≤ m + w.length ∧ product isFunction n s = productRest isFunction m e s')
    (enough : 8 * w.length ≤ n + 4) (ahead : Ahead s' t) (ends : EndsProduct t) :
    product isFunction n s = .ok (e, s') := by
  have length := productLength form
  obtain ⟨m, fuel, run⟩ := loop
  rw [run, productRestDone (by omega) ahead ends.1]

theorem sumDone (form : Sum isFunction w e)
    (loop : ∃ m, n ≤ m + w.length ∧ sum isFunction n s = sumRest isFunction m e s')
    (enough : 8 * w.length ≤ n + 3) (ahead : Ahead s' t) (ends : EndsSum t) :
    sum isFunction n s = .ok (e, s') := by
  have length := sumLength form
  obtain ⟨m, fuel, run⟩ := loop
  rw [run, sumRestDone (by omega) ahead ends.1]

theorem sumLoopComplete (ih : Complete isFunction k) (form : Sum isFunction w e)
    (size : w.length ≤ k) (enough : 8 * w.length ≤ n + 3) (reads : Reads s w s')
    (ahead : Ahead s' t) (ends : EndsProduct t) :
    ∃ m, n ≤ m + w.length ∧ sum isFunction n s = sumRest isFunction m e s' := by
  have length := sumLength form
  cases form with
  | product form =>
      obtain ⟨n, rfl⟩ : ∃ m, n = m + 1 := ⟨n - 1, by omega⟩
      have loop := productLoopComplete ih form (n := n) size (by omega) reads ahead ends.2
      refine ⟨n, by omega, ?_⟩
      rw [sum, bindRun (productDone form loop (by omega) ahead ends)]
  | add kind left right =>
      have leftLength := sumLength left
      simp only [List.length_append, List.length_cons] at enough size ⊢
      obtain ⟨mid, readU, readRest⟩ := reads.split
      obtain ⟨after, readOp, readV⟩ := readRest.uncons
      obtain ⟨m, fuel, run⟩ := ih.sumLoop left (n := n) (by omega) (by omega) readU
        readOp.ahead (sumOpEndsProduct kind)
      obtain ⟨m, rfl⟩ : ∃ k, m = k + 1 := ⟨m - 1, by omega⟩
      have loop := ih.productLoop right (n := m) (by omega) (by omega) readV ahead ends.2
      refine ⟨m, by omega, ?_⟩
      rw [run, sumRest, bindRun (peekRun readOp.ahead)]
      simp only [sumOpSome.mpr ⟨kind, rfl⟩]
      rw [bindRun (skipRun readOp), bindRun (productDone right loop (by omega) ahead ends)]

theorem expressionComplete (ih : Complete isFunction k) (form : Expression isFunction w e)
    (size : w.length ≤ k) (enough : 8 * w.length ≤ n + 2) (reads : Reads s w s')
    (ahead : Ahead s' t) (ends : EndsExpression t) : expression isFunction n s = .ok (e, s') := by
  have length := expressionLength form
  obtain ⟨n, rfl⟩ : ∃ m, n = m + 1 := ⟨n - 1, by omega⟩
  rw [expression]
  cases form with
  | sum form =>
      have loop := sumLoopComplete ih form (n := n) size (by omega) reads ahead ends.2.2
      rw [bindRun (sumDone form loop (by omega) ahead ends.2), bindRun (peekRun ahead)]
      simp only [ends.1]
      rfl
  | compare op left right =>
      have leftLength := sumLength left
      simp only [List.length_append, List.length_cons] at enough size
      obtain ⟨mid, readU, readRest⟩ := reads.split
      obtain ⟨after, readOp, readV⟩ := readRest.uncons
      have stops := relationEndsSum op
      have first := ih.sumLoop left (n := n) (by omega) (by omega) readU readOp.ahead stops.2
      have second := ih.sumLoop right (n := n) (by omega) (by omega) readV ahead ends.2.2
      rw [bindRun (sumDone left first (by omega) readOp.ahead stops),
        bindRun (peekRun readOp.ahead)]
      simp only [relationSome.mpr rfl]
      rw [bindRun (skipRun readOp), bindRun (sumDone right second (by omega) ahead ends.2)]
      rfl

theorem expressionsComplete (ih : Complete isFunction k) {es} (list : Expressions isFunction w es)
    (size : w.length ≤ k) (enough : 8 * w.length ≤ n + 1)
    (reads : Reads s (w ++ [.symbol .close]) s') : expressions isFunction n s = .ok (es, s') := by
  cases list with
  | one only =>
      have length := expressionLength only
      obtain ⟨n, rfl⟩ : ∃ m, n = m + 1 := ⟨n - 1, by omega⟩
      obtain ⟨mid, readW, readClose⟩ := reads.split
      rw [expressions,
        bindRun (expressionComplete ih only size (by omega) readW readClose.ahead closeEnds),
        bindRun (nextRun readClose)]
      rfl
  | more first rest =>
      have length := expressionLength first
      simp only [List.length_append, List.length_cons] at enough size
      obtain ⟨n, rfl⟩ : ∃ m, n = m + 1 := ⟨n - 1, by omega⟩
      rw [List.append_assoc] at reads
      obtain ⟨mid, readU, readRest⟩ := reads.split
      obtain ⟨after, readComma, readV⟩ := readRest.uncons
      rw [expressions,
        bindRun (ih.expression first (by omega) (by omega) readU readComma.ahead commaEnds),
        bindRun (nextRun readComma)]
      simp only
      rw [bindRun (ih.expressions rest (by omega) (by omega) readV)]
      rfl

end Longer

theorem completeAt (isFunction : String → Bool) (k : Nat) : Complete isFunction k := by
  induction k with
  | zero => constructor <;> (intros; contradiction)
  | succ k ih =>
    exact {
      expression := fun form size => expressionComplete ih form (by omega)
      sumLoop := fun form size => sumLoopComplete ih form (by omega)
      productLoop := fun form size => productLoopComplete ih form (by omega)
      signed := fun form size => signedComplete ih form (by omega)
      expressions := fun list size => expressionsComplete ih list (by omega) }

end LineBasic.Parser
