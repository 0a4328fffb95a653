import LineBasic.Proofs.Syntax.Statements

/-!
What a call of the parser does to the tokens, whether it succeeds or fails. It leaves a last part of
the tokens it was given, and a fault it reports is about the next token at some such place. That the
recursion is too deep is never reported by a call that is allowed a depth in proportion to the
tokens still before it: a cycle of calls takes at least one token for every five calls.
-/
namespace LineBasic

namespace TokenStream

def Passes (k : Nat) (s s' : TokenStream) : Prop :=
  s'.tokens <:+ s.tokens ∧ s'.tokens.length + k ≤ s.tokens.length

variable {j k : Nat} {s s' s'' : TokenStream}

theorem passesNothing (s : TokenStream) : Passes 0 s s := ⟨List.suffix_refl _, Nat.le_refl _⟩

theorem passesAll (s : TokenStream) (length : Nat) : Passes 0 s ⟨[], .ok length⟩ :=
  ⟨List.nil_suffix, Nat.zero_le _⟩

theorem Passes.trans (first : Passes j s s') (second : Passes k s' s'') :
    Passes (j + k) s s'' := by
  have fewer := first.2
  have fewest := second.2
  exact ⟨second.1.trans first.1, by omega⟩

theorem Passes.weaken (passes : Passes k s s') (less : j ≤ k) : Passes j s s' := by
  have fewer := passes.2
  exact ⟨passes.1, by omega⟩

theorem Reads.passes {w : List Lexeme} (reads : Reads s w s') (enough : k ≤ w.length) :
    Passes k s s' := by
  have shorter := reads.length
  obtain ⟨front, rfl, _⟩ := reads
  exact ⟨List.suffix_append front s'.tokens, by omega⟩

theorem Ahead.passes {t : Lexeme} (ahead : Ahead s t) (token : t ≠ .endOfLine) :
    Passes 1 s s.advance := (ahead.reads token).passes (Nat.le_refl 1)

def Suffices (n c : Nat) (s : TokenStream) : Prop := 5 * s.tokens.length + c ≤ n

theorem Suffices.room {n c : Nat} (deep : Suffices n (c + 1) s) : s.tokens.length < n := by
  unfold Suffices at deep
  omega

theorem Suffices.later {n b c : Nat} (deep : Suffices n c s) (passes : Passes k s s')
    (less : b ≤ 5 * k + c) : Suffices n b s' := by
  have fewer := passes.2
  unfold Suffices at deep ⊢
  omega

theorem Suffices.deeper {n b c : Nat} (deep : Suffices (n + 1) c s) (passes : Passes k s s')
    (less : b + 1 ≤ 5 * k + c) : Suffices n b s' := by
  have fewer := passes.2
  unfold Suffices at deep ⊢
  omega

end TokenStream

def ParseFault.about? : ParseFault → Option Lexeme
  | expected _ got => some got
  | expectedVariable got => some got
  | expectedLineNumber got => some got
  | expectedListEnd got => some got
  | unknownStatement got => some got
  | missingTarget => some .endOfLine
  | endOfExpression => some .endOfLine
  | illegalNumber spelling => some (.number spelling)
  | unexpected got => some got
  | leftover _ => none
  | tooDeep => none

namespace Parser

open TokenStream

/- A fault is met at `s`: the characters there make no token, or the token there is the one it is
about. A recursion that is too deep is met nowhere. -/
inductive MetAt (s : TokenStream) : SyntaxFault → Prop where
  | lexical {f} (stops : s.peek = .error f) : MetAt s (.lexical f)
  | token {f t} (about : f.about? = some t) (ahead : Ahead s t) : MetAt s (.grammar f)
  | leftover {text t} (ahead : Ahead s t) (more : t ≠ .endOfLine) :
      MetAt s (.grammar (.leftover text))

structure Runs {α : Type} (k : Nat) (p : Parser α) (s : TokenStream) : Prop where
  passes {a s'} (done : p s = .ok (a, s')) : Passes k s s'
  met {f} (failed : p s = .error f) : ∃ s', Passes 0 s s' ∧ MetAt s' f

theorem Runs.weaken {α : Type} {j k : Nat} {p : Parser α} {s : TokenStream} (runs : Runs k p s)
    (less : j ≤ k) : Runs j p s where
  passes done := (runs.passes done).weaken less
  met := runs.met

theorem MetAt.notTooDeep {s : TokenStream} {f : SyntaxFault} (met : MetAt s f) :
    f ≠ .grammar .tooDeep := by
  rintro rfl
  cases met with
  | token about ahead => cases about

section Rules

variable {α β : Type} {i j k : Nat} {s : TokenStream} {t : Lexeme}

theorem runsOn {p q : Parser α} {mid : TokenStream} (same : q s = p mid) (onward : Passes j s mid)
    (runs : Runs k p mid) (enough : i ≤ j + k) : Runs i q s where
  passes done := (onward.trans (runs.passes (same.symm.trans done))).weaken enough
  met failed := by
    obtain ⟨s', more, met⟩ := runs.met (same.symm.trans failed)
    exact ⟨s', (onward.weaken (Nat.zero_le j)).trans more, met⟩

theorem runsStop {q : Parser α} {f : SyntaxFault} (stops : q s = .error f)
    (met : ∃ s', Passes 0 s s' ∧ MetAt s' f) : Runs k q s where
  passes done := by
    rw [stops] at done
    cases done
  met failed := by
    rw [stops] at failed
    cases failed
    exact met

theorem bindStop {p : Parser α} {f : α → Parser β} {e : SyntaxFault} (stops : p s = .error e) :
    (p >>= f) s = .error e := by
  change Except.bind (p s) (fun r => f r.1 r.2) = _
  rw [stops]
  rfl

theorem runsBind {p : Parser α} {f : α → Parser β} (first : Runs j p s)
    (rest : ∀ a mid, p s = .ok (a, mid) → Passes j s mid → Runs k (f a) mid)
    (enough : i ≤ j + k) : Runs i (p >>= f) s := by
  cases ran : p s with
  | error e => exact runsStop (bindStop ran) (first.met ran)
  | ok r =>
      obtain ⟨a, mid⟩ := r
      have onward := first.passes ran
      exact runsOn (bindRun ran) onward (rest a mid ran onward) enough

theorem runsPure (a : α) : Runs 0 (pure a : Parser α) s where
  passes := by
    intro b s' done
    obtain ⟨_, rfl⟩ := pureOk.mp done
    exact passesNothing s
  met := nofun

theorem runsFail {f : ParseFault} (met : MetAt s (.grammar f)) :
    Runs k (fail f : Parser α) s where
  passes done := absurd done failOk
  met failed := by
    cases failed
    exact ⟨s, passesNothing s, met⟩

theorem runsMap {p : Parser α} (f : α → β) (runs : Runs k p s) : Runs k (f <$> p) s := by
  rw [← bind_pure_comp]
  exact runsBind runs (fun a mid _ _ => runsPure (f a)) (Nat.le_refl k)

theorem runsLook {p : Parser α} {f : α → Parser β}
    (stays : ∀ {a s'}, p s = .ok (a, s') → s' = s)
    (stops : ∀ {e}, p s = .error e → ∃ g, s.peek = .error g ∧ e = .lexical g)
    (rest : ∀ a, p s = .ok (a, s) → Runs k (f a) s) : Runs k (p >>= f) s := by
  cases ran : p s with
  | error e =>
      obtain ⟨g, failed, rfl⟩ := stops ran
      exact runsStop (bindStop ran) ⟨s, passesNothing s, .lexical failed⟩
  | ok r =>
      obtain ⟨a, mid⟩ := r
      obtain rfl := stays ran
      exact runsOn (bindRun ran) (passesNothing mid) (rest a ran) (Nat.le_add_left k 0)

theorem runsPeek {f : Lexeme → Parser β} (rest : ∀ t, Ahead s t → Runs k (f t) s) :
    Runs k (peek >>= f) s := by
  refine runsLook (fun done => (peekOk.mp done).2.symm) (fun failed => ?_)
    fun t done => rest t (peekOk.mp done).1
  unfold peek at failed
  split at failed
  · cases failed
  · rename_i failed
    cases failed
    exact ⟨_, failed, rfl⟩

theorem runsPeekPos {f : Nat → Parser β} (rest : ∀ pos, Runs k (f pos) s) :
    Runs k (peekPos >>= f) s := by
  refine runsLook (fun done => (peekPosOk.mp done).2.symm) (fun failed => ?_) fun pos _ => rest pos
  unfold peekPos at failed
  split at failed
  · cases failed
  · rename_i failed
    cases failed
    exact ⟨_, failed, rfl⟩

theorem runsSkip {f : Unit → Parser β} (ahead : Ahead s t) (token : t ≠ .endOfLine)
    (rest : Passes 1 s s.advance → Runs k (f ()) s.advance) (enough : i ≤ 1 + k) :
    Runs i (skip >>= f) s := by
  have onward := ahead.passes token
  have skipped : Runs 1 skip s := by
    refine ⟨fun done => ?_, nofun⟩
    rw [← skipOk.mp done]
    exact onward
  refine runsBind skipped (fun a mid done passes => ?_) enough
  rw [← skipOk.mp done]
  exact rest onward

theorem runsNext {f : Lexeme → Parser β}
    (rest : ∀ t, Ahead s t → (∃ g, f t = fail g ∧ g.about? = some t) ∨
      t ≠ .endOfLine ∧ (Passes 1 s s.advance → Runs k (f t) s.advance))
    (enough : i ≤ 1 + k) : Runs i (next >>= f) s := by
  have whole : (next >>= f : Parser β) = peek >>= fun t => skip >>= fun _ => f t := by
    simp [next, bind_assoc]
  rw [whole]
  refine runsPeek fun t ahead => ?_
  rcases rest t ahead with ⟨g, failing, about⟩ | ⟨token, more⟩
  · rw [failing]
    exact runsStop (f := .grammar g) rfl ⟨s, passesNothing s, .token about ahead⟩
  · exact runsSkip ahead token more enough

theorem runsExpect (x : Symbol) : Runs 1 (expect x) s := by
  refine runsNext (k := 0) (fun t _ => ?_) (Nat.le_refl 1)
  by_cases same : t = .symbol x
  · subst same
    rw [if_pos rfl]
    exact .inr ⟨by simp, fun _ => runsPure ()⟩
  · exact .inl ⟨_, if_neg same, rfl⟩

theorem runsExpectWord (w : Connective) : Runs 1 (expectWord w) s := by
  refine runsNext (k := 0) (fun t _ => ?_) (Nat.le_refl 1)
  by_cases word : isConnective w t = true
  · rw [if_pos word]
    refine .inr ⟨?_, fun _ => runsPure ()⟩
    rintro rfl
    cases word
  · exact .inl ⟨_, if_neg word, rfl⟩

theorem runsExpectName : Runs 1 expectName s := by
  refine runsNext (k := 0) (fun t _ => ?_) (Nat.le_refl 1)
  cases t with
  | name k => exact .inr ⟨by simp, fun _ => runsPure _⟩
  | _ => exact .inl ⟨_, rfl, rfl⟩

theorem runsChoice {p : Parser Bool} {f : Bool → Parser β} (tried : Runs 0 p s)
    (took : ∀ {mid}, p s = .ok (true, mid) → Passes 1 s mid)
    (left : ∀ {mid}, p s = .ok (false, mid) → mid = s)
    (yes : ∀ mid, Passes 1 s mid → Runs j (f true) mid) (no : Runs k (f false) s)
    (enough : k ≤ 1 + j) : Runs k (p >>= f) s := by
  cases ran : p s with
  | error e => exact runsStop (bindStop ran) (tried.met ran)
  | ok r =>
      obtain ⟨taken, mid⟩ := r
      cases taken with
      | true => exact runsOn (bindRun ran) (took ran) (yes mid (took ran)) enough
      | false =>
          obtain rfl := left ran
          exact runsOn (bindRun ran) (passesNothing mid) no (Nat.le_add_left k 0)

theorem runsAccept {x : Symbol} {f : Bool → Parser β}
    (yes : ∀ mid, Passes 1 s mid → Runs j (f true) mid) (no : Runs k (f false) s)
    (enough : k ≤ 1 + j) : Runs k (accept x >>= f) s := by
  refine runsChoice ?_ (fun ran => (acceptYes.mp ran).passes (Nat.le_refl 1))
    (fun ran => (acceptNo.mp ran).1.symm) yes no enough
  refine runsPeek fun t ahead => ?_
  split
  · rename_i same
    subst same
    exact runsSkip ahead (by simp) (fun _ => runsPure true) (Nat.zero_le _)
  · exact runsPure false

theorem runsAcceptWord {w : Connective} {f : Bool → Parser β}
    (yes : ∀ mid, Passes 1 s mid → Runs j (f true) mid) (no : Runs k (f false) s)
    (enough : k ≤ 1 + j) : Runs k (acceptWord w >>= f) s := by
  refine runsChoice ?_ (fun ran => ?_) (fun ran => (acceptWordNo.mp ran).1.symm) yes no enough
  · refine runsPeek fun t ahead => ?_
    split
    · rename_i word
      obtain ⟨name, rfl, _⟩ := isConnectiveTrue.mp word
      exact runsSkip ahead (by simp) (fun _ => runsPure true) (Nat.zero_le _)
    · exact runsPure false
  · obtain ⟨name, _, reads⟩ := acceptWordYes.mp ran
    exact reads.passes (Nat.le_refl 1)

theorem runsNumber {negative : Bool} : Runs 1 (do
      let t ← next
      match lineNumber? t with
      | some n => pure (if negative then Text.negateWrapping n else n)
      | none => fail (.expectedLineNumber t) : Parser Int) s := by
  refine runsNext (k := 0) (fun t _ => ?_) (Nat.le_refl 1)
  cases found : lineNumber? t with
  | none => exact .inl ⟨_, rfl, rfl⟩
  | some n =>
      refine .inr ⟨?_, fun _ => runsPure _⟩
      rintro rfl
      cases found

theorem runsExpectLineNumber : Runs 1 expectLineNumber s :=
  runsAccept (fun _ _ => runsNumber) runsNumber (Nat.le_succ 1)

end Rules

section Expressions

/- What each parser of expressions does at one depth, with the part of that depth it needs besides
five calls for each token. -/
structure Onward (isFunction : String → Bool) (n : Nat) : Prop where
  expression {s} (deep : Suffices n 5 s) : Runs 1 (expression isFunction n) s
  sum {s} (deep : Suffices n 4 s) : Runs 1 (sum isFunction n) s
  sumRest (left) {s} (deep : Suffices n 1 s) : Runs 0 (sumRest isFunction n left) s
  product {s} (deep : Suffices n 3 s) : Runs 1 (product isFunction n) s
  productRest (left) {s} (deep : Suffices n 1 s) : Runs 0 (productRest isFunction n left) s
  signed {s} (deep : Suffices n 2 s) : Runs 1 (signed isFunction n) s
  operand {s} (deep : Suffices n 1 s) : Runs 1 (operand isFunction n) s
  named (name) {s} (deep : Suffices n 3 s) : Runs 0 (named isFunction n name) s
  arguments {s} (deep : Suffices n 7 s) : Runs 1 (arguments isFunction n) s
  expressions {s} (deep : Suffices n 6 s) : Runs 1 (expressions isFunction n) s

theorem onwardZero (isFunction : String → Bool) : Onward isFunction 0 where
  expression deep := absurd deep.room (Nat.not_lt_zero _)
  sum deep := absurd deep.room (Nat.not_lt_zero _)
  sumRest _ _ deep := absurd deep.room (Nat.not_lt_zero _)
  product deep := absurd deep.room (Nat.not_lt_zero _)
  productRest _ _ deep := absurd deep.room (Nat.not_lt_zero _)
  signed deep := absurd deep.room (Nat.not_lt_zero _)
  operand deep := absurd deep.room (Nat.not_lt_zero _)
  named _ _ deep := absurd deep.room (Nat.not_lt_zero _)
  arguments deep := absurd deep.room (Nat.not_lt_zero _)
  expressions deep := absurd deep.room (Nat.not_lt_zero _)

theorem operatorsOnward {op? : Lexeme → Option ArithOp} {operand : Parser Expr}
    {rest : Expr → Parser Expr} {left : Expr} {s : TokenStream} (token : op? .endOfLine = none)
    (first : ∀ mid, Passes 1 s mid → Runs 1 operand mid)
    (more : ∀ e mid, Passes 2 s mid → Runs 0 (rest e) mid) : Runs 0 (do
      match op? (← peek) with
      | none => pure left
      | some op =>
        skip
        let right ← operand
        rest (.arith op left right)) s := by
  refine runsPeek fun t ahead => ?_
  cases op : op? t with
  | none => exact runsPure left
  | some op =>
      have going : t ≠ .endOfLine := by
        rintro rfl
        rw [token] at op
        cases op
      refine runsSkip (k := 0) ahead going (fun passes => ?_) (Nat.zero_le _)
      exact runsBind (first _ passes) (fun right mid _ onward =>
        more _ mid (passes.trans onward)) (Nat.zero_le _)

variable {isFunction : String → Bool} {n : Nat} {s : TokenStream}
  (ih : Onward isFunction n)
include ih

theorem expressionOnward (deep : Suffices (n + 1) 5 s) :
    Runs 1 (expression isFunction (n + 1)) s := by
  refine runsBind (k := 0) (ih.sum (deep.deeper (passesNothing s) (by decide)))
    (fun left mid _ onward => runsPeek fun t ahead => ?_) (Nat.le_refl 1)
  cases op : relation? t with
  | none => exact runsPure left
  | some op =>
      refine runsSkip (k := 1) ahead (by rintro rfl; cases op) (fun passes => ?_) (Nat.zero_le _)
      have right := ih.sum (deep.deeper (onward.trans passes) (by decide))
      exact runsBind right (fun _ _ _ _ => runsPure _) (Nat.le_refl 1)

theorem sumRestOnward (left : Expr) (deep : Suffices (n + 1) 1 s) :
    Runs 0 (sumRest isFunction (n + 1) left) s :=
  operatorsOnward rfl (fun mid passes => ih.product (deep.deeper passes (by decide)))
    fun e mid passes => ih.sumRest e (deep.deeper passes (by decide))

theorem productRestOnward (left : Expr) (deep : Suffices (n + 1) 1 s) :
    Runs 0 (productRest isFunction (n + 1) left) s :=
  operatorsOnward rfl (fun mid passes => ih.signed (deep.deeper passes (by decide)))
    fun e mid passes => ih.productRest e (deep.deeper passes (by decide))

theorem sumOnward (deep : Suffices (n + 1) 4 s) : Runs 1 (sum isFunction (n + 1)) s :=
  runsBind (ih.product (deep.deeper (passesNothing s) (by decide)))
    (fun first _ _ onward => ih.sumRest first (deep.deeper onward (by decide))) (Nat.le_refl 1)

theorem productOnward (deep : Suffices (n + 1) 3 s) : Runs 1 (product isFunction (n + 1)) s :=
  runsBind (ih.signed (deep.deeper (passesNothing s) (by decide)))
    (fun first _ _ onward => ih.productRest first (deep.deeper onward (by decide)))
    (Nat.le_refl 1)

theorem signedOnward (deep : Suffices (n + 1) 2 s) : Runs 1 (signed isFunction (n + 1)) s := by
  refine runsPeek fun t ahead => ?_
  split
  · exact runsSkip ahead (by simp) (fun passes => ih.signed (deep.deeper passes (by decide)))
      (Nat.le_succ 1)
  · exact runsSkip ahead (by simp) (fun passes =>
      runsBind (ih.signed (deep.deeper passes (by decide))) (fun _ _ _ _ => runsPure _)
        (Nat.le_refl 1)) (Nat.le_succ 1)
  · exact ih.operand (deep.deeper (passesNothing s) (by decide))

theorem operandOnward (deep : Suffices (n + 1) 1 s) : Runs 1 (operand isFunction (n + 1)) s := by
  refine runsNext (k := 0) (fun t _ => ?_) (Nat.le_refl 1)
  cases t with
  | endOfLine => exact .inl ⟨_, rfl, rfl⟩
  | number k =>
      cases value : Number.read? k with
      | none => exact .inl ⟨.illegalNumber k, by simp only [value], rfl⟩
      | some x =>
          refine .inr ⟨by simp, fun _ => ?_⟩
          simp only [value]
          exact runsPure _
  | text contents => exact .inr ⟨by simp, fun _ => runsPure _⟩
  | name k => exact .inr ⟨by simp, fun passes => ih.named _ (deep.deeper passes (by decide))⟩
  | symbol x =>
      cases x
      case «open» =>
        refine .inr ⟨by simp, fun passes => ?_⟩
        exact runsBind (ih.expression (deep.deeper passes (by decide)))
          (fun e _ _ _ => runsBind (runsExpect .close) (fun _ _ _ _ => runsPure e) (Nat.le_refl 1))
          (Nat.zero_le _)
      all_goals exact .inl ⟨_, rfl, rfl⟩

theorem namedOnward (name : String) (deep : Suffices (n + 1) 3 s) :
    Runs 0 (named isFunction (n + 1) name) s := by
  refine runsPeek fun t ahead => ?_
  split
  · rename_i opened
    subst opened
    refine runsSkip (k := 0) ahead (by simp) (fun passes => ?_) (Nat.zero_le _)
    split
    · exact runsBind (ih.arguments (deep.deeper passes (by decide)))
        (fun _ _ _ _ => runsPure _) (Nat.zero_le _)
    · exact runsBind (ih.expressions (deep.deeper passes (by decide)))
        (fun _ _ _ _ => runsPure _) (Nat.zero_le _)
  · exact runsPure _

theorem argumentsOnward (deep : Suffices (n + 1) 7 s) :
    Runs 1 (arguments isFunction (n + 1)) s := by
  exact runsAccept (fun _ _ => runsPure [])
    (ih.expressions (deep.deeper (passesNothing s) (by decide))) (Nat.le_refl 1)

theorem expressionsOnward (deep : Suffices (n + 1) 6 s) :
    Runs 1 (expressions isFunction (n + 1)) s := by
  refine runsBind (k := 0) (ih.expression (deep.deeper (passesNothing s) (by decide)))
    (fun first mid _ onward => ?_) (Nat.le_refl 1)
  refine runsNext (k := 0) (fun t _ => ?_) (Nat.zero_le _)
  cases t with
  | symbol x =>
      cases x
      case comma =>
        refine .inr ⟨by simp, fun passes => ?_⟩
        exact runsBind (ih.expressions (deep.deeper (onward.trans passes) (by decide)))
          (fun _ _ _ _ => runsPure _) (Nat.zero_le _)
      case close => exact .inr ⟨by simp, fun _ => runsPure _⟩
      all_goals exact .inl ⟨_, rfl, rfl⟩
  | _ => exact .inl ⟨_, rfl, rfl⟩

end Expressions

theorem onwardAt (isFunction : String → Bool) (n : Nat) : Onward isFunction n := by
  induction n with
  | zero => exact onwardZero isFunction
  | succ n ih =>
      exact {
        expression := expressionOnward ih
        sum := sumOnward ih
        sumRest := fun left _ => sumRestOnward ih left
        product := productOnward ih
        productRest := fun left _ => productRestOnward ih left
        signed := signedOnward ih
        operand := operandOnward ih
        named := fun name _ => namedOnward ih name
        arguments := argumentsOnward ih
        expressions := expressionsOnward ih }

section Statements

variable {isFunction : String → Bool} {line : List Char} {d n : Nat} {s : TokenStream}

theorem expressionAt (deep : Suffices d 5 s) : Runs 1 (expression isFunction d) s :=
  (onwardAt isFunction d).expression deep

theorem printRestOnward (enough : s.tokens.length < n) (deep : Suffices d 5 s) :
    Runs 0 (printRest isFunction d n) s := by
  induction n generalizing s with
  | zero => exact absurd enough (Nat.not_lt_zero _)
  | succ n ih =>
      refine runsPeek fun t ahead => ?_
      cases found : separator? t with
      | none => exact runsPure []
      | some separator =>
          refine runsSkip (k := 0) ahead (by rintro rfl; cases found) (fun passes => ?_)
            (Nat.zero_le _)
          refine runsBind (expressionAt (deep.later passes (by decide))) (k := 0)
            (fun e mid _ onward => ?_) (Nat.zero_le _)
          have past := passes.trans onward
          have fewer := past.2
          exact runsBind (ih (by omega) (deep.later past (by decide)))
            (fun _ _ _ _ => runsPure _) (Nat.le_refl 0)

theorem printItemsOnward (deep : Suffices d 5 s) : Runs 0 (printItems isFunction d) s := by
  refine runsPeek fun t _ => ?_
  split
  · exact runsPure none
  · refine runsBind (expressionAt deep) (k := 0) (fun first mid _ onward => ?_) (Nat.zero_le _)
    have inner := deep.later (b := 5) onward (by decide)
    exact runsBind (printRestOnward inner.room inner) (fun _ _ _ _ => runsPure _) (Nat.le_refl 0)

theorem assignmentToOnward (name : String) (deep : Suffices d 5 s) :
    Runs 1 (assignmentTo isFunction d name) s := by
  have rest (target : Target) {s : TokenStream} (deep : Suffices d 5 s) : Runs 1 (do
      expect .equal
      let value ← expression isFunction d
      pure (.assign target value) : Parser Stmt) s := by
    refine runsBind (runsExpect .equal) (k := 0) (fun _ mid _ onward => ?_) (Nat.le_refl 1)
    exact runsBind (expressionAt (deep.later onward (by decide))) (fun _ _ _ _ => runsPure _)
      (Nat.zero_le _)
  refine runsAccept (j := 0) (fun mid passes => ?_) (rest _ deep) (Nat.le_refl 1)
  refine runsBind ((onwardAt isFunction d).expressions (deep.later passes (by decide))) (k := 0)
    (fun index after _ onward => ?_) (Nat.zero_le _)
  exact (rest _ (deep.later (passes.trans onward) (by decide))).weaken (Nat.zero_le 1)

theorem loopRestOnward (name : String) (deep : Suffices d 5 s) :
    Runs 1 (loopRest isFunction d name) s := by
  refine runsBind (runsExpect .equal) (k := 0) (fun _ m₁ _ p₁ => ?_) (Nat.le_refl 1)
  refine runsBind (expressionAt (deep.later p₁ (by decide))) (k := 0) (fun start m₂ _ p₂ => ?_)
    (Nat.zero_le _)
  refine runsBind (runsExpectWord .toWord) (k := 0) (fun _ m₃ _ p₃ => ?_) (Nat.zero_le _)
  have last := deep.later (b := 5) ((p₁.trans p₂).trans p₃) (by decide)
  refine runsBind (expressionAt last) (k := 0) (fun limit m₄ _ p₄ => ?_) (Nat.zero_le _)
  refine runsAcceptWord (j := 0) (fun m₅ p₅ => ?_) (runsPure _) (Nat.zero_le _)
  exact runsBind (expressionAt (last.later (p₄.trans p₅) (by decide)))
    (fun _ _ _ _ => runsPure _) (Nat.zero_le _)

theorem declarationsOnward (enough : s.tokens.length < n) (deep : Suffices d 5 s) :
    Runs 1 (declarations isFunction d n) s := by
  induction n generalizing s with
  | zero => exact absurd enough (Nat.not_lt_zero _)
  | succ n ih =>
      refine runsBind runsExpectName (k := 0) (fun name m₁ _ p₁ => ?_) (Nat.le_refl 1)
      refine runsBind (runsExpect .open) (k := 0) (fun _ m₂ _ p₂ => ?_) (Nat.zero_le _)
      have dims := (onwardAt isFunction d).expressions
        (deep.later (p₁.trans p₂) (by decide))
      refine runsBind dims (k := 0) (fun sizes m₃ _ p₃ => ?_) (Nat.zero_le _)
      refine runsAccept (j := 0) (fun m₄ p₄ => ?_) (runsPure _) (Nat.zero_le _)
      have past := ((p₁.trans p₂).trans p₃).trans p₄
      have fewer := past.2
      exact runsBind (ih (by omega) (deep.later past (by decide))) (fun _ _ _ _ => runsPure _)
        (Nat.zero_le _)

theorem randomizeRestOnward (deep : Suffices d 5 s) : Runs 0 (randomizeRest isFunction d) s := by
  refine runsPeek fun t _ => ?_
  split
  · exact runsPure _
  · exact runsBind (expressionAt deep) (fun _ _ _ _ => runsPure _) (Nat.zero_le _)

theorem nameStatementOnward (name : String) (deep : Suffices d 5 s) :
    Runs 1 (nameStatement isFunction d name) s := by
  refine runsPeek fun t ahead => ?_
  split
  · rename_i called
    obtain ⟨rfl, _⟩ := called
    refine runsSkip (k := 0) ahead (by simp) (fun passes => ?_) (Nat.le_refl 1)
    exact runsBind ((onwardAt isFunction d).arguments (deep.later passes (by decide)))
      (fun _ _ _ _ => runsPure _) (Nat.zero_le _)
  · exact assignmentToOnward name deep

theorem remarkAfterOnward (pos width : Nat) : Runs 0 (remarkAfter line pos width) s where
  passes := by
    intro st s' done
    cases done
    exact passesAll s line.length
  met := nofun

theorem branchOnward {inner : Parser Stmt}
    (nested : ∀ mid, Passes 1 s mid → Runs 0 inner mid) (deep : Suffices d 5 s) :
    Runs 1 (branch isFunction d inner) s := by
  refine runsBind (expressionAt deep) (k := 0) (fun condition m₁ _ p₁ => ?_) (Nat.le_refl 1)
  refine runsBind (runsExpectWord .thenWord) (k := 0) (fun _ m₂ _ p₂ => ?_) (Nat.zero_le _)
  refine runsPeek fun t ahead => ?_
  split
  · exact runsFail (.token rfl ahead)
  · exact runsBind runsExpectLineNumber (fun _ _ _ _ => runsPure _) (Nat.zero_le _)
  · exact runsBind runsExpectLineNumber (fun _ _ _ _ => runsPure _) (Nat.zero_le _)
  · exact runsBind (nested m₂ ((p₁.trans p₂).weaken (Nat.le_succ 1)))
      (fun _ _ _ _ => runsPure _) (Nat.le_refl 0)

theorem keywordOnward {inner : Parser Stmt}
    (nested : ∀ mid, Passes 1 s mid → Runs 0 inner mid) (deep : Suffices d 5 s) (pos : Nat)
    (k : Keyword) : Runs 0 (keywordStatement isFunction line d inner pos k) s := by
  have named {f : String → Stmt} : Runs 0 (f <$> expectName) s :=
    (runsMap f runsExpectName).weaken (Nat.zero_le 1)
  have jump {f : Int → Stmt} : Runs 0 (f <$> expectLineNumber) s :=
    (runsMap f runsExpectLineNumber).weaken (Nat.zero_le 1)
  cases k with
  | printKw => exact runsMap _ (printItemsOnward deep)
  | letKw =>
      exact runsBind runsExpectName
        (fun name _ _ passes => assignmentToOnward name (deep.later passes (by decide)))
        (Nat.zero_le _)
  | inputKw => exact named
  | ifKw => exact (branchOnward nested deep).weaken (Nat.zero_le 1)
  | gotoKw => exact jump
  | gosubKw => exact jump
  | returnKw => exact runsPure _
  | forKw =>
      exact runsBind runsExpectName
        (fun name _ _ passes => loopRestOnward name (deep.later passes (by decide)))
        (Nat.zero_le _)
  | nextKw => exact named
  | dimKw => exact (runsMap _ (declarationsOnward deep.room deep)).weaken (Nat.zero_le 1)
  | randomizeKw => exact randomizeRestOnward deep
  | endKw => exact runsPure _
  | stopKw => exact runsPure _
  | remKw => exact remarkAfterOnward pos _

theorem statementOnward (enough : s.tokens.length < n) (deep : Suffices d 5 s) :
    Runs 0 (statement isFunction line d n) s := by
  induction n generalizing s with
  | zero => exact absurd enough (Nat.not_lt_zero _)
  | succ n ih =>
      refine runsPeek fun t ahead => ?_
      cases t with
      | endOfLine => exact runsPure _
      | name k =>
          refine runsPeekPos fun pos => runsSkip (k := 0) ahead (by simp) (fun passes => ?_)
            (Nat.zero_le _)
          have inner := deep.later (b := 5) passes (by decide)
          dsimp only
          split
          · refine keywordOnward (fun mid onward => ?_) inner pos _
            have fewer := (passes.trans onward).2
            exact ih (by omega) (inner.later onward (by decide))
          · exact (nameStatementOnward _ inner).weaken (Nat.zero_le 1)
      | symbol x =>
          cases x
          case colon => exact runsPure _
          all_goals exact runsFail (.token rfl ahead)
      | _ => exact runsFail (.token rfl ahead)

theorem statementsOnward (enough : s.tokens.length < n) (deep : Suffices d 5 s) :
    Runs 0 (statements isFunction line d n) s := by
  induction n generalizing s with
  | zero => exact absurd enough (Nat.not_lt_zero _)
  | succ n ih =>
      refine runsAccept (j := 0) (fun mid passes => ?_) (runsPure []) (Nat.zero_le _)
      have inner := deep.later (b := 5) passes (by decide)
      refine runsBind (statementOnward inner.room inner) (k := 0) (fun st after _ onward => ?_)
        (Nat.zero_le _)
      have past := passes.trans onward
      have fewer := past.2
      exact runsBind (ih (by omega) (deep.later past (by decide))) (fun _ _ _ _ => runsPure _)
        (Nat.zero_le _)

theorem bodyOnward (deep : Suffices d 5 s) : Runs 0 (body isFunction line d) s := by
  refine runsBind (statementOnward deep.room deep) (k := 0) (fun first m₁ _ p₁ => ?_)
    (Nat.zero_le _)
  have after := deep.later (b := 5) p₁ (by decide)
  refine runsBind (statementsOnward after.room after) (k := 0) (fun rest m₂ _ p₂ => ?_)
    (Nat.zero_le _)
  refine runsPeek fun t ahead => ?_
  cases t with
  | endOfLine => exact runsPure _
  | _ => exact runsPeekPos fun pos => runsFail (.leftover ahead (by simp))

end Statements

end Parser

end LineBasic
