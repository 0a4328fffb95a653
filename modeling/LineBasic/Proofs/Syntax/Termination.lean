import LineBasic.Proofs.Syntax.Limit
import LineBasic.Proofs.Syntax.Progress

/-!
The parser comes to an end on every line. Its loops take a token in every pass but the last, its
calls never go back, and the depth of the recursion is at most five times the number of tokens and
one, whatever comes after them.
-/
namespace LineBasic.Parser

open TokenStream

section Calls

/- What a successful call takes, at whatever depth. The arguments of a call are read from behind
the opening parenthesis. -/
structure Takes (isFunction : String → Bool) (n : Nat) : Prop where
  expression {s e s'} (done : expression isFunction n s = .ok (e, s')) : Passes 1 s s'
  sum {s e s'} (done : sum isFunction n s = .ok (e, s')) : Passes 1 s s'
  product {s e s'} (done : product isFunction n s = .ok (e, s')) : Passes 1 s s'
  signed {s e s'} (done : signed isFunction n s = .ok (e, s')) : Passes 1 s s'
  operand {s e s'} (done : operand isFunction n s = .ok (e, s')) : Passes 1 s s'
  arguments {s es s'} (done : arguments isFunction n s = .ok (es, s')) : Passes 1 s s'
  expressions {s es s'} (done : expressions isFunction n s = .ok (es, s')) : Passes 2 s s'

theorem takesAt (isFunction : String → Bool) (n : Nat) : Takes isFunction n where
  expression done := by
    obtain ⟨w, reads, form⟩ := (soundAt isFunction n).expression done
    exact reads.passes (expressionLength form)
  sum done := by
    obtain ⟨w, reads, form⟩ := (soundAt isFunction n).sum done
    exact reads.passes (sumLength form)
  product done := by
    obtain ⟨w, reads, form⟩ := (soundAt isFunction n).product done
    exact reads.passes (productLength form)
  signed done := by
    obtain ⟨w, reads, form⟩ := (soundAt isFunction n).signed done
    exact reads.passes (signedLength form)
  operand done := by
    obtain ⟨w, reads, form⟩ := (soundAt isFunction n).operand done
    exact reads.passes (signedLength (.operand form))
  arguments done := by
    obtain ⟨w, reads, _⟩ := (soundAt isFunction n).arguments done
    exact reads.passes (by simp)
  expressions done := by
    obtain ⟨w, reads, list⟩ := (soundAt isFunction n).expressions done
    obtain ⟨t, v, rfl, _⟩ := expressionsStarts list
    exact reads.passes (by simp)

end Calls

section Loops

/- What a pass of a loop comes to: the loop is left with a result, or there is another pass and
something is done with what the loop gives then. -/
inductive Turn (σ β : Type) where
  | leave (result : β)
  | again (next : σ) (finish : β → β)

def Turn.follow {σ β : Type} (loop : σ → Parser β) : Turn σ β → Parser β
  | .leave result => pure result
  | .again next finish => finish <$> loop next

structure Loop {σ β : Type} (loop : Nat → σ → Parser β) (pass : Nat → σ → Parser (Turn σ β)) :
    Prop where
  unrolls (n : Nat) (x : σ) : loop (n + 1) x = pass n x >>= Turn.follow (loop n)
  advances {n x s y finish s'} (goesOn : pass n x s = .ok (.again y finish, s')) : Passes 1 s s'

variable (isFunction : String → Bool) (line : List Char) (d : Nat)

def operatorPass (op? : Lexeme → Option ArithOp) (operand : Parser Expr) (left : Expr) :
    Parser (Turn Expr Expr) := do
  match op? (← peek) with
  | none => pure (.leave left)
  | some op =>
    skip
    let right ← operand
    pure (.again (.arith op left right) id)

def listPass (n : Nat) : Parser (Turn Unit (List Expr)) := do
  let first ← expression isFunction n
  match (← next) with
  | .symbol .comma => pure (.again () (first :: ·))
  | .symbol .close => pure (.leave [first])
  | t => fail (.expectedListEnd t)

def printPass : Parser (Turn Unit (List (Separator × Expr))) := do
  match separator? (← peek) with
  | none => pure (.leave [])
  | some separator =>
    skip
    let e ← expression isFunction d
    pure (.again () ((separator, e) :: ·))

def declarationPass : Parser (Turn Unit (List Declaration)) := do
  let name ← expectName
  expect .open
  let dims ← expressions isFunction d
  if (← accept .comma) then pure (.again () (⟨name, dims⟩ :: ·))
  else pure (.leave [⟨name, dims⟩])

def statementPass : Parser (Turn Unit (List Stmt)) := do
  if (← accept .colon) then
    let s ← statement isFunction line d d
    pure (.again () (s :: ·))
  else pure (.leave [])

variable {isFunction line d}

theorem operatorAdvances {op? : Lexeme → Option ArithOp} {operand : Parser Expr} {left y : Expr}
    {s s' : TokenStream} {finish : Expr → Expr} (token : op? .endOfLine = none)
    (onward : ∀ {s e s'}, operand s = .ok (e, s') → Passes 1 s s')
    (goesOn : operatorPass op? operand left s = .ok (.again y finish, s')) : Passes 1 s s' := by
  simp only [operatorPass, bindOk, peekOk] at goesOn
  obtain ⟨t, _, ⟨ahead, rfl⟩, rest⟩ := goesOn
  cases found : op? t with
  | none =>
      rw [found] at rest
      cases (pureOk.mp rest).1
  | some op =>
      simp only [found, bindOk, skipOk, pureOk] at rest
      obtain ⟨_, _, rfl, right, _, second, _, rfl⟩ := rest
      have taken : t ≠ .endOfLine := by
        rintro rfl
        rw [token] at found
        cases found
      exact ((ahead.passes taken).trans (onward second)).weaken (Nat.le_succ 1)

theorem operatorUnrolls (op? : Lexeme → Option ArithOp) (operand : Parser Expr)
    (rest : Expr → Parser Expr) (left : Expr) : (do
      match op? (← peek) with
      | none => pure left
      | some op =>
        skip
        let right ← operand
        rest (.arith op left right)) = operatorPass op? operand left >>= Turn.follow rest := by
  simp only [operatorPass, bind_assoc]
  refine bind_congr fun t => ?_
  cases op? t <;> simp [Turn.follow]

theorem sumLoop : Loop (sumRest isFunction)
    (fun n => operatorPass sumOp? (product isFunction n)) where
  unrolls n := operatorUnrolls sumOp? (product isFunction n) (sumRest isFunction n)
  advances := operatorAdvances rfl (takesAt isFunction _).product

theorem productLoop : Loop (productRest isFunction)
    (fun n => operatorPass productOp? (signed isFunction n)) where
  unrolls n := operatorUnrolls productOp? (signed isFunction n) (productRest isFunction n)
  advances := operatorAdvances rfl (takesAt isFunction _).signed

theorem listLoop : Loop (fun n (_ : Unit) => expressions isFunction n)
    (fun n _ => listPass isFunction n) where
  unrolls n _ := by
    simp only [expressions, listPass, bind_assoc]
    refine bind_congr fun first => bind_congr fun t => ?_
    cases t with
    | symbol x =>
        cases x
        case comma => simp [Turn.follow]
        all_goals rfl
    | _ => rfl
  advances := by
    intro n _ s _ finish s' goesOn
    simp only [listPass, bindOk, nextOk] at goesOn
    obtain ⟨first, mid, found, t, _, ⟨ahead, rfl⟩, rest⟩ := goesOn
    have taken := (takesAt isFunction n).expression found
    split at rest
    · obtain ⟨_, rfl⟩ := pureOk.mp rest
      exact (taken.trans (ahead.passes (by simp))).weaken (Nat.le_succ 1)
    · cases (pureOk.mp rest).1
    · exact absurd rest failOk

theorem printLoop : Loop (fun n (_ : Unit) => printRest isFunction d n)
    (fun _ _ => printPass isFunction d) where
  unrolls n _ := by
    simp only [printRest, printPass, bind_assoc]
    refine bind_congr fun t => ?_
    cases separator? t <;> simp [Turn.follow]
  advances := by
    intro n _ s _ finish s' goesOn
    simp only [printPass, bindOk, peekOk] at goesOn
    obtain ⟨t, _, ⟨ahead, rfl⟩, rest⟩ := goesOn
    cases found : separator? t with
    | none =>
        rw [found] at rest
        cases (pureOk.mp rest).1
    | some separator =>
        simp only [found, bindOk, skipOk, pureOk] at rest
        obtain ⟨_, _, rfl, e, _, item, _, rfl⟩ := rest
        have token : t ≠ .endOfLine := by
          rintro rfl
          cases found
        have onward := (takesAt isFunction d).expression item
        exact ((ahead.passes token).trans onward).weaken (Nat.le_succ 1)

theorem declarationLoop : Loop (fun n (_ : Unit) => declarations isFunction d n)
    (fun _ _ => declarationPass isFunction d) where
  unrolls n _ := by
    simp only [declarations, declarationPass, bind_assoc]
    refine bind_congr fun name => bind_congr fun _ => bind_congr fun dims =>
      bind_congr fun more => ?_
    cases more <;> simp [Turn.follow]
  advances := by
    intro n _ s _ finish s' goesOn
    simp only [declarationPass, bindOk, expectNameOk, expectOk] at goesOn
    obtain ⟨_, _, ⟨k, rfl, readName⟩, _, _, readOpen, dims, _, list, more, _, comma, rest⟩ := goesOn
    have opened : Passes 2 s _ := (readName.cons readOpen).passes (Nat.le_refl 2)
    cases more with
    | true =>
        obtain ⟨_, rfl⟩ := pureOk.mp rest
        have closed := opened.trans ((takesAt isFunction d).expressions list)
        have again := (acceptYes.mp comma).passes (Nat.le_refl 1)
        exact (closed.trans again).weaken (by decide)
    | false => cases (pureOk.mp rest).1

theorem statementLoop : Loop (fun n (_ : Unit) => statements isFunction line d n)
    (fun _ _ => statementPass isFunction line d) where
  unrolls n _ := by
    simp only [statements, statementPass, bind_assoc]
    refine bind_congr fun more => ?_
    cases more <;> simp [Turn.follow]
  advances := by
    intro n _ s _ finish s' goesOn
    simp only [statementPass, bindOk] at goesOn
    obtain ⟨more, mid, colon, rest⟩ := goesOn
    cases more with
    | true =>
        simp only [if_true, bindOk, pureOk] at rest
        obtain ⟨st, after, found, _, rfl⟩ := rest
        have passes : Passes 1 s mid := (acceptYes.mp colon).passes (Nat.le_refl 1)
        have kept : Passes 0 mid after := by
          cases statementSound found with
          | plain reads => exact reads.passes (Nat.zero_le _)
          | remarked _ _ finished =>
              rw [finished]
              exact passesAll mid line.length
        exact passes.trans kept
    | false => cases (pureOk.mp rest).1

end Loops

section Lines

structure StatementsOnward (isFunction : String → Bool) (line : List Char) (d : Nat) : Prop where
  printItems {s} (deep : Suffices d 5 s) : Runs 0 (printItems isFunction d) s
  printRest {n s} (room : s.tokens.length < n) (deep : Suffices d 5 s) :
    Runs 0 (printRest isFunction d n) s
  assignmentTo (name) {s} (deep : Suffices d 5 s) : Runs 1 (assignmentTo isFunction d name) s
  loopRest (name) {s} (deep : Suffices d 5 s) : Runs 1 (loopRest isFunction d name) s
  declarations {n s} (room : s.tokens.length < n) (deep : Suffices d 5 s) :
    Runs 1 (declarations isFunction d n) s
  randomizeRest {s} (deep : Suffices d 5 s) : Runs 0 (randomizeRest isFunction d) s
  nameStatement (name) {s} (deep : Suffices d 5 s) : Runs 1 (nameStatement isFunction d name) s
  branch {inner s} (nested : ∀ mid, Passes 1 s mid → Runs 0 inner mid) (deep : Suffices d 5 s) :
    Runs 1 (branch isFunction d inner) s
  statement {n s} (room : s.tokens.length < n) (deep : Suffices d 5 s) :
    Runs 0 (statement isFunction line d n) s
  statements {n s} (room : s.tokens.length < n) (deep : Suffices d 5 s) :
    Runs 0 (statements isFunction line d n) s
  body {s} (deep : Suffices d 5 s) : Runs 0 (body isFunction line d) s

theorem statementsOnwardAt (isFunction : String → Bool) (line : List Char) (d : Nat) :
    StatementsOnward isFunction line d where
  printItems := printItemsOnward
  printRest := printRestOnward
  assignmentTo name _ := assignmentToOnward name
  loopRest name _ := loopRestOnward name
  declarations := declarationsOnward
  randomizeRest := randomizeRestOnward
  nameStatement name _ := nameStatementOnward name
  branch := branchOnward
  statement := statementOnward
  statements := statementsOnward
  body := bodyOnward

/- The loops over operands, over the items of a list, of a PRINT and of a DIM, and over the
statements of a line. -/
structure Loops (isFunction : String → Bool) (line : List Char) (d : Nat) : Prop where
  sum : Loop (sumRest isFunction) (fun n => operatorPass sumOp? (product isFunction n))
  product : Loop (productRest isFunction) (fun n => operatorPass productOp? (signed isFunction n))
  list : Loop (fun n (_ : Unit) => expressions isFunction n) (fun n _ => listPass isFunction n)
  print : Loop (fun n (_ : Unit) => printRest isFunction d n) (fun _ _ => printPass isFunction d)
  dim : Loop (fun n (_ : Unit) => declarations isFunction d n)
    (fun _ _ => declarationPass isFunction d)
  line : Loop (fun n (_ : Unit) => statements isFunction line d n)
    (fun _ _ => statementPass isFunction line d)

theorem bodyAnswers {isFunction : String → Bool} {line : List Char} {d : Nat} {s : TokenStream}
    (deep : Suffices d 5 s) : body isFunction line d s ≠ .error (.grammar .tooDeep) := by
  intro cut
  obtain ⟨s', _, met⟩ := (bodyOnward deep).met cut
  exact met.notTooDeep rfl

/- The limit bounds how deep the calls for statements nest in one another, and how deep those for
expressions do, the passes of their loops counted as calls. A line may break off anywhere: at its
end the same token is read again and again, and no call is kept going by it. -/
theorem parserTerminates (isFunction : String → Bool) (text : String) :
    (∀ n, Takes isFunction n ∧ Onward isFunction n) ∧
      (∀ d, StatementsOnward isFunction text.toList d ∧ Loops isFunction text.toList d) ∧
      (∀ pos, next ⟨[], .ok pos⟩ = .ok (.endOfLine, ⟨[], .ok pos⟩)) ∧
      parseLine isFunction text ≠ .error (.grammar .tooDeep) ∧
      ∀ d, 5 * ((TokenStream.ofLine text).tokens.length + 1) ≤ d →
        ((body isFunction text.toList d).run (TokenStream.ofLine text)).map Prod.fst =
          parseLine isFunction text := by
  refine ⟨fun n => ⟨takesAt isFunction n, onwardAt isFunction n⟩,
    fun d => ⟨statementsOnwardAt isFunction _ d,
      ⟨sumLoop, productLoop, listLoop, printLoop, declarationLoop, statementLoop⟩⟩,
    fun _ => rfl, ?_⟩
  generalize stream : TokenStream.ofLine text = s
  have least : Suffices (5 * (s.tokens.length + 1)) 5 s := Nat.le_refl _
  have answers : body isFunction text.toList (5 * (s.tokens.length + 1)) s ≠
      .error (.grammar .tooDeep) := bodyAnswers least
  have same {d : Nat} (more : 5 * (s.tokens.length + 1) ≤ d) :
      body isFunction text.toList d s = body isFunction text.toList _ s :=
    bodyExtends more s answers
  have whole : parseLine isFunction text =
      (body isFunction text.toList (5 * (s.tokens.length + 1)) s).map Prod.fst := by
    have room : 5 * (s.tokens.length + 1) ≤ depthFor s.tokens.length := by
      unfold depthFor
      omega
    rw [← same room, ← stream]
    rfl
  refine ⟨?_, fun d more => ?_⟩
  · rw [whole]
    intro cut
    cases ended : body isFunction text.toList (5 * (s.tokens.length + 1)) s with
    | ok r =>
        rw [ended] at cut
        cases cut
    | error f =>
        rw [ended] at cut
        cases cut
        exact answers ended
  · rw [whole, ← same more]
    rfl

theorem brokenLineEnds :
    (TokenStream.ofLine "PRINT (\"A\" +").tokens.length = 4 ∧
      parseLine (fun _ => false) "PRINT (\"A\" +" = .error (.grammar .endOfExpression) ∧
      ((body (fun _ => false) "PRINT (\"A\" +".toList 25).run
        (TokenStream.ofLine "PRINT (\"A\" +")).map Prod.fst =
          .error (.grammar .endOfExpression) := by
  have four : (TokenStream.ofLine "PRINT (\"A\" +").tokens.length = 4 := by decide +kernel
  have stops : parseLine (fun _ => false) "PRINT (\"A\" +" = .error (.grammar .endOfExpression) :=
    rfl
  refine ⟨four, stops, ?_⟩
  obtain ⟨_, _, _, _, limit⟩ := parserTerminates (fun _ => false) "PRINT (\"A\" +"
  rw [limit 25 (Nat.le_of_eq (by rw [four])), stops]

end Lines

end LineBasic.Parser
