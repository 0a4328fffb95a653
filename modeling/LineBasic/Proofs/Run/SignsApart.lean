import LineBasic.Proofs.Run.Heedless
import LineBasic.Proofs.Syntax.Refolding

/-!
Running with the signs apart. A number with a minus is worth the negation of the number without it,
so the statements of a line are executed alike, whichever way its signs have been read: step by
step, and from every state.
-/
namespace LineBasic

section Evaluation

variable {fns : Functions} {vs : Variables}

mutual

theorem evalApart : (e : Expr) → e.apart.eval fns vs = e.eval fns vs
  | .number x => by
      rw [Expr.apart]
      split
      · rename_i negative
        have twice := Number.negNegative negative
        simp only [Expr.eval, pure_bind, Value.isText, Value.asNumber, twice]
        rfl
      · rfl
  | .text _ => rfl
  | .scalar _ => rfl
  | .element _ index => by rw [Expr.apart, Expr.eval, Expr.eval, indexApart index]
  | .call _ args => by rw [Expr.apart, Expr.eval, Expr.eval, argsApart args]
  | .negate e => by rw [Expr.apart, Expr.eval, Expr.eval, evalApart e]
  | .arith _ l r => by rw [Expr.apart, Expr.eval, Expr.eval, evalApart l, evalApart r]
  | .compare _ l r => by rw [Expr.apart, Expr.eval, Expr.eval, evalApart l, evalApart r]

theorem indexApart : (es : List Expr) → evalIndex fns vs (Expr.allApart es) = evalIndex fns vs es
  | [] => rfl
  | e :: es => by rw [Expr.allApart, evalIndex, evalIndex, evalApart e, indexApart es]

theorem argsApart : (es : List Expr) → evalArgs fns vs (Expr.allApart es) = evalArgs fns vs es
  | [] => rfl
  | e :: es => by rw [Expr.allApart, evalArgs, evalArgs, evalApart e, argsApart es]

end

theorem evalNumberApart (what : String) (e : Expr) :
    e.apart.evalNumber fns vs what = e.evalNumber fns vs what := by
  rw [Expr.evalNumber, Expr.evalNumber, evalApart e]

@[simp]
theorem dimsApart (es : List Expr) : evalDims fns vs (Expr.allApart es) = evalDims fns vs es := by
  induction es with
  | nil => rfl
  | cons e es ih => rw [Expr.allApart, evalDims, evalDims, evalNumberApart, ih]

end Evaluation

def Flow.apart : Flow → Flow
  | .inner s => .inner s.apart
  | flow => flow

def CodeLine.apart (l : CodeLine) : CodeLine := ⟨l.number, l.body.apart⟩

def Code.apart (code : Code) : Code := ⟨code.lines.map CodeLine.apart⟩

def Setting.apart (c : Setting) : Setting := { c with code := c.code.apart }

def Machine.apart (m : Machine) : Machine := { m with pending := m.pending.map Stmt.apart }

def Progress.apart : Progress → Progress
  | .running m => .running m.apart
  | .finished m e => .finished m.apart e

@[simp] theorem afterApart (code : Code) (pc : Nat) : code.apart.after? pc = code.after? pc := by
  simp [Code.after?, Code.apart, CodeLine.apart, Function.comp_def]

@[simp] theorem findApart (code : Code) (line : Int) : code.apart.find? line = code.find? line := by
  simp [Code.find?, Code.apart, CodeLine.apart, Function.comp_def]

namespace Exec

variable {c : Setting}

@[simp] theorem evaluateApart (e : Expr) : evaluate c.apart e.apart = evaluate c e :=
  congrArg effect (funext fun _ => evalApart e)

@[simp] theorem evaluateNumberApart (what : String) (e : Expr) :
    evaluateNumber c.apart what e.apart = evaluateNumber c what e :=
  congrArg effect (funext fun _ => evalNumberApart what e)

@[simp] theorem lineAfterApart (why : Returning) : lineAfter c.apart why = lineAfter c why := by
  have same (m : Machine) : c.apart.code.after? m.pc = c.code.after? m.pc := afterApart c.code m.pc
  simp only [lineAfter, same]

@[simp] theorem gosubApart (target : Int) : gosub c.apart target = gosub c target := by
  simp only [gosub, lineAfterApart]

@[simp] theorem printRestApart (items : List (Separator × Expr)) :
    printRestText c.apart (items.map fun item => (item.1, item.2.apart)) =
      printRestText c items := by
  induction items with
  | nil => rfl
  | cons item rest ih => rw [List.map_cons, printRestText, printRestText, evaluateApart, ih]

@[simp] theorem printApart (items : Option PrintList) :
    print c.apart (items.map PrintList.apart) = print c items := by
  cases items with
  | none => rfl
  | some items =>
      simp only [print, printText, Option.map_some, PrintList.apart, evaluateApart, printRestApart]

@[simp] theorem assignApart (target : Target) (value : Expr) :
    assign c.apart target.apart value.apart = assign c target value := by
  cases target with
  | scalar name => simp only [assign, Target.apart, evaluateApart]; rfl
  | element name index => simp only [assign, Target.apart, evaluateApart, indexApart]; rfl

@[simp] theorem enterLoopApart (name : String) (start limit : Expr) (step : Option Expr) :
    enterLoop c.apart name start.apart limit.apart (step.map Expr.apart) =
      enterLoop c name start limit step := by
  cases step with
  | none => simp only [enterLoop, Option.map_none, evaluateNumberApart, lineAfterApart]; rfl
  | some e => simp only [enterLoop, Option.map_some, evaluateNumberApart, lineAfterApart]; rfl

@[simp] theorem dimensionApart (arrays : List Declaration) :
    dimension c.apart (arrays.map Declaration.apart) = dimension c arrays := by
  induction arrays with
  | nil => rfl
  | cons d rest ih =>
      rw [List.map_cons, dimension, dimension, ih]
      simp only [Declaration.apart, dimsApart]
      rfl

@[simp] theorem randomizeApart (seed : Option Expr) :
    randomize c.apart (seed.map Expr.apart) = randomize c seed := by
  cases seed with
  | none => rfl
  | some e => simp only [randomize, Option.map_some, evaluateNumberApart]

theorem mapRuns {α β : Type} (f : α → β) (x : Exec α) (m : Machine) :
    (f <$> x) m = ((x m).1.map f, (x m).2) := by
  have opened : (f <$> x) m =
      ExceptT.bindCont (m := StateM Machine) (fun a => pure (f a)) (x m).1 (x m).2 := by
    rw [map_eq_pure_bind]
    rfl
  rw [opened]
  cases (x m).1 <;> rfl

theorem flowKept {s : Stmt} (plain : ∀ condition inner, s ≠ .doIf condition inner) :
    Flow.apart <$> statement c s = statement c s := by
  funext m
  rw [mapRuns]
  obtain ⟨⟨r, m'⟩, ran⟩ : ∃ result, statement c s m = result := ⟨_, rfl⟩
  rw [ran]
  cases r with
  | error f => rfl
  | ok flow =>
      cases statementDoes ran with
      | nested => exact absurd rfl (plain _ _)
      | _ => rfl

@[simp] theorem statementApart (s : Stmt) :
    statement c.apart s.apart = Flow.apart <$> statement c s := by
  cases s with
  | doIf condition inner =>
      simp only [statement, Stmt.apart, evaluateApart, map_bind, map_pure]
      refine congrArg (evaluate c condition >>= ·) (funext fun v => ?_)
      cases v.truth <;> rfl
  | print items => rw [flowKept (by simp), Stmt.apart, statement, statement, printApart]
  | assign target value => rw [flowKept (by simp), Stmt.apart, statement, statement, assignApart]
  | jumpIf condition line =>
      rw [flowKept (by simp), Stmt.apart, statement, statement, evaluateApart]
  | gosub line =>
      rw [flowKept (by simp)]
      exact gosubApart line
  | loop name start limit step =>
      rw [flowKept (by simp), Stmt.apart, statement, statement, enterLoopApart]
  | dim arrays => rw [flowKept (by simp), Stmt.apart, statement, statement, dimensionApart]
  | randomize seed => rw [flowKept (by simp), Stmt.apart, statement, statement, randomizeApart]
  | call name args =>
      rw [flowKept (by simp), Stmt.apart, statement, statement]
      simp only [argsApart]
      rfl
  | _ =>
      rw [flowKept (by simp)]
      rfl

end Exec

namespace Machine

variable {c : Setting} {m : Machine}

/- Executed on a machine whose pending statements have their signs apart, a statement with its signs
apart does the same. -/
theorem executeApart (s : Stmt) : Exec.statement c.apart s.apart m.apart =
    ((Exec.statement c s m).1.map Flow.apart, (Exec.statement c s m).2.apart) := by
  have kept : (Exec.statement c s m).2.pending = m.pending := (doesFrame (statementDoes rfl)).2.2.1
  have heedless := Exec.statementHeedless (c := c) s m (m.pending.map Stmt.apart)
  rw [Exec.statementApart, Exec.mapRuns]
  unfold apart
  rw [heedless, kept]

@[simp] theorem settleApart (m : Machine) : m.apart.settle = m.settle.apart := by
  have same : m.apart.pending.isEmpty = m.pending.isEmpty := by
    rw [apart]
    exact List.isEmpty_map
  unfold settle
  rw [same]
  split <;> rfl

@[simp] theorem followApart (flow : Flow) :
    m.apart.follow c.apart flow.apart = (m.follow c flow).apart := by
  cases flow with
  | next => exact congrArg Progress.running (settleApart m)
  | inner s => rfl
  | stop => rfl
  | jump line =>
      have same : c.apart.code.find? line = c.code.find? line := findApart c.code line
      simp only [follow, Flow.apart, same]
      cases c.code.find? line <;> rfl

@[simp]
theorem performApart (s : Stmt) : m.apart.perform c.apart s.apart = (m.perform c s).apart := by
  rcases performCases c m s with ⟨limit, same⟩ |
    ⟨below, ⟨flow, after, ran, same⟩ | ⟨f, after, ran, same⟩⟩
  · rw [same]
    unfold perform
    exact if_pos limit
  · have twin := executeApart (c := c) (m := m.counted) s
    rw [ran] at twin
    rw [same, ← followApart]
    exact performOk below twin
  · have twin := executeApart (c := c) (m := m.counted) s
    rw [ran] at twin
    rw [same]
    exact performError below twin

@[simp]
theorem traceLineApart (m : Machine) : m.apart.traceLine c.apart = (m.traceLine c).apart := by
  have options : c.apart.options = c.options := rfl
  unfold traceLine
  rw [options]
  split <;> rfl

@[simp] theorem beginLineApart (l : CodeLine) :
    m.apart.beginLine c.apart l.apart = (m.beginLine c l).apart := by
  have asked : m.apart.host.interrupted = m.host.interrupted := rfl
  unfold beginLine
  simp only [asked]
  split
  · rfl
  · rw [← performApart]
    refine congrArg (perform c.apart · l.body.first.apart) ?_
    have traced := traceLineApart (c := c) { m with line := l.number }
    exact congrArg (fun m => { m with pending := l.body.rest.map Stmt.apart }) traced

@[simp]
theorem stepApart (c : Setting) (m : Machine) : m.apart.step c.apart = (m.step c).apart := by
  cases pending : m.pending with
  | cons s rest =>
      have twin : m.apart.pending = s.apart :: rest.map Stmt.apart := by simp [apart, pending]
      rw [stepPending pending, stepPending twin, ← performApart]
      rfl
  | nil =>
      have idle : m.apart.pending = [] := by simp [apart, pending]
      have lines : c.apart.code.lines[m.apart.pc]? = c.code.lines[m.pc]?.map CodeLine.apart :=
        Array.getElem?_map
      cases found : c.code.lines[m.pc]? with
      | none =>
          rw [found] at lines
          rw [stepDone pending found, stepDone idle lines]
          rfl
      | some l =>
          rw [found] at lines
          rw [stepLine pending found, stepLine idle lines, beginLineApart]

def seen (result : Machine × Ending) : Machine × Ending := (result.1.apart, result.2)

theorem runApart (c : Setting) (fuel : Nat) (m : Machine) :
    run c.apart fuel m.apart = (run c fuel m).map seen := by
  induction fuel generalizing m with
  | zero => rfl
  | succ fuel ih =>
      rw [run, run, stepApart]
      cases m.step c with
      | running m => exact ih m
      | finished m e => rfl

theorem alike {c d : Setting} {m k : Machine} (program : c.apart = d.apart)
    (state : m.apart = k.apart) : (m.step c).apart = (k.step d).apart ∧
      ∀ fuel, (run c fuel m).map seen = (run d fuel k).map seen := by
  constructor
  · rw [← stepApart, ← stepApart, program, state]
  · intro fuel
    rw [← runApart, ← runApart, program, state]

end Machine

def Setting.withBody (c : Setting) (place : Nat) (body : Body) : Setting :=
  { c with code := ⟨c.code.lines.modify place fun l => { l with body }⟩ }

@[simp] theorem withBodyApart (c : Setting) (place : Nat) (body : Body) :
    (c.withBody place body).apart = c.apart.withBody place body.apart := by
  have lines : (c.code.lines.modify place fun l => { l with body }).map CodeLine.apart =
      (c.code.lines.map CodeLine.apart).modify place fun l => { l with body := body.apart } := by
    refine Array.ext_getElem? fun i => ?_
    simp only [Array.getElem?_map, Array.getElem?_modify]
    split
    · cases c.code.lines[i]? <;> rfl
    · rfl
  simp only [Setting.withBody, Setting.apart, Code.apart, lines]

open LineBasic.Parser Grammar

theorem printSubtracts {isFunction : String → Bool} {text : String} {u v : List Lexeme} {l r : Expr}
    {tokens : List Token} {length : Nat} (read : TokenStream.ofLine text = ⟨tokens, .ok length⟩)
    (lexemes : tokens.map Token.lexeme = .name "PRINT" :: (u ++ .symbol .minus :: v))
    (left : Operand isFunction u l) (right : Operand isFunction v r) :
    parseLine isFunction text = .ok ⟨.print (some ⟨.arith .subtract l r, []⟩), []⟩ := by
  refine parseLineComplete (.whole read ?_)
  have difference : Expression isFunction (u ++ .symbol .minus :: v) (.arith .subtract l r) :=
    .sum (.add (.inr rfl) (.product (.signed (.operand left))) (.signed (.operand right)))
  have shown := Simple.print (k := "PRINT") rfl difference .done
  rw [List.append_nil] at shown
  rw [lexemes]
  exact .last (by simp) (.simple trivial shown)

@[simp] theorem bodyList (b : Body) : b.apart.toList = b.toList.map Stmt.apart := rfl

theorem operandsUnsigned (line : String) :
    ((TokenStream.ofLine line).tokens.map Token.lexeme).IsChain fun t u =>
      t.endsOperand = true → ∀ d, u ≠ .number ("+" ++ d) ∧ u ≠ .number ("-" ++ d) := by
  refine (TokenStream.ofLineLexed line).chained.imp fun t u whole operand d => ⟨?_, ?_⟩
  · rintro rfl
    have signed := whole operand
    rw [Lexeme.apartPlus] at signed
    cases signed
  · rintro rfl
    have signed := whole operand
    rw [Lexeme.apartMinus] at signed
    cases signed

theorem numberExpression {isFunction : String → Bool} {spelling : String} {x : Float}
    (value : Number.read? spelling = some x) :
    Expression isFunction [.number spelling] (.number x) :=
  .sum (.product (.signed (.operand (.number value))))

/- Either way of reading signs gives the same statements, but for the negations in place of signed
numbers; these have the same values, and the statements are executed alike. Behind an operand a
minus is never part of a number. -/
theorem signFoldingKeepsMeaning (isFunction : String → Bool) (text : String)
    (single : SingleSigns text) :
    (parseApart isFunction text).toOption = (parseLine isFunction text).toOption.map Body.apart ∧
    (∀ (e : Expr) (fns : Functions) (vs : Variables), e.apart.eval fns vs = e.eval fns vs) ∧
    (∀ body, parseLine isFunction text = .ok body →
      ∀ body', parseApart isFunction text = .ok body' →
        (∀ m : Machine, ({ m with pending := body.toList ++ m.pending } : Machine).apart =
          ({ m with pending := body'.toList ++ m.pending } : Machine).apart) ∧
        ∀ (c : Setting) (place : Nat) (m k : Machine), m.apart = k.apart →
          (m.step (c.withBody place body)).apart = (k.step (c.withBody place body')).apart ∧
          ∀ fuel, (Machine.run (c.withBody place body) fuel m).map Machine.seen =
            (Machine.run (c.withBody place body') fuel k).map Machine.seen) ∧
    (∀ line, ((TokenStream.ofLine line).tokens.map Token.lexeme).IsChain fun t u =>
      t.endsOperand = true → ∀ d, u ≠ .number ("+" ++ d) ∧ u ≠ .number ("-" ++ d)) ∧
    parseLine isFunction "PRINT 3-4" =
      .ok ⟨.print (some ⟨.arith .subtract (.number 3) (.number 4), []⟩), []⟩ ∧
    parseLine isFunction "PRINT X-1" =
      .ok ⟨.print (some ⟨.arith .subtract (.scalar "X") (.number 1), []⟩), []⟩ ∧
    parseLine isFunction "PRINT (2)-1" =
      .ok ⟨.print (some ⟨.arith .subtract (.number 2) (.number 1), []⟩), []⟩ ∧
    parseLine isFunction "PRINT A(1)-1" =
      .ok ⟨.print (some ⟨.arith .subtract
        (if isFunction "A" then .call "A" [.number 1] else .element "A" [.number 1])
        (.number 1), []⟩), []⟩ := by
  have one : Operand isFunction [.number "1"] (.number 1) := .number (by decide +kernel)
  refine ⟨parseApartExact single, fun e fns vs => evalApart e, ?_, operandsUnsigned, ?_, ?_, ?_, ?_⟩
  · intro body folded body' separate
    have same : body'.apart = body.apart := by
      have both := @parseApartExact isFunction text single
      rw [folded, separate] at both
      cases both
      exact Body.apartTwice body
    refine ⟨fun m => ?_, fun c place m k state => Machine.alike ?_ state⟩
    · have lists := congrArg Body.toList same
      simp only [bodyList] at lists
      simp only [Machine.apart, List.map_append, lists]
    · rw [withBodyApart, withBodyApart, same]
  · exact printSubtracts rfl rfl (.number (by decide +kernel)) (.number (by decide +kernel))
  · exact printSubtracts rfl rfl (.scalar "X") one
  · exact printSubtracts rfl (u := .symbol .open :: ([.number "2"] ++ [.symbol .close])) rfl
      (.group (numberExpression (by decide +kernel))) one
  · refine printSubtracts rfl
      (u := .name "A" :: .symbol .open :: ([.number "1"] ++ [.symbol .close])) rfl ?_ one
    have index : Expressions isFunction [.number "1"] [.number 1] :=
      .one (numberExpression (by decide +kernel))
    cases known : isFunction "A" with
    | true => exact .call known (.some index)
    | false => exact .element known index

theorem signFoldingKeepsMeaningJump : SingleSigns "IF X<-1 THEN -5" ∧
    parseLine (fun _ => false) "IF X<-1 THEN -5" =
      .ok ⟨.jumpIf (.compare .less (.scalar "X") (.number (-1))) (-5), []⟩ ∧
    parseApart (fun _ => false) "IF X<-1 THEN -5" =
      .ok ⟨.jumpIf (.compare .less (.scalar "X") (.negate (.number 1))) (-5), []⟩ := by
  have read : TokenStream.ofLine "IF X<-1 THEN -5" =
      ⟨[⟨.name "IF", 0⟩, ⟨.name "X", 3⟩, ⟨.symbol .less, 4⟩, ⟨.number "-1", 5⟩, ⟨.name "THEN", 8⟩,
        ⟨.symbol .minus, 13⟩, ⟨.number "5", 14⟩], .ok 15⟩ := rfl
  have single : SingleSigns "IF X<-1 THEN -5" := by
    have others : ¬ JumpWord "IF" ∧ ¬ JumpWord "X" := by
      unfold JumpWord Spells SpellsWord
      decide
    intro k pos member word
    rw [read] at member
    simp only [List.mem_cons, Token.mk.injEq, Lexeme.name.injEq, reduceCtorEq, false_and,
      false_or, or_false, List.not_mem_nil] at member
    rcases member with ⟨rfl, rfl⟩ | ⟨rfl, rfl⟩ | ⟨rfl, rfl⟩
    · exact absurd word others.1
    · exact absurd word others.2
    · have behind : ("IF X<-1 THEN -5".toList.drop (8 + "THEN".length)).filter
          (!Text.isSpace ·) = ['-', '5'] := by decide +kernel
      rintro ⟨a, b, rest, shape, _, second⟩
      cases behind.symm.trans shape
      cases second
  have folded : parseLine (fun _ => false) "IF X<-1 THEN -5" =
      .ok ⟨.jumpIf (.compare .less (.scalar "X") (.number (-1))) (-5), []⟩ := by
    have minus : Number.read? "-1" = some (-1) := by decide +kernel
    have five : Text.readInteger? "5" = some 5 := by decide +kernel
    have test : Expression (fun _ => false) ([.name "X"] ++ .symbol .less :: [.number "-1"])
        (.compare .less (.scalar "X") (.number (-1))) :=
      .compare .less (.product (.signed (.operand (.scalar "X"))))
        (.product (.signed (.operand (.number minus))))
    have form : Simple (fun _ => false) _ _ := .jumpIf (k := "IF") (t := "THEN") rfl test rfl
      (.negated five)
    exact parseLineComplete (.whole read (.last (by simp) (.simple trivial form)))
  have literal : (Expr.number (-1)).apart = .negate (.number 1) := by
    have negative : Number.isNegative (-1) = true := by decide +kernel
    have positive : -(-1 : Float) = 1 := by decide +kernel
    rw [Expr.apart, if_pos negative, positive]
  have both := (signFoldingKeepsMeaning (fun _ => false) _ single).1
  refine ⟨single, folded, ?_⟩
  cases separate : parseApart (fun _ => false) "IF X<-1 THEN -5" with
  | error f =>
      rw [folded, separate] at both
      cases both
  | ok body =>
      rw [folded, separate] at both
      cases both
      simp only [Body.apart, Stmt.apart, Expr.apart, ← literal, List.map_nil]

end LineBasic
