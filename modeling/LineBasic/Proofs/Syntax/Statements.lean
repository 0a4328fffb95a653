import LineBasic.Proofs.Syntax.Expressions

/-!
The parser of statements reads exactly the forms of the grammar. A statement ends where the token
behind it is neither an operator nor an opening parenthesis; what that token is decides only whether
the statement after THEN may be empty.
-/
namespace LineBasic.Parser

open TokenStream Grammar

theorem ofUpperSome {name : String} {k : Keyword} :
    Keyword.ofUpper? name = some k ↔ name = k.spelling := by
  constructor
  · intro found
    unfold Keyword.ofUpper? at found
    have same := List.find?_some found
    exact (beq_iff_eq.mp same).symm
  · intro same
    subst same
    cases k <;> decide

theorem ofUpperNone {name : String} :
    Keyword.ofUpper? name = none ↔ ∀ k : Keyword, name ≠ k.spelling := by
  constructor
  · intro missing k same
    rw [ofUpperSome.mpr same] at missing
    cases missing
  · intro other
    cases found : Keyword.ofUpper? name with
    | none => rfl
    | some k => exact absurd (ofUpperSome.mp found) (other k)

@[simp] theorem upperLength (s : String) : (Text.upper s).length = s.length := by
  simp [Text.upper, String.length_toList]

variable {isFunction : String → Bool} {line : List Char} {d : Nat}

section Sound

variable {s s' : TokenStream}

theorem expressionReads {e} (ok : expression isFunction d s = .ok (e, s')) :
    ∃ w, Reads s w s' ∧ Expression isFunction w e := (soundAt isFunction d).expression ok

theorem expressionsRead {es} (ok : expressions isFunction d s = .ok (es, s')) :
    ∃ w, Reads s (w ++ [.symbol .close]) s' ∧ Expressions isFunction w es :=
  (soundAt isFunction d).expressions ok

@[simp] theorem separatorSome {t : Lexeme} {x : Separator} :
    separator? t = some x ↔ t = .symbol x.symbol := by
  constructor
  · intro found
    unfold separator? at found
    split at found <;> cases found <;> rfl
  · intro same
    subst same
    cases x <;> rfl

theorem printRestSound {n rest} (ok : printRest isFunction d n s = .ok (rest, s')) :
    ∃ w, Reads s w s' ∧ Items isFunction w rest := by
  induction n generalizing s rest with
  | zero => cases ok
  | succ n ih =>
    simp only [printRest, bindOk, peekOk] at ok
    obtain ⟨t, _, ⟨ahead, rfl⟩, more⟩ := ok
    cases found : separator? t with
    | none =>
        simp only [found, pureOk] at more
        obtain ⟨rfl, rfl⟩ := more
        exact ⟨[], readsNothing s, .done⟩
    | some x =>
        simp only [found, bindOk, skipOk, pureOk] at more
        obtain ⟨_, _, rfl, e, mid, item, others, _, tail, rfl, rfl⟩ := more
        obtain ⟨u, readU, form⟩ := expressionReads item
        obtain ⟨v, readV, list⟩ := ih tail
        have shape := separatorSome.mp found
        subst shape
        have readX := ahead.reads (by simp)
        exact ⟨_, readX.cons (readU.trans readV), .more x form list⟩

theorem assignmentToSound {name st} {free : Prop}
    (ok : assignmentTo isFunction d name s = .ok (st, s'))
    (allowed : Ahead s (.symbol .open) → free) :
    ∃ w, Reads s w s' ∧ Assignment isFunction name free w st := by
  simp only [assignmentTo, bindOk] at ok
  obtain ⟨indexed, mid, first, rest⟩ := ok
  cases indexed with
  | true =>
      simp only [if_true, bindOk, expectOk, pureOk] at rest
      obtain ⟨index, mid', list, _, after, readEqual, value, _, right, rfl, rfl⟩ := rest
      have readOpen := acceptYes.mp first
      obtain ⟨w, readW, indexForm⟩ := expressionsRead list
      obtain ⟨v, readV, valueForm⟩ := expressionReads right
      refine ⟨_, ?_, .element (allowed readOpen.ahead) indexForm valueForm⟩
      simpa using readOpen.cons (readW.trans (readEqual.cons readV))
  | false =>
      obtain ⟨rfl, _⟩ := acceptNo.mp first
      simp only [Bool.false_eq_true, if_false, bindOk, expectOk, pureOk] at rest
      obtain ⟨_, after, readEqual, value, _, right, rfl, rfl⟩ := rest
      obtain ⟨v, readV, valueForm⟩ := expressionReads right
      exact ⟨_, readEqual.cons readV, .scalar valueForm⟩

theorem declarationsSound {n arrays} (ok : declarations isFunction d n s = .ok (arrays, s')) :
    ∃ w, Reads s w s' ∧ Declarations isFunction w arrays := by
  induction n generalizing s arrays with
  | zero => cases ok
  | succ n ih =>
    simp only [declarations, bindOk, expectNameOk, expectOk] at ok
    obtain ⟨_, mid, ⟨k, rfl, readName⟩, _, after, readOpen, dims, mid', list, more, mid'', comma,
      rest⟩ := ok
    obtain ⟨w, readW, dimsForm⟩ := expressionsRead list
    cases more with
    | true =>
        simp only [if_true, bindOk, pureOk] at rest
        obtain ⟨others, _, tail, rfl, rfl⟩ := rest
        obtain ⟨v, readV, othersForm⟩ := ih tail
        refine ⟨_, ?_, .more dimsForm othersForm⟩
        have readComma := acceptYes.mp comma
        simpa using readName.cons (readOpen.cons (readW.trans (readComma.cons readV)))
    | false =>
        obtain ⟨rfl, _⟩ := acceptNo.mp comma
        obtain ⟨rfl, rfl⟩ := pureOk.mp rest
        exact ⟨_, readName.cons (readOpen.cons readW), .one dimsForm⟩

end Sound

inductive Parsed (isFunction : String → Bool) (line : List Char) (s : TokenStream) (st : Stmt)
    (s' : TokenStream) : Prop where
  | plain {w} (reads : Reads s w s')
      (form : ∀ c : Close, c.Plain → (Ahead s' (.symbol .colon) → c = .colon) →
        Statement isFunction c w st)
      (shown : w = [] → ∃ t, Ahead s' t ∧ isStatementEnd t = true)
  | remarked {before k pos after ending} (reads : Reads s before ⟨⟨.name k, pos⟩ :: after, ending⟩)
      (form : Statement isFunction (.remark (line.drop (pos + k.length))) (before ++ [.name k]) st)
      (finished : s' = ⟨[], .ok line.length⟩)

section Sound

variable {s s' : TokenStream}

theorem Parsed.ofSimple {w st} (nonempty : w ≠ []) (reads : Reads s w s')
    (form : Simple isFunction w st) : Parsed isFunction line s st s' :=
  .plain reads (fun _ plain _ => .simple plain form) (fun empty => absurd empty nonempty)

theorem branchSound {n k st start} (readIf : Reads start [.name k] s) (word : Spells .ifKw k)
    (inner : ∀ {s st s'}, statement isFunction line d n s = .ok (st, s') →
      Parsed isFunction line s st s')
    (ok : branch isFunction d (statement isFunction line d n) s = .ok (st, s')) :
    Parsed isFunction line start st s' := by
  simp only [branch, bindOk, expectWordOk, peekOk] at ok
  obtain ⟨condition, mid, test, _, after, ⟨t, thenWord, readThen⟩, x, _, ⟨ahead, rfl⟩, rest⟩ := ok
  obtain ⟨u, readU, testForm⟩ := expressionReads test
  have readFront := readIf.cons (readU.trans readThen)
  have jump : ∀ {target}, expectLineNumber after = .ok (target, s') →
      Parsed isFunction line start (.jumpIf condition target) s' := by
    intro target found
    obtain ⟨v, targetForm, readV⟩ := expectLineNumberOk.mp found
    refine .ofSimple (by simp) ?_ (.jumpIf word testForm thenWord targetForm)
    simpa using readFront.trans readV
  have nested : ∀ {body}, statement isFunction line d n after = .ok (body, s') →
      x ≠ .endOfLine → Parsed isFunction line start (.doIf condition body) s' := by
    intro body found other
    cases inner found with
    | @plain v reads form shown =>
        refine .plain (by simpa using readFront.trans reads) ?_ (by simp)
        intro c plain colon
        refine .doIf word testForm thenWord (form c plain colon) ?_
        intro empty
        obtain ⟨y, aheadY, stop⟩ := shown empty
        subst empty
        rw [← reads.nothing] at aheadY colon
        have same := aheadY.unique ahead
        subst same
        cases y with
        | endOfLine => exact absurd rfl other
        | symbol z =>
            cases z <;> simp [isStatementEnd] at stop
            exact colon ahead
        | number _ => simp [isStatementEnd] at stop
        | text _ => simp [isStatementEnd] at stop
        | name _ => simp [isStatementEnd] at stop
    | remarked reads form finished =>
        refine .remarked (by simpa using readFront.trans reads) ?_ finished
        simpa using Statement.doIf word testForm thenWord form (by simp)
  cases x with
  | endOfLine => exact absurd rest failOk
  | number _ =>
      simp only [bindOk, pureOk] at rest
      obtain ⟨target, _, found, rfl, rfl⟩ := rest
      exact jump found
  | text _ =>
      simp only [bindOk, pureOk] at rest
      obtain ⟨body, _, found, rfl, rfl⟩ := rest
      exact nested found (by simp)
  | name _ =>
      simp only [bindOk, pureOk] at rest
      obtain ⟨body, _, found, rfl, rfl⟩ := rest
      exact nested found (by simp)
  | symbol z =>
      cases z
      case minus =>
        simp only [bindOk, pureOk] at rest
        obtain ⟨target, _, found, rfl, rfl⟩ := rest
        exact jump found
      all_goals
        simp only [bindOk, pureOk] at rest
        obtain ⟨body, _, found, rfl, rfl⟩ := rest
        exact nested found (by simp)

theorem printSound {k items start} (readWord : Reads start [.name k] s) (word : Spells .printKw k)
    (ok : printItems isFunction d s = .ok (items, s')) :
    Parsed isFunction line start (.print items) s' := by
  simp only [printItems, bindOk, peekOk] at ok
  obtain ⟨t, _, ⟨ahead, rfl⟩, rest⟩ := ok
  split at rest
  · obtain ⟨rfl, rfl⟩ := pureOk.mp rest
    exact .ofSimple (by simp) readWord (.printLine word)
  · simp only [bindOk, pureOk] at rest
    obtain ⟨first, mid, item, others, _, list, rfl, rfl⟩ := rest
    obtain ⟨u, readU, itemForm⟩ := expressionReads item
    obtain ⟨v, readV, listForm⟩ := printRestSound list
    exact .ofSimple (by simp) (readWord.cons (readU.trans readV)) (.print word itemForm listForm)

theorem loopSound {k spelling st start} (readWord : Reads start [.name k] s)
    (word : Spells .forKw k) {mid} (readName : Reads s [.name spelling] mid)
    (ok : loopRest isFunction d (Text.upper spelling) mid = .ok (st, s')) :
    Parsed isFunction line start st s' := by
  simp only [loopRest, bindOk, expectOk, expectWordOk] at ok
  obtain ⟨_, m₁, readEqual, first, m₂, one, _, m₃, ⟨t, toWord, readTo⟩, last, m₄, two, more, m₅,
    stepping, rest⟩ := ok
  obtain ⟨u, readU, firstForm⟩ := expressionReads one
  obtain ⟨v, readV, lastForm⟩ := expressionReads two
  have readFront := readWord.cons (readName.cons (readEqual.cons (readU.trans (readTo.cons readV))))
  cases more with
  | true =>
      simp only [if_true, bindOk, pureOk] at rest
      obtain ⟨stride, _, three, rfl, rfl⟩ := rest
      obtain ⟨p, stepWord, readStep⟩ := acceptWordYes.mp stepping
      obtain ⟨w, readW, strideForm⟩ := expressionReads three
      refine .ofSimple (by simp) ?_ (.loopStep word firstForm toWord lastForm stepWord strideForm)
      simpa using readFront.trans (readStep.cons readW)
  | false =>
      obtain ⟨rfl, _⟩ := acceptWordNo.mp stepping
      obtain ⟨rfl, rfl⟩ := pureOk.mp rest
      exact .ofSimple (by simp) readFront (.loop word firstForm toWord lastForm)

theorem randomizeSound {k st start} (readWord : Reads start [.name k] s)
    (word : Spells .randomizeKw k) (ok : randomizeRest isFunction d s = .ok (st, s')) :
    Parsed isFunction line start st s' := by
  simp only [randomizeRest, bindOk, peekOk] at ok
  obtain ⟨t, _, ⟨ahead, rfl⟩, rest⟩ := ok
  split at rest
  · obtain ⟨rfl, rfl⟩ := pureOk.mp rest
    exact .ofSimple (by simp) readWord (.reseed word)
  · simp only [bindOk, pureOk] at rest
    obtain ⟨seed, _, value, rfl, rfl⟩ := rest
    obtain ⟨w, readW, form⟩ := expressionReads value
    exact .ofSimple (by simp) (readWord.cons readW) (.randomize word form)

theorem nameStatementSound {k st start} (readName : Reads start [.name k] s)
    (plain : NoKeyword k) (ok : nameStatement isFunction d (Text.upper k) s = .ok (st, s')) :
    Parsed isFunction line start st s' := by
  simp only [nameStatement, bindOk, peekOk] at ok
  obtain ⟨t, _, ⟨ahead, rfl⟩, rest⟩ := ok
  split at rest
  · rename_i isCall
    obtain ⟨rfl, known⟩ := isCall
    simp only [bindOk, skipOk, pureOk] at rest
    obtain ⟨_, _, rfl, args, _, list, rfl, rfl⟩ := rest
    obtain ⟨w, readW, form⟩ := (soundAt isFunction d).arguments list
    have readOpen := ahead.reads (by simp)
    exact .ofSimple (by simp) (readName.cons (readOpen.cons readW)) (.call plain known form)
  · rename_i noCall
    have free : Ahead s (.symbol .open) → isFunction (Text.upper k) = false := by
      intro opened
      have same := opened.unique ahead
      subst same
      simpa using noCall
    obtain ⟨w, readW, form⟩ := assignmentToSound rest free
    exact .ofSimple (by simp) (readName.cons readW) (.assign plain form)

theorem keywordSound {n k kw pos st after ending} (word : Spells kw k)
    (inner : ∀ {s st s'}, statement isFunction line d n s = .ok (st, s') →
      Parsed isFunction line s st s')
    (ok : keywordStatement isFunction line d (statement isFunction line d n) pos kw
      ⟨after, ending⟩ = .ok (st, s')) :
    Parsed isFunction line ⟨⟨.name k, pos⟩ :: after, ending⟩ st s' := by
  have readWord : Reads ⟨⟨.name k, pos⟩ :: after, ending⟩ [.name k] ⟨after, ending⟩ :=
    ⟨[⟨.name k, pos⟩], rfl, rfl⟩
  cases kw <;> simp only [keywordStatement, bindOk, mapOk, expectNameOk, expectLineNumberOk,
    pureOk] at ok
  case printKw =>
    obtain ⟨items, found, rfl⟩ := ok
    exact printSound readWord word found
  case letKw =>
    obtain ⟨_, mid, ⟨spelling, rfl, readName⟩, rest⟩ := ok
    obtain ⟨w, readW, form⟩ := assignmentToSound rest (fun _ => True.intro)
    exact .ofSimple (by simp) (readWord.cons (readName.cons readW)) (.letAssign word form)
  case inputKw =>
    obtain ⟨_, ⟨spelling, rfl, readName⟩, rfl⟩ := ok
    exact .ofSimple (by simp) (readWord.cons readName) (.input word)
  case ifKw => exact branchSound readWord word inner ok
  case gotoKw =>
    obtain ⟨target, ⟨w, form, readW⟩, rfl⟩ := ok
    exact .ofSimple (by simp) (readWord.cons readW) (.goto word form)
  case gosubKw =>
    obtain ⟨target, ⟨w, form, readW⟩, rfl⟩ := ok
    exact .ofSimple (by simp) (readWord.cons readW) (.gosub word form)
  case returnKw =>
    obtain ⟨rfl, rfl⟩ := ok
    exact .ofSimple (by simp) readWord (.goBack word)
  case forKw =>
    obtain ⟨_, mid, ⟨spelling, rfl, readName⟩, rest⟩ := ok
    exact loopSound readWord word readName rest
  case nextKw =>
    obtain ⟨_, ⟨spelling, rfl, readName⟩, rfl⟩ := ok
    exact .ofSimple (by simp) (readWord.cons readName) (.next word)
  case dimKw =>
    obtain ⟨arrays, found, rfl⟩ := ok
    obtain ⟨w, readW, form⟩ := declarationsSound found
    exact .ofSimple (by simp) (readWord.cons readW) (.dim word form)
  case randomizeKw => exact randomizeSound readWord word ok
  case endKw =>
    obtain ⟨rfl, rfl⟩ := ok
    exact .ofSimple (by simp) readWord (.finishEnd word)
  case stopKw =>
    obtain ⟨rfl, rfl⟩ := ok
    exact .ofSimple (by simp) readWord (.finishStop word)
  case remKw =>
    cases ok
    have width : k.length = Keyword.remKw.spelling.length := by
      rw [← upperLength k, show Text.upper k = _ from word]
    rw [← width]
    exact .remarked (readsNothing _) (.remark _ word) rfl

theorem peekPosOk {pos : Nat} :
    peekPos s = .ok (pos, s') ↔ (∃ t, s.peek = .ok ⟨t, pos⟩) ∧ s = s' := by
  unfold peekPos
  cases h : s.peek with
  | error f => simp
  | ok token =>
      simp only [Except.ok.injEq, Prod.mk.injEq]
      constructor
      · intro same
        obtain ⟨rfl, rfl⟩ := same
        exact ⟨⟨token.lexeme, rfl⟩, rfl⟩
      · intro same
        obtain ⟨⟨t, rfl⟩, rfl⟩ := same
        exact ⟨rfl, rfl⟩

theorem statementSound {n st} (ok : statement isFunction line d n s = .ok (st, s')) :
    Parsed isFunction line s st s' := by
  induction n generalizing s st s' with
  | zero => cases ok
  | succ n ih =>
    simp only [statement, bindOk, peekOk] at ok
    obtain ⟨t, _, ⟨ahead, rfl⟩, rest⟩ := ok
    have emptyForm : isStatementEnd t = true → Parsed isFunction line s (.remark "") s := by
      intro stop
      exact .plain (readsNothing s) (fun _ plain _ => .empty plain) (fun _ => ⟨t, ahead, stop⟩)
    cases t with
    | endOfLine =>
        obtain ⟨rfl, rfl⟩ := pureOk.mp rest
        exact emptyForm rfl
    | number _ => exact absurd rest failOk
    | text _ => exact absurd rest failOk
    | name k =>
        simp only [bindOk, peekPosOk, skipOk] at rest
        obtain ⟨pos, _, ⟨⟨t, shown⟩, rfl⟩, _, _, rfl, more⟩ := rest
        have readName := ahead.reads (by simp)
        cases found : Keyword.ofUpper? (Text.upper k) with
        | none =>
            rw [found] at more
            exact nameStatementSound readName (ofUpperNone.mp found) more
        | some kw =>
            rw [found] at more
            obtain ⟨tokens, ending⟩ := s
            cases tokens with
            | nil => cases ending <;> cases shown; obtain ⟨_, same⟩ := ahead; cases same
            | cons head after =>
                cases shown
                obtain ⟨_, same⟩ := ahead
                cases same
                exact keywordSound (ofUpperSome.mp found) ih more
    | symbol z =>
        cases z
        case colon =>
          obtain ⟨rfl, rfl⟩ := pureOk.mp rest
          exact emptyForm rfl
        all_goals exact absurd rest failOk

end Sound

section Complete

variable {n : Nat} {s s' : TokenStream} {t : Lexeme} {w : List Lexeme}

theorem expressionRuns {e} (form : Expression isFunction w e) (enough : 8 * w.length ≤ d)
    (reads : Reads s w s') (ahead : Ahead s' t) (ends : EndsExpression t) :
    expression isFunction d s = .ok (e, s') :=
  (completeAt isFunction (w.length + 1)).expression form (by omega) (by omega) reads ahead ends

theorem expressionsRun {es} (list : Expressions isFunction w es) (enough : 8 * w.length ≤ d)
    (reads : Reads s (w ++ [.symbol .close]) s') : expressions isFunction d s = .ok (es, s') :=
  (completeAt isFunction (w.length + 1)).expressions list (by omega) (by omega) reads

theorem stopEnds (stop : isStatementEnd t = true) : EndsExpression t := by
  cases t with
  | symbol x =>
      cases x <;> simp [isStatementEnd] at stop
      simp [EndsExpression, EndsSum, EndsProduct, relation?, sumOp?, productOp?]
  | endOfLine => simp [EndsExpression, EndsSum, EndsProduct, relation?, sumOp?, productOp?]
  | _ => simp [isStatementEnd] at stop

theorem nameEnds (k : String) : EndsExpression (.name k) := by
  simp [EndsExpression, EndsSum, EndsProduct, relation?, sumOp?, productOp?]

theorem separatorEnds (x : Separator) : EndsExpression (.symbol x.symbol) := by
  cases x <;>
    simp [Separator.symbol, EndsExpression, EndsSum, EndsProduct, relation?, sumOp?, productOp?]

theorem stopNotStarts (stop : isStatementEnd t = true) : ¬ StartsOperand t := by
  cases t with
  | symbol x =>
      cases x <;> simp [isStatementEnd] at stop
      simp [StartsOperand]
  | endOfLine => simp [StartsOperand]
  | _ => simp [isStatementEnd] at stop

theorem stopNoSeparator (stop : isStatementEnd t = true) : separator? t = none := by
  cases t with
  | symbol x =>
      cases x <;> simp [isStatementEnd] at stop
      rfl
  | _ => rfl

theorem stopNoConnective (word : Connective) (stop : isStatementEnd t = true) :
    isConnective word t = false := by
  cases t with
  | name k => simp [isStatementEnd] at stop
  | _ => rfl

theorem itemsAhead {rest} (list : Items isFunction w rest) (reads : Reads s w s')
    (ahead : Ahead s' t) (stop : isStatementEnd t = true) :
    ∃ x, Ahead s x ∧ EndsExpression x := by
  cases list with
  | done =>
      rw [reads.nothing]
      exact ⟨t, ahead, stopEnds stop⟩
  | more separator item others => exact ⟨_, reads.ahead, separatorEnds separator⟩

theorem printRestComplete {rest} (list : Items isFunction w rest) (deep : w.length < n)
    (enough : 8 * w.length ≤ d) (reads : Reads s w s') (ahead : Ahead s' t)
    (stop : isStatementEnd t = true) : printRest isFunction d n s = .ok (rest, s') := by
  induction list generalizing n s with
  | done =>
      obtain ⟨n, rfl⟩ := Nat.exists_eq_add_of_lt deep
      have same := reads.nothing
      subst same
      rw [printRest, bindRun (peekRun ahead)]
      simp only [stopNoSeparator stop]
      rfl
  | more separator item others ih =>
      simp only [List.length_cons, List.length_append] at deep enough
      obtain ⟨n, rfl⟩ : ∃ m, n = m + 1 := ⟨n - 1, by omega⟩
      obtain ⟨mid, readX, readRest⟩ := reads.uncons
      obtain ⟨after, readU, readV⟩ := readRest.split
      obtain ⟨x, aheadX, ends⟩ := itemsAhead others readV ahead stop
      rw [printRest, bindRun (peekRun readX.ahead)]
      simp only [separatorSome.mpr rfl]
      rw [bindRun (skipRun readX), bindRun (expressionRuns item (by omega) readU aheadX ends),
        bindRun (ih (by omega) (by omega) readV)]
      rfl

theorem assignmentToComplete {name st} {free : Prop} (form : Assignment isFunction name free w st)
    (enough : 8 * w.length ≤ d) (reads : Reads s w s') (ahead : Ahead s' t)
    (stop : isStatementEnd t = true) : assignmentTo isFunction d name s = .ok (st, s') := by
  unfold assignmentTo
  cases form with
  | scalar right =>
      simp only [List.length_cons] at enough
      obtain ⟨mid, readEqual, readW⟩ := reads.uncons
      have noIndex : accept .open s = .ok (false, s) :=
        acceptNo.mpr ⟨rfl, _, readEqual.ahead, by simp⟩
      have equal : expect .equal s = .ok ((), mid) := expectOk.mpr readEqual
      rw [bindRun noIndex]
      simp only [Bool.false_eq_true, if_false]
      rw [bindRun equal, bindRun (expressionRuns right (by omega) readW ahead (stopEnds stop))]
      rfl
  | element allowed list right =>
      simp only [List.length_cons, List.length_append] at enough
      obtain ⟨mid, readOpen, readRest⟩ := reads.uncons
      rw [List.append_cons] at readRest
      obtain ⟨after, readList, readTail⟩ := readRest.split
      obtain ⟨last, readEqual, readV⟩ := readTail.uncons
      have equal : expect .equal after = .ok ((), last) := expectOk.mpr readEqual
      rw [bindRun (acceptYes.mpr readOpen)]
      simp only [if_true]
      rw [bindRun (expressionsRun list (by omega) readList), bindRun equal,
        bindRun (expressionRuns right (by omega) readV ahead (stopEnds stop))]
      rfl

theorem declarationsComplete {arrays} (list : Declarations isFunction w arrays)
    (deep : w.length ≤ n) (enough : 8 * w.length ≤ d) (reads : Reads s w s') (ahead : Ahead s' t)
    (stop : isStatementEnd t = true) : declarations isFunction d n s = .ok (arrays, s') := by
  induction list generalizing n s with
  | @one spelling v dims list =>
      simp only [List.length_cons, List.length_append] at deep enough
      obtain ⟨n, rfl⟩ : ∃ m, n = m + 1 := ⟨n - 1, by omega⟩
      obtain ⟨mid, readName, readRest⟩ := reads.uncons
      obtain ⟨after, readOpen, readList⟩ := readRest.uncons
      have named : expectName s = .ok (Text.upper spelling, mid) :=
        expectNameOk.mpr ⟨spelling, rfl, readName⟩
      have opened : expect .open mid = .ok ((), after) := expectOk.mpr readOpen
      have noComma : accept .comma s' = .ok (false, s') := by
        refine acceptNo.mpr ⟨rfl, t, ahead, ?_⟩
        intro same
        subst same
        cases stop
      rw [declarations, bindRun named, bindRun opened,
        bindRun (expressionsRun list (by omega) readList), bindRun noComma]
      rfl
  | @more spelling v dims u others list rest ih =>
      simp only [List.length_cons, List.length_append] at deep enough
      obtain ⟨n, rfl⟩ : ∃ m, n = m + 1 := ⟨n - 1, by omega⟩
      obtain ⟨mid, readName, readRest⟩ := reads.uncons
      obtain ⟨after, readOpen, readTail⟩ := readRest.uncons
      rw [List.append_cons] at readTail
      obtain ⟨last, readList, readMore⟩ := readTail.split
      obtain ⟨next, readComma, readOthers⟩ := readMore.uncons
      have named : expectName s = .ok (Text.upper spelling, mid) :=
        expectNameOk.mpr ⟨spelling, rfl, readName⟩
      have opened : expect .open mid = .ok ((), after) := expectOk.mpr readOpen
      rw [declarations, bindRun named, bindRun opened,
        bindRun (expressionsRun list (by omega) readList), bindRun (acceptYes.mpr readComma)]
      simp only [if_true]
      rw [bindRun (ih (by omega) (by omega) readOthers)]
      rfl

theorem printItemsComplete {u v first rest} (item : Expression isFunction u first)
    (others : Items isFunction v rest) (enough : 8 * (u.length + v.length) < d)
    (reads : Reads s (u ++ v) s') (ahead : Ahead s' t) (stop : isStatementEnd t = true) :
    printItems isFunction d s = .ok (some ⟨first, rest⟩, s') := by
  obtain ⟨mid, readU, readV⟩ := reads.split
  obtain ⟨x, aheadX, ends⟩ := itemsAhead others readV ahead stop
  obtain ⟨y, w, rfl, starts⟩ := expressionStarts item
  have more : ¬ isStatementEnd y = true := fun end' => stopNotStarts end' starts
  rw [printItems, bindRun (peekRun readU.ahead), if_neg more,
    bindRun (expressionRuns item (by omega) readU aheadX ends),
    bindRun (printRestComplete others (by omega) (by omega) readV ahead stop)]
  rfl

theorem loopRestComplete {name u v start limit toName} (first : Expression isFunction u start)
    (toWord : SpellsWord .toWord toName) (last : Expression isFunction v limit)
    (enough : 8 * (u.length + v.length) ≤ d) {mid}
    (reads : Reads s (.symbol .equal :: (u ++ .name toName :: v)) mid) (ahead : Ahead mid t)
    (ends : EndsExpression t) :
    loopRest isFunction d name s = (do
      if (← acceptWord .stepWord) then
        let step ← expression isFunction d
        pure (.loop name start limit (some step))
      else pure (.loop name start limit none) : Parser Stmt) mid := by
  obtain ⟨s₁, readEqual, readRest⟩ := reads.uncons
  obtain ⟨s₂, readU, readTail⟩ := readRest.split
  obtain ⟨s₃, readTo, readV⟩ := readTail.uncons
  have equal : expect .equal s = .ok ((), s₁) := expectOk.mpr readEqual
  have follow : expectWord .toWord s₂ = .ok ((), s₃) := expectWordOk.mpr ⟨toName, toWord, readTo⟩
  rw [loopRest, bindRun equal, bindRun (expressionRuns first (by omega) readU readTo.ahead
    (nameEnds toName)), bindRun follow, bindRun (expressionRuns last (by omega) readV ahead ends)]

theorem randomizeComplete {seed} (value : Expression isFunction w seed)
    (enough : 8 * w.length ≤ d) (reads : Reads s w s') (ahead : Ahead s' t)
    (stop : isStatementEnd t = true) :
    randomizeRest isFunction d s = .ok (.randomize (some seed), s') := by
  obtain ⟨y, v, rfl, starts⟩ := expressionStarts value
  have more : ¬ isStatementEnd y = true := fun end' => stopNotStarts end' starts
  rw [randomizeRest, bindRun (peekRun reads.ahead), if_neg more,
    bindRun (expressionRuns value enough reads ahead (stopEnds stop))]
  rfl

theorem statementKeyword {k kw pos after ending} (word : Spells kw k) :
    statement isFunction line d (n + 1) ⟨⟨.name k, pos⟩ :: after, ending⟩ =
      keywordStatement isFunction line d (statement isFunction line d n) pos kw
        ⟨after, ending⟩ := by
  have found : Keyword.ofUpper? (Text.upper k) = some kw := ofUpperSome.mpr word
  rw [statement, bindRun (peekRun ⟨pos, rfl⟩)]
  simp only
  have skipped : skip ⟨⟨.name k, pos⟩ :: after, ending⟩ = .ok ((), ⟨after, ending⟩) := rfl
  rw [bindRun (peekPosOk.mpr ⟨⟨.name k, rfl⟩, rfl⟩), bindRun skipped]
  simp only [found]

theorem keywordRuns {k kw mid} (word : Spells kw k) (reads : Reads s [.name k] mid) :
    ∃ pos, statement isFunction line d (n + 1) s =
      keywordStatement isFunction line d (statement isFunction line d n) pos kw mid := by
  obtain ⟨tokens, rfl, shape⟩ := reads
  obtain ⟨⟨_, pos⟩, rfl, rfl⟩ := List.map_eq_singleton_iff.mp shape
  exact ⟨pos, statementKeyword word⟩

theorem keywordFirst {k kw} (word : Spells kw k) (reads : Reads s (.name k :: w) s') :
    ∃ mid pos, Reads mid w s' ∧ statement isFunction line d (n + 1) s =
      keywordStatement isFunction line d (statement isFunction line d n) pos kw mid := by
  obtain ⟨mid, readWord, readRest⟩ := reads.uncons
  obtain ⟨pos, run⟩ := keywordRuns word readWord
  exact ⟨mid, pos, readRest, run⟩

theorem nameRuns {k mid} (plain : NoKeyword k) (reads : Reads s [.name k] mid) :
    statement isFunction line d (n + 1) s = nameStatement isFunction d (Text.upper k) mid := by
  obtain ⟨pos, shown⟩ := reads.ahead
  rw [statement, bindRun (peekRun reads.ahead)]
  simp only
  rw [bindRun (peekPosOk.mpr ⟨⟨.name k, shown⟩, rfl⟩), bindRun (skipRun reads)]
  simp only [ofUpperNone.mpr plain]

theorem branchJumps {inner : Parser Stmt} {u v condition thenName target}
    (test : Expression isFunction u condition) (thenWord : SpellsWord .thenWord thenName)
    (number : JumpTarget v target) (enough : 8 * u.length ≤ d)
    (reads : Reads s (u ++ .name thenName :: v) s') :
    branch isFunction d inner s = .ok (.jumpIf condition target, s') := by
  obtain ⟨mid, readU, readRest⟩ := reads.split
  obtain ⟨after, readThen, readV⟩ := readRest.uncons
  have follow : expectWord .thenWord mid = .ok ((), after) :=
    expectWordOk.mpr ⟨thenName, thenWord, readThen⟩
  have jump : expectLineNumber after = .ok (target, s') :=
    expectLineNumberOk.mpr ⟨v, number, readV⟩
  rw [branch, bindRun (expressionRuns test enough readU readThen.ahead (nameEnds thenName)),
    bindRun follow]
  cases number <;>
    (rw [bindRun (peekRun readV.ahead)]; simp only; rw [bindRun jump]; rfl)

theorem branchNests {inner : Parser Stmt} {u condition thenName st mid}
    (test : Expression isFunction u condition) (thenWord : SpellsWord .thenWord thenName)
    (enough : 8 * u.length ≤ d) (reads : Reads s (u ++ [.name thenName]) mid)
    (ahead : Ahead mid t) (starts : t = .symbol .colon ∨ ∃ k, t = .name k)
    (body : inner mid = .ok (st, s')) :
    branch isFunction d inner s = .ok (.doIf condition st, s') := by
  obtain ⟨after, readU, readThen⟩ := reads.split
  have follow : expectWord .thenWord after = .ok ((), mid) :=
    expectWordOk.mpr ⟨thenName, thenWord, readThen⟩
  rw [branch, bindRun (expressionRuns test enough readU readThen.ahead (nameEnds thenName)),
    bindRun follow, bindRun (peekRun ahead)]
  rcases starts with rfl | ⟨k, rfl⟩ <;>
    (simp only; rw [bindRun body]; rfl)

theorem simpleComplete {st} (form : Simple isFunction w st) (positive : 0 < n)
    (enough : 8 * w.length ≤ d) (reads : Reads s w s') (ahead : Ahead s' t)
    (stop : isStatementEnd t = true) : statement isFunction line d n s = .ok (st, s') := by
  obtain ⟨n, rfl⟩ : ∃ m, n = m + 1 := ⟨n - 1, by omega⟩
  cases form with
  | printLine word =>
      obtain ⟨pos, run⟩ := keywordRuns word reads
      have bare : printItems isFunction d s' = .ok (none, s') := by
        rw [printItems, bindRun (peekRun ahead), if_pos stop]
        rfl
      rw [run]
      exact mapOk.mpr ⟨_, bare, rfl⟩
  | print word item others =>
      simp only [List.length_cons, List.length_append] at enough
      obtain ⟨mid, pos, readItems, run⟩ := keywordFirst word reads
      rw [run]
      exact mapOk.mpr ⟨_, printItemsComplete item others (by omega) readItems ahead stop, rfl⟩
  | letAssign word rest =>
      simp only [List.length_cons] at enough
      obtain ⟨mid, pos, readTail, run⟩ := keywordFirst word reads
      obtain ⟨after, readName, readRest⟩ := readTail.uncons
      rw [run, keywordStatement, bindRun (expectNameOk.mpr ⟨_, rfl, readName⟩)]
      exact assignmentToComplete rest (by omega) readRest ahead stop
  | assign plain rest =>
      simp only [List.length_cons] at enough
      obtain ⟨mid, readName, readRest⟩ := reads.uncons
      have assigned := assignmentToComplete (d := d) rest (by omega) readRest ahead stop
      rw [nameRuns plain readName, nameStatement]
      cases rest with
      | scalar right =>
          rw [bindRun (peekRun readRest.ahead), if_neg (by simp)]
          exact assigned
      | element unknown list right =>
          rw [bindRun (peekRun readRest.ahead), if_neg (by simp [unknown])]
          exact assigned
  | call plain known list =>
      simp only [List.length_cons, List.length_append] at enough
      obtain ⟨mid, readName, readTail⟩ := reads.uncons
      obtain ⟨after, readOpen, readRest⟩ := readTail.uncons
      rw [nameRuns plain readName, nameStatement, bindRun (peekRun readOpen.ahead),
        if_pos ⟨rfl, known⟩, bindRun (skipRun readOpen),
        bindRun (argumentsComplete (completeAt isFunction _) list (Nat.lt_succ_self _) (by omega)
          (by omega) readRest)]
      rfl
  | input word =>
      obtain ⟨mid, pos, readName, run⟩ := keywordFirst word reads
      rw [run]
      exact mapOk.mpr ⟨_, expectNameOk.mpr ⟨_, rfl, readName⟩, rfl⟩
  | jumpIf word test thenWord target =>
      simp only [List.length_cons, List.length_append] at enough
      obtain ⟨mid, pos, readRest, run⟩ := keywordFirst word reads
      rw [run]
      exact branchJumps test thenWord target (by omega) readRest
  | goto word target =>
      obtain ⟨mid, pos, readRest, run⟩ := keywordFirst word reads
      rw [run]
      exact mapOk.mpr ⟨_, expectLineNumberOk.mpr ⟨_, target, readRest⟩, rfl⟩
  | gosub word target =>
      obtain ⟨mid, pos, readRest, run⟩ := keywordFirst word reads
      rw [run]
      exact mapOk.mpr ⟨_, expectLineNumberOk.mpr ⟨_, target, readRest⟩, rfl⟩
  | goBack word =>
      obtain ⟨pos, run⟩ := keywordRuns word reads
      rw [run]
      rfl
  | loop word first toWord last =>
      simp only [List.length_cons, List.length_append] at enough
      obtain ⟨mid, pos, readTail, run⟩ := keywordFirst word reads
      obtain ⟨after, readName, readRest⟩ := readTail.uncons
      have noStep : acceptWord .stepWord s' = .ok (false, s') :=
        acceptWordNo.mpr ⟨rfl, t, ahead, stopNoConnective .stepWord stop⟩
      rw [run, keywordStatement, bindRun (expectNameOk.mpr ⟨_, rfl, readName⟩),
        loopRestComplete first toWord last (by omega) readRest ahead (stopEnds stop),
        bindRun noStep]
      rfl
  | @loopStep k spelling toName byName u v w start limit step word first toWord last stepWord
      stride =>
      simp only [List.length_cons, List.length_append] at enough
      obtain ⟨mid, pos, readTail, run⟩ := keywordFirst word reads
      obtain ⟨after, readName, readRest⟩ := readTail.uncons
      have regroup : Lexeme.symbol .equal :: (u ++ .name toName :: (v ++ .name byName :: w)) =
          (.symbol .equal :: (u ++ .name toName :: v)) ++ .name byName :: w := by simp
      rw [regroup] at readRest
      obtain ⟨atStep, readHead, readStride⟩ := readRest.split
      obtain ⟨behind, readStep, readW⟩ := readStride.uncons
      rw [run, keywordStatement, bindRun (expectNameOk.mpr ⟨_, rfl, readName⟩),
        loopRestComplete first toWord last (by omega) readHead readStep.ahead (nameEnds byName),
        bindRun (acceptWordYes.mpr ⟨byName, stepWord, readStep⟩)]
      simp only [if_true]
      rw [bindRun (expressionRuns stride (by omega) readW ahead (stopEnds stop))]
      rfl
  | next word =>
      obtain ⟨mid, pos, readName, run⟩ := keywordFirst word reads
      rw [run]
      exact mapOk.mpr ⟨_, expectNameOk.mpr ⟨_, rfl, readName⟩, rfl⟩
  | dim word list =>
      simp only [List.length_cons] at enough
      obtain ⟨mid, pos, readRest, run⟩ := keywordFirst word reads
      rw [run]
      exact mapOk.mpr
        ⟨_, declarationsComplete list (by omega) (by omega) readRest ahead stop, rfl⟩
  | reseed word =>
      obtain ⟨pos, run⟩ := keywordRuns word reads
      rw [run, keywordStatement, randomizeRest, bindRun (peekRun ahead), if_pos stop]
      rfl
  | randomize word value =>
      simp only [List.length_cons] at enough
      obtain ⟨mid, pos, readRest, run⟩ := keywordFirst word reads
      rw [run]
      exact randomizeComplete value (by omega) readRest ahead stop
  | finishEnd word =>
      obtain ⟨pos, run⟩ := keywordRuns word reads
      rw [run]
      rfl
  | finishStop word =>
      obtain ⟨pos, run⟩ := keywordRuns word reads
      rw [run]
      rfl

end Complete

end LineBasic.Parser
