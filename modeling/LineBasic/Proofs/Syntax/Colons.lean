import LineBasic.Proofs.Syntax.Lines
import LineBasic.Proofs.Syntax.Scanning
import LineBasic.Proofs.Text.Trim

/-!
Lines joined by a colon. No token goes on across a colon, and tokens are read behind it as at the
start of a line; no statement holds a colon, and one that may end a line may also stand before a
colon. So a line without a remark and any text behind it are parsed apart.
-/
namespace LineBasic

namespace Lexeme

structure Breaks (x : Char) : Prop where
  quote : x ≠ '"'
  point : x ≠ '.'
  digit : x.isDigit = false
  name : isNameChar x = false
  pair : ∀ a, symbol2? a x = none

theorem colonBreaks : Breaks ':' where
  quote := by decide
  point := by decide
  digit := rfl
  name := rfl
  pair a := by
    unfold symbol2?
    split <;> simp_all

section Before

variable {x : Char} (cs behind : List Char)

theorem takeWhileBefore {p : Char → Bool} (stop : p x = false) :
    (cs ++ x :: behind).takeWhile p = cs.takeWhile p := by
  induction cs with
  | nil => simp [stop]
  | cons c cs ih => simp [List.takeWhile_cons, ih]

variable (breaks : Breaks x)
include breaks

theorem startsNumberBefore : startsNumber (cs ++ x :: behind) = startsNumber cs := by
  match cs with
  | [] => simp [startsNumber, breaks.point, breaks.digit]
  | [c] =>
      by_cases point : c = '.'
      · subst point
        simpa [startsNumber] using breaks.digit
      · simp [startsNumber, point]
  | c :: d :: rest =>
      by_cases point : c = '.'
      · subst point
        rfl
      · simp [startsNumber, point]

theorem numberWidthBefore : numberWidth (cs ++ x :: behind) = numberWidth cs := by
  have inside := Text.takeWhileLength Char.isDigit cs
  unfold numberWidth
  simp only [takeWhileBefore cs behind breaks.digit, List.drop_append_of_le_length inside]
  cases left : cs.drop (cs.takeWhile Char.isDigit).length with
  | nil => simp [breaks.point]
  | cons c rest =>
      by_cases point : c = '.'
      · subst point
        simp [takeWhileBefore rest behind breaks.digit]
      · simp [point]

theorem quotedBefore {done contents : List Char} {width n : Nat}
    (closed : quotedFrom done width cs = some (contents, n)) :
    quotedFrom done width (cs ++ x :: behind) = some (contents, n) := by
  fun_induction quotedFrom done width cs with
  | case1 => cases closed
  | case2 done width rest ih => simpa [quotedFrom] using ih closed
  | case3 done width rest single =>
      cases rest with
      | nil =>
          cases closed
          simp [quotedFrom, breaks.quote]
      | cons c rest =>
          have other : c ≠ '"' := by
            rintro rfl
            exact single rest rfl
          cases closed
          simp [quotedFrom, other]
  | case4 done width c rest _ other ih =>
      have plain : c ≠ '"' := by
        rintro rfl
        exact other rfl
      simpa [quotedFrom, plain] using ih closed

theorem symbolBefore {s : Symbol} {width : Nat} (found : symbol? cs = some (s, width)) :
    symbol? (cs ++ x :: behind) = some (s, width) := by
  match cs, found with
  | [a], found => simpa [symbol?, breaks.pair] using found
  | a :: b :: rest, found => simpa [symbol?] using found

theorem readBefore {afterOperand : Bool} {t : Lexeme} {width : Nat}
    (ok : read afterOperand cs = .ok (t, width)) (token : t ≠ .endOfLine) :
    read afterOperand (cs ++ x :: behind) = .ok (t, width) := by
  cases cs with
  | nil =>
      cases ok
      exact absurd rfl token
  | cons c rest =>
      have starts := startsNumberBefore (c :: rest) behind breaks
      have startsRest := startsNumberBefore rest behind breaks
      have digits := numberWidthBefore (c :: rest) behind breaks
      have digitsRest := numberWidthBefore rest behind breaks
      have whole : ((c :: rest) ++ x :: behind).take (numberWidth (c :: rest)) = _ :=
        List.take_append_of_le_length (numberWidthLe (c :: rest))
      have wholeRest : (rest ++ x :: behind).take (numberWidth rest) = _ :=
        List.take_append_of_le_length (numberWidthLe rest)
      rw [List.cons_append] at starts digits whole
      rw [read] at ok
      rw [List.cons_append, read]
      simp only [starts, startsRest, digits, digitsRest, whole, wholeRest,
        takeWhileBefore rest behind breaks.name]
      split at ok
      · rename_i quote
        rw [if_pos quote]
        cases closed : quotedFrom [] 1 rest with
        | none =>
            rw [closed] at ok
            cases ok
        | some found =>
            rw [closed] at ok
            rw [quotedBefore rest behind breaks closed]
            exact ok
      · rename_i plain
        rw [if_neg plain]
        split at ok
        · rename_i number
          rw [if_pos number]
          exact ok
        · rename_i noNumber
          rw [if_neg noNumber]
          split at ok
          · rename_i sign
            rw [if_pos sign]
            exact ok
          · rename_i noSign
            rw [if_neg noSign]
            split at ok
            · rename_i letter
              rw [if_pos letter]
              exact ok
            · rename_i noLetter
              rw [if_neg noLetter]
              cases found : symbol? (c :: rest) with
              | none =>
                  rw [found] at ok
                  cases ok
              | some pair =>
                  have same := symbolBefore (c :: rest) behind breaks found
                  rw [List.cons_append] at same
                  rw [found] at ok
                  rw [same]
                  exact ok

end Before

theorem readColon (afterOperand : Bool) (behind : List Char) :
    read afterOperand (':' :: behind) = .ok (.symbol .colon, 1) := by
  have noNumber : startsNumber (':' :: behind) = false := rfl
  have noSign : isSign ':' = false := rfl
  have noLetter : Text.isLetter ':' = false := rfl
  have found : symbol? (':' :: behind) = some (.colon, 1) := by
    cases behind with
    | nil => rfl
    | cons c rest => simp [symbol?, symbol2?, symbol1?]
  simp [read, noNumber, noSign, noLetter, found]

end Lexeme

namespace Cursor

def before (c : Cursor) (x : Char) (behind : List Char) : Cursor :=
  { c with rest := c.rest ++ x :: behind }

theorem skipSpacesBefore {x : Char} (solid : Text.isSpace x = false) (c : Cursor)
    (behind : List Char) : (c.before x behind).skipSpaces = c.skipSpaces.before x behind := by
  have inside := Text.takeWhileLength Text.isSpace c.rest
  simp only [skipSpaces, before, Lexeme.takeWhileBefore c.rest behind solid,
    List.drop_append_of_le_length inside]

theorem nextBefore {x : Char} (breaks : Lexeme.Breaks x) (solid : Text.isSpace x = false)
    {c after : Cursor} {t : Token} (ok : c.next = .ok (t, after)) (token : t.lexeme ≠ .endOfLine)
    (behind : List Char) : (c.before x behind).next = .ok (t, after.before x behind) := by
  obtain ⟨width, read, pos, rfl⟩ := nextOk.mp ok
  have inside := (Lexeme.readWidth read).1
  refine nextOk.mpr ⟨width, ?_, ?_, ?_⟩
  · rw [skipSpacesBefore solid]
    exact Lexeme.readBefore _ behind breaks read token
  · rw [skipSpacesBefore solid, pos]
    rfl
  · rw [skipSpacesBefore solid]
    simp [before, List.drop_append_of_le_length inside]

theorem nextColon {c after : Cursor} {t : Token} (ok : c.next = .ok (t, after))
    (last : t.lexeme = .endOfLine) (behind : List Char) :
    (c.before ':' behind).next = .ok (⟨.symbol .colon, t.pos⟩, ⟨t.pos + 1, behind, false⟩) := by
  obtain ⟨width, read, pos, rfl⟩ := nextOk.mp ok
  rw [last] at read
  have nothing := (Lexeme.readEnd read).1
  have left : (c.before ':' behind).skipSpaces = ⟨t.pos, ':' :: behind, c.afterOperand⟩ := by
    rw [skipSpacesBefore rfl, before, nothing, pos]
    rfl
  refine nextOk.mpr ⟨1, ?_, ?_, ?_⟩
  · rw [left]
    exact Lexeme.readColon c.afterOperand behind
  · rw [left]
  · rw [left]
    rfl

theorem skipSpacesExtent (c : Cursor) :
    c.skipSpaces.pos + c.skipSpaces.rest.length = c.pos + c.rest.length := by
  have inside := Text.takeWhileLength Text.isSpace c.rest
  simp only [skipSpaces, List.length_drop]
  omega

def later (k : Nat) (c : Cursor) : Cursor := { c with pos := c.pos + k }

theorem skipSpacesLater (k : Nat) (c : Cursor) :
    (c.later k).skipSpaces = c.skipSpaces.later k := by
  simp only [skipSpaces, later, Cursor.mk.injEq, and_self, and_true]
  omega

theorem nextLater {c after : Cursor} {t : Token} (k : Nat) (ok : c.next = .ok (t, after)) :
    (c.later k).next = .ok ({ t with pos := t.pos + k }, after.later k) := by
  obtain ⟨width, read, pos, rfl⟩ := nextOk.mp ok
  refine nextOk.mpr ⟨width, ?_, ?_, ?_⟩
  · rw [skipSpacesLater]
    exact read
  · rw [skipSpacesLater, pos]
    rfl
  · rw [skipSpacesLater]
    simp only [later, Cursor.mk.injEq, and_self, and_true]
    omega

theorem nextErrorLater {c : Cursor} {f : LexFault} (k : Nat) (stops : c.next = .error f) :
    (c.later k).next = .error { f with pos := f.pos + k } := by
  obtain ⟨read, pos⟩ := nextError.mp stops
  refine nextError.mpr ⟨?_, ?_⟩
  · rw [skipSpacesLater]
    exact read
  · rw [skipSpacesLater, pos]
    rfl

end Cursor

namespace TokenStream

def later (k : Nat) (s : TokenStream) : TokenStream where
  tokens := s.tokens.map fun t => { t with pos := t.pos + k }
  ending := match s.ending with
    | .ok pos => .ok (pos + k)
    | .error f => .error { f with pos := f.pos + k }

theorem scansLater {c : Cursor} {s : TokenStream} (k : Nat) (scans : Scans Cursor.next c s) :
    Scans Cursor.next (c.later k) (s.later k) := by
  induction scans with
  | fault stops => exact .fault (Cursor.nextErrorLater k stops)
  | done read last => exact .done (Cursor.nextLater k read) last
  | token read more rest ih => exact .token (Cursor.nextLater k read) more ih

theorem scansColon {c : Cursor} {s s' : TokenStream} {stop : Nat} {behind : List Char}
    (scans : Scans Cursor.next c s) (ends : s.ending = .ok stop)
    (others : Scans Cursor.next ⟨stop + 1, behind, false⟩ s') :
    Scans Cursor.next (c.before ':' behind)
      ⟨s.tokens ++ ⟨.symbol .colon, stop⟩ :: s'.tokens, s'.ending⟩ := by
  induction scans with
  | fault stops => cases ends
  | done read last =>
      cases ends
      exact .token (Cursor.nextColon read last behind) (by simp) others
  | token read more rest ih =>
      exact .token (Cursor.nextBefore Lexeme.colonBreaks rfl read more behind) more (ih ends)

theorem scansEnd {c : Cursor} {s : TokenStream} {stop : Nat} (scans : Scans Cursor.next c s)
    (ends : s.ending = .ok stop) : stop = c.pos + c.rest.length := by
  induction scans with
  | fault stops => cases ends
  | @done c t after read last =>
      cases ends
      obtain ⟨width, lexeme, pos, rfl⟩ := Cursor.nextOk.mp read
      rw [last] at lexeme
      have extent := c.skipSpacesExtent
      rw [(Lexeme.readEnd lexeme).1] at extent
      rw [pos, ← extent, List.length_nil, Nat.add_zero]
  | @token c t after s read more rest ih =>
      obtain ⟨width, lexeme, pos, rfl⟩ := Cursor.nextOk.mp read
      have inside := (Lexeme.readWidth lexeme).1
      have extent := c.skipSpacesExtent
      have reached := ih ends
      simp only [List.length_drop] at reached
      omega

theorem ofLineColon {first second : String} {tokens : List Token} {stop : Nat}
    (read : ofLine first = ⟨tokens, .ok stop⟩) :
    ofLine (first ++ ":" ++ second) =
      ⟨tokens ++ ⟨.symbol .colon, stop⟩ :: ((ofLine second).later (first.length + 1)).tokens,
        ((ofLine second).later (first.length + 1)).ending⟩ := by
  have scans := ofLineExact.mp read
  have place : stop = first.length := by
    simpa [Cursor.start, String.length_toList] using scansEnd scans rfl
  subst place
  have start : Cursor.start (first ++ ":" ++ second) =
      (Cursor.start first).before ':' second.toList := by
    simp [Cursor.start, Cursor.before]
  rw [ofLineExact, start]
  refine scansColon scans rfl ?_
  have moved := scansLater (first.length + 1) (ofLineScans second)
  simpa [Cursor.later, Cursor.start] using moved

end TokenStream

namespace Grammar

variable {isFunction : String → Bool}

mutual

theorem expressionNoColon {w e} : Expression isFunction w e → .symbol .colon ∉ w
  | .sum form => sumNoColon form
  | .compare op left right => by
      have other : Symbol.colon ≠ op.symbol := by cases op <;> simp [Relation.symbol]
      simp [sumNoColon left, sumNoColon right, other]

theorem sumNoColon {w e} : Sum isFunction w e → .symbol .colon ∉ w
  | .product form => productNoColon form
  | @Sum.add _ _ _ _ _ op kind left right => by
      have other : Symbol.colon ≠ op.symbol := by cases op <;> simp [ArithOp.symbol]
      simp [sumNoColon left, productNoColon right, other]

theorem productNoColon {w e} : Product isFunction w e → .symbol .colon ∉ w
  | .signed form => signedNoColon form
  | @Product.multiply _ _ _ _ _ op kind left right => by
      have other : Symbol.colon ≠ op.symbol := by cases op <;> simp [ArithOp.symbol]
      simp [productNoColon left, signedNoColon right, other]

theorem signedNoColon {w e} : Signed isFunction w e → .symbol .colon ∉ w
  | .operand form => operandNoColon form
  | .plus inner => by simp [signedNoColon inner]
  | .minus inner => by simp [signedNoColon inner]

theorem operandNoColon {w e} : Operand isFunction w e → .symbol .colon ∉ w
  | .number value => by simp
  | .text contents => by simp
  | .scalar spelling => by simp
  | .call known list => by simp [argumentsNoColon list]
  | .element unknown list => by simp [expressionsNoColon list]
  | .group inner => by simp [expressionNoColon inner]

theorem argumentsNoColon {w es} : ArgumentList isFunction w es → .symbol .colon ∉ w
  | .none => by simp
  | .some list => expressionsNoColon list

theorem expressionsNoColon {w es} : Expressions isFunction w es → .symbol .colon ∉ w
  | .one only => expressionNoColon only
  | .more first rest => by simp [expressionNoColon first, expressionsNoColon rest]

end

theorem itemsNoColon {w list} (items : Items isFunction w list) : .symbol .colon ∉ w := by
  induction items with
  | done => simp
  | more separator item others ih =>
      have other : Symbol.colon ≠ separator.symbol := by cases separator <;> simp [Separator.symbol]
      simp [expressionNoColon item, ih, other]

theorem declarationsNoColon {w list} (declarations : Declarations isFunction w list) :
    .symbol .colon ∉ w := by
  induction declarations with
  | one list => simp [expressionsNoColon list]
  | more list rest ih => simp [expressionsNoColon list, ih]

theorem assignmentNoColon {name free w s} (form : Assignment isFunction name free w s) :
    .symbol .colon ∉ w := by
  cases form with
  | scalar right => simp [expressionNoColon right]
  | element allowed list right => simp [expressionsNoColon list, expressionNoColon right]

theorem targetNoColon {w n} (target : JumpTarget w n) : .symbol .colon ∉ w := by
  cases target <;> simp

theorem simpleNoColon {w s} (form : Simple isFunction w s) : .symbol .colon ∉ w := by
  cases form with
  | print word item others => simp [expressionNoColon item, itemsNoColon others]
  | letAssign word rest => simp [assignmentNoColon rest]
  | assign plain rest => simp [assignmentNoColon rest]
  | call plain known list => simp [argumentsNoColon list]
  | jumpIf word test thenWord target => simp [expressionNoColon test, targetNoColon target]
  | goto word target => simp [targetNoColon target]
  | gosub word target => simp [targetNoColon target]
  | loop word first toWord last => simp [expressionNoColon first, expressionNoColon last]
  | loopStep word first toWord last stepWord stride =>
      simp [expressionNoColon first, expressionNoColon last, expressionNoColon stride]
  | dim word list => simp [declarationsNoColon list]
  | randomize word value => simp [expressionNoColon value]
  | _ => simp

theorem statementNoColon {c w s} (form : Statement isFunction c w s) : .symbol .colon ∉ w := by
  induction form with
  | simple plain form => exact simpleNoColon form
  | empty plain => simp
  | remark raw word => simp
  | doIf word test thenWord body shown ih => simp [expressionNoColon test, ih]

theorem statementBeforeColon {w s} (form : Statement isFunction .endOfLine w s) :
    Statement isFunction .colon w s := by
  generalize closing : Close.endOfLine = c at form
  induction form with
  | simple plain form => exact .simple trivial form
  | empty plain => exact .empty trivial
  | remark raw word => cases closing
  | doIf word test thenWord body shown ih =>
      exact .doIf word test thenWord (ih closing) (fun _ => rfl)

theorem statementUnique {w s s'} (form : Statement isFunction .colon w s)
    (form' : Statement isFunction .colon w s') : s = s' := by
  let place : Lexeme → Token := fun t => ⟨t, 0⟩
  have stands : Parser.Stands [] .colon ⟨w.map place ++ [place (.symbol .colon)], .ok 0⟩ w
      ⟨[place (.symbol .colon)], .ok 0⟩ :=
    .colon ⟨w.map place, rfl, by simp [place, Function.comp_def]⟩ ⟨0, rfl⟩
  have enough : w.length < w.length + 1 := Nat.lt_succ_self _
  have run := Parser.statementComplete form enough (Nat.le_refl _) stands
  have run' := Parser.statementComplete form' enough (Nat.le_refl _) stands
  cases run.symm.trans run'
  rfl

theorem statementsJoin {c u v first rest} (front : Statements isFunction .endOfLine u first)
    (back : Statements isFunction c v rest) :
    Statements isFunction c (u ++ .symbol .colon :: v) (first ++ rest) := by
  induction front with
  | last final only => exact .more (statementBeforeColon only) back
  | more head others ih =>
      rw [List.append_assoc, List.cons_append, List.cons_append]
      exact .more head ih

theorem firstColon {u u' v v' : List Lexeme} (no : .symbol .colon ∉ u) (no' : .symbol .colon ∉ u')
    (same : u ++ .symbol .colon :: v = u' ++ .symbol .colon :: v') : u = u' ∧ v = v' := by
  induction u generalizing u' with
  | nil =>
      cases u' with
      | nil => exact ⟨rfl, (List.cons.inj same).2⟩
      | cons t u' =>
          have head := (List.cons.inj same).1
          subst head
          exact absurd List.mem_cons_self no'
  | cons t u ih =>
      cases u' with
      | nil =>
          have head := (List.cons.inj same).1
          subst head
          exact absurd List.mem_cons_self no
      | cons t' u' =>
          obtain ⟨rfl, tail⟩ := List.cons.inj same
          have noU : .symbol .colon ∉ u := fun member => no (List.mem_cons_of_mem _ member)
          have noU' : .symbol .colon ∉ u' := fun member => no' (List.mem_cons_of_mem _ member)
          obtain ⟨rfl, rfl⟩ := ih noU noU' tail
          exact ⟨rfl, rfl⟩

theorem statementsSplit {c u v first list} (front : Statements isFunction .endOfLine u first)
    (whole : Statements isFunction c (u ++ .symbol .colon :: v) list) :
    ∃ rest, list = first ++ rest ∧ Statements isFunction c v rest := by
  induction front generalizing list with
  | @last u s final only =>
      generalize shape : u ++ .symbol .colon :: v = w at whole
      cases whole with
      | last final' only' =>
          subst shape
          exact absurd (statementNoColon only') (by simp)
      | more head others =>
          obtain ⟨rfl, rfl⟩ := firstColon (statementNoColon only) (statementNoColon head) shape
          cases statementUnique (statementBeforeColon only) head
          exact ⟨_, rfl, others⟩
  | @more u u' s rest head others ih =>
      rw [List.append_assoc, List.cons_append] at whole
      generalize shape : u ++ .symbol .colon :: (u' ++ .symbol .colon :: v) = w at whole
      cases whole with
      | last final' only' =>
          subst shape
          exact absurd (statementNoColon only') (by simp)
      | more head' others' =>
          obtain ⟨rfl, rfl⟩ := firstColon (statementNoColon head) (statementNoColon head') shape
          cases statementUnique head head'
          obtain ⟨tail, rfl, back⟩ := ih others'
          exact ⟨tail, rfl, back⟩

/- The statements of the line are read up to a REM that starts one, and the text from offset `start`
on is its remark. -/
inductive Remarked (isFunction : String → Bool) (text : String) : Nat → Prop where
  | intro {before k pos after ending raw list}
      (read : TokenStream.ofLine text = ⟨before ++ ⟨.name k, pos⟩ :: after, ending⟩)
      (statements : Statements isFunction (.remark raw)
        (before.map Token.lexeme ++ [.name k]) list) : Remarked isFunction text (pos + k.length)

theorem statementRem {raw w s} (form : Statement isFunction (.remark raw) w s) :
    ∃ front k, w = front ++ [.name k] ∧ Spells .remKw k := by
  generalize closing : Close.remark raw = c at form
  induction form with
  | simple plain form =>
      subst closing
      exact plain.elim
  | empty plain =>
      subst closing
      exact plain.elim
  | @remark k raw word => exact ⟨[], k, rfl, word⟩
  | @doIf c k t u v condition inner word test thenWord body shown ih =>
      obtain ⟨front, rem, rfl, spells⟩ := ih closing
      exact ⟨.name k :: (u ++ .name t :: front), rem, by simp, spells⟩

theorem statementsRem {raw w list} (forms : Statements isFunction (.remark raw) w list) :
    ∃ front k, w = front ++ [.name k] ∧ Spells .remKw k := by
  induction forms with
  | last final only => exact statementRem only
  | @more u v s rest first others ih =>
      obtain ⟨front, k, rfl, spells⟩ := ih
      exact ⟨u ++ .symbol .colon :: front, k, by simp, spells⟩

instance (k : Keyword) (spelling : String) : Decidable (Spells k spelling) :=
  inferInstanceAs (Decidable (Text.upper spelling = k.spelling))

theorem Remarked.word {text start} (remarked : Remarked isFunction text start) :
    ∃ k pos, ⟨.name k, pos⟩ ∈ (TokenStream.ofLine text).tokens ∧ Spells .remKw k ∧
      start = pos + k.length := by
  obtain @⟨before, k, pos, after, ending, raw, list, read, forms⟩ := remarked
  obtain ⟨front, k', same, spells⟩ := statementsRem forms
  obtain ⟨_, last⟩ := List.append_inj' same rfl
  cases last
  exact ⟨k, pos, by simp [read], spells, rfl⟩

theorem statementsBody {c w list} (forms : Statements isFunction c w list) :
    ∃ body : Body, body.toList = list := by
  cases forms with
  | last final only => exact ⟨⟨_, []⟩, rfl⟩
  | more first others => exact ⟨⟨_, _⟩, rfl⟩

section Joined

variable {first second : String} {tokens : List Token} {stop : Nat} {head : Body}

theorem laterLexemes (k : Nat) (s : TokenStream) :
    (s.later k).tokens.map Token.lexeme = s.tokens.map Token.lexeme := by
  simp [TokenStream.later, Function.comp_def]

theorem dropJoined (first second : String) (n : Nat) :
    (first ++ ":" ++ second).toList.drop (n + (first.length + 1)) = second.toList.drop n := by
  have front : (first ++ ":").toList.length = first.length + 1 := by simp [String.length_toList]
  rw [String.toList_append, Nat.add_comm, ← List.drop_drop, ← front, List.drop_left]

theorem lineJoin {tail whole : Body} (read : TokenStream.ofLine first = ⟨tokens, .ok stop⟩)
    (front : Statements isFunction .endOfLine (tokens.map Token.lexeme) head.toList)
    (derived : LineOf isFunction second tail) (joined : whole.toList = head.toList ++ tail.toList) :
    LineOf isFunction (first ++ ":" ++ second) whole := by
  have both : TokenStream.ofLine (first ++ ":" ++ second) = _ := TokenStream.ofLineColon read
  cases derived with
  | @whole others length read' back =>
      rw [read'] at both
      refine .whole both ?_
      rw [List.map_append, List.map_cons, laterLexemes, joined]
      exact statementsJoin front back
  | @remarked before k pos after ending read' back =>
      rw [read'] at both
      simp only [TokenStream.later, List.map_append, List.map_cons, ← List.cons_append,
        ← List.append_assoc] at both
      refine .remarked both ?_
      rw [Nat.add_right_comm, dropJoined, joined]
      simpa [Function.comp_def] using statementsJoin front back

theorem remBehind {before after : List Token} {k : String} {pos : Nat} {ending raw list}
    (read : TokenStream.ofLine first = ⟨tokens, .ok stop⟩)
    (plain : ∀ start, ¬ Remarked isFunction first start)
    (forms : Statements isFunction (.remark raw) (before.map Token.lexeme ++ [.name k]) list)
    (both : TokenStream.ofLine (first ++ ":" ++ second) =
      ⟨before ++ ⟨.name k, pos⟩ :: after, ending⟩) :
    ∃ before' pos' after' ending', TokenStream.ofLine second =
        ⟨before' ++ ⟨.name k, pos'⟩ :: after', ending'⟩ ∧ pos = pos' + (first.length + 1) ∧
      before.map Token.lexeme =
        tokens.map Token.lexeme ++ .symbol .colon :: before'.map Token.lexeme := by
  rw [TokenStream.ofLineColon read] at both
  have same := (TokenStream.mk.inj both).1
  rcases List.append_eq_append_iff.mp same with ⟨bs, rfl, rest⟩ | ⟨as, rfl, rest⟩
  · cases bs with
    | nil => cases (List.cons.inj rest).1
    | cons t bs =>
        obtain ⟨rfl, others⟩ := List.cons.inj rest
        obtain ⟨u, v, split, rfl, tail⟩ := List.map_eq_append_iff.mp others
        obtain ⟨t, v, rfl, place, rfl⟩ := List.map_eq_cons_iff.mp tail
        obtain ⟨lexeme, pos'⟩ := t
        cases place
        refine ⟨u, pos', v, (TokenStream.ofLine second).ending, ?_, rfl, ?_⟩
        · rw [← split]
        · simp [Function.comp_def]
  · cases as with
    | nil => cases (List.cons.inj rest).1
    | cons t as =>
        obtain ⟨rfl, others⟩ := List.cons.inj rest
        exact absurd (.intro read forms) (plain _)

theorem lineSplit {whole : Body} (read : TokenStream.ofLine first = ⟨tokens, .ok stop⟩)
    (front : Statements isFunction .endOfLine (tokens.map Token.lexeme) head.toList)
    (plain : ∀ start, ¬ Remarked isFunction first start)
    (derived : LineOf isFunction (first ++ ":" ++ second) whole) :
    ∃ tail, LineOf isFunction second tail ∧ whole.toList = head.toList ++ tail.toList := by
  cases derived with
  | @whole all length both forms =>
      rw [TokenStream.ofLineColon read] at both
      obtain ⟨rfl, ended⟩ := TokenStream.mk.inj both
      rw [List.map_append, List.map_cons, laterLexemes] at forms
      obtain ⟨rest, shape, back⟩ := statementsSplit front forms
      obtain ⟨tail, rfl⟩ := statementsBody back
      cases stream : TokenStream.ofLine second with
      | mk others ending =>
          rw [stream] at ended back
          cases ending with
          | error f => cases ended
          | ok length => exact ⟨tail, .whole stream back, shape⟩
  | remarked both forms =>
      obtain ⟨before, pos, after, ending, read', rfl, shape⟩ := remBehind read plain forms both
      rw [shape, List.append_assoc, List.cons_append, Nat.add_right_comm, dropJoined] at forms
      obtain ⟨rest, shape, back⟩ := statementsSplit front forms
      obtain ⟨tail, rfl⟩ := statementsBody back
      exact ⟨tail, .remarked read' back, shape⟩

end Joined

theorem remRead (text : String) :
    ∃ after ending, TokenStream.ofLine (" REM " ++ text) = ⟨⟨.name "REM", 1⟩ :: after, ending⟩ := by
  have blank : Text.isSpace ' ' = true := rfl
  have solid : Text.isSpace 'R' = false := rfl
  have placed : (Cursor.start (" REM " ++ text)).skipSpaces =
      ⟨1, 'R' :: 'E' :: 'M' :: ' ' :: text.toList, false⟩ := by
    simp [Cursor.start, Cursor.skipSpaces, blank, solid]
  have letters : List.takeWhile Lexeme.isNameChar ('E' :: 'M' :: ' ' :: text.toList) =
      ['E', 'M'] := rfl
  have word : Lexeme.read false ('R' :: 'E' :: 'M' :: ' ' :: text.toList) =
      .ok (.name "REM", 3) := by
    have noNumber : Lexeme.startsNumber ('R' :: 'E' :: 'M' :: ' ' :: text.toList) = false := rfl
    have noSign : Lexeme.isSign 'R' = false := rfl
    have letter : Text.isLetter 'R' = true := rfl
    simp [Lexeme.read, noNumber, noSign, letter, letters]
  have first : (Cursor.start (" REM " ++ text)).next =
      .ok (⟨.name "REM", 1⟩, ⟨4, ' ' :: text.toList, true⟩) := by
    refine Cursor.nextOk.mpr ⟨3, ?_, ?_, ?_⟩
    · rw [placed]
      exact word
    · rw [placed]
    · rw [placed]
      rfl
  generalize stream : TokenStream.ofLine (" REM " ++ text) = s
  cases TokenStream.ofLineExact.mp stream with
  | fault stops => cases first.symm.trans stops
  | done read last =>
      cases first.symm.trans read
      cases last
  | token read more rest =>
      cases first.symm.trans read
      exact ⟨_, _, rfl⟩

theorem remarkLine (isFunction : String → Bool) (text : String) :
    LineOf isFunction (" REM " ++ text) ⟨.remark (Text.trim text), []⟩ := by
  obtain ⟨after, ending, read⟩ := remRead text
  have whole : TokenStream.ofLine (" REM " ++ text) =
      ⟨[] ++ ⟨.name "REM", 1⟩ :: after, ending⟩ := read
  refine .remarked whole (.last (by simp) ?_)
  have behind : (" REM " ++ text).toList.drop (1 + "REM".length) = [' '] ++ text.toList := by
    rw [String.toList_append]
    rfl
  have trimmed : Text.trimChars ([' '] ++ text.toList) = Text.trimChars text.toList :=
    Text.trimAfter (by simp [Text.Blank, Text.isSpace])
  rw [behind, Text.trim, ← trimmed]
  exact .remark _ rfl

end Grammar

open Grammar

theorem colonJoins (isFunction : String → Bool) (first : String) (head : Body)
    (accepted : parseLine isFunction first = .ok head)
    (plain : ∀ start, ¬ Remarked isFunction first start) :
    (∀ second,
      ((∃ whole, parseLine isFunction (first ++ ":" ++ second) = .ok whole) ↔
        ∃ tail, parseLine isFunction second = .ok tail) ∧
      ∀ whole tail, parseLine isFunction (first ++ ":" ++ second) = .ok whole →
        parseLine isFunction second = .ok tail → whole.toList = head.toList ++ tail.toList) ∧
    ∀ text, ∃ whole, parseLine isFunction (first ++ ": REM " ++ text) = .ok whole ∧
      whole.toList = head.toList ++ [.remark (Text.trim text)] := by
  obtain ⟨tokens, stop, read, front⟩ : ∃ tokens stop,
      TokenStream.ofLine first = ⟨tokens, .ok stop⟩ ∧
      Statements isFunction .endOfLine (tokens.map Token.lexeme) head.toList := by
    cases parseLineSound accepted with
    | whole read forms => exact ⟨_, _, read, forms⟩
    | remarked read forms => exact absurd (.intro read forms) (plain _)
  have joins : ∀ {second} {tail : Body}, LineOf isFunction second tail →
      parseLine isFunction (first ++ ":" ++ second) = .ok ⟨head.first, head.rest ++ tail.toList⟩ :=
    fun derived => parseLineComplete (lineJoin read front derived rfl)
  refine ⟨fun second => ⟨⟨?_, ?_⟩, ?_⟩, ?_⟩
  · rintro ⟨whole, ok⟩
    obtain ⟨tail, derived, _⟩ := lineSplit read front plain (parseLineSound ok)
    exact ⟨tail, parseLineComplete derived⟩
  · rintro ⟨tail, ok⟩
    exact ⟨_, joins (parseLineSound ok)⟩
  · intro whole tail okWhole okTail
    cases okWhole.symm.trans (joins (parseLineSound okTail))
    rfl
  · intro text
    have words : ": REM " = ":" ++ " REM " := rfl
    rw [words, ← String.append_assoc, String.append_assoc]
    exact ⟨_, joins (remarkLine isFunction text), rfl⟩

theorem colonJoinsNested : ∃ head,
    parseLine (fun _ => false) "if x then print \"a:b\": y = x - z" = .ok head ∧
    (∀ start, ¬ Remarked (fun _ => false) "if x then print \"a:b\": y = x - z" start) ∧
    ∃ whole, parseLine (fun _ => false)
      ("if x then print \"a:b\": y = x - z" ++ ": REM " ++ "it's \"fine") = .ok whole ∧
      whole.toList = head.toList ++ [.remark (Text.trim "it's \"fine")] := by
  have read : TokenStream.ofLine "if x then print \"a:b\": y = x - z" =
      ⟨[⟨.name "if", 0⟩, ⟨.name "x", 3⟩, ⟨.name "then", 5⟩, ⟨.name "print", 10⟩, ⟨.text "a:b", 16⟩,
        ⟨.symbol .colon, 21⟩, ⟨.name "y", 23⟩, ⟨.symbol .equal, 25⟩, ⟨.name "x", 27⟩,
        ⟨.symbol .minus, 29⟩, ⟨.name "z", 31⟩], .ok 32⟩ := rfl
  have name (k : String) : Product (fun _ => false) [.name k] (.scalar (Text.upper k)) :=
    .signed (.operand (.scalar k))
  have shown : Simple (fun _ => false) (.name "print" :: ([.text "a:b"] ++ []))
      (.print (some ⟨.text "a:b", []⟩)) :=
    .print rfl (.sum (.product (.signed (.operand (.text "a:b"))))) .done
  have difference : Expression (fun _ => false) ([.name "x"] ++ .symbol .minus :: [.name "z"])
      (.arith .subtract (.scalar "X") (.scalar "Z")) :=
    .sum (.add (.inr rfl) (.product (name "x")) (.signed (.operand (.scalar "z"))))
  have free : NoKeyword "y" := by
    unfold NoKeyword Spells
    intro k
    cases k <;> decide
  have branch : Statement (fun _ => false) .colon
      (.name "if" :: ([.name "x"] ++ .name "then" :: (.name "print" :: ([.text "a:b"] ++ []))))
      (.doIf (.scalar "X") (.print (some ⟨.text "a:b", []⟩))) :=
    .doIf rfl (.sum (.product (name "x"))) rfl (.simple trivial shown) (by simp)
  have accepted : parseLine (fun _ => false) "if x then print \"a:b\": y = x - z" = .ok
      ⟨.doIf (.scalar "X") (.print (some ⟨.text "a:b", []⟩)),
        [.assign (.scalar "Y") (.arith .subtract (.scalar "X") (.scalar "Z"))]⟩ :=
    parseLineComplete (.whole read (.more branch (.last (by simp)
      (.simple trivial (.assign free (.scalar difference))))))
  have plain : ∀ start,
      ¬ Remarked (fun _ => false) "if x then print \"a:b\": y = x - z" start := by
    intro start remarked
    obtain ⟨k, pos, member, spells, _⟩ := remarked.word
    rw [read] at member
    simp only [List.mem_cons, Token.mk.injEq, Lexeme.name.injEq, reduceCtorEq, false_and,
      false_or, or_false, List.not_mem_nil] at member
    rcases member with
      ⟨rfl, _⟩ | ⟨rfl, _⟩ | ⟨rfl, _⟩ | ⟨rfl, _⟩ | ⟨rfl, _⟩ | ⟨rfl, _⟩ | ⟨rfl, _⟩ <;>
    exact absurd spells (by decide)
  exact ⟨_, accepted, plain, (colonJoins _ _ _ accepted plain).2 "it's \"fine"⟩

end LineBasic
