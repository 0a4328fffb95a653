import LineBasic.Proofs.Syntax.Statements

/-!
Whole lines. What closes a statement decides where the parser goes on, and the statements of a line
are closed one by one: by a colon each, the last by the end of the line or by the text of a remark.
-/
namespace LineBasic.Parser

open TokenStream Grammar

variable {isFunction : String → Bool} {line : List Char} {d : Nat}

/- Where `w` stands at the front of `s` and is closed by `c`, the parser goes on at `s'`: behind `w`
itself, or, when its last lexeme is a REM, at the end of the line. -/
inductive Stands (line : List Char) : Close → TokenStream → List Lexeme → TokenStream → Prop where
  | colon {s w s'} (reads : Reads s w s') (ahead : Ahead s' (.symbol .colon)) :
      Stands line .colon s w s'
  | endOfLine {s w s'} (reads : Reads s w s') (ahead : Ahead s' .endOfLine) :
      Stands line .endOfLine s w s'
  | remark {s front k pos after ending}
      (reads : Reads s front ⟨⟨.name k, pos⟩ :: after, ending⟩) :
      Stands line (.remark (line.drop (pos + k.length))) s (front ++ [.name k])
        ⟨[], .ok line.length⟩

variable {n : Nat} {s s' : TokenStream} {t : Lexeme} {w : List Lexeme}

theorem Stands.before {c mid u} (stands : Stands line c mid w s') (reads : Reads s u mid) :
    Stands line c s (u ++ w) s' := by
  cases stands with
  | colon more ahead => exact .colon (reads.trans more) ahead
  | endOfLine more ahead => exact .endOfLine (reads.trans more) ahead
  | remark more =>
      rw [← List.append_assoc]
      exact .remark (reads.trans more)

theorem Stands.split {c u} (stands : Stands line c s (u ++ w) s') (kept : c.Plain ∨ w ≠ []) :
    ∃ mid, Reads s u mid ∧ Stands line c mid w s' := by
  generalize whole : u ++ w = all at stands
  cases stands with
  | colon reads ahead =>
      subst whole
      obtain ⟨mid, readU, readW⟩ := reads.split
      exact ⟨mid, readU, .colon readW ahead⟩
  | endOfLine reads ahead =>
      subst whole
      obtain ⟨mid, readU, readW⟩ := reads.split
      exact ⟨mid, readU, .endOfLine readW ahead⟩
  | @remark _ front k pos after ending reads =>
      have nonempty : w ≠ [] := kept.resolve_left id
      obtain ⟨v, last, rfl⟩ := List.eq_nil_or_concat w |>.resolve_left nonempty
      rw [List.concat_eq_append, ← List.append_assoc] at whole
      obtain ⟨rfl, same⟩ := List.append_inj' whole rfl
      cases same
      obtain ⟨mid, readU, readV⟩ := reads.split
      rw [List.concat_eq_append]
      exact ⟨mid, readU, .remark readV⟩

theorem Stands.ahead {c} (stands : Stands line c s (t :: w) s') : Ahead s t := by
  generalize whole : t :: w = all at stands
  cases stands with
  | colon reads ahead => exact Reads.ahead (whole ▸ reads)
  | endOfLine reads ahead => exact Reads.ahead (whole ▸ reads)
  | @remark _ front k pos after ending reads =>
      cases front with
      | nil =>
          cases whole
          rw [reads.nothing]
          exact ⟨pos, rfl⟩
      | cons head front =>
          cases whole
          exact reads.ahead

theorem Stands.plain {c} (stands : Stands line c s w s') (plain : c.Plain) :
    Reads s w s' ∧ ∃ t, Ahead s' t ∧ isStatementEnd t = true := by
  cases stands with
  | colon reads ahead => exact ⟨reads, _, ahead, rfl⟩
  | endOfLine reads ahead => exact ⟨reads, _, ahead, rfl⟩
  | remark reads => exact plain.elim

theorem statementStarts {c st} (form : Statement isFunction c w st) :
    w = [] ∨ ∃ k v, w = .name k :: v := by
  cases form with
  | simple plain form => cases form <;> exact .inr ⟨_, _, rfl⟩
  | empty plain => exact .inl rfl
  | remark raw word => exact .inr ⟨_, _, rfl⟩
  | doIf word test thenWord body shown => exact .inr ⟨_, _, rfl⟩

theorem statementKept {c st} (form : Statement isFunction c w st) : c.Plain ∨ w ≠ [] := by
  cases form with
  | simple plain form => exact .inl plain
  | empty plain => exact .inl plain
  | remark raw word => exact .inr (by simp)
  | doIf word test thenWord body shown => exact .inr (by simp)

theorem statementComplete {c st} (form : Statement isFunction c w st) (deep : w.length < n)
    (enough : 8 * w.length ≤ d) (stands : Stands line c s w s') :
    statement isFunction line d n s = .ok (st, s') := by
  obtain ⟨n, rfl⟩ : ∃ m, n = m + 1 := ⟨n - 1, by omega⟩
  -- the induction follows the IFs inward; the closing `c` is that of the innermost statement
  induction form generalizing n s with
  | simple plain form =>
      obtain ⟨reads, t, ahead, stop⟩ := stands.plain plain
      exact simpleComplete form (by omega) enough reads ahead stop
  | empty plain =>
      obtain ⟨reads, t, ahead, stop⟩ := stands.plain plain
      have same := reads.nothing
      subst same
      rw [statement, bindRun (peekRun ahead)]
      cases t with
      | endOfLine => rfl
      | symbol x => cases x <;> first | rfl | cases stop
      | _ => cases stop
  | @remark k raw word =>
      generalize whole : [Lexeme.name k] = w at stands
      generalize text : Close.remark raw = c at stands
      cases stands with
      | colon reads ahead => cases text
      | endOfLine reads ahead => cases text
      | @remark _ front k' pos after ending reads =>
          have parts : [] ++ [Lexeme.name k] = front ++ [.name k'] := whole
          obtain ⟨rfl, same⟩ := List.append_inj' parts rfl
          cases same
          cases text
          have width : Keyword.remKw.spelling.length = k.length := by
            rw [← upperLength k, show Text.upper k = _ from word]
          rw [reads.nothing, statementKeyword word, keywordStatement, remarkAfter, width]
  | @doIf c k thenName u v condition st word test thenWord body shown ih =>
      simp only [List.length_cons, List.length_append] at deep enough
      obtain ⟨n, rfl⟩ : ∃ m, n = m + 1 := ⟨n - 1, by omega⟩
      have regroup : Lexeme.name k :: (u ++ .name thenName :: v) =
          [.name k] ++ ((u ++ [.name thenName]) ++ v) := by simp
      rw [regroup] at stands
      obtain ⟨mid, readWord, standsRest⟩ := stands.split (.inr (by simp))
      obtain ⟨after, readTest, standsBody⟩ := standsRest.split (statementKept body)
      obtain ⟨pos, run⟩ := keywordRuns word readWord
      have inner := ih (by omega) standsBody n (by omega)
      obtain ⟨t, ahead, starts⟩ : ∃ t, Ahead after t ∧
          (t = .symbol .colon ∨ ∃ k, t = .name k) := by
        rcases statementStarts body with rfl | ⟨k', v', rfl⟩
        · cases shown rfl
          cases standsBody with
          | colon reads ahead => exact ⟨_, reads.nothing ▸ ahead, .inl rfl⟩
        · exact ⟨_, standsBody.ahead, .inr ⟨_, rfl⟩⟩
      rw [run]
      exact branchNests test thenWord (by omega) readTest ahead starts inner

theorem Stands.finished {c} (stands : Stands line c s w s') (final : c ≠ .colon) :
    Ahead s' .endOfLine := by
  cases stands with
  | colon reads ahead => exact absurd rfl final
  | endOfLine reads ahead => exact ahead
  | remark reads => exact ahead_endOfLine line.length

theorem statementsKept {c list} (forms : Statements isFunction c w list) : c.Plain ∨ w ≠ [] := by
  cases forms with
  | last final only => exact statementKept only
  | more first others => exact .inr (by simp)

theorem statementsComplete {c st rest} (forms : Statements isFunction c w (st :: rest))
    (deep : w.length < n) (enough : 8 * w.length ≤ d)
    (stands : Stands line c s w s') (limit : w.length < d) :
    ∃ mid, statement isFunction line d d s = .ok (st, mid) ∧
      statements isFunction line d n mid = .ok (rest, s') := by
  generalize whole : st :: rest = list at forms
  induction forms generalizing n s st rest with
  | last final only =>
      cases whole
      obtain ⟨n, rfl⟩ : ∃ m, n = m + 1 := ⟨n - 1, by omega⟩
      refine ⟨s', statementComplete only limit enough stands, ?_⟩
      have noColon : accept .colon s' = .ok (false, s') :=
        acceptNo.mpr ⟨rfl, _, stands.finished final, by simp⟩
      rw [statements, bindRun noColon]
      rfl
  | @more u v first rest form others ih =>
      cases whole
      simp only [List.length_append, List.length_cons] at deep enough limit
      obtain ⟨n, rfl⟩ : ∃ m, n = m + 1 := ⟨n - 1, by omega⟩
      obtain ⟨mid, readU, standsRest⟩ := stands.split (.inr (by simp))
      obtain ⟨after, readColon, standsV⟩ :=
        Stands.split (u := [.symbol .colon]) standsRest (statementsKept others)
      have standsU : Stands line .colon s u mid := .colon readU readColon.ahead
      refine ⟨mid, statementComplete form (by omega) (by omega) standsU, ?_⟩
      obtain ⟨second, rest', rfl⟩ : ∃ second rest', rest = second :: rest' := by
        cases others <;> exact ⟨_, _, rfl⟩
      obtain ⟨mid', run, runRest⟩ := ih (n := n) (by omega) (by omega) standsV (by omega) rfl
      rw [statements, bindRun (acceptYes.mpr readColon)]
      simp only [if_true]
      rw [bindRun run, bindRun runRest]
      rfl

theorem statementsSound {st mid rest} (first : Parsed isFunction line s st mid)
    (ok : statements isFunction line d n mid = .ok (rest, s')) (finished : Ahead s' .endOfLine) :
    ∃ c w, c ≠ .colon ∧ Stands line c s w s' ∧ Statements isFunction c w (st :: rest) := by
  induction n generalizing s st mid rest with
  | zero => cases ok
  | succ n ih =>
    simp only [statements, bindOk] at ok
    obtain ⟨more, after, colon, tail⟩ := ok
    cases more with
    | true =>
        simp only [if_true, bindOk, pureOk] at tail
        obtain ⟨second, mid', one, others, _, run, rfl, rfl⟩ := tail
        have readColon := acceptYes.mp colon
        obtain ⟨c, v, final, stands, forms⟩ := ih (statementSound one) run
        cases first with
        | @plain u reads form shown =>
            have here := form .colon trivial (fun _ => rfl)
            exact ⟨c, _, final, (stands.before readColon).before reads, .more here forms⟩
        | remarked reads form ended =>
            subst ended
            have same := readColon.ahead.unique (ahead_endOfLine line.length)
            cases same
    | false =>
        obtain ⟨rfl, _⟩ := acceptNo.mp colon
        obtain ⟨rfl, rfl⟩ := pureOk.mp tail
        cases first with
        | @plain w reads form shown =>
            have noColon : Ahead mid (.symbol .colon) → Close.endOfLine = .colon := by
              intro ahead
              cases ahead.unique finished
            have here := form .endOfLine trivial noColon
            exact ⟨_, w, by simp, .endOfLine reads finished, .last (by simp) here⟩
        | remarked reads form ended =>
            subst ended
            exact ⟨_, _, by simp, .remark reads, .last (by simp) form⟩

theorem readFromTokens {fuel done c} (before : ∀ t ∈ done, t.lexeme ≠ .endOfLine) :
    ∀ t ∈ (TokenStream.readFrom fuel done c).tokens, t.lexeme ≠ .endOfLine := by
  induction fuel generalizing done c with
  | zero => simpa [TokenStream.readFrom] using before
  | succ fuel ih =>
    unfold TokenStream.readFrom
    split
    · simpa using before
    · split
      · simpa using before
      · rename_i other
        exact ih (by simpa using ⟨other, before⟩)

inductive StreamOf (isFunction : String → Bool) (text : String) (stream : TokenStream)
    (body : Body) : Prop where
  | whole {tokens length} (read : stream = ⟨tokens, .ok length⟩)
      (statements : Statements isFunction .endOfLine (tokens.map Token.lexeme) body.toList)
  | remarked {before k pos after ending}
      (read : stream = ⟨before ++ ⟨.name k, pos⟩ :: after, ending⟩)
      (statements : Statements isFunction (.remark (text.toList.drop (pos + k.length)))
        (before.map Token.lexeme ++ [.name k]) body.toList)

theorem streamOfLine {text} {body : Body} :
    StreamOf isFunction text (TokenStream.ofLine text) body ↔ LineOf isFunction text body := by
  constructor
  · intro derived
    cases derived with
    | whole read forms => exact .whole read forms
    | remarked read forms => exact .remarked read forms
  · intro derived
    cases derived with
    | whole read forms => exact .whole read forms
    | remarked read forms => exact .remarked read forms

section Streams

variable {stream : TokenStream} (tokens : ∀ t ∈ stream.tokens, t.lexeme ≠ .endOfLine)
include tokens

theorem streamEnd (reads : Reads stream w s') (ahead : Ahead s' .endOfLine) :
    ∃ length, s' = ⟨[], .ok length⟩ := by
  obtain ⟨pos, shown⟩ := ahead
  obtain ⟨front, rfl, _⟩ := reads
  obtain ⟨tail, ending⟩ := s'
  cases tail with
  | nil =>
      cases ending with
      | error f => cases shown
      | ok length => exact ⟨length, rfl⟩
  | cons head tail =>
      cases shown
      exact absurd rfl (tokens ⟨.endOfLine, pos⟩ (by simp))

theorem standsOfStream {text c} (stands : Stands text.toList c stream w s') (final : c ≠ .colon)
    {body : Body} (forms : Statements isFunction c w body.toList) :
    StreamOf isFunction text stream body := by
  cases stands with
  | colon reads ahead => exact absurd rfl final
  | endOfLine reads ahead =>
      obtain ⟨length, rfl⟩ := streamEnd tokens reads ahead
      obtain ⟨tokens, whole, rfl⟩ := reads
      rw [List.append_nil] at whole
      exact .whole whole forms
  | remark reads =>
      obtain ⟨tokens, whole, rfl⟩ := reads
      exact .remarked whole forms

theorem bodySound {text} {body : Body}
    (ok : Parser.body isFunction text.toList d stream = .ok (body, s')) :
    StreamOf isFunction text stream body := by
  simp only [Parser.body, bindOk, peekOk] at ok
  obtain ⟨first, mid, one, rest, after, more, t, _, ⟨ahead, rfl⟩, tail⟩ := ok
  cases t with
  | endOfLine =>
      obtain ⟨rfl, rfl⟩ := pureOk.mp tail
      obtain ⟨c, w, final, stands, forms⟩ := statementsSound (statementSound one) more ahead
      exact standsOfStream tokens stands final forms
  | _ =>
      simp only [bindOk] at tail
      obtain ⟨_, _, _, failed⟩ := tail
      exact absurd failed failOk

end Streams

theorem bodyComplete {c} {body : Body} (stands : Stands line c s w s') (final : c ≠ .colon)
    (forms : Statements isFunction c w body.toList) (enough : 8 * w.length < d) :
    Parser.body isFunction line d s = .ok (body, s') := by
  obtain ⟨mid, one, more⟩ :=
    statementsComplete (d := d) (n := d) forms (by omega) (by omega) stands (by omega)
  rw [Parser.body, bindRun one, bindRun more, bindRun (peekRun (stands.finished final))]
  rfl

def parseStream (isFunction : String → Bool) (text : String) (stream : TokenStream) :
    Except SyntaxFault Body :=
  ((body isFunction text.toList (depthFor stream.tokens.length)).run stream).map Prod.fst

theorem parseStreamSound {text stream} {body : Body}
    (tokens : ∀ t ∈ stream.tokens, t.lexeme ≠ .endOfLine)
    (ok : parseStream isFunction text stream = .ok body) :
    StreamOf isFunction text stream body := by
  unfold parseStream at ok
  cases run : (Parser.body isFunction text.toList
      (depthFor stream.tokens.length)).run stream with
  | error f =>
      simp only [run] at ok
      cases ok
  | ok result =>
      simp only [run] at ok
      cases ok
      exact bodySound tokens run

theorem parseStreamComplete {text stream} {body : Body}
    (derived : StreamOf isFunction text stream body) :
    parseStream isFunction text stream = .ok body := by
  have run : ∃ s', (Parser.body isFunction text.toList
      (depthFor stream.tokens.length)).run stream = .ok (body, s') := by
    cases derived with
    | @whole tokens length read forms =>
        have reads : Reads ⟨tokens, .ok length⟩ (tokens.map Token.lexeme) ⟨[], .ok length⟩ :=
          ⟨tokens, by simp, rfl⟩
        rw [read]
        refine ⟨_, bodyComplete (.endOfLine reads (ahead_endOfLine length)) (by simp) forms ?_⟩
        simp only [depthFor, List.length_map]
        omega
    | @remarked before k pos after ending read forms =>
        have reads : Reads ⟨before ++ ⟨.name k, pos⟩ :: after, ending⟩
            (before.map Token.lexeme) ⟨⟨.name k, pos⟩ :: after, ending⟩ := ⟨before, rfl, rfl⟩
        rw [read]
        refine ⟨_, bodyComplete (.remark reads) (by simp) forms ?_⟩
        simp only [depthFor, List.length_append, List.length_map, List.length_cons,
          List.length_nil]
        omega
  obtain ⟨s', run⟩ := run
  simp only [parseStream, run]
  rfl

end LineBasic.Parser

namespace LineBasic

open LineBasic.Parser Grammar TokenStream

theorem parseLineSound {isFunction : String → Bool} {text : String} {body : Body}
    (ok : parseLine isFunction text = .ok body) : LineOf isFunction text body :=
  streamOfLine.mp (parseStreamSound (readFromTokens (by simp)) ok)

theorem parseLineComplete {isFunction : String → Bool} {text : String} {body : Body}
    (derived : LineOf isFunction text body) : parseLine isFunction text = .ok body :=
  parseStreamComplete (streamOfLine.mpr derived)

theorem parseLineExact (isFunction : String → Bool) (text : String) (body : Body) :
    parseLine isFunction text = .ok body ↔ LineOf isFunction text body :=
  ⟨parseLineSound, parseLineComplete⟩

end LineBasic
