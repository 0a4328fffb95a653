import LineBasic.Proofs.Syntax.LookAhead
import LineBasic.Proofs.Text.Trim

/-!
What a line is made of. Its tokens as they are written, each at its offset, and the white space
before, between and behind them are the whole line, or all of it up to the place where no token can
be read.
-/
namespace LineBasic

namespace Lexeme

variable {cs : List Char}

def doubled (contents : List Char) : List Char :=
  contents.flatMap fun c => if c = '"' then ['"', '"'] else [c]

theorem requoteDoubled (contents : String) :
    (requote contents).toList = '"' :: (doubled contents.toList ++ ['"']) := by
  rw [requote, String.toList_ofList, doubled, List.cons_append]

@[simp]
theorem doubledQuote (cs : List Char) : doubled ('"' :: cs) = '"' :: '"' :: doubled cs := rfl

theorem doubledPlain {c : Char} (plain : c ≠ '"') (cs : List Char) :
    doubled (c :: cs) = c :: doubled cs := by
  simp [doubled, plain]

theorem quotedSpelling {done contents : List Char} {width n : Nat}
    (closed : quotedFrom done width cs = some (contents, n)) :
    ∃ more rest, contents = done.reverse ++ more ∧ cs = doubled more ++ '"' :: rest ∧
      n = width + (doubled more).length + 1 := by
  fun_induction quotedFrom done width cs with
  | case1 => cases closed
  | case2 done width rest ih =>
      obtain ⟨more, behind, rfl, rfl, rfl⟩ := ih closed
      refine ⟨'"' :: more, behind, by simp, by simp, ?_⟩
      simp only [doubledQuote, List.length_cons]
      omega
  | case3 done width rest =>
      cases closed
      exact ⟨[], rest, by simp, rfl, rfl⟩
  | case4 done width c rest _ plain ih =>
      obtain ⟨more, behind, rfl, rfl, rfl⟩ := ih closed
      refine ⟨c :: more, behind, by simp, by simp [doubledPlain plain], ?_⟩
      simp only [doubledPlain plain, List.length_cons]
      omega

theorem quotedOpen {done : List Char} {width : Nat} (unclosed : quotedFrom done width cs = none) :
    ∃ contents, cs = doubled contents := by
  fun_induction quotedFrom done width cs with
  | case1 => exact ⟨[], rfl⟩
  | case2 done width rest ih =>
      obtain ⟨contents, rfl⟩ := ih unclosed
      exact ⟨'"' :: contents, rfl⟩
  | case3 => cases unclosed
  | case4 done width c rest _ plain ih =>
      obtain ⟨contents, rfl⟩ := ih unclosed
      exact ⟨c :: contents, (doubledPlain plain contents).symm⟩

theorem symbol1Spelling {c : Char} {s : Symbol} (found : symbol1? c = some s) :
    s.spelling.toList = [c] := by
  unfold symbol1? at found
  split at found <;> cases found <;> rfl

theorem symbol2Spelling {a b : Char} {s : Symbol} (found : symbol2? a b = some s) :
    s.spelling.toList = [a, b] := by
  unfold symbol2? at found
  split at found <;> cases found <;> rfl

theorem symbolCases {s : Symbol} {width : Nat} (found : symbol? cs = some (s, width)) :
    (∃ c rest, cs = c :: rest ∧ width = 1 ∧ symbol1? c = some s) ∨
      ∃ a b rest, cs = a :: b :: rest ∧ width = 2 ∧ symbol2? a b = some s := by
  unfold symbol? at found
  split at found
  · cases found
  · obtain ⟨_, single, same⟩ := Option.map_eq_some_iff.mp found
    cases same
    exact .inl ⟨_, _, rfl, rfl, single⟩
  · split at found
    · rename_i pair
      cases found
      exact .inr ⟨_, _, _, rfl, rfl, pair⟩
    · obtain ⟨_, single, same⟩ := Option.map_eq_some_iff.mp found
      cases same
      exact .inl ⟨_, _, rfl, rfl, single⟩

theorem symbolSpelling {s : Symbol} {width : Nat} (found : symbol? cs = some (s, width)) :
    cs.take width = s.spelling.toList := by
  rcases symbolCases found with ⟨c, rest, rfl, rfl, single⟩ | ⟨a, b, rest, rfl, rfl, pair⟩
  · rw [symbol1Spelling single]
    rfl
  · rw [symbol2Spelling pair]
    rfl

theorem readSpelling {afterOperand : Bool} {t : Lexeme} {width : Nat}
    (ok : read afterOperand cs = .ok (t, width)) (token : t ≠ .endOfLine) :
    cs.take width = t.shown.toList := by
  cases cs with
  | nil =>
      cases ok
      exact absurd rfl token
  | cons c rest =>
      rw [read] at ok
      split at ok
      · rename_i quote
        split at ok
        · rename_i contents width closed
          cases ok
          obtain ⟨more, behind, rfl, rfl, rfl⟩ := quotedSpelling closed
          rw [shown, requoteDoubled, String.toList_ofList, quote, Nat.add_assoc, Nat.add_comm,
            List.take_succ_cons, List.take_length_add_append]
          rfl
        · cases ok
      · split at ok
        · cases ok
          rw [shown, String.toList_ofList]
        · split at ok
          · cases ok
            rw [shown, String.toList_ofList, List.take_succ_cons]
          · split at ok
            · cases ok
              rw [shown, String.toList_ofList, List.take_succ_cons,
                ← List.prefix_iff_eq_take.mp (List.takeWhile_prefix isNameChar)]
            · split at ok
              · rename_i found
                cases ok
                exact symbolSpelling found
              · cases ok

theorem spellingWidth {afterOperand : Bool} {t : Lexeme} {width : Nat}
    (ok : read afterOperand cs = .ok (t, width)) (token : t ≠ .endOfLine) :
    width = t.shown.length := by
  rw [← String.length_toList, ← readSpelling ok token, List.length_take,
    Nat.min_eq_left (readWidth ok).1]

structure StartsNothing (c : Char) (rest : List Char) : Prop where
  solid : Text.isSpace c = false
  quote : c ≠ '"'
  digit : c.isDigit = false
  point : c = '.' → ∀ d ∈ rest.head?, d.isDigit = false
  letter : Text.isLetter c = false
  symbol : c ∉ "+-*/()=,;:<>".toList

/- Why no token can be read at the front of a text: its quote is never closed, or its first
character starts no token. -/
inductive Unreadable : LexProblem → List Char → Prop where
  | unterminated (contents : List Char) : Unreadable .unterminated ('"' :: doubled contents)
  | unexpected {c rest} (nothing : StartsNothing c rest) : Unreadable (.unexpected c) (c :: rest)

theorem noNumber {c : Char} {rest : List Char} (starts : startsNumber (c :: rest) ≠ true) :
    c.isDigit = false ∧ (c = '.' → ∀ d ∈ rest.head?, d.isDigit = false) := by
  by_cases point : c = '.'
  · subst point
    refine ⟨rfl, fun _ d first => ?_⟩
    cases rest with
    | nil => cases first
    | cons e rest =>
        cases first
        simpa [startsNumber] using starts
  · refine ⟨?_, fun same => absurd same point⟩
    simpa [startsNumber, point] using starts

theorem symbolNone {c : Char} {rest : List Char} (nothing : symbol? (c :: rest) = none) :
    c ∉ "+-*/()=,;:<>".toList := by
  have single : symbol1? c = .none := by
    cases rest with
    | nil => simpa [symbol?] using nothing
    | cons d rest =>
        unfold symbol? at nothing
        simp only at nothing
        split at nothing
        · cases nothing
        · simpa using nothing
  intro member
  simp only [String.reduceToList, List.mem_cons, List.not_mem_nil, or_false] at member
  rcases member with rfl | rfl | rfl | rfl | rfl | rfl | rfl | rfl | rfl | rfl | rfl | rfl <;>
    cases single

theorem readUnreadable {afterOperand : Bool} {problem : LexProblem}
    (stops : read afterOperand cs = .error problem)
    (solid : ∀ {x}, x ∈ cs.head? → Text.isSpace x = false) : Unreadable problem cs := by
  cases cs with
  | nil => cases stops
  | cons c rest =>
      rw [read] at stops
      split at stops
      · rename_i quote
        split at stops
        · cases stops
        · rename_i unclosed
          cases stops
          obtain ⟨contents, rfl⟩ := quotedOpen unclosed
          rw [quote]
          exact .unterminated contents
      · rename_i quote
        split at stops
        · cases stops
        · rename_i number
          split at stops
          · cases stops
          · split at stops
            · cases stops
            · rename_i letter
              split at stops
              · cases stops
              · rename_i symbol
                cases stops
                have parts := noNumber number
                exact .unexpected ⟨solid rfl, quote, parts.1, parts.2,
                  Bool.not_eq_true _ ▸ letter, symbolNone symbol⟩

end Lexeme

namespace Cursor

theorem skipSpacesBlank (c : Cursor) : ∃ blanks, Text.Blank blanks ∧
    c.rest = blanks ++ c.skipSpaces.rest ∧ c.skipSpaces.pos = c.pos + blanks.length := by
  refine ⟨c.rest.takeWhile Text.isSpace, fun x member => List.mem_takeWhile_imp member, ?_, rfl⟩
  rw [skipSpacesRest, List.takeWhile_append_dropWhile]

theorem nextWritten {c after : Cursor} {t : Token} (read : c.next = .ok (t, after))
    (token : t.lexeme ≠ .endOfLine) : ∃ blanks, Text.Blank blanks ∧
      c.rest = blanks ++ (t.shown.toList ++ after.rest) ∧ t.pos = c.pos + blanks.length ∧
      after.pos = t.pos + t.shown.length := by
  obtain ⟨width, lexeme, place, rfl⟩ := nextOk.mp read
  obtain ⟨blanks, blank, whole, start⟩ := c.skipSpacesBlank
  have spelled : c.skipSpaces.rest.take width = t.shown.toList :=
    Lexeme.readSpelling lexeme token
  have wide : width = t.shown.length := Lexeme.spellingWidth lexeme token
  refine ⟨blanks, blank, ?_, place.trans start, ?_⟩
  · rw [← spelled, List.take_append_drop]
    exact whole
  · rw [place, ← wide]

end Cursor

namespace TokenStream

/- The text at offset `pos` of a line is white space and the tokens as they are written, each at its
offset, up to `rest` at the offset `stop`. -/
inductive Written : Nat → List Char → List Token → Nat → List Char → Prop where
  | blanks {pos blanks rest} (blank : Text.Blank blanks) :
      Written pos (blanks ++ rest) [] (pos + blanks.length) rest
  | token {pos blanks t text tokens stop rest} (blank : Text.Blank blanks)
      (token : t.lexeme ≠ .endOfLine) (place : t.pos = pos + blanks.length)
      (behind : Written (t.pos + t.shown.length) text tokens stop rest) :
      Written pos (blanks ++ (t.shown.toList ++ text)) (t :: tokens) stop rest

theorem Written.extent {pos stop : Nat} {text rest : List Char} {tokens : List Token}
    (written : Written pos text tokens stop rest) :
    stop + rest.length = pos + text.length := by
  induction written with
  | blanks blank =>
      rw [List.length_append]
      omega
  | token blank token place behind ih =>
      simp only [List.length_append, String.length_toList]
      omega

variable {c : Cursor} {s : TokenStream}

theorem scansWritten (scans : Scans Cursor.next c s) :
    ∃ stop rest, Written c.pos c.rest s.tokens stop rest ∧
      match s.ending with
      | .ok pos => pos = stop ∧ rest = []
      | .error f => f.pos = stop ∧ Lexeme.Unreadable f.problem rest := by
  induction scans with
  | @fault c f stops =>
      obtain ⟨read, pos⟩ := Cursor.nextError.mp stops
      obtain ⟨blanks, blank, whole, start⟩ := c.skipSpacesBlank
      rw [whole]
      exact ⟨_, _, .blanks blank, pos.trans start,
        Lexeme.readUnreadable read Cursor.skipSpacesSolid⟩
  | @done c t after read last =>
      obtain ⟨_, _, pos, _⟩ := Cursor.nextOk.mp read
      obtain ⟨blanks, blank, whole, start⟩ := c.skipSpacesBlank
      rw [whole]
      exact ⟨_, _, .blanks blank, pos.trans start, (Cursor.nextEnds read).mp last⟩
  | @token c t after s read more rest ih =>
      obtain ⟨blanks, blank, whole, place, behind⟩ := Cursor.nextWritten read more
      obtain ⟨stop, left, written, ending⟩ := ih
      rw [behind] at written
      rw [whole]
      exact ⟨stop, left, .token blank more place written, ending⟩

end TokenStream

namespace Lexer

/- Calling `next` on a line again and again yields these tokens, none of which is the end of the
line, and then this last result. -/
structure Yields (line : String) (tokens : List Token) (last : Except LexFault Token) : Prop where
  before : ∀ t ∈ tokens, t.lexeme ≠ .endOfLine
  results : nexts (tokens.length + 1) (ofLine line) = tokens.map .ok ++ [last]

theorem scansNexts {c : Cursor} {s : TokenStream} (scans : TokenStream.Scans Cursor.next c s)
    {l : Lexer} (plain : l.Plain) (here : l.cursor = c) :
    nexts (s.tokens.length + 1) l =
      s.tokens.map .ok ++ [s.ending.map fun pos => ⟨.endOfLine, pos⟩] := by
  induction scans generalizing l with
  | fault stops =>
      subst here
      simp [nexts, plain.nextStops stops, Except.map]
  | @done c t after read last =>
      subst here
      obtain ⟨lexeme, pos⟩ := t
      cases last
      simp [nexts, plain.nextOk read, Except.map]
  | token read more rest ih =>
      subst here
      have others := ih (plain.moved read) rfl
      rw [List.length_cons, nexts, plain.nextOk read, others, List.map_cons, List.cons_append]

theorem startPlain (line : String) : (ofLine line).Plain := ⟨rfl, rfl, rfl⟩

theorem scansYields {line : String} {s : TokenStream}
    (scans : TokenStream.Scans Cursor.next (Cursor.start line) s) :
    Yields line s.tokens (s.ending.map fun pos => ⟨.endOfLine, pos⟩) :=
  ⟨scans.tokens, scansNexts scans (startPlain line) rfl⟩

theorem readOnNext (n : Nat) (l : Lexer) : readOn (n + 1) l = (readOn n l).next.2 := by
  induction n generalizing l with
  | zero => rfl
  | succ n ih => exact ih l.next.2

theorem plainNext {l : Lexer} (plain : l.Plain) :
    l.next.2.Plain ∨ l.next.2.peeked = none ∧ ∃ f, l.next.2.next.1 = .error f := by
  cases read : l.cursor.next with
  | ok result =>
      rw [plain.nextOk read]
      exact .inl (plain.moved read)
  | error f =>
      have stays := faultStays plain.peeked (plain.nextStops read)
      exact .inr ⟨stays.1, f, stays.2.2⟩

theorem readOnStands (line : String) (n : Nat) : (readOn n (ofLine line)).Plain ∨
    (readOn n (ofLine line)).peeked = none ∧ ∃ f, (readOn n (ofLine line)).next.1 = .error f := by
  induction n with
  | zero => exact .inl (startPlain line)
  | succ n ih =>
      rw [readOnNext]
      rcases ih with plain | ⟨peeked, f, stops⟩
      · exact plainNext plain
      · have stays := faultStays peeked stops
        exact .inr ⟨stays.1, f, stays.2.2⟩

theorem plainAdvances {l : Lexer} (plain : l.Plain) : (∃ f, l.next.1 = .error f) ∨
    (∃ pos, l.next.1 = .ok ⟨.endOfLine, pos⟩) ∨
    l.cursor.pos < l.next.2.cursor.pos ∧ l.next.2.cursor.pos ≤ l.line.length := by
  cases read : l.cursor.next with
  | error f => exact .inl ⟨f, plain.nextStops read⟩
  | ok result =>
      obtain ⟨⟨lexeme, pos⟩, after⟩ := result
      rw [plain.nextOk read]
      by_cases last : lexeme = .endOfLine
      · exact .inr (.inl ⟨pos, by rw [last]⟩)
      · obtain ⟨width, lexeme, place, rfl⟩ := Cursor.nextOk.mp read
        have positive := (Lexeme.readWidth lexeme).2 last
        have inside := (Lexeme.readWidth lexeme).1
        rw [plain.restPlaced, List.length_drop, String.length_toList] at inside
        obtain ⟨blanks, _, _, start⟩ := l.cursor.skipSpacesBlank
        exact .inr (.inr ⟨by simp only; omega, by simp only; omega⟩)

theorem tokensMakeUpLine (line : String) :
    ((∃ tokens, Yields line tokens (.ok ⟨.endOfLine, line.length⟩) ∧
        TokenStream.Written 0 line.toList tokens line.length []) ∨
      ∃ tokens f rest, Yields line tokens (.error f) ∧
        TokenStream.Written 0 line.toList tokens f.pos rest ∧ Lexeme.Unreadable f.problem rest) ∧
    ∀ n, let l := readOn n (ofLine line)
      (∃ f, l.next.1 = .error f) ∨ (∃ pos, l.next.1 = .ok ⟨.endOfLine, pos⟩) ∨
      l.cursor.pos < l.next.2.cursor.pos ∧ l.next.2.cursor.pos ≤ line.length := by
  refine ⟨?_, fun n => ?_⟩
  · have yields := scansYields (TokenStream.ofLineScans line)
    obtain ⟨stop, rest, written, ending⟩ := TokenStream.scansWritten (TokenStream.ofLineScans line)
    cases last : (TokenStream.ofLine line).ending with
    | ok pos =>
        rw [last] at yields ending
        obtain ⟨rfl, rfl⟩ := ending
        have place : pos = line.length := by
          simpa [Cursor.start, String.length_toList] using written.extent
        subst place
        exact .inl ⟨_, yields, written⟩
    | error f =>
        rw [last] at yields ending
        obtain ⟨rfl, unreadable⟩ := ending
        exact .inr ⟨_, f, rest, yields, written, unreadable⟩
  · intro l
    have same : l.line = line := readOnLine n _
    rcases readOnStands line n with plain | ⟨_, stops⟩
    · have advances := plainAdvances plain
      rw [same] at advances
      exact advances
    · exact .inl stops

end Lexer

end LineBasic
