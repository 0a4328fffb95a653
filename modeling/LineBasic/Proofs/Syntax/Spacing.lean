import LineBasic.Proofs.Syntax.Colons
import LineBasic.Proofs.Syntax.SignTokens
import LineBasic.Proofs.Syntax.Spelling

/-!
White space between tokens. A token is read again from the characters it is written with when white
space or nothing follows them, and how much white space that is does not matter. So tokens that are
written one after the other with white space between them are read as the same tokens.
-/
namespace LineBasic

namespace Lexeme

section Space

variable {x : Char} (space : Text.isSpace x = true)
include space

theorem spaceNoLetter : x.isAlpha = false := by
  cases letter : x.isAlpha with
  | false => rfl
  | true => exact absurd (letterNoSpace letter) (by simp [space])

theorem spaceNoDigit : x.isDigit = false := by
  cases digit : x.isDigit with
  | false => rfl
  | true => exact absurd (digitNoSpace digit) (by simp [space])

theorem spaceBeyond (beyond : ¬ x.toNat < 0x80) :
    Text.flipsBelow Text.letterFlips x.toNat = false ∧
      Text.flipsBelow Text.digitFlips x.toNat = false := by
  have codes : ∀ n ∈ [0x85, 0xA0, 0x1680, 0x2000, 0x2001, 0x2002, 0x2003, 0x2004, 0x2005, 0x2006,
      0x2007, 0x2008, 0x2009, 0x200A, 0x2028, 0x2029, 0x202F, 0x205F, 0x3000],
      Text.flipsBelow Text.letterFlips n = false ∧ Text.flipsBelow Text.digitFlips n = false := by
    decide +kernel
  refine codes x.toNat ?_
  simp only [Text.isSpace, Bool.or_eq_true, Bool.and_eq_true, beq_iff_eq,
    decide_eq_true_eq] at space
  simp only [List.mem_cons, List.not_mem_nil, or_false]
  omega

theorem spaceNoName : isNameChar x = false := by
  have letter : Text.isLetter x = false := by
    unfold Text.isLetter
    split
    · exact spaceNoLetter space
    · rename_i beyond
      exact (spaceBeyond space beyond).1
  have decimal : Text.isDecimal x = false := by
    unfold Text.isDecimal
    split
    · exact spaceNoDigit space
    · rename_i beyond
      exact (spaceBeyond space beyond).2
  simp only [isNameChar, letter, decimal, Bool.false_or, Bool.or_eq_false_iff, beq_eq_false_iff_ne]
  constructor <;> rintro rfl <;> cases space

theorem spaceBreaks : Breaks x where
  quote := by
    rintro rfl
    cases space
  point := by
    rintro rfl
    cases space
  digit := spaceNoDigit space
  name := spaceNoName space
  pair a := by
    unfold symbol2?
    split <;> first | rfl | cases space

end Space

section Alone

variable {cs : List Char}

theorem startsNumberPlain {c : Char} (plain : c ≠ '.') (rest : List Char) :
    startsNumber (c :: rest) = c.isDigit := by
  simp [startsNumber, plain]

theorem numberWidthDigits {ds : List Char} (digits : ∀ d ∈ ds, d.isDigit = true) :
    numberWidth ds = ds.length := by
  have whole : ds.takeWhile Char.isDigit = ds := List.takeWhile_eq_self_iff.mpr digits
  simp [numberWidth, whole]

theorem numberWidthPoint {ds fs : List Char} (digits : ∀ d ∈ ds, d.isDigit = true)
    (fraction : ∀ d ∈ fs, d.isDigit = true) :
    numberWidth (ds ++ '.' :: fs) = ds.length + 1 + fs.length := by
  have whole : (ds ++ '.' :: fs).takeWhile Char.isDigit = ds :=
    Text.takeWhileStop digits (by simp [show Char.isDigit '.' = false from rfl])
  have rest : fs.takeWhile Char.isDigit = fs := List.takeWhile_eq_self_iff.mpr fraction
  simp [numberWidth, whole, rest]

theorem numberWidthAlone (cs : List Char) :
    numberWidth (cs.take (numberWidth cs)) = numberWidth cs := by
  have wide : (cs.take (numberWidth cs)).length = numberWidth cs :=
    List.length_take_of_le (numberWidthLe cs)
  refine Eq.trans ?_ wide
  rw [numberTake]
  have digits : ∀ d ∈ cs.takeWhile Char.isDigit, d.isDigit = true :=
    fun d member => List.mem_takeWhile_imp member
  split
  · rw [numberWidthPoint digits fun d member => List.mem_takeWhile_imp member]
    simp only [List.length_append, List.length_cons]
    omega
  · rw [List.append_nil, numberWidthDigits digits]

theorem startsNumberAlone (starts : startsNumber cs = true) :
    startsNumber (cs.take (numberWidth cs)) = true := by
  have positive := numberWidthPos starts
  obtain ⟨k, wide⟩ : ∃ k, numberWidth cs = k + 1 := ⟨numberWidth cs - 1, by omega⟩
  unfold startsNumber at starts
  split at starts
  · rename_i c rest
    have two : numberWidth ('.' :: c :: rest) =
        0 + 1 + ((c :: rest).takeWhile Char.isDigit).length := rfl
    rw [two, List.takeWhile_cons_of_pos starts, List.length_cons, Nat.add_comm, ← Nat.add_assoc,
      List.take_succ_cons, List.take_succ_cons]
    exact starts
  · rename_i c rest _
    have plain : c ≠ '.' := by
      rintro rfl
      cases starts
    rw [wide, List.take_succ_cons, startsNumberPlain plain]
    exact starts
  · cases starts

theorem quotedAlone (done : List Char) (width : Nat) (contents : List Char) :
    quotedFrom done width (doubled contents ++ ['"']) =
      some (done.reverse ++ contents, width + (doubled contents).length + 1) := by
  induction contents generalizing done width with
  | nil => simp [doubled, quotedFrom]
  | cons c contents ih =>
      by_cases quote : c = '"'
      · subst quote
        rw [doubledQuote, List.cons_append, List.cons_append, quotedFrom, ih]
        simp
        omega
      · rw [doubledPlain quote, List.cons_append, quotedFrom]
        · rw [ih, List.length_cons, List.reverse_cons, List.append_assoc]
          simp
          omega
        · rintro _ same
          exact fun _ => quote same
        · exact quote

theorem symbolAlone {afterOperand : Bool} {s : Symbol} {width : Nat}
    (found : symbol? cs = some (s, width)) :
    read afterOperand (cs.take width) = .ok (.symbol s, width) := by
  rcases symbolCases found with ⟨c, rest, rfl, rfl, single⟩ | ⟨a, b, rest, rfl, rfl, pair⟩
  · rw [List.take_succ_cons, List.take_zero]
    unfold symbol1? at single
    split at single <;> cases single <;> cases afterOperand <;> rfl
  · rw [List.take_succ_cons, List.take_succ_cons, List.take_zero]
    unfold symbol2? at pair
    split at pair <;> cases pair <;> rfl

theorem letterNotSign {c : Char} (letter : Text.isLetter c = true) : isSign c = false := by
  simp only [isSign, Bool.or_eq_false_iff, beq_eq_false_iff_ne]
  constructor <;> rintro rfl <;> cases letter

theorem letterNotPoint {c : Char} (letter : Text.isLetter c = true) : c ≠ '.' := by
  rintro rfl
  cases letter

theorem textAlone (afterOperand : Bool) (contents : String) :
    read afterOperand (requote contents).toList =
      .ok (.text contents, (requote contents).length) := by
  rw [← String.length_toList, requoteDoubled, read, if_pos rfl, quotedAlone]
  simp
  omega

theorem numberAlone {afterOperand : Bool} (starts : startsNumber cs = true) :
    read afterOperand (cs.take (numberWidth cs)) =
      .ok (.number (String.ofList (cs.take (numberWidth cs))), numberWidth cs) := by
  rw [readNumber (startsNumberAlone starts), numberWidthAlone, List.take_take, Nat.min_self]

theorem signedAlone {c : Char} (sign : isSign c = true) (starts : startsNumber cs = true) :
    read false (c :: cs.take (numberWidth cs)) =
      .ok (.number (String.ofList (c :: cs.take (numberWidth cs))), numberWidth cs + 1) := by
  obtain ⟨quote, other⟩ := signStarts sign (cs.take (numberWidth cs))
  rw [read, if_neg quote, if_neg (by simp [other]),
    if_pos (by simp [sign, startsNumberAlone starts]), numberWidthAlone]
  simp only [List.take_take, Nat.min_self]

theorem nameAlone {afterOperand : Bool} {c : Char} (letter : Text.isLetter c = true)
    (digit : c.isDigit = false) (quote : c ≠ '"') :
    read afterOperand (c :: cs.takeWhile isNameChar) =
      .ok (.name (String.ofList (c :: cs.takeWhile isNameChar)),
        (cs.takeWhile isNameChar).length + 1) := by
  rw [read, if_neg quote, startsNumberPlain (letterNotPoint letter), if_neg (by simp [digit]),
    if_neg (by simp [letterNotSign letter]), if_pos letter, List.takeWhile_idem]

theorem readAlone {afterOperand : Bool} {t : Lexeme} {width : Nat}
    (ok : read afterOperand cs = .ok (t, width)) (token : t ≠ .endOfLine) :
    read afterOperand (cs.take width) = .ok (t, width) := by
  have spelled := readSpelling ok token
  have wide := spellingWidth ok token
  cases cs with
  | nil =>
      cases ok
      exact absurd rfl token
  | cons c rest =>
      rw [read] at ok
      split at ok
      · split at ok
        · cases ok
          rw [spelled, wide]
          exact textAlone afterOperand _
        · cases ok
      · rename_i quote
        split at ok
        · rename_i number
          cases ok
          exact numberAlone number
        · rename_i number
          split at ok
          · rename_i folded
            cases ok
            simp only [Bool.and_eq_true, Bool.not_eq_true'] at folded
            rw [folded.1.2, List.take_succ_cons]
            exact signedAlone folded.1.1 folded.2
          · split at ok
            · rename_i letter
              cases ok
              have digit : c.isDigit = false := by
                simpa [startsNumberPlain (letterNotPoint letter)] using number
              rw [spelled, shown, String.toList_ofList]
              exact nameAlone letter digit quote
            · split at ok
              · rename_i found
                cases ok
                exact symbolAlone found
              · cases ok

theorem readSpaced {afterOperand : Bool} {t : Lexeme} {width : Nat} {behind : List Char}
    (ok : read afterOperand cs = .ok (t, width)) (token : t ≠ .endOfLine)
    (loose : ∀ x ∈ behind.head?, Text.isSpace x = true) :
    read afterOperand (t.shown.toList ++ behind) = .ok (t, t.shown.length) := by
  rw [← readSpelling ok token, ← spellingWidth ok token]
  cases behind with
  | nil =>
      rw [List.append_nil]
      exact readAlone ok token
  | cons x behind =>
      exact readBefore _ behind (spaceBreaks (loose x rfl)) (readAlone ok token) token

end Alone

def spread (pieces : List (List Char × Lexeme)) (last : List Char) : List Char :=
  pieces.flatMap (fun piece => piece.1 ++ piece.2.shown.toList) ++ last

theorem spreadCons (blanks : List Char) (t : Lexeme) (pieces : List (List Char × Lexeme))
    (last : List Char) :
    spread ((blanks, t) :: pieces) last = blanks ++ (t.shown.toList ++ spread pieces last) := by
  simp [spread]

/- White space that stands before each lexeme but the first, where there may be none, and behind the
last. -/
structure Spaced (pieces : List (List Char × Lexeme)) (last : List Char) : Prop where
  blank : ∀ piece ∈ pieces, Text.Blank piece.1
  apart : ∀ piece ∈ pieces.tail, piece.1 ≠ []
  last : Text.Blank last

variable {pieces : List (List Char × Lexeme)} {last : List Char}

theorem Spaced.tail {piece : List Char × Lexeme} (spaced : Spaced (piece :: pieces) last) :
    Spaced pieces last where
  blank other member := spaced.blank other (List.mem_cons_of_mem piece member)
  apart other member := spaced.apart other (List.mem_of_mem_tail member)
  last := spaced.last

theorem Spaced.loose {piece : List Char × Lexeme} (spaced : Spaced (piece :: pieces) last) :
    ∀ x ∈ (spread pieces last).head?, Text.isSpace x = true := by
  intro x first
  cases pieces with
  | nil => exact spaced.last x (List.mem_of_mem_head? first)
  | cons next pieces =>
      obtain ⟨blanks, t⟩ := next
      have nonempty : blanks ≠ [] := spaced.apart (blanks, t) (by simp)
      have inside : blanks.head? = some x := by
        rw [spreadCons, List.head?_append_of_ne_nil _ nonempty] at first
        exact first
      exact spaced.blank (blanks, t) (by simp) x (List.mem_of_mem_head? inside)

end Lexeme

namespace Cursor

theorem skipSpacesOver {blanks rest : List Char} (blank : Text.Blank blanks)
    (solid : ∀ x ∈ rest.head?, Text.isSpace x = false) (pos : Nat) (afterOperand : Bool) :
    skipSpaces ⟨pos, blanks ++ rest, afterOperand⟩ =
      ⟨pos + blanks.length, rest, afterOperand⟩ := by
  simp only [skipSpaces, Text.takeWhileStop blank solid, List.drop_left]

theorem nextSolid {c after : Cursor} {t : Token} (read : c.next = .ok (t, after))
    (token : t.lexeme ≠ .endOfLine) :
    t.shown.toList ≠ [] ∧ ∀ x ∈ t.shown.toList.head?, Text.isSpace x = false := by
  obtain ⟨width, lexeme, _, _⟩ := nextOk.mp read
  have positive := (Lexeme.readWidth lexeme).2 token
  have nonempty : t.shown.toList ≠ [] := by
    rw [Lexeme.spellingWidth lexeme token, ← String.length_toList] at positive
    exact List.ne_nil_of_length_pos positive
  refine ⟨nonempty, fun x first => skipSpacesSolid (c := c) ?_⟩
  have spelled : c.skipSpaces.rest.take width = t.shown.toList :=
    Lexeme.readSpelling lexeme token
  rw [← List.take_append_drop width c.skipSpaces.rest, spelled,
    List.head?_append_of_ne_nil _ nonempty]
  exact first

/- What is read at one place is read wherever it is written, behind any white space and with white
space behind it. -/
theorem nextSpaced {c after : Cursor} {t : Token} (read : c.next = .ok (t, after))
    (token : t.lexeme ≠ .endOfLine) {blanks behind : List Char} (blank : Text.Blank blanks)
    (loose : ∀ x ∈ behind.head?, Text.isSpace x = true) (pos : Nat) :
    (⟨pos, blanks ++ (t.shown.toList ++ behind), c.afterOperand⟩ : Cursor).next =
      .ok (⟨t.lexeme, pos + blanks.length⟩,
        ⟨pos + blanks.length + t.shown.length, behind, after.afterOperand⟩) := by
  obtain ⟨width, lexeme, _, rfl⟩ := nextOk.mp read
  have solid : ∀ x ∈ (t.shown.toList ++ behind).head?, Text.isSpace x = false := by
    rw [List.head?_append_of_ne_nil _ (nextSolid read token).1]
    exact (nextSolid read token).2
  refine nextOk.mpr ⟨t.shown.length, ?_, ?_, ?_⟩
  · rw [skipSpacesOver blank solid]
    exact Lexeme.readSpaced lexeme token loose
  · rw [skipSpacesOver blank solid]
  · rw [skipSpacesOver blank solid, ← String.length_toList, List.drop_left]

theorem nextBlank {blanks : List Char} (blank : Text.Blank blanks) (pos : Nat)
    (afterOperand : Bool) : ∃ after, (⟨pos, blanks, afterOperand⟩ : Cursor).next =
      .ok (⟨.endOfLine, pos + blanks.length⟩, after) := by
  have skipped : skipSpaces ⟨pos, blanks ++ [], afterOperand⟩ =
      ⟨pos + blanks.length, [], afterOperand⟩ := skipSpacesOver blank (by simp) pos afterOperand
  rw [List.append_nil] at skipped
  refine ⟨_, nextOk.mpr ⟨0, ?_, ?_, rfl⟩⟩
  · rw [skipped]
    rfl
  · rw [skipped]

end Cursor

namespace TokenStream

theorem scansSpread {c : Cursor} {s : TokenStream} {stop : Nat} (scans : Scans Cursor.next c s)
    (ends : s.ending = .ok stop) {pieces : List (List Char × Lexeme)} {blanks : List Char}
    (same : pieces.map Prod.snd = s.tokens.map Token.lexeme) (spaced : Lexeme.Spaced pieces blanks)
    (pos : Nat) :
    ∃ tokens, tokens.map Token.lexeme = s.tokens.map Token.lexeme ∧
      Scans Cursor.next ⟨pos, Lexeme.spread pieces blanks, c.afterOperand⟩
        ⟨tokens, .ok (pos + (Lexeme.spread pieces blanks).length)⟩ := by
  induction scans generalizing pieces pos with
  | fault stops => cases ends
  | @done c t after read last =>
      obtain rfl := List.map_eq_nil_iff.mp same
      obtain ⟨after, read⟩ := Cursor.nextBlank spaced.last pos c.afterOperand
      exact ⟨[], rfl, .done read rfl⟩
  | @token c t after s read more rest ih =>
      obtain ⟨⟨front, lexeme⟩, others, rfl, first, tail⟩ := List.map_eq_cons_iff.mp same
      cases first
      rw [Lexeme.spreadCons]
      have read' := Cursor.nextSpaced read more (spaced.blank (front, t.lexeme) (by simp))
        spaced.loose pos
      obtain ⟨tokens, lexemes, scans⟩ := ih ends tail spaced.tail
        (pos + front.length + t.shown.length)
      have width : pos + front.length + t.shown.length + (Lexeme.spread others blanks).length =
          pos + (front ++ (t.lexeme.shown.toList ++ Lexeme.spread others blanks)).length := by
        simp only [List.length_append, String.length_toList, Token.shown]
        omega
      rw [width] at scans
      exact ⟨⟨t.lexeme, pos + front.length⟩ :: tokens, by simp [lexemes],
        .token read' more scans⟩

end TokenStream

namespace Lexer

theorem nextsScans {l : Lexer} {tokens : List Token} {stop : Nat} (plain : l.Plain)
    (before : ∀ t ∈ tokens, t.lexeme ≠ .endOfLine)
    (results : nexts (tokens.length + 1) l = tokens.map .ok ++ [.ok ⟨.endOfLine, stop⟩]) :
    TokenStream.Scans Cursor.next l.cursor ⟨tokens, .ok stop⟩ := by
  induction tokens generalizing l with
  | nil =>
      have first : l.next.1 = .ok ⟨.endOfLine, stop⟩ := (List.cons.inj results).1
      cases read : l.cursor.next with
      | error f => cases (plain.nextStops read).symm.trans first
      | ok result =>
          obtain ⟨t, after⟩ := result
          rw [plain.nextOk read] at first
          cases first
          exact .done read rfl
  | cons t tokens ih =>
      obtain ⟨first, others⟩ := List.cons.inj results
      cases read : l.cursor.next with
      | error f => cases (plain.nextStops read).symm.trans first
      | ok result =>
          obtain ⟨t', after⟩ := result
          rw [plain.nextOk read] at first others
          cases first
          exact .token read (before t (by simp)) (ih (plain.moved read)
            (fun u member => before u (by simp [member])) others)

theorem spacedTokensReadAgain (line : String) (tokens : List Token) (stop : Nat)
    (read : Yields line tokens (.ok ⟨.endOfLine, stop⟩)) (pieces : List (List Char × Lexeme))
    (blanks : List Char) (same : pieces.map Prod.snd = tokens.map Token.lexeme)
    (spaced : Lexeme.Spaced pieces blanks) :
    ∃ tokens', tokens'.map Token.lexeme = tokens.map Token.lexeme ∧
      Yields (String.ofList (Lexeme.spread pieces blanks)) tokens'
        (.ok ⟨.endOfLine, (Lexeme.spread pieces blanks).length⟩) := by
  have scans := nextsScans (startPlain line) read.before read.results
  obtain ⟨tokens', lexemes, scans'⟩ := TokenStream.scansSpread scans rfl same spaced 0
  rw [Nat.zero_add] at scans'
  have start : Cursor.start (String.ofList (Lexeme.spread pieces blanks)) =
      ⟨0, Lexeme.spread pieces blanks, false⟩ := by
    rw [Cursor.start, String.toList_ofList]
  exact ⟨tokens', lexemes, scansYields (start ▸ scans')⟩

theorem crowdedLineReadAgain :
    let tokens : List Token := [⟨.name "x", 0⟩, ⟨.symbol .equal, 1⟩, ⟨.number "-5", 2⟩,
      ⟨.symbol .minus, 4⟩, ⟨.number "3", 5⟩, ⟨.symbol .colon, 6⟩, ⟨.name "print", 7⟩,
      ⟨.text "a\"b", 12⟩]
    let pieces : List (List Char × Lexeme) := [([], .name "x"), ([' '], .symbol .equal),
      (['\t', ' '], .number "-5"), ([' '], .symbol .minus), (['\u3000'], .number "3"),
      ([' '], .symbol .colon), (['\n'], .name "print"), ([' '], .text "a\"b")]
    Yields "x=-5-3:print\"a\"\"b\"" tokens (.ok ⟨.endOfLine, 18⟩) ∧ Lexeme.Spaced pieces [' '] ∧
    String.ofList (Lexeme.spread pieces [' ']) = "x =\t -5 -\u30003 :\nprint \"a\"\"b\" " ∧
    ∃ tokens', tokens'.map Token.lexeme = tokens.map Token.lexeme ∧
      Yields (String.ofList (Lexeme.spread pieces [' '])) tokens'
        (.ok ⟨.endOfLine, (Lexeme.spread pieces [' ']).length⟩) := by
  intro tokens pieces
  have read : Yields "x=-5-3:print\"a\"\"b\"" tokens (.ok ⟨.endOfLine, 18⟩) :=
    ⟨by decide, rfl⟩
  have spaced : Lexeme.Spaced pieces [' '] :=
    ⟨by simp [pieces, Text.Blank, Text.isSpace], by simp [pieces],
      by simp [Text.Blank, Text.isSpace]⟩
  exact ⟨read, spaced, rfl, spacedTokensReadAgain _ tokens 18 read pieces [' '] rfl spaced⟩

end Lexer

end LineBasic
