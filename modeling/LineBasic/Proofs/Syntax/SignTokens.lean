import Mathlib.Data.List.Chain
import LineBasic.Proofs.Number.Negation
import LineBasic.Proofs.Syntax.Grammar
import LineBasic.Proofs.Syntax.LetterCase

/-!
Signs as tokens of their own. A sign directly before a number is read as part of it unless an
operand ends before. Reading every sign as a token of its own gives the same tokens, but for the
signed numbers, each of which falls apart into its sign and the number behind it.
-/
namespace LineBasic

namespace Lexeme

inductive Numeral : String → Prop where
  | plain {d} (unsigned : Number.Unsigned d.toList) : Numeral d
  | minus {d} (unsigned : Number.Unsigned d.toList) : Numeral ("-" ++ d)
  | plus {d} (unsigned : Number.Unsigned d.toList) : Numeral ("+" ++ d)

def apart : Lexeme → List Lexeme
  | .number spelling =>
    match spelling.toList with
    | '-' :: d => [.symbol .minus, .number (String.ofList d)]
    | '+' :: d => [.symbol .plus, .number (String.ofList d)]
    | _ => [.number spelling]
  | t => [t]

@[simp]
theorem apartMinus (d : String) : apart (.number ("-" ++ d)) = [.symbol .minus, .number d] := by
  have spelling : ("-" ++ d).toList = '-' :: d.toList := String.toList_append
  simp only [apart, spelling, String.ofList_toList]

@[simp]
theorem apartPlus (d : String) : apart (.number ("+" ++ d)) = [.symbol .plus, .number d] := by
  have spelling : ("+" ++ d).toList = '+' :: d.toList := String.toList_append
  simp only [apart, spelling, String.ofList_toList]

theorem apartPlain {d : String} (unsigned : Number.Unsigned d.toList) :
    apart (.number d) = [.number d] := by
  have noSign : ∀ c rest, d.toList = c :: rest → isSign c = false := by
    intro c rest spelling
    rcases unsigned c (by simp [spelling]) with digit | rfl
    · simp only [isSign, Bool.or_eq_false_iff, beq_eq_false_iff_ne]
      constructor <;> rintro rfl <;> cases digit
    · rfl
  unfold apart
  simp only
  split
  · rename_i spelling
    cases noSign _ _ spelling
  · rename_i spelling
    cases noSign _ _ spelling
  · rfl

section Read

variable {cs rest : List Char}

theorem readNumber {afterOperand : Bool} (starts : startsNumber cs = true) :
    read afterOperand cs =
      .ok (.number (String.ofList (cs.take (numberWidth cs))), numberWidth cs) := by
  cases cs with
  | nil => cases starts
  | cons c rest =>
      have plain : c ≠ '"' := by
        rintro rfl
        cases starts
      rw [read, if_neg plain, if_pos starts]

theorem readMinusSign (rest : List Char) : read true ('-' :: rest) = .ok (.symbol .minus, 1) := by
  cases rest <;> rfl

theorem readPlusSign (rest : List Char) : read true ('+' :: rest) = .ok (.symbol .plus, 1) := by
  cases rest <;> rfl

theorem signStarts {c : Char} (sign : isSign c = true) (rest : List Char) :
    c ≠ '"' ∧ startsNumber (c :: rest) = false := by
  have either : c = '+' ∨ c = '-' := by simpa [isSign] using sign
  rcases either with rfl | rfl <;> exact ⟨by decide, by cases rest <;> rfl⟩

theorem readFolds (afterOperand : Bool) (cs : List Char) :
    read afterOperand cs = read true cs ∨ ∃ c rest, cs = c :: rest ∧ isSign c = true ∧
      afterOperand = false ∧ startsNumber rest = true ∧
      read afterOperand cs = .ok
        (.number (String.ofList (c :: rest.take (numberWidth rest))), numberWidth rest + 1) := by
  cases cs with
  | nil => exact .inl rfl
  | cons c rest =>
      cases folds : isSign c && !afterOperand && startsNumber rest with
      | false =>
          refine .inl ?_
          simp only [read, folds, Bool.not_true, Bool.and_false, Bool.false_and]
      | true =>
          have parts := folds
          simp only [Bool.and_eq_true, Bool.not_eq_true'] at parts
          obtain ⟨⟨sign, first⟩, starts⟩ := parts
          obtain ⟨plain, other⟩ := signStarts sign rest
          refine .inr ⟨c, rest, rfl, sign, first, starts, ?_⟩
          rw [read, if_neg plain, if_neg (by simp [other]), if_pos folds]

theorem readTrueNumber {spelling : String} {width : Nat}
    (ok : read true cs = .ok (.number spelling, width)) :
    Number.Unsigned spelling.toList := by
  have starts : startsNumber cs = true := by
    cases cs with
    | nil => cases ok
    | cons c rest =>
        unfold read at ok
        simp only [Bool.not_true, Bool.and_false, Bool.false_and, Bool.false_eq_true,
          if_false] at ok
        repeat' split at ok
        all_goals first | assumption | cases ok
  rw [readNumber starts] at ok
  cases ok
  intro c member
  rw [String.toList_ofList] at member
  exact numberChars cs member

theorem readTrueWhole {t : Lexeme} {width : Nat} (ok : read true cs = .ok (t, width)) :
    t.apart = [t] := by
  cases t with
  | number spelling => exact apartPlain (readTrueNumber ok)
  | _ => rfl

theorem foldedParts {c : Char} (sign : isSign c = true) (starts : startsNumber rest = true) :
    ∃ x d, read true (c :: rest) = .ok (.symbol x, 1) ∧
      read true rest = .ok (.number d, numberWidth rest) ∧ Number.Unsigned d.toList ∧
      Numeral (String.ofList (c :: rest.take (numberWidth rest))) ∧
      apart (.number (String.ofList (c :: rest.take (numberWidth rest)))) =
        [.symbol x, .number d] := by
  have number : read true rest = _ := readNumber starts
  have unsigned := readTrueNumber number
  have either : c = '+' ∨ c = '-' := by simpa [isSign] using sign
  rcases either with rfl | rfl
  · have spelling : String.ofList ('+' :: rest.take (numberWidth rest)) =
        "+" ++ String.ofList (rest.take (numberWidth rest)) := by simp
    rw [spelling]
    exact ⟨_, _, readPlusSign rest, number, unsigned, .plus unsigned, apartPlus _⟩
  · have spelling : String.ofList ('-' :: rest.take (numberWidth rest)) =
        "-" ++ String.ofList (rest.take (numberWidth rest)) := by simp
    rw [spelling]
    exact ⟨_, _, readMinusSign rest, number, unsigned, .minus unsigned, apartMinus _⟩

theorem digitNoSpace {c : Char} (digit : c.isDigit = true) : Text.isSpace c = false := by
  have first : '0'.val.toNat = 48 := rfl
  have last : '9'.val.toNat = 57 := rfl
  have place : c.toNat = c.val.toNat := rfl
  simp only [Char.isDigit, Bool.and_eq_true, decide_eq_true_eq, ge_iff_le,
    UInt32.le_iff_toNat_le] at digit
  simp only [Text.isSpace, Bool.or_eq_false_iff, Bool.and_eq_false_imp, beq_eq_false_iff_ne,
    decide_eq_true_eq, decide_eq_false_iff_not]
  omega

theorem startsNumberNoSpace (starts : startsNumber rest = true) :
    rest.takeWhile Text.isSpace = [] := by
  cases rest with
  | nil => rfl
  | cons c rest =>
      have first : Text.isSpace c = false := by
        unfold startsNumber at starts
        split at starts
        · rename_i shape
          cases shape
          rfl
        · rename_i shape
          cases shape
          exact digitNoSpace starts
        · cases starts
      rw [List.takeWhile_cons, first]
      rfl

theorem symbolMinus {width : Nat} (found : symbol? cs = some (.minus, width)) :
    width = 1 ∧ ∃ rest, cs = '-' :: rest := by
  have single : ∀ {c : Char}, symbol1? c = some .minus → c = '-' := by
    intro c same
    unfold symbol1? at same
    split at same <;> first | rfl | cases same
  have noPair : ∀ {c d : Char}, symbol2? c d ≠ some .minus := by
    intro c d same
    unfold symbol2? at same
    split at same <;> cases same
  unfold symbol? at found
  split at found
  · cases found
  · obtain ⟨x, minus, same⟩ := Option.map_eq_some_iff.mp found
    cases same
    exact ⟨rfl, [], by rw [single minus]⟩
  · split at found
    · rename_i pair
      cases found
      exact absurd pair noPair
    · obtain ⟨x, minus, same⟩ := Option.map_eq_some_iff.mp found
      cases same
      exact ⟨rfl, _, by rw [single minus]⟩

theorem readMinusShape {afterOperand : Bool} {width : Nat}
    (ok : read afterOperand cs = .ok (.symbol .minus, width)) :
    width = 1 ∧ ∃ rest, cs = '-' :: rest := by
  cases cs with
  | nil => cases ok
  | cons c rest =>
      rw [read] at ok
      repeat' split at ok
      all_goals cases ok
      rename_i found
      exact symbolMinus found

end Read

end Lexeme

namespace Cursor

def nextApart (c : Cursor) : Except LexFault (Token × Cursor) :=
  ({ c with afterOperand := true } : Cursor).next

theorem nextApartAdvances : Advances nextApart := by
  intro c t after ok token
  exact nextAdvances (c := { c with afterOperand := true }) ok token

end Cursor

def Token.apart (t : Token) : List Token :=
  (t.lexeme.apart.zipIdx t.pos).map fun part => ⟨part.1, part.2⟩

@[simp] theorem Token.apartLexemes (t : Token) : t.apart.map Token.lexeme = t.lexeme.apart := by
  simp [apart, Function.comp_def]

theorem Token.apartOne {t : Token} (alone : t.lexeme.apart = [t.lexeme]) : t.apart = [t] := by
  simp [apart, alone]

theorem Token.apartTwo {t : Token} {sign number : Lexeme}
    (parts : t.lexeme.apart = [sign, number]) :
    t.apart = [⟨sign, t.pos⟩, ⟨number, t.pos + 1⟩] := by
  simp [apart, parts]

namespace Cursor

variable {c after : Cursor} {t : Token}

inductive Apart (c : Cursor) (t : Token) (after : Cursor) : Prop where
  | whole (same : c.nextApart = .ok (t, after)) (alone : t.apart = [t])
  | folded {x d place mid} (first : c.nextApart = .ok (⟨.symbol x, place⟩, mid))
      (second : mid.nextApart = .ok (⟨.number d, place + 1⟩, after))
      (parts : t.apart = [⟨.symbol x, place⟩, ⟨.number d, place + 1⟩])

theorem nextApartError {f : LexFault} (stops : c.next = .error f) : c.nextApart = .error f := by
  obtain ⟨read, pos⟩ := nextError.mp stops
  refine nextError.mpr ⟨?_, pos⟩
  rcases Lexeme.readFolds c.afterOperand c.skipSpaces.rest with same | ⟨_, _, _, _, _, _, folded⟩
  · exact same.symm.trans read
  · cases read.symm.trans folded

theorem nextApartOk (ok : c.next = .ok (t, after)) : Apart c t after := by
  obtain ⟨width, read, pos, rfl⟩ := nextOk.mp ok
  obtain ⟨lexeme, place⟩ := t
  simp only at read pos
  subst pos
  rcases Lexeme.readFolds c.afterOperand c.skipSpaces.rest with
    same | ⟨sign, rest, shape, isSign, _, starts, folded⟩
  · rw [same] at read
    refine .whole (nextOk.mpr ⟨width, read, rfl, rfl⟩) ?_
    exact Token.apartOne (Lexeme.readTrueWhole read)
  · cases read.symm.trans folded
    obtain ⟨x, d, one, two, _, _, parts⟩ := Lexeme.foldedParts isSign starts
    have blanks : (⟨c.skipSpaces.pos + 1, rest, true⟩ : Cursor).skipSpaces =
        ⟨c.skipSpaces.pos + 1, rest, true⟩ := by
      simp [skipSpaces, Lexeme.startsNumberNoSpace starts]
    have first : c.nextApart =
        .ok (⟨.symbol x, c.skipSpaces.pos⟩,
          ⟨c.skipSpaces.pos + 1, rest, (Lexeme.symbol x).endsOperand⟩) := by
      refine nextOk.mpr ⟨1, shape ▸ one, rfl, ?_⟩
      have same : ({ c with afterOperand := true } : Cursor).skipSpaces.rest =
          c.skipSpaces.rest := rfl
      rw [same, shape]
      rfl
    refine .folded first (nextOk.mpr ⟨Lexeme.numberWidth rest, ?_, ?_, ?_⟩) (Token.apartTwo parts)
    · rw [blanks]
      exact two
    · rw [blanks]
    · rw [blanks, shape]
      simp only [List.drop_succ_cons, Lexeme.endsOperand, Cursor.mk.injEq, and_self, and_true]
      omega

theorem nextNumeral {spelling : String} (ok : c.next = .ok (t, after))
    (number : t.lexeme = .number spelling) : Lexeme.Numeral spelling := by
  obtain ⟨width, read, _, _⟩ := nextOk.mp ok
  rw [number] at read
  rcases Lexeme.readFolds c.afterOperand c.skipSpaces.rest with
    same | ⟨sign, rest, _, isSign, _, starts, folded⟩
  · exact .plain (Lexeme.readTrueNumber (same.symm.trans read))
  · cases read.symm.trans folded
    obtain ⟨x, d, _, _, _, numeral, _⟩ := Lexeme.foldedParts isSign starts
    exact numeral

theorem nextWhole (ok : c.next = .ok (t, after)) (operand : c.afterOperand = true) :
    t.lexeme.apart = [t.lexeme] := by
  obtain ⟨width, read, _, _⟩ := nextOk.mp ok
  rw [operand] at read
  exact Lexeme.readTrueWhole read

end Cursor

/- What the reading of a line guarantees of its lexemes: how numbers are spelled, and that none
behind an operand has a sign. -/
structure Lexed (w : List Lexeme) : Prop where
  numerals : ∀ spelling, .number spelling ∈ w → Lexeme.Numeral spelling
  chained : w.IsChain fun t u => t.endsOperand = true → u.apart = [u]

namespace TokenStream

def signsApart (line : String) : TokenStream := scanWith Cursor.nextApart line

variable {c : Cursor} {s : TokenStream}

theorem scansApart (scans : Scans Cursor.next c s) :
    Scans Cursor.nextApart c ⟨s.tokens.flatMap Token.apart, s.ending⟩ := by
  induction scans with
  | fault stops => exact .fault (Cursor.nextApartError stops)
  | done read last =>
      cases Cursor.nextApartOk read with
      | whole same alone => exact .done same last
      | folded first second parts =>
          have lexemes := congrArg (List.map Token.lexeme) parts
          rw [Token.apartLexemes, last] at lexemes
          cases lexemes
  | token read more rest ih =>
      cases Cursor.nextApartOk read with
      | whole same alone =>
          have both := Scans.token same more ih
          rwa [List.flatMap_cons, alone]
      | folded first second parts =>
          have both := Scans.token first (by simp) (.token second (by simp) ih)
          rwa [List.flatMap_cons, parts]

theorem signsApartLine (line : String) :
    signsApart line = ⟨(ofLine line).tokens.flatMap Token.apart, (ofLine line).ending⟩ :=
  (scanWithExact Cursor.nextApartAdvances).mpr (scansApart (ofLineScans line))

theorem scansLexed (scans : Scans Cursor.next c s) : Lexed (s.tokens.map Token.lexeme) ∧
    (c.afterOperand = true → ∀ t ∈ (s.tokens.map Token.lexeme).head?, t.apart = [t]) := by
  induction scans with
  | fault stops => exact ⟨⟨by simp, .nil⟩, by simp⟩
  | done read last => exact ⟨⟨by simp, .nil⟩, by simp⟩
  | @token c t after s read more rest ih =>
      obtain ⟨⟨numerals, chained⟩, first⟩ := ih
      obtain ⟨width, _, _, place⟩ := Cursor.nextOk.mp read
      have follows : after.afterOperand = t.lexeme.endsOperand := by rw [place]
      refine ⟨⟨?_, ?_⟩, ?_⟩
      · intro spelling member
        rcases List.mem_cons.mp member with same | inside
        · exact Cursor.nextNumeral read same.symm
        · exact numerals spelling inside
      · refine List.isChain_cons.mpr ⟨?_, chained⟩
        intro u next operand
        exact first (follows.trans operand) u next
      · intro operand u next
        cases next
        exact Cursor.nextWhole read operand

theorem ofLineLexed (line : String) : Lexed ((ofLine line).tokens.map Token.lexeme) :=
  (scansLexed (ofLineScans line)).1

theorem scansBehind {line : List Char} {before rest : List Token} {ending : Except LexFault Nat}
    (scans : Scans Cursor.next c ⟨before ++ rest, ending⟩) (placed : c.rest = line.drop c.pos) :
    ∃ c', Scans Cursor.next c' ⟨rest, ending⟩ ∧ c'.rest = line.drop c'.pos := by
  induction before generalizing c with
  | nil => exact ⟨c, scans, placed⟩
  | cons t before ih =>
      obtain ⟨after, read, others⟩ := scans.first
      exact ih others (Cursor.nextPlaced read placed)

theorem filterBlanks (cs : List Char) : cs.filter (!Text.isSpace ·) =
    (cs.dropWhile Text.isSpace).filter (!Text.isSpace ·) := by
  induction cs with
  | nil => rfl
  | cons c cs ih =>
      cases space : Text.isSpace c with
      | true => simp [space, ih]
      | false => simp [space]

end TokenStream

namespace Grammar

def JumpWord (k : String) : Prop :=
  Spells .gotoKw k ∨ Spells .gosubKw k ∨ SpellsWord .thenWord k

def TwoSigns (cs : List Char) : Prop :=
  ∃ a b rest, cs.filter (!Text.isSpace ·) = a :: b :: rest ∧ Lexeme.isSign a = true ∧
    Lexeme.isSign b = true

def SingleSigns (text : String) : Prop :=
  ∀ k pos, ⟨.name k, pos⟩ ∈ (TokenStream.ofLine text).tokens → JumpWord k →
    ¬ TwoSigns (text.toList.drop (pos + k.length))

def PlainTargets (w : List Lexeme) : Prop :=
  ∀ k spelling, JumpWord k → [.name k, .symbol .minus, .number spelling] <:+: w →
    Lexeme.apart (.number spelling) = [.number spelling]

theorem signNoSpace {c : Char} (sign : Lexeme.isSign c = true) : Text.isSpace c = false := by
  have either : c = '+' ∨ c = '-' := by simpa [Lexeme.isSign] using sign
  rcases either with rfl | rfl <;> rfl

theorem twoSignsRead {c : Cursor} {p q : Nat} {spelling : String} {rest : List Token}
    {ending : Except LexFault Nat}
    (scans : TokenStream.Scans Cursor.next c
      ⟨⟨.symbol .minus, p⟩ :: ⟨.number spelling, q⟩ :: rest, ending⟩)
    (signed : Lexeme.apart (.number spelling) ≠ [.number spelling]) : TwoSigns c.rest := by
  obtain ⟨mid, minus, others⟩ := scans.first
  obtain ⟨after, number, _⟩ := others.first
  obtain ⟨width, readMinus, _, rfl⟩ := Cursor.nextOk.mp minus
  obtain ⟨rfl, behind, shape⟩ := Lexeme.readMinusShape readMinus
  rw [shape] at number
  obtain ⟨_, readNumber, _, _⟩ := Cursor.nextOk.mp number
  rcases Lexeme.readFolds _ _ with same | ⟨sign, digits, second, isSign, _, _, _⟩
  · exact absurd (Lexeme.readTrueWhole (same.symm.trans readNumber)) signed
  · rw [Cursor.skipSpacesRest] at shape second
    have left : behind.dropWhile Text.isSpace = sign :: digits := second
    have minusShown : Text.isSpace '-' = false := rfl
    refine ⟨'-', sign, digits.filter (!Text.isSpace ·), ?_, rfl, isSign⟩
    rw [TokenStream.filterBlanks, shape, List.filter_cons_of_pos (by simp [minusShown]),
      TokenStream.filterBlanks, left, List.filter_cons_of_pos (by simp [signNoSpace isSign])]

theorem singleSignsPlain {text : String} (single : SingleSigns text) :
    PlainTargets ((TokenStream.ofLine text).tokens.map Token.lexeme) := by
  intro k spelling word inside
  obtain ⟨before, after, shape⟩ := inside
  rw [List.append_assoc, eq_comm] at shape
  obtain ⟨front, others, stream, rfl, found⟩ := List.map_eq_append_iff.mp shape
  obtain ⟨⟨_, pos⟩, _, rfl, rfl, second⟩ := List.map_eq_cons_iff.mp found
  obtain ⟨⟨_, _⟩, _, rfl, rfl, third⟩ := List.map_eq_cons_iff.mp second
  obtain ⟨⟨_, _⟩, _, rfl, rfl, _⟩ := List.map_eq_cons_iff.mp third
  refine Decidable.byContradiction fun signed => ?_
  refine single k pos (by simp [stream]) word ?_
  have scans := TokenStream.ofLineScans text
  have whole : TokenStream.ofLine text = ⟨_, (TokenStream.ofLine text).ending⟩ :=
    congrArg (TokenStream.mk · (TokenStream.ofLine text).ending) stream
  rw [whole] at scans
  have start : (Cursor.start text).rest = text.toList.drop (Cursor.start text).pos := rfl
  obtain ⟨c, fromName, placed⟩ := TokenStream.scansBehind scans start
  obtain ⟨behind, name, rest⟩ := fromName.first
  have two := twoSignsRead rest signed
  obtain ⟨width, read, place, rfl⟩ := Cursor.nextOk.mp name
  simp only at read place
  rw [Cursor.nextPlaced name placed, Lexeme.spellingWidth read (by simp), Lexeme.shown,
    ← place] at two
  exact two

end Grammar

end LineBasic
