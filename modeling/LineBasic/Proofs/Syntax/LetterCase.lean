import Mathlib.Data.List.Forall2
import Mathlib.Data.List.TakeWhile
import LineBasic.Proofs.Syntax.Spelling

/-!
Letters in the other case. Two texts that differ only in the case of letters outside quoted texts
have the same tokens at the same places, but for the case of the names among them, and stop at the
same fault.
-/
namespace LineBasic

def SameLetter (c d : Char) : Prop :=
  c = d ∨ c.isAlpha = true ∧ d.isAlpha = true ∧ c.toUpper = d.toUpper

instance (c d : Char) : Decidable (SameLetter c d) :=
  inferInstanceAs (Decidable (c = d ∨ c.isAlpha = true ∧ d.isAlpha = true ∧ c.toUpper = d.toUpper))

section Letters

variable {c d : Char}

theorem letterRange (letter : c.isAlpha = true) :
    65 ≤ c.toNat ∧ c.toNat ≤ 90 ∨ 97 ≤ c.toNat ∧ c.toNat ≤ 122 := by
  have classes : c.isAlpha = (decide ('A'.val ≤ c.val ∧ c.val ≤ 'Z'.val) ||
      (decide ('a'.val ≤ c.val) && decide (c.val ≤ 'z'.val))) := rfl
  simp only [classes, Bool.or_eq_true, Bool.and_eq_true, decide_eq_true_eq,
    UInt32.le_iff_toNat_le] at letter
  exact letter

theorem letterNoSpace (letter : c.isAlpha = true) : Text.isSpace c = false := by
  have range := letterRange letter
  simp only [Text.isSpace, Bool.or_eq_false_iff, Bool.and_eq_false_imp, beq_eq_false_iff_ne,
    decide_eq_true_eq, decide_eq_false_iff_not]
  omega

theorem letterNoDigit (letter : c.isAlpha = true) : c.isDigit = false := by
  have range := letterRange letter
  have place : c.toNat = c.val.toNat := rfl
  have last : '9'.val.toNat = 57 := rfl
  simp only [Char.isDigit, Bool.and_eq_false_imp, decide_eq_true_eq, decide_eq_false_iff_not,
    ge_iff_le, UInt32.le_iff_toNat_le]
  omega

theorem letterIsLetter (letter : c.isAlpha = true) : Text.isLetter c = true := by
  have range := letterRange letter
  have ascii : c.toNat < 0x80 := by omega
  rw [Text.isLetter, if_pos ascii, letter]

theorem letterUpper (letter : c.isAlpha = true) : Text.upperNameChar c = c.toUpper := by
  have range := letterRange letter
  have ascii : c.toNat < 0x80 := by omega
  rw [Text.upperNameChar, if_pos ascii]

theorem letterNoSign (letter : c.isAlpha = true) : Lexeme.isSign c = false := by
  simp only [Lexeme.isSign, Bool.or_eq_false_iff, beq_eq_false_iff_ne]
  constructor <;> rintro rfl <;> cases letter

theorem letterNoSymbol (letter : c.isAlpha = true) : Lexeme.symbol1? c = none := by
  unfold Lexeme.symbol1?
  split <;> first | rfl | cases letter

theorem letterNoPair (letter : c.isAlpha = true) (d : Char) : Lexeme.symbol2? c d = none := by
  unfold Lexeme.symbol2?
  split <;> first | rfl | cases letter

theorem letterNoPairEnd (letter : c.isAlpha = true) (d : Char) : Lexeme.symbol2? d c = none := by
  unfold Lexeme.symbol2?
  split <;> first | rfl | cases letter

theorem noLetter {f : Char → Bool} {b : Bool} (letters : c.isAlpha = true → f c = b)
    (differs : f c = !b) : c.isAlpha = false := by
  cases letter : c.isAlpha with
  | false => rfl
  | true =>
      rw [letters letter] at differs
      cases b <;> cases differs

end Letters

namespace SameLetter

variable {c d : Char} (same : SameLetter c d)
include same

theorem value {α : Type} {f : Char → α} {a : α}
    (letters : ∀ {c : Char}, c.isAlpha = true → f c = a) : f c = f d := by
  rcases same with rfl | ⟨left, right, _⟩
  · rfl
  · rw [letters left, letters right]

theorem other {x : Char} (plain : x.isAlpha = false) : c = x ↔ d = x := by
  rcases same with rfl | ⟨left, right, _⟩
  · rfl
  · constructor
    · rintro rfl
      rw [left] at plain
      cases plain
    · rintro rfl
      rw [right] at plain
      cases plain

theorem unchanged (plain : c.isAlpha = false) : c = d := by
  rcases same with rfl | ⟨left, right, _⟩
  · rfl
  · rw [left] at plain
    cases plain

theorem space : Text.isSpace c = Text.isSpace d := same.value letterNoSpace

theorem digit : c.isDigit = d.isDigit := same.value letterNoDigit

theorem letter : Text.isLetter c = Text.isLetter d := same.value letterIsLetter

theorem nameChar : Lexeme.isNameChar c = Lexeme.isNameChar d :=
  same.value (a := true) fun letter => by simp [Lexeme.isNameChar, letterIsLetter letter]

theorem sign : Lexeme.isSign c = Lexeme.isSign d := same.value letterNoSign

theorem upper : Text.upperNameChar c = Text.upperNameChar d := by
  rcases same with rfl | ⟨left, right, upper⟩
  · rfl
  · rw [letterUpper left, letterUpper right, upper]

end SameLetter

abbrev SameLetters (cs ds : List Char) : Prop := List.Forall₂ SameLetter cs ds

namespace Lexeme

variable {cs ds : List Char}

theorem takeWhileSame {p : Char → Bool} (blind : ∀ {c d}, SameLetter c d → p c = p d)
    (same : SameLetters cs ds) : SameLetters (cs.takeWhile p) (ds.takeWhile p) := by
  induction same with
  | nil => exact .nil
  | @cons c d cs ds first rest ih =>
      rw [List.takeWhile_cons, List.takeWhile_cons, blind first]
      split
      · exact .cons first ih
      · exact .nil

theorem startsNumberSame (same : SameLetters cs ds) : startsNumber cs = startsNumber ds := by
  cases same with
  | nil => rfl
  | @cons c d cs ds first rest =>
      by_cases point : c = '.'
      · have point' := (first.other (x := '.') rfl).mp point
        subst point point'
        cases rest with
        | nil => rfl
        | cons second more => exact second.digit
      · have point' : d ≠ '.' := fun same => point ((first.other rfl).mpr same)
        simp [startsNumber, point, point', first.digit]

theorem numberWidthSame (same : SameLetters cs ds) : numberWidth cs = numberWidth ds := by
  have whole := (takeWhileSame SameLetter.digit same).length_eq
  have left := List.forall₂_drop (cs.takeWhile Char.isDigit).length same
  unfold numberWidth
  simp only [← whole]
  generalize cs.drop _ = us at left
  generalize ds.drop _ = vs at left
  cases left with
  | nil => rfl
  | @cons c d us vs first rest =>
      by_cases point : c = '.'
      · have point' := (first.other (x := '.') rfl).mp point
        subst point point'
        simp [(takeWhileSame SameLetter.digit rest).length_eq]
      · have point' : d ≠ '.' := fun same => point ((first.other rfl).mpr same)
        simp [point, point']

theorem numberTake (cs : List Char) : cs.take (numberWidth cs) = cs.takeWhile Char.isDigit ++
    match cs.dropWhile Char.isDigit with
    | '.' :: rest => '.' :: rest.takeWhile Char.isDigit
    | _ => [] := by
  have taken (cs : List Char) : cs.take (cs.takeWhile Char.isDigit).length =
      cs.takeWhile Char.isDigit := (List.prefix_iff_eq_take.mp (List.takeWhile_prefix _)).symm
  have whole := List.takeWhile_append_dropWhile (p := Char.isDigit) (l := cs)
  unfold numberWidth
  simp only [Text.dropTakeWhile]
  generalize cs.dropWhile Char.isDigit = left at whole ⊢
  split
  · rename_i rest
    calc cs.take ((cs.takeWhile Char.isDigit).length + 1 + (rest.takeWhile Char.isDigit).length)
        = (cs.takeWhile Char.isDigit ++ '.' :: rest).take ((cs.takeWhile Char.isDigit).length +
            ((rest.takeWhile Char.isDigit).length + 1)) := by
          rw [whole, Nat.add_assoc, Nat.add_comm 1]
      _ = cs.takeWhile Char.isDigit ++ '.' :: rest.takeWhile Char.isDigit := by
          rw [List.take_length_add_append, List.take_succ_cons, taken]
  · rw [taken]
    simp

theorem numberChars (cs : List Char) {c : Char} (member : c ∈ cs.take (numberWidth cs)) :
    c.isDigit = true ∨ c = '.' := by
  rw [numberTake, List.mem_append] at member
  rcases member with whole | fraction
  · exact .inl (List.mem_takeWhile_imp whole)
  · split at fraction
    · rcases List.mem_cons.mp fraction with rfl | digit
      · exact .inr rfl
      · exact .inl (List.mem_takeWhile_imp digit)
    · cases fraction

theorem unchanged (same : SameLetters cs ds) (plain : ∀ c ∈ cs, c.isAlpha = false) : cs = ds := by
  induction same with
  | nil => rfl
  | cons first rest ih =>
      rw [first.unchanged (plain _ (by simp)), ih fun c member => plain c (by simp [member])]

theorem numberSame (same : SameLetters cs ds) :
    cs.take (numberWidth cs) = ds.take (numberWidth ds) := by
  rw [← numberWidthSame same]
  refine unchanged (List.forall₂_take _ same) fun c member => ?_
  rcases numberChars cs member with digit | rfl
  · exact noLetter letterNoDigit digit
  · rfl

theorem symbolSame (same : SameLetters cs ds) : symbol? cs = symbol? ds := by
  cases same with
  | nil => rfl
  | @cons c d cs ds first rest =>
      have single : symbol1? c = symbol1? d := first.value letterNoSymbol
      cases rest with
      | nil => simp only [symbol?, single]
      | @cons c' d' cs ds second rest =>
          have pair : symbol2? c c' = symbol2? d d' :=
            calc symbol2? c c'
                = symbol2? d c' := first.value (f := (symbol2? · c')) (letterNoPair · c')
              _ = symbol2? d d' := second.value (letterNoPairEnd · d)
          simp only [symbol?, single, pair]

theorem quotedNone {done done' : List Char} {width : Nat} (same : SameLetters cs ds)
    (unclosed : quotedFrom done width cs = none) : quotedFrom done' width ds = none := by
  fun_induction quotedFrom done width cs generalizing ds done' with
  | case1 =>
      cases same
      rfl
  | case2 done width rest ih =>
      obtain ⟨d, ds, first, tail, rfl⟩ := List.forall₂_cons_left_iff.mp same
      obtain ⟨e, es, second, others, rfl⟩ := List.forall₂_cons_left_iff.mp tail
      rw [← first.unchanged rfl, ← second.unchanged rfl, quotedFrom]
      exact ih others unclosed
  | case3 => cases unclosed
  | case4 done width c rest _ plain ih =>
      obtain ⟨d, ds, first, tail, rfl⟩ := List.forall₂_cons_left_iff.mp same
      have plain' : d ≠ '"' := fun quote => plain ((first.other rfl).mpr quote)
      rw [quotedFrom]
      · exact ih tail unclosed
      · rintro _ quote _
        exact plain' quote
      · exact plain'

theorem quotedSome {done contents : List Char} {width n : Nat} (same : SameLetters cs ds)
    (closed : quotedFrom done width cs = some (contents, n))
    (kept : ds.take (n - width) = cs.take (n - width)) :
    quotedFrom done width ds = some (contents, n) := by
  fun_induction quotedFrom done width cs generalizing ds with
  | case1 => cases closed
  | case2 done width rest ih =>
      obtain ⟨d, ds, first, tail, rfl⟩ := List.forall₂_cons_left_iff.mp same
      obtain ⟨e, es, second, others, rfl⟩ := List.forall₂_cons_left_iff.mp tail
      have bounds := quotedWidth closed
      obtain ⟨k, span⟩ : ∃ k, n - width = k + 2 := ⟨n - width - 2, by omega⟩
      rw [span, List.take_succ_cons, List.take_succ_cons, List.take_succ_cons,
        List.take_succ_cons] at kept
      rw [← first.unchanged rfl, ← second.unchanged rfl, quotedFrom]
      refine ih others closed ?_
      rw [show n - (width + 2) = k by omega]
      exact (List.cons.inj (List.cons.inj kept).2).2
  | case3 done width rest single =>
      obtain ⟨d, ds, first, tail, rfl⟩ := List.forall₂_cons_left_iff.mp same
      rw [← first.unchanged rfl]
      cases tail with
      | nil => exact closed
      | @cons c e cs es second more =>
          have plain : e ≠ '"' := by
            intro quote
            have same := (second.other rfl).mpr quote
            subst same
            exact single cs rfl
          rw [quotedFrom]
          · exact closed
          · rintro _ quote
            exact plain (List.cons.inj quote).1
  | case4 done width c rest _ plain ih =>
      obtain ⟨d, ds, first, tail, rfl⟩ := List.forall₂_cons_left_iff.mp same
      have bounds := quotedWidth closed
      obtain ⟨k, span⟩ : ∃ k, n - width = k + 1 := ⟨n - width - 1, by omega⟩
      rw [span, List.take_succ_cons, List.take_succ_cons] at kept
      obtain ⟨rfl, keptRest⟩ := List.cons.inj kept
      rw [quotedFrom]
      · refine ih tail closed ?_
        rw [show n - (width + 1) = k by omega]
        exact keptRest
      · rintro _ quote _
        exact plain quote
      · exact plain

inductive Alike : Lexeme → Lexeme → Prop where
  | same (t : Lexeme) : Alike t t
  | name {k k' : String} (upper : Text.upper k = Text.upper k') : Alike (.name k) (.name k')

inductive ReadsAlike :
    Except LexProblem (Lexeme × Nat) → Except LexProblem (Lexeme × Nat) → Prop where
  | ok {t t' width} (alike : Alike t t') : ReadsAlike (.ok (t, width)) (.ok (t', width))
  | error (problem : LexProblem) : ReadsAlike (.error problem) (.error problem)

theorem upperSame (same : SameLetters cs ds) :
    Text.upper (String.ofList cs) = Text.upper (String.ofList ds) := by
  have letters : cs.map Text.upperNameChar = ds.map Text.upperNameChar := by
    induction same with
    | nil => rfl
    | cons first rest ih => rw [List.map_cons, List.map_cons, first.upper, ih]
  simp [Text.upper, letters]

theorem readSame {afterOperand : Bool} (same : SameLetters cs ds)
    (literal : ∀ contents, ∀ width, read afterOperand cs = .ok (.text contents, width) →
      ds.take width = cs.take width) :
    ReadsAlike (read afterOperand cs) (read afterOperand ds) := by
  cases same with
  | nil => exact .ok (.same _)
  | @cons c d cs ds first rest =>
      have whole : SameLetters (c :: cs) (d :: ds) := .cons first rest
      by_cases quoted : c = '"'
      · have quoted' := (first.other rfl).mp quoted
        subst quoted quoted'
        cases closed : quotedFrom [] 1 cs with
        | none =>
            simp only [read, closed, quotedNone rest closed, if_true]
            exact .error _
        | some found =>
            obtain ⟨contents, n⟩ := found
            have bounds := quotedWidth closed
            have kept := literal (String.ofList contents) n (by simp only [read, closed, if_true])
            obtain ⟨k, rfl⟩ : ∃ k, n = k + 1 := ⟨n - 1, by omega⟩
            have closed' := quotedSome rest closed (List.cons.inj kept).2
            simp only [read, closed, closed', if_true]
            exact .ok (.same _)
      · have quoted' : d ≠ '"' := fun quote => quoted ((first.other rfl).mpr quote)
        simp only [read, if_neg quoted, if_neg quoted', ← startsNumberSame whole,
          ← startsNumberSame rest, ← first.sign, ← first.letter, ← symbolSame whole]
        split
        · rw [numberSame whole, numberWidthSame whole]
          exact .ok (.same _)
        · split
          · rename_i signed
            simp only [Bool.and_eq_true] at signed
            rw [numberSame rest, numberWidthSame rest,
              first.unchanged (noLetter letterNoSign signed.1.1)]
            exact .ok (.same _)
          · split
            · have more := takeWhileSame SameLetter.nameChar rest
              rw [more.length_eq]
              exact .ok (.name (upperSame (.cons first more)))
            · rename_i other
              rw [Bool.not_eq_true] at other
              rw [first.unchanged (noLetter letterIsLetter other)]
              split
              · exact .ok (.same _)
              · exact .error _

end Lexeme

theorem Lexeme.Alike.endsOperand {t t' : Lexeme} (alike : t.Alike t') :
    t.endsOperand = t'.endsOperand := by
  cases alike <;> rfl

theorem Lexeme.Alike.endOfLine {t t' : Lexeme} (alike : t.Alike t') :
    t = .endOfLine ↔ t' = .endOfLine := by
  cases alike with
  | same t => rfl
  | name upper => simp

structure Token.Alike (t t' : Token) : Prop where
  lexeme : t.lexeme.Alike t'.lexeme
  pos : t.pos = t'.pos

def Token.Kept (line line' : List Char) (t : Token) : Prop :=
  ∀ contents, t.lexeme = .text contents →
    (line'.drop t.pos).take t.shown.length = (line.drop t.pos).take t.shown.length

namespace Cursor

def within (line : List Char) (pos : Nat) (afterOperand : Bool) : Cursor :=
  ⟨pos, line.drop pos, afterOperand⟩

variable {line line' : List Char} {pos : Nat} {afterOperand : Bool}

theorem skipSpacesWithin (line : List Char) (pos : Nat) (afterOperand : Bool) :
    (within line pos afterOperand).skipSpaces =
      within line (pos + ((line.drop pos).takeWhile Text.isSpace).length) afterOperand := by
  simp [within, skipSpaces]

section Placed

variable {place : Nat}
  (skipped : (within line pos afterOperand).skipSpaces = within line place afterOperand)
include skipped

theorem nextWithin {t : Lexeme} {width : Nat}
    (read : Lexeme.read afterOperand (line.drop place) = .ok (t, width)) :
    (within line pos afterOperand).next =
      .ok (⟨t, place⟩, within line (place + width) t.endsOperand) := by
  refine nextOk.mpr ⟨width, ?_, ?_, ?_⟩
  · rw [skipped]
    exact read
  · rw [skipped]
    rfl
  · rw [skipped]
    simp [within]

theorem nextWithinError {problem : LexProblem}
    (read : Lexeme.read afterOperand (line.drop place) = .error problem) :
    (within line pos afterOperand).next = .error ⟨problem, place⟩ := by
  refine nextError.mpr ⟨?_, ?_⟩
  · rw [skipped]
    exact read
  · rw [skipped]
    rfl

end Placed

theorem nextSame (same : SameLetters line line')
    (kept : ∀ t after, (within line pos afterOperand).next = .ok (t, after) → t.Kept line line') :
    (∃ f, (within line pos afterOperand).next = .error f ∧
      (within line' pos afterOperand).next = .error f) ∨
    ∃ t t' place, Token.Alike t t' ∧
      (within line pos afterOperand).next = .ok (t, within line place t.lexeme.endsOperand) ∧
      (within line' pos afterOperand).next =
        .ok (t', within line' place t'.lexeme.endsOperand) := by
  have blanks : ((line.drop pos).takeWhile Text.isSpace).length =
      ((line'.drop pos).takeWhile Text.isSpace).length :=
    (Lexeme.takeWhileSame SameLetter.space (List.forall₂_drop pos same)).length_eq
  have here := skipSpacesWithin line pos afterOperand
  have there := skipSpacesWithin line' pos afterOperand
  rw [← blanks] at there
  generalize pos + ((line.drop pos).takeWhile Text.isSpace).length = place at here there
  have literal : ∀ contents, ∀ width,
      Lexeme.read afterOperand (line.drop place) = .ok (.text contents, width) →
      (line'.drop place).take width = (line.drop place).take width := by
    intro contents width read
    have stays := kept ⟨.text contents, place⟩ _ (nextWithin here read) contents rfl
    simp only [Token.shown, Lexeme.shown] at stays
    rw [Lexeme.spellingWidth read (by simp), Lexeme.shown, stays]
  have both := Lexeme.readSame (List.forall₂_drop place same) literal
  generalize left : Lexeme.read afterOperand (line.drop place) = found at both
  generalize right : Lexeme.read afterOperand (line'.drop place) = found' at both
  cases both with
  | error problem =>
      exact .inl ⟨_, nextWithinError here left, nextWithinError there right⟩
  | @ok t t' width alike =>
      exact .inr ⟨⟨t, place⟩, ⟨t', place⟩, place + width, ⟨alike, rfl⟩, nextWithin here left,
        nextWithin there right⟩

end Cursor

namespace TokenStream

structure Alike (s s' : TokenStream) : Prop where
  tokens : List.Forall₂ Token.Alike s.tokens s'.tokens
  ending : s.ending = s'.ending

theorem scansSame {line line' : List Char} (same : SameLetters line line') {pos : Nat}
    {afterOperand : Bool} {s : TokenStream}
    (scans : Scans Cursor.next (Cursor.within line pos afterOperand) s)
    (kept : ∀ t ∈ s.tokens, t.Kept line line') :
    ∃ s', Scans Cursor.next (Cursor.within line' pos afterOperand) s' ∧ Alike s s' := by
  generalize place : Cursor.within line pos afterOperand = c at scans
  induction scans generalizing pos afterOperand with
  | @fault c f stops =>
      subst place
      have ends : ∀ t after, (Cursor.within line pos afterOperand).next = .ok (t, after) →
          t.Kept line line' := by
        intro t after read
        cases stops.symm.trans read
      rcases Cursor.nextSame same ends with ⟨f, left, right⟩ | ⟨t, t', _, _, left, _⟩
      · cases stops.symm.trans left
        exact ⟨_, .fault right, .nil, rfl⟩
      · cases stops.symm.trans left
  | @done c t after read last =>
      subst place
      have ends : ∀ t after, (Cursor.within line pos afterOperand).next = .ok (t, after) →
          t.Kept line line' := by
        intro u after' read' contents text
        cases read.symm.trans read'
        cases last.symm.trans text
      rcases Cursor.nextSame same ends with ⟨f, left, _⟩ | ⟨t, t', next, alike, left, right⟩
      · cases read.symm.trans left
      · cases read.symm.trans left
        rw [alike.pos]
        exact ⟨_, .done right (alike.lexeme.endOfLine.mp last), .nil, rfl⟩
  | @token c t after s read more rest ih =>
      subst place
      have first : ∀ t after, (Cursor.within line pos afterOperand).next = .ok (t, after) →
          t.Kept line line' := by
        intro u after' read'
        cases read.symm.trans read'
        exact kept t (by simp)
      rcases Cursor.nextSame same first with ⟨f, left, _⟩ | ⟨t, t', next, alike, left, right⟩
      · cases read.symm.trans left
      · cases read.symm.trans left
        obtain ⟨s', scans', others⟩ := ih (fun t member => kept t (by simp [member])) rfl
        rw [alike.lexeme.endsOperand] at scans'
        have more' : t'.lexeme ≠ .endOfLine := fun last => more (alike.lexeme.endOfLine.mpr last)
        exact ⟨_, .token right more' scans', .cons alike others.tokens, others.ending⟩

theorem ofLineAlike {text text' : String} (same : SameLetters text.toList text'.toList)
    (kept : ∀ t ∈ (ofLine text).tokens, t.Kept text.toList text'.toList) :
    Alike (ofLine text) (ofLine text') := by
  have start : Scans Cursor.next (Cursor.within text.toList 0 false) (ofLine text) :=
    ofLineScans text
  obtain ⟨s', scans, alike⟩ := scansSame same start kept
  rw [ofLineExact.mpr scans]
  exact alike

end TokenStream

end LineBasic
