import LineBasic.Proofs.Function.Slices

/-!
Searching a text. INSTR looks for the bytes of a text in the encoded characters of another. If the
text looked for is UTF-8, this finds the first place, counted in characters, where it occurs at or
after a position, and it is the place that MID$ cuts the text out at. A text with a stray byte may
be found in the middle of a character, and is not found where it stands.
-/
namespace LineBasic

namespace Function

section Places

variable {α : Type} {s sub : List α}

def Occurs (s sub : List α) (r : Nat) : Prop :=
  1 ≤ r ∧ r + sub.length ≤ s.length + 1 ∧ (s.drop (r - 1)).take sub.length = sub

inductive FirstFrom (s sub : List α) (k : Int) : Nat → Prop where
  | found {r : Nat} (after : max k 1 ≤ r) (occurs : Occurs s sub r)
      (least : ∀ q : Nat, max k 1 ≤ q → q < r → ¬ Occurs s sub q) : FirstFrom s sub k r
  | nowhere (never : ∀ q : Nat, max k 1 ≤ q → ¬ Occurs s sub q) : FirstFrom s sub k 0

theorem firstUnique {k : Int} {r r' : Nat} (one : FirstFrom s sub k r)
    (other : FirstFrom s sub k r') : r = r' := by
  cases one with
  | found after occurs least =>
      cases other with
      | found after' occurs' least' =>
          rcases Nat.lt_trichotomy r r' with below | same | above
          · exact absurd occurs (least' r after below)
          · exact same
          · exact absurd occurs' (least r' after' above)
      | nowhere never => exact absurd occurs (never r after)
  | nowhere never =>
      cases other with
      | found after' occurs' _ => exact absurd occurs' (never r' after')
      | nowhere _ => rfl

theorem occursExact {r : Nat} :
    Occurs s sub r ↔ 1 ≤ r ∧ r ≤ s.length + 1 ∧ sub <+: s.drop (r - 1) := by
  rw [Occurs, List.prefix_iff_eq_take]
  constructor
  · rintro ⟨first, inside, same⟩
    exact ⟨first, by omega, same.symm⟩
  · rintro ⟨first, inside, same⟩
    have long := congrArg List.length same
    rw [List.length_take, List.length_drop] at long
    exact ⟨first, by omega, same.symm⟩

/- The place of an occurrence in the rest of a text that begins at position `place`, counted in the
text. -/
def placeIn (place : Nat) (offset : Option Nat) : Nat := offset.elim 0 (place + ·)

theorem tailFirst [BEq α] [LawfulBEq α] {k : Int} {place : Nat} (start : max k 1 = place)
    (nonempty : sub ≠ []) :
    FirstFrom s sub k (placeIn place (Text.offsetOf sub (s.drop (place - 1)))) := by
  have tail : ∀ q : Nat, place ≤ q → (s.drop (place - 1)).drop (q - place) = s.drop (q - 1) := by
    intro q later
    rw [List.drop_drop]
    congr 1
    omega
  cases result : Text.offsetOf sub (s.drop (place - 1)) with
  | none =>
      refine .nowhere fun q later occurs => ?_
      have begins := (occursExact.mp occurs).2.2
      rw [start, Int.ofNat_le] at later
      rw [← tail q later] at begins
      exact Text.offsetMissing nonempty result _ begins
  | some n =>
      obtain ⟨inside, begins, least⟩ := Text.offsetFound result
      rw [List.length_drop] at inside
      have there := tail (place + n) (Nat.le_add_right _ _)
      rw [Nat.add_sub_cancel_left] at there
      rw [there] at begins
      change FirstFrom s sub k (place + n)
      refine .found (by omega) (occursExact.mpr ⟨by omega, by omega, begins⟩)
        fun q later below occurs => ?_
      have standing := (occursExact.mp occurs).2.2
      rw [start, Int.ofNat_le] at later
      rw [← tail q later] at standing
      exact least (q - place) (by omega) standing

theorem occursEmpty {r : Nat} : Occurs s [] r ↔ 1 ≤ r ∧ r ≤ s.length + 1 := by
  simp [occursExact]

theorem emptyFirst {k : Int} {place : Nat} (start : max k 1 = place) :
    FirstFrom s [] k (if place ≤ s.length + 1 then place else 0) := by
  split
  · rename_i inside
    refine .found (Int.le_of_eq start) (occursEmpty.mpr ⟨by omega, inside⟩)
      fun q later below _ => ?_
    omega
  · rename_i beyond
    refine .nowhere fun q later occurs => ?_
    have inside := (occursEmpty.mp occurs).2
    omega

theorem firstInside {k : Int} {r : Nat} (standing : r ≠ 0) (first : FirstFrom s sub k r) :
    r + sub.length ≤ s.length + 1 := by
  cases first with
  | nowhere _ => exact absurd rfl standing
  | found _ occurs _ => exact occurs.2.1

end Places

section Bytes

/- The position as it comes out of the bytes: that of the first offset from `place` on at which
those looked for stand in the encoded characters, with a position for each character before it and
for each byte before it of a character that is cut through. -/
inductive FirstBytes (s : List Char) (sub : Bytes) (place : Nat) : Nat → Prop where
  | found {offset : Nat} {rs : List Rune}
      (occurs : sub <+: (Text.encode (s.drop (place - 1))).drop offset)
      (least : ∀ q < offset, ¬ sub <+: (Text.encode (s.drop (place - 1))).drop q)
      (before : Text.MadeOf rs ((Text.encode (s.drop (place - 1))).take offset)) :
      FirstBytes s sub place (place + rs.length)
  | nowhere (never : ∀ q, ¬ sub <+: (Text.encode (s.drop (place - 1))).drop q) :
      FirstBytes s sub place 0

variable {s : List Char} {sub : Bytes}

def positionIn (sub tail : Bytes) (place : Nat) : Nat :=
  placeIn place ((Text.offsetOf sub tail).map fun offset => (Text.chars (tail.take offset)).length)

theorem firstBytes (nonempty : sub ≠ []) (place : Nat) :
    FirstBytes s sub place (positionIn sub (Text.encode (s.drop (place - 1))) place) := by
  unfold positionIn
  cases result : Text.offsetOf sub (Text.encode (s.drop (place - 1))) with
  | none => exact .nowhere (Text.offsetMissing nonempty result)
  | some offset =>
      obtain ⟨_, occurs, least⟩ := Text.offsetFound result
      have before := FirstBytes.found occurs least (Text.runesSpell _)
      rwa [← List.length_map Rune.toChar] at before

theorem charsSearched {cs ds : List Char} (nonempty : ds ≠ []) (place : Nat) :
    positionIn (Text.encode ds) (Text.encode cs) place = placeIn place (Text.offsetOf ds cs) := by
  unfold positionIn
  rw [Text.offsetEncoded nonempty, Option.map_map]
  cases result : Text.offsetOf ds cs with
  | none => rfl
  | some n =>
      have inside := (Text.offsetFound result).1
      have front := Text.encodeAppend (cs.take n) (cs.drop n)
      rw [List.take_append_drop] at front
      have many :
          (Text.chars ((Text.encode cs).take (Text.encode (cs.take n)).length)).length = n := by
        rw [front, List.take_left, Text.charsEncode, List.length_take]
        omega
      exact congrArg (place + ·) many

theorem positionOf (s : List Char) (sub : Bytes) (k : Int) : ∃ r, position s sub k = .ok r ∧
    (sub = [] → r = if max k 1 ≤ s.length + 1 then (max k 1).toNat else 0) ∧
    (sub ≠ [] →
      r = positionIn sub (Text.encode (s.drop ((max k 1).toNat - 1))) (max k 1).toNat) := by
  obtain ⟨place, start⟩ : ∃ n : Nat, max k 1 = n := ⟨(max k 1).toNat, by omega⟩
  unfold position
  simp only [start, Int.toNat_natCast]
  split
  · rename_i empty
    exact ⟨_, rfl, fun _ => rfl, fun given => absurd (List.isEmpty_iff.mp empty) given⟩
  · rename_i given
    have nonempty : sub ≠ [] := fun empty => given (by rw [empty]; rfl)
    split
    · rename_i beyond
      refine ⟨0, rfl, fun empty => absurd empty nonempty, fun _ => ?_⟩
      have nothing : s.drop (place - 1) = [] := List.drop_eq_nil_of_le (by omega)
      rw [nothing]
      rfl
    · rename_i inside
      have offset : ((place : Int) - 1).toNat = place - 1 := by omega
      rw [cutInside (by omega) (by omega) (Int.le_refl _), Int.toNat_natCast, List.take_length,
        offset]
      refine ⟨_, rfl, fun empty => absurd empty nonempty, fun _ => ?_⟩
      unfold positionIn
      beta_reduce
      cases Text.offsetOf sub (Text.encode (s.drop (place - 1))) <;> rfl

end Bytes

section Cuts

variable {s sub : List Char}

theorem midCharsCount {q n : Nat} (positive : 1 ≤ q) :
    midChars s q (some n) = .ok ((s.drop (q - 1)).take n) := by
  have offset : ((q : Int) - 1).toNat = q - 1 := by omega
  rw [midCharsSlice, offset, Int.toNat_natCast]

theorem occursCut {q : Nat} (positive : 1 ≤ q) (nonempty : sub ≠ []) :
    Occurs s sub q ↔ midChars s q (some sub.length) = .ok sub := by
  rw [midCharsCount positive, Except.ok.injEq, Occurs]
  constructor
  · rintro ⟨_, _, same⟩
    exact same
  · intro same
    have long := congrArg List.length same
    have characters := List.length_pos_iff.mpr nonempty
    rw [List.length_take, List.length_drop] at long
    exact ⟨positive, by omega, same⟩

theorem firstCut {k : Int} {r : Nat} (nonempty : sub ≠ []) (standing : r ≠ 0)
    (first : FirstFrom s sub k r) : midChars s r (some sub.length) = .ok sub ∧
      ∀ q : Nat, max k 1 ≤ q → q < r → midChars s q (some sub.length) ≠ .ok sub := by
  cases first with
  | nowhere _ => exact absurd rfl standing
  | found after occurs least =>
      refine ⟨(occursCut occurs.1 nonempty).mp occurs, fun q later below same => ?_⟩
      exact least q later below ((occursCut (by omega) nonempty).mpr same)

theorem midCalled {s : Value} {q n : Nat} (place : q < 2 ^ 31) (count : n < 2 ^ 31) :
    mid.body [s, .number (Float.ofNat q), .number (Float.ofNat n)] =
      cutText (midChars (Text.chars s.asText) q (some n)) := by
  have start : (Value.number (Float.ofNat q)).asInteger = q := Number.clampedNatural place
  have width : (Value.number (Float.ofNat n)).asInteger = n := Number.clampedNatural count
  change cutText (midChars (Text.chars s.asText) (Value.number (Float.ofNat q)).asInteger
    (some (Value.number (Float.ofNat n)).asInteger)) = _
  rw [start, width]

end Cuts

/- What it is that INSTR finds. The answer is the position at which the bytes are found, and for an
empty text the start itself. For a text of UTF-8 it is the first position at which its characters
stand, and MID$ cuts the text out there and at no position before. A text with a stray byte is cut
out nowhere. The numbers that MID$ takes have 32 bits. -/
structure Found (s sub : Value) (k : Int) (r : Nat) : Prop where
  empty : sub.asText = [] →
    r = if max k 1 ≤ (Text.chars s.asText).length + 1 then (max k 1).toNat else 0
  bytes : sub.asText ≠ [] → FirstBytes (Text.chars s.asText) sub.asText (max k 1).toNat r
  first : Text.Valid sub.asText → FirstFrom (Text.chars s.asText) (Text.chars sub.asText) k r
  cut : Text.Valid sub.asText → sub.asText ≠ [] → r ≠ 0 →
    midChars (Text.chars s.asText) r (some (Text.chars sub.asText).length) =
        .ok (Text.chars sub.asText) ∧
      ∀ q : Nat, max k 1 ≤ q → q < r →
        midChars (Text.chars s.asText) q (some (Text.chars sub.asText).length) ≠
          .ok (Text.chars sub.asText)
  called : Text.Valid sub.asText → sub.asText ≠ [] → r ≠ 0 →
    (Text.chars s.asText).length < 2 ^ 31 →
      mid.body [s, .number (Float.ofNat r), .number (Float.ofNat (Text.chars sub.asText).length)] =
          pure (.text sub.asText) ∧
        ∀ q : Nat, max k 1 ≤ q → q < r → mid.body [s, .number (Float.ofNat q),
          .number (Float.ofNat (Text.chars sub.asText).length)] ≠ pure (.text sub.asText)
  stray : ¬ Text.Valid sub.asText → ∀ places : List Value,
    mid.body (s :: places) ≠ pure (.text sub.asText)

theorem validChars {text : Bytes} (valid : Text.Valid text) (nonempty : text ≠ []) :
    Text.chars text ≠ [] := by
  obtain ⟨cs, rfl⟩ := valid
  rw [Text.charsEncode]
  rintro rfl
  exact nonempty rfl

theorem midNeverStray {s : Value} {text : Bytes} (stray : ¬ Text.Valid text) (places : List Value) :
    mid.body (s :: places) ≠ pure (.text text) := by
  have encoded : ∀ cs, pure (Value.text (Text.encode cs)) ≠ (pure (.text text) : Effect Value) := by
    intro cs same
    cases Effect.pureInjective same
    exact stray (Text.encodeValid cs)
  match places with
  | [start] => rw [midCalledRest]; exact encoded _
  | [start, count] => rw [midCalledSlice]; exact encoded _
  | [] => exact Effect.faultNotPure
  | _ :: _ :: _ :: _ => exact Effect.faultNotPure

theorem firstPosition {s : List Char} {sub : Bytes} {k : Int} {r : Nat} (valid : Text.Valid sub)
    (empty : sub = [] → r = if max k 1 ≤ s.length + 1 then (max k 1).toNat else 0)
    (given : sub ≠ [] →
      r = positionIn sub (Text.encode (s.drop ((max k 1).toNat - 1))) (max k 1).toNat) :
    FirstFrom s (Text.chars sub) k r := by
  obtain ⟨ds, rfl⟩ := valid
  rw [Text.charsEncode]
  obtain ⟨place, start⟩ : ∃ n : Nat, max k 1 = n := ⟨(max k 1).toNat, by omega⟩
  cases ds with
  | nil =>
      have same : (place : Int) ≤ s.length + 1 ↔ place ≤ s.length + 1 := by omega
      rw [empty rfl, start, Int.toNat_natCast]
      simp only [same]
      exact emptyFirst start
  | cons d ds =>
      have nonempty : d :: ds ≠ [] := List.cons_ne_nil d ds
      rw [given (by simp), charsSearched nonempty, start, Int.toNat_natCast]
      exact tailFirst start nonempty

theorem positionFound {s sub : Value} {k : Int} {r : Nat}
    (empty : sub.asText = [] →
      r = if max k 1 ≤ (Text.chars s.asText).length + 1 then (max k 1).toNat else 0)
    (given : sub.asText ≠ [] → r = positionIn sub.asText
      (Text.encode ((Text.chars s.asText).drop ((max k 1).toNat - 1))) (max k 1).toNat) :
    Found s sub k r := by
  have first : Text.Valid sub.asText →
      FirstFrom (Text.chars s.asText) (Text.chars sub.asText) k r :=
    fun valid => firstPosition valid empty given
  refine ⟨empty, fun nonempty => ?_, first, fun valid nonempty standing => ?_,
    fun valid nonempty standing short => ?_, midNeverStray⟩
  · rw [given nonempty]
    exact firstBytes nonempty _
  · exact firstCut (validChars valid nonempty) standing (first valid)
  · have characters := validChars valid nonempty
    have long := List.length_pos_iff.mpr characters
    have inside := firstInside standing (first valid)
    obtain ⟨cut, earlier⟩ := firstCut characters standing (first valid)
    have text : cutText (.ok (Text.chars sub.asText)) = pure (.text sub.asText) := by
      change (pure (Value.text (Text.encode (Text.chars sub.asText))) : Effect Value) = _
      rw [Text.validExact.mp valid]
    refine ⟨?_, fun q later below same => earlier q later below ?_⟩
    · rw [midCalled (by omega) (by omega), cut, text]
    · obtain ⟨cs, done⟩ := midCharsOk (Text.chars s.asText) q (some (Text.chars sub.asText).length)
      rw [midCalled (by omega) (by omega), done] at same
      have encoded : Text.encode cs = sub.asText :=
        Value.text.inj (Effect.pureInjective same)
      rw [done, ← encoded, Text.charsEncode]

/- INSTR answers with such a position from the start on, or with 0, whatever its arguments are. -/
theorem searchFindsFirst (s sub : Value) :
    (∃ r, instr.body [s, sub] = pure (.number (Float.ofNat r)) ∧ Found s sub 1 r) ∧
      ∀ start : Value, ∃ r, instr.body [start, s, sub] = pure (.number (Float.ofNat r)) ∧
        Found s sub start.asInteger r := by
  have answers : ∀ k, ∃ r, foundAt s sub k = pure (.number (Float.ofNat r)) ∧ Found s sub k r := by
    intro k
    obtain ⟨r, position, empty, given⟩ := positionOf (Text.chars s.asText) sub.asText k
    refine ⟨r, ?_, positionFound empty given⟩
    rw [foundAt, position]
    rfl
  exact ⟨answers 1, fun start => answers start.asInteger⟩

theorem answerOf {s sub : Bytes} {r : Nat}
    (found : positionIn sub (Text.encode (Text.chars s)) 1 = r) (nonempty : sub ≠ []) :
    instr.body [.text s, .text sub] = pure (.number (Float.ofNat r)) := by
  obtain ⟨q, answer, _, given⟩ := positionOf (Text.chars s) sub 1
  obtain rfl : q = r := (given nonempty).trans found
  change (Effect.unlessDefect (position (Text.chars s) sub 1) >>= _) = _
  rw [answer]
  rfl

theorem answersApart {q r : Nat} (small : q < 2 ^ 31) (small' : r < 2 ^ 31) (other : q ≠ r) :
    (pure (.number (Float.ofNat q)) : Effect Value) ≠ pure (.number (Float.ofNat r)) := by
  intro same
  have integers := congrArg Value.asInteger (Effect.pureInjective same)
  have first : (Value.number (Float.ofNat q)).asInteger = q := Number.clampedNatural small
  have second : (Value.number (Float.ofNat r)).asInteger = r := Number.clampedNatural small'
  rw [first, second] at integers
  omega

theorem strayBytesMissed :
    (¬ ∃ r, instr.body [.text latinWord, .text latinWord] = pure (.number (Float.ofNat r)) ∧
      FirstFrom (Text.runes latinWord) (Text.runes latinWord) 1 r) ∧
    ¬ ∃ r, instr.body [.text [0xC3, 0xA9], .text [0xA9]] = pure (.number (Float.ofNat r)) ∧
      FirstFrom (Text.runes [0xC3, 0xA9]) (Text.runes [0xA9]) 1 r := by
  have itself : FirstFrom (Text.runes latinWord) (Text.runes latinWord) 1 1 :=
    .found (by decide) ⟨by decide, by omega, by simp⟩ fun q after below => by omega
  have apart : FirstFrom (Text.runes [0xC3, 0xA9]) (Text.runes [0xA9]) 1 0 := by
    refine .nowhere fun q after ⟨_, inside, same⟩ => ?_
    have accent : Text.runes [0xC3, 0xA9] = [.char 'é'] := by decide +kernel
    have stray : Text.runes [0xA9] = [.stray 0xA9] := by decide +kernel
    rw [accent, stray] at inside same
    obtain rfl : q = 1 := by simp at inside; omega
    cases same
  constructor
  · rintro ⟨r, answer, first⟩
    obtain rfl := firstUnique first itself
    rw [answerOf (r := 0) (by decide +kernel) (by decide)] at answer
    exact answersApart (by decide) (by decide) (by decide) answer
  · rintro ⟨r, answer, first⟩
    obtain rfl := firstUnique first apart
    rw [answerOf (r := 2) (by decide +kernel) (by decide)] at answer
    exact answersApart (by decide) (by decide) (by decide) answer

end Function

end LineBasic
