import LineBasic.Text.Integer
import LineBasic.Text.Space

/-!
Decimal digits as numbers. What digits are read as is their value in base ten, as long as it fits
64 bits, and a number is read back from the digits it is written with. Nothing is read as an integer
but digits with at most a sign before them.
-/
namespace LineBasic.Text

variable {cs : List Char}

def AllDigits (cs : List Char) : Prop := ∀ c ∈ cs, c.isDigit = true

def decimal (cs : List Char) : Nat := Nat.ofDigitChars 10 cs 0

theorem digitsGrow (n : Nat) (cs : List Char) : n ≤ Nat.ofDigitChars 10 cs n := by
  induction cs generalizing n with
  | nil => simp
  | cons c rest ih =>
      have next := ih (10 * n + (c.toNat - '0'.toNat))
      rw [Nat.ofDigitChars_cons]
      omega

theorem readDigitsValue {n : Nat} (digits : AllDigits cs) (small : n < 0x10000000000000000) :
    readDigits n cs =
      if Nat.ofDigitChars 10 cs n < 0x10000000000000000 then .ok (Nat.ofDigitChars 10 cs n)
      else .error .outOfRange := by
  induction cs generalizing n with
  | nil => simp [readDigits, small]
  | cons c rest ih =>
      have first : c.isDigit = true := digits c (by simp)
      have others : AllDigits rest := fun d member => digits d (by simp [member])
      have step : n * 10 + digitValue c = 10 * n + (c.toNat - '0'.toNat) := by
        rw [digitValue, Nat.mul_comm]
      rw [readDigits, step, Nat.ofDigitChars_cons, first]
      generalize 10 * n + (c.toNat - '0'.toNat) = next
      by_cases large : 0x10000000000000000 ≤ next
      · have grown := digitsGrow next rest
        have beyond : ¬ Nat.ofDigitChars 10 rest next < 0x10000000000000000 := by omega
        simp [large, beyond]
      · simp [large, ih others (Nat.not_le.mp large)]

theorem readDigitsAll {n k : Nat} (read : readDigits n cs = .ok k) : AllDigits cs := by
  induction cs generalizing n with
  | nil => exact fun c member => absurd member (by simp)
  | cons c rest ih =>
      rw [readDigits] at read
      split at read
      · cases read
      · rename_i digit
        split at read
        · cases read
        · have first : c.isDigit = true := by simpa using digit
          intro d member
          rcases List.mem_cons.mp member with rfl | later
          · exact first
          · exact ih read d later

theorem readIntegerValue (nonempty : cs ≠ []) (digits : AllDigits cs) :
    readInteger cs =
      if decimal cs < 0x8000000000000000 then .ok (decimal cs : Int) else .error .outOfRange := by
  obtain ⟨c, rest, rfl⟩ := List.exists_cons_of_ne_nil nonempty
  have first : c.isDigit = true := digits c (by simp)
  have unsigned : readInteger (c :: rest) = (do
      let n ← readMagnitude (c :: rest)
      if n < 0x8000000000000000 then .ok (n : Int) else .error .outOfRange) := by
    unfold readInteger
    split
    · rename_i same
      cases same
      cases first
    · rename_i same
      cases same
      cases first
    · rfl
  have magnitude := readDigitsValue digits (n := 0) (by decide)
  rw [unsigned, show readMagnitude (c :: rest) = readDigits 0 (c :: rest) from rfl, magnitude,
    decimal]
  by_cases fits : Nat.ofDigitChars 10 (c :: rest) 0 < 0x10000000000000000
  · rw [if_pos fits]
    rfl
  · have beyond : ¬ Nat.ofDigitChars 10 (c :: rest) 0 < 0x8000000000000000 := by omega
    rw [if_neg fits, if_neg beyond]
    rfl

inductive Integer : Int → List Char → Prop where
  | plain {digits : List Char} (nonempty : digits ≠ []) (all : AllDigits digits)
      (fits : decimal digits < 0x8000000000000000) : Integer (decimal digits) digits
  | plus {digits : List Char} (nonempty : digits ≠ []) (all : AllDigits digits)
      (fits : decimal digits < 0x8000000000000000) : Integer (decimal digits) ('+' :: digits)
  | minus {digits : List Char} (nonempty : digits ≠ []) (all : AllDigits digits)
      (fits : decimal digits ≤ 0x8000000000000000) :
      Integer (-(decimal digits : Int)) ('-' :: digits)

theorem magnitudeExact {k : Nat} : readMagnitude cs = .ok k ↔
    cs ≠ [] ∧ AllDigits cs ∧ decimal cs = k ∧ k < 0x10000000000000000 := by
  cases cs with
  | nil => simp [readMagnitude]
  | cons c rest =>
      rw [show readMagnitude (c :: rest) = readDigits 0 (c :: rest) from rfl]
      constructor
      · intro read
        have all := readDigitsAll read
        rw [readDigitsValue all (by decide)] at read
        split at read <;> cases read
        rename_i fits
        exact ⟨List.cons_ne_nil _ _, all, rfl, fits⟩
      · rintro ⟨_, all, rfl, fits⟩
        rw [readDigitsValue all (by decide)]
        exact if_pos fits

theorem boundedExact {p : Nat → Prop} [DecidablePred p]
    (inside : ∀ k, p k → k < 0x10000000000000000) {signed : Nat → Int} {n : Int} :
    (do let k ← readMagnitude cs
        if p k then Except.ok (signed k) else .error .outOfRange) = .ok n ↔
      cs ≠ [] ∧ AllDigits cs ∧ p (decimal cs) ∧ signed (decimal cs) = n := by
  constructor
  · intro read
    cases magnitude : readMagnitude cs with
    | error f =>
        rw [magnitude] at read
        cases read
    | ok k =>
        rw [magnitude] at read
        simp only [bind, Except.bind] at read
        split at read <;> cases read
        rename_i within
        obtain ⟨nonempty, all, rfl, _⟩ := magnitudeExact.mp magnitude
        exact ⟨nonempty, all, within, rfl⟩
  · rintro ⟨nonempty, all, within, rfl⟩
    have magnitude := magnitudeExact.mpr ⟨nonempty, all, rfl, inside _ within⟩
    rw [magnitude]
    simp only [bind, Except.bind, if_pos within]

theorem integerExact {n : Int} : readInteger cs = .ok n ↔ Integer n cs := by
  have below : ∀ k, k < 0x8000000000000000 → k < 0x10000000000000000 := fun k small => by omega
  unfold readInteger
  split
  · rename_i digits
    rw [boundedExact fun k small => by omega]
    constructor
    · rintro ⟨nonempty, all, fits, rfl⟩
      exact .minus nonempty all fits
    · intro integer
      cases integer with
      | plain nonempty all fits => cases all '-' (by simp)
      | minus nonempty all fits => exact ⟨nonempty, all, fits, rfl⟩
  · rename_i digits
    rw [boundedExact below]
    constructor
    · rintro ⟨nonempty, all, fits, rfl⟩
      exact .plus nonempty all fits
    · intro integer
      cases integer with
      | plain nonempty all fits => cases all '+' (by simp)
      | plus nonempty all fits => exact ⟨nonempty, all, fits, rfl⟩
  · rename_i noMinus noPlus
    rw [boundedExact below]
    constructor
    · rintro ⟨nonempty, all, fits, rfl⟩
      exact .plain nonempty all fits
    · intro integer
      cases integer with
      | plain nonempty all fits => exact ⟨nonempty, all, fits, rfl⟩
      | plus nonempty all fits => exact absurd rfl (noPlus _)
      | minus nonempty all fits => exact absurd rfl (noMinus _)

theorem writtenDigits {n : Int} (positive : 0 < n) :
    (toString n).toList = Nat.toDigits 10 n.toNat := by
  obtain ⟨k, rfl⟩ := Int.eq_ofNat_of_zero_le (Int.le_of_lt positive)
  have same : toString (k : Int) = toString k := rfl
  rw [same, Nat.toString_eq_ofList_toDigits]
  simp

theorem writtenAllDigits {n : Int} (positive : 0 < n) : AllDigits (toString n).toList := by
  intro c member
  rw [writtenDigits positive] at member
  exact Nat.isDigit_of_mem_toDigits (by decide) (by decide) member

theorem writtenNonempty {n : Int} (positive : 0 < n) : (toString n).toList ≠ [] := by
  rw [writtenDigits positive]
  exact Nat.toDigits_ne_nil

theorem writtenValue {n : Int} (positive : 0 < n) : (decimal (toString n).toList : Int) = n := by
  rw [writtenDigits positive, decimal, Nat.ofDigitChars_ten_toDigits]
  omega

theorem digitNotSpace {c : Char} (digit : c.isDigit = true) : isSpace c = false := by
  have range : 48 ≤ c.toNat ∧ c.toNat ≤ 57 := by
    simp only [Char.isDigit, Bool.and_eq_true, decide_eq_true_eq, ge_iff_le,
      UInt32.le_iff_toNat_le] at digit
    exact digit
  simp only [isSpace, Bool.or_eq_false_iff, Bool.and_eq_false_iff, beq_eq_false_iff_ne,
    decide_eq_false_iff_not]
  omega

end LineBasic.Text
