import LineBasic.Number.Power
import LineBasic.Number.Reader
import Mathlib

/-!
A sign in front of a number. The bits of a number are its sign, its exponent and its fraction, and
negation changes the sign alone. So a number that is read with a minus in front is the negation of
what is read without, and its sign tells that a minus was there.
-/
namespace LineBasic.Number

open Float.Model Float.Model.UnpackedFloat

section Binary64

variable (s : Sign) (e : BitVec 11) (m : BitVec 52)

theorem negUnpacked : (UnpackedFloat.unpack .binary64 (packComponents .binary64 s e m)).neg =
    UnpackedFloat.unpack .binary64 (packComponents .binary64 (-s) e m) := by
  simp only [UnpackedFloat.unpack, unpackExponent_packComponents, unpackMantissa_packComponents,
    unpackSign_packComponents, Sign.ofBitVec_toBitVec]
  repeat' split
  all_goals rfl

theorem packUnpacked (number : e = -1#11 → m = 0#52) :
    UnpackedFloat.pack .binary64 (UnpackedFloat.unpack .binary64 (packComponents .binary64 s e m)) =
      packComponents .binary64 s e m := by
  have quiet : ¬ isNaNBits (packComponents .binary64 s e m) = true := by
    simpa [isNaNBits] using number
  rw [pack_unpack, if_neg quiet]

theorem packedNat : (packComponents .binary64 s e m).toNat =
    (s.toBitVec.toNat * 2 ^ 11 + e.toNat) * 2 ^ 52 + m.toNat := by
  rw [packComponents, BitVec.toNat_append, ← Nat.shiftLeft_add_eq_or_of_lt m.isLt,
    BitVec.toNat_append, ← Nat.shiftLeft_add_eq_or_of_lt e.isLt, Nat.shiftLeft_eq, Nat.shiftLeft_eq]

end Binary64

def signOf (negative : Bool) : Sign := if negative then .negative else .positive

def exponentOf (bits : Nat) : BitVec 11 := BitVec.ofNat 11 (bits / 2 ^ 52)
def fractionOf (bits : Nat) : BitVec 52 := BitVec.ofNat 52 bits

section Magnitude

variable {negative : Bool} {bits : Nat}

theorem magnitudePacked (bounded : bits ≤ infinityBits) :
    (UInt64.ofNat (if negative then 0x8000000000000000 + bits else bits)).toBitVec =
      packComponents .binary64 (signOf negative) (exponentOf bits) (fractionOf bits) := by
  refine BitVec.eq_of_toNat_eq ?_
  rw [packedNat]
  have split := Nat.div_add_mod bits (2 ^ 52)
  unfold infinityBits at bounded
  cases negative <;>
    simp only [signOf, exponentOf, fractionOf, Sign.toBitVec, UInt64.toNat_toBitVec,
      UInt64.toNat_ofNat', BitVec.toNat_ofNat, if_true, if_false, Bool.false_eq_true] <;>
    omega

theorem magnitudeNumber (bounded : bits ≤ infinityBits) (largest : exponentOf bits = -1#11) :
    fractionOf bits = 0#52 := by
  have top := congrArg BitVec.toNat largest
  unfold infinityBits at bounded
  refine BitVec.eq_of_toNat_eq ?_
  simp only [exponentOf, fractionOf, BitVec.toNat_ofNat, BitVec.neg_one_eq_allOnes,
    BitVec.toNat_allOnes] at top ⊢
  omega

theorem magnitudeBits (bounded : bits ≤ infinityBits) :
    (ofMagnitudeBits negative bits).toBits.toBitVec =
      packComponents .binary64 (signOf negative) (exponentOf bits) (fractionOf bits) := by
  have packed := packUnpacked (signOf negative) _ _ (magnitudeNumber bounded)
  rw [← magnitudePacked bounded] at packed ⊢
  exact packed

theorem negMagnitude (bounded : bits ≤ infinityBits) :
    -ofMagnitudeBits negative bits = ofMagnitudeBits (!negative) bits := by
  have flipped : -signOf negative = signOf (!negative) := by cases negative <;> rfl
  have unpacked : (ofMagnitudeBits negative bits).toModel.unpack.neg =
      UnpackedFloat.unpack .binary64
        (UInt64.ofNat (if !negative then 0x8000000000000000 + bits else bits)).toBitVec := by
    rw [magnitudePacked bounded, ← flipped, ← negUnpacked, ← magnitudeBits bounded]
    rfl
  exact congrArg (fun u => Float.ofModel (Float.Model.pack u)) unpacked

theorem negativeMagnitude (bounded : bits ≤ infinityBits) :
    isNegative (ofMagnitudeBits negative bits) = negative := by
  have packed : (ofMagnitudeBits negative bits).toBits.toBitVec.toNat =
      (packComponents .binary64 (signOf negative) (exponentOf bits) (fractionOf bits)).toNat :=
    congrArg BitVec.toNat (magnitudeBits bounded)
  have exponent := (exponentOf bits).isLt
  have fraction := (fractionOf bits).isLt
  rw [packedNat, UInt64.toNat_toBitVec] at packed
  unfold isNegative
  rw [packed]
  cases negative with
  | true => simp [signOf, Sign.toBitVec]; omega
  | false => simp [signOf, Sign.toBitVec]; omega

end Magnitude

theorem exponentNat (b : BitVec 64) :
    (@unpackExponent .binary64 b).toNat = b.toNat / 2 ^ 52 % 2 ^ 11 := by
  simp [unpackExponent, Nat.shiftRight_eq_div_pow]

theorem mantissaNat (b : BitVec 64) :
    (@unpackMantissa .binary64 b).toNat = b.toNat % 2 ^ 52 := by
  simp [unpackMantissa]

theorem negativeIs {x : Float} (negative : isNegative x = true) :
    ∃ bits, bits ≤ infinityBits ∧ x = ofMagnitudeBits true bits := by
  obtain ⟨⟨word, valid⟩⟩ := x
  have signed : 0x8000000000000000 ≤ word.toNat := of_decide_eq_true negative
  have inside := word.toNat_lt
  have bounded : word.toNat - 0x8000000000000000 ≤ infinityBits := by
    refine Nat.le_of_not_lt fun beyond => ?_
    unfold infinityBits at beyond
    have exponent := exponentNat word.toBitVec
    have mantissa := mantissaNat word.toBitVec
    rw [UInt64.toNat_toBitVec] at exponent mantissa
    have largest : @unpackExponent .binary64 word.toBitVec = -1#11 := by
      have ones : 2047 = (-1#11).toNat := by decide
      exact BitVec.eq_of_toNat_eq (exponent.trans (Eq.trans (by omega) ones))
    have fraction : @unpackMantissa .binary64 word.toBitVec ≠ 0#52 := by
      intro nothing
      have zero : (0#52).toNat = 0 := rfl
      rw [nothing, zero] at mantissa
      omega
    have quiet := congrArg BitVec.toNat (valid.eq_packedNaN largest fraction)
    have plain : (packedNaN .binary64).toNat = 0x7FF8000000000000 := by decide
    rw [plain, UInt64.toNat_toBitVec] at quiet
    omega
  refine ⟨_, bounded, Float.toBits_inj.mp (UInt64.toBitVec_inj.mp ?_)⟩
  rw [magnitudeBits bounded, ← magnitudePacked bounded, if_pos rfl, Nat.add_sub_cancel' signed,
    UInt64.ofNat_toNat]
  rfl

theorem negNegative {x : Float} (negative : isNegative x = true) : -(-x) = x := by
  obtain ⟨bits, bounded, rfl⟩ := negativeIs negative
  rw [negMagnitude bounded, negMagnitude bounded]
  rfl

theorem negatedSign {x : Float} (negative : isNegative x = true) : isNegative (-x) = false := by
  obtain ⟨bits, bounded, rfl⟩ := negativeIs negative
  rw [negMagnitude bounded]
  exact negativeMagnitude bounded

def Reading.negate : Reading → Reading
  | value x => .value (-x)
  | tooLarge negative => .tooLarge !negative
  | malformed => .malformed

def IsMagnitude (x : Float) : Prop := ∃ bits, bits ≤ infinityBits ∧ x = ofMagnitudeBits false bits

/- A reader that is told the sign: with a minus it reads the negation of what it reads without, and
that is a magnitude. -/
structure Signs (r : Bool → Reading) : Prop where
  negated : r true = (r false).negate
  plain : ∀ x, r false = .value x → IsMagnitude x

theorem signsMalformed : Signs fun _ => .malformed := ⟨rfl, nofun⟩

theorem signsTooLarge : Signs .tooLarge := ⟨rfl, nofun⟩

theorem signsMagnitude {bits : Nat} (bounded : bits ≤ infinityBits) :
    Signs fun negative => .value (ofMagnitudeBits negative bits) where
  negated := by rw [Reading.negate, negMagnitude bounded, Bool.not_false]
  plain x same := by
    cases same
    exact ⟨bits, bounded, rfl⟩

theorem signsZero : Signs zero := signsMagnitude (Nat.zero_le _)

theorem signsNearest (num den : Nat) : Signs (nearest · num den) := by
  unfold nearest
  simp only
  split
  · exact signsTooLarge
  · exact signsMagnitude (by omega)

theorem signsDecimal (n : Nat) (e : Int) : Signs (nearestDecimal · n e) := by
  unfold nearestDecimal
  simp only
  split
  · exact signsZero
  · split
    · exact signsTooLarge
    · split
      · exact signsZero
      · exact signsNearest _ _

theorem signsBinary (n : Nat) (e : Int) : Signs (nearestBinary · n e) := by
  unfold nearestBinary
  split
  · exact signsZero
  · exact signsNearest _ _

theorem signsReadDecimal (cs : List Char) : Signs (readDecimal · cs) := by
  unfold readDecimal
  simp only
  split
  · exact signsMalformed
  · split
    · exact signsDecimal _ _
    · split
      · split
        · exact signsDecimal _ _
        · exact signsMalformed
      · exact signsMalformed

theorem signsReadHexadecimal (cs : List Char) : Signs (readHexadecimal · cs) := by
  unfold readHexadecimal
  simp only
  split
  · exact signsMalformed
  · split
    · exact signsMalformed
    · split
      · split
        · exact signsBinary _ _
        · exact signsMalformed
      · exact signsMalformed

theorem signsReadFinite (cs : List Char) : Signs (readFinite · cs) := by
  unfold readFinite
  split
  · exact signsMalformed
  · split
    · exact signsReadHexadecimal _
    · exact signsReadHexadecimal _
    · exact signsReadDecimal _

theorem signsReadUnsigned (cs : List Char) : Signs (readUnsigned · cs) := by
  unfold readUnsigned
  split
  · exact signsMagnitude (Nat.le_refl _)
  · exact signsReadFinite cs

def Unsigned (cs : List Char) : Prop := ∀ c ∈ cs, c.isDigit = true ∨ c = '.'

theorem digitLower {c : Char} (digit : c.isDigit = true) : c.toLower = c := by
  simp only [Char.isDigit, Bool.and_eq_true, decide_eq_true_eq, ge_iff_le,
    UInt32.le_iff_toNat_le] at digit
  have last : '9'.val.toNat = 57 := rfl
  unfold Char.toLower
  refine dif_neg fun upper => ?_
  have first : 65 ≤ c.val.toNat := UInt32.le_iff_toNat_le.mp upper.1
  omega

theorem unsignedNotNan {cs : List Char} (unsigned : Unsigned cs) :
    (cs.map Char.toLower == "nan".toList) = false := by
  refine beq_eq_false_iff_ne.mpr fun same => ?_
  cases cs with
  | nil => cases same
  | cons c rest =>
      have first : c.toLower = 'n' := (List.cons.inj same).1
      rcases unsigned c (by simp) with digit | rfl
      · rw [digitLower digit] at first
        subst first
        cases digit
      · cases first

theorem readCharsUnsigned {cs : List Char} (unsigned : Unsigned cs) :
    readChars cs = readUnsigned false cs := by
  unfold readChars
  split
  · rcases unsigned '-' (by simp) with digit | point
    · cases digit
    · cases point
  · rcases unsigned '+' (by simp) with digit | point
    · cases digit
    · cases point
  · rw [unsignedNotNan unsigned]
    rfl

section Spelling

variable {d : String} (unsigned : Unsigned d.toList)
include unsigned

theorem readPlus : read? ("+" ++ d) = read? d := by
  have spelling : ("+" ++ d).toList = '+' :: d.toList := String.toList_append
  unfold read? read
  rw [spelling, readCharsUnsigned unsigned]
  rfl

theorem readMinus : read? ("-" ++ d) = (read? d).map (- ·) := by
  have spelling : ("-" ++ d).toList = '-' :: d.toList := String.toList_append
  unfold read? read
  rw [spelling, readCharsUnsigned unsigned, readChars, (signsReadUnsigned d.toList).negated]
  cases readUnsigned false d.toList <;> rfl

theorem readPlain {x : Float} (value : read? d = some x) : IsMagnitude x := by
  unfold read? read at value
  rw [readCharsUnsigned unsigned] at value
  split at value
  · rename_i found
    cases value
    exact (signsReadUnsigned d.toList).plain x found
  · cases value

end Spelling

section Signed

variable {x : Float} (magnitude : IsMagnitude x)
include magnitude

theorem plainMagnitude : isNegative x = false := by
  obtain ⟨bits, bounded, rfl⟩ := magnitude
  exact negativeMagnitude bounded

theorem minusMagnitude : isNegative (-x) = true := by
  obtain ⟨bits, bounded, rfl⟩ := magnitude
  rw [negMagnitude bounded]
  exact negativeMagnitude bounded

theorem negNegMagnitude : -(-x) = x := by
  obtain ⟨bits, bounded, rfl⟩ := magnitude
  rw [negMagnitude bounded, negMagnitude bounded]
  rfl

end Signed

end LineBasic.Number
