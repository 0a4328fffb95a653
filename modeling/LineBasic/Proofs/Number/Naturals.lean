import LineBasic.Proofs.Number.Negation

/-!
Counts as numbers. A natural number below 2^53 has 53 bits to stand in, so it becomes a number with
nothing rounded away, and the floor of that number is the natural number again. Sums of such numbers
are exact too.
-/
namespace LineBasic.Number

open Float.Model Float.Model.UnpackedFloat

structure Normal (m : Nat) (e : Int) : Prop where
  low : 2 ^ 52 ≤ m
  high : m < 2 ^ 53
  least : -1074 ≤ e
  most : e ≤ 971

theorem shiftExact (m k : Nat) :
    (⟨m * 2 ^ k, false, false⟩ : ExtendedMantissa) >>> k = ⟨m, false, false⟩ := by
  change k.repeat ExtendedMantissa.shiftRightOne _ = _
  induction k generalizing m with
  | zero => simp [Nat.repeat]
  | succ k ih =>
      have wide : m * 2 ^ (k + 1) = m * 2 * 2 ^ k := by ring
      rw [Nat.repeat, wide, ih]
      simp [ExtendedMantissa.shiftRightOne]

theorem decodeBitsNormal {biased fraction : Nat} (first : 0 < biased) (last : biased < 2047)
    (small : fraction < 2 ^ 52) : decodeBits (biased * 2 ^ 52 + fraction) =
      .finite false ⟨0x10000000000000 + fraction, (biased : Int) - 1075⟩ := by
  have exponent : (biased * 2 ^ 52 + fraction) / 0x10000000000000 % 0x800 = biased := by omega
  have rest : (biased * 2 ^ 52 + fraction) % 0x10000000000000 = fraction := by omega
  have plain : decide (0x8000000000000000 ≤ biased * 2 ^ 52 + fraction) = false :=
    decide_eq_false (by omega)
  unfold decodeBits
  simp only [exponent, rest, plain]
  rw [if_neg (by omega), if_neg (by omega)]

section Packed

variable {m : Nat} {e : Int} (normal : Normal m e)
include normal

theorem normalPositive : 0 < m := Nat.lt_of_lt_of_le (by decide) normal.low

theorem normalLog2 : m.log2 = 52 :=
  (Nat.log2_eq_iff (Nat.ne_of_gt (normalPositive normal))).mpr ⟨normal.low, normal.high⟩

theorem normalTarget (k : Nat) :
    Format.binary64.targetExponent (totalExponent (m * 2 ^ k) (e - k)) = e := by
  have least := normal.least
  have wide : (m * 2 ^ k).log2 = 52 + k := by
    have positive := Nat.ne_of_gt (normalPositive normal)
    rw [Nat.log2_eq_iff (Nat.mul_ne_zero positive (Nat.two_pow_pos k).ne'), Nat.pow_add,
      Nat.add_right_comm, Nat.pow_add]
    exact ⟨Nat.mul_le_mul_right _ normal.low,
      Nat.mul_lt_mul_of_pos_right normal.high (Nat.two_pow_pos k)⟩
  have target : ∀ t : Int, Format.binary64.targetExponent t = max (t - 53) (-1074) := fun _ => rfl
  rw [target, totalExponent, wide]
  omega

theorem shiftNormal (k : Nat) :
    shiftToTargetExponent .binary64 (m * 2 ^ k) (e - k) .exact = (⟨m, false, false⟩, e) := by
  have width : (e - (e - k)).toNat = k := by omega
  have back : e - k + k = e := by omega
  unfold shiftToTargetExponent shiftToExponent
  rw [normalTarget normal]
  simp only [width, back, ExtendedMantissa.ofMantissaAndAccuracy, shiftExact]

theorem roundNormal (s : Sign) (k : Nat) :
    roundWithAccuracy .binary64 s (m * 2 ^ k) (e - k) .exact =
      .finite s m e (normalPositive normal) := by
  have again := shiftNormal normal 0
  rw [Nat.pow_zero, Nat.mul_one, Nat.cast_zero, Int.sub_zero] at again
  have rounded : (⟨m, false, false⟩ : ExtendedMantissa).roundedMantissa = m := rfl
  unfold roundWithAccuracy
  simp only [shiftNormal normal, rounded, again]
  exact dif_neg (Nat.ne_of_gt (normalPositive normal))

theorem packNormal (s : Sign) :
    UnpackedFloat.pack .binary64 (.finite s m e (normalPositive normal)) =
      packComponents .binary64 s (BitVec.ofNat 11 (e + 1075).toNat) (BitVec.ofNat 52 m) := by
  have low := normal.least
  have high := normal.most
  have biased : (e + (1023 : Nat) + (52 : Nat)).toNat = (e + 1075).toNat := by omega
  have fits : ¬ 2 ^ 11 ≤ (e + 1075).toNat + 1 := by omega
  have full : m.log2 + 1 = 53 := by rw [normalLog2 normal]
  unfold UnpackedFloat.pack
  change (if 2 ^ 11 ≤ (e + (1023 : Nat) + (52 : Nat)).toNat + 1 then _
    else if m.log2 + 1 = 53 then
      packComponents .binary64 s (BitVec.ofNat 11 (e + (1023 : Nat) + (52 : Nat)).toNat) _
    else _) = _
  rw [biased, if_neg fits, if_pos full]

theorem unpackNormal (s : Sign) :
    UnpackedFloat.unpack .binary64
      (UnpackedFloat.pack .binary64 (.finite s m e (normalPositive normal))) =
        .finite s m e (normalPositive normal) := by
  have low := normal.low
  have high := normal.high
  have least := normal.least
  have most := normal.most
  have exponent : (BitVec.ofNat 11 (e + 1075).toNat).toNat = (e + 1075).toNat :=
    Nat.mod_eq_of_lt (by omega)
  have notFirst : BitVec.ofNat 11 (e + 1075).toNat ≠ 0#11 := by
    intro same
    have zero := congrArg BitVec.toNat same
    rw [exponent, BitVec.toNat_zero] at zero
    omega
  have notLast : BitVec.ofNat 11 (e + 1075).toNat ≠ -1#11 := by
    intro same
    have ones := congrArg BitVec.toNat same
    rw [exponent, BitVec.neg_one_eq_allOnes, BitVec.toNat_allOnes] at ones
    omega
  have whole : (1#1 ++ BitVec.ofNat 52 m).toNat = m := by
    rw [BitVec.toNat_append, ← Nat.shiftLeft_add_eq_or_of_lt (BitVec.isLt _), Nat.shiftLeft_eq,
      BitVec.toNat_ofNat, BitVec.toNat_ofNat]
    omega
  have back : ((e + 1075).toNat : Int) - ((1023 : Nat) + (52 : Nat)) = e := by omega
  have bias : Format.binary64.exponentBias = 1023 := rfl
  rw [packNormal normal]
  unfold UnpackedFloat.unpack
  simp only [unpackExponent_packComponents, unpackMantissa_packComponents,
    unpackSign_packComponents, Sign.ofBitVec_toBitVec, notFirst, notLast, if_false,
    exponent, whole, bias, back]

theorem decodeNormal :
    decode (Float.ofModel (Float.Model.pack (.finite .positive m e (normalPositive normal)))) =
      .finite false ⟨m, e⟩ := by
  have low := normal.low
  have high := normal.high
  have least := normal.least
  have most := normal.most
  have bits : (Float.ofModel (Float.Model.pack
      (.finite .positive m e (normalPositive normal)))).toBits.toNat =
        (e + 1075).toNat * 2 ^ 52 + (m - 2 ^ 52) := by
    have packed := congrArg BitVec.toNat (packNormal normal .positive)
    rw [packedNat, BitVec.toNat_ofNat, BitVec.toNat_ofNat] at packed
    refine Eq.trans packed ?_
    simp only [Sign.toBitVec, BitVec.toNat_ofNat]
    omega
  have whole : 0x10000000000000 + (m - 2 ^ 52) = m := by omega
  have back : ((e + 1075).toNat : Int) - 1075 = e := by omega
  rw [decode, bits, decodeBitsNormal (by omega) (by omega) (by omega), whole, back]

end Packed

theorem oneUnpacked : (Float.ofBits 0x3FF0000000000000).toModel.unpack =
    .finite .positive (2 ^ 52) (-52) (by decide) := by
  have one : Normal (2 ^ 52) (-52) := ⟨by omega, by omega, by omega, by omega⟩
  have packed := packNormal one .positive
  have word : (0x3FF0000000000000 : UInt64).toBitVec =
      UnpackedFloat.pack .binary64 (.finite .positive (2 ^ 52) (-52) (by decide)) := by
    rw [packed]
    decide
  change UnpackedFloat.unpack .binary64 (UnpackedFloat.pack .binary64
    (UnpackedFloat.unpack .binary64 (0x3FF0000000000000 : UInt64).toBitVec)) = _
  rw [word, unpackNormal one, unpackNormal one]

def mantissaOf (n : Nat) : Nat := n * 2 ^ (52 - n.log2)
def exponentFor (n : Nat) : Int := -(52 - n.log2 : Nat)

@[simp] theorem floorMantissa (n : Nat) : floorOf false ⟨mantissaOf n, exponentFor n⟩ = n := by
  have up : (exponentFor n).toNat = 0 := by
    unfold exponentFor
    omega
  have down : (-exponentFor n).toNat = 52 - n.log2 := by
    unfold exponentFor
    omega
  have width := Nat.two_pow_pos (52 - n.log2)
  simp only [floorOf, up, down, mantissaOf, Nat.pow_eq, Nat.pow_zero, Nat.mul_one]
  rw [Nat.mul_div_cancel _ width]
  rfl

@[simp] theorem floorZero (e : Int) : floorOf false ⟨0, e⟩ = 0 := by simp [floorOf]

section Natural

variable {n : Nat} (positive : 0 < n) (small : n < 2 ^ 53)
include positive small

theorem naturalNormal : Normal (mantissaOf n) (exponentFor n) := by
  have bits : n.log2 < 53 := (Nat.log2_lt (Nat.ne_of_gt positive)).mpr small
  have low := Nat.log2_self_le (Nat.ne_of_gt positive)
  have high := Nat.lt_log2_self (n := n)
  have room := Nat.two_pow_pos (52 - n.log2)
  have bottom : 2 ^ n.log2 * 2 ^ (52 - n.log2) = 2 ^ 52 := by
    rw [← Nat.pow_add]
    congr 1
    omega
  have top : 2 ^ (n.log2 + 1) * 2 ^ (52 - n.log2) = 2 ^ 53 := by
    rw [← Nat.pow_add]
    congr 1
    omega
  refine ⟨?_, ?_, ?_, ?_⟩
  · rw [← bottom]
    exact Nat.mul_le_mul_right _ low
  · rw [← top]
    exact Nat.mul_lt_mul_of_pos_right high room
  · unfold exponentFor
    omega
  · unfold exponentFor
    omega

theorem naturalRounds : UnpackedFloat.ofNat .binary64 n =
    .finite .positive (mantissaOf n) (exponentFor n)
      (normalPositive (naturalNormal positive small)) := by
  have normal := naturalNormal positive small
  have bits : n.log2 < 53 := (Nat.log2_lt (Nat.ne_of_gt positive)).mpr small
  have target : Format.binary64.targetExponent (totalExponent n 0) = exponentFor n := by
    change max ((n.log2 : Int) + 1 + 0 - 53) (-1074) = -((52 - n.log2 : Nat) : Int)
    omega
  have width : (0 - exponentFor n).toNat = 52 - n.log2 := by
    unfold exponentFor
    omega
  have exponent : (0 : Int) - (52 - n.log2 : Nat) = exponentFor n := Int.zero_sub _
  have rounded := roundNormal normal .positive 0
  rw [Nat.pow_zero, Nat.mul_one, Nat.cast_zero, Int.sub_zero] at rounded
  have greater : compare (n : Int) 0 = .gt := Int.compare_eq_gt.mpr (by omega)
  unfold UnpackedFloat.ofNat UnpackedFloat.ofInt UnpackedFloat.normalize
  simp only [greater, Int.toNat_natCast, UnpackedFloat.round, decreaseExponent, target, width,
    exponent, Nat.shiftLeft_eq]
  exact rounded

theorem naturalIs : Float.ofNat n = Float.ofModel (Float.Model.pack
    (.finite .positive (mantissaOf n) (exponentFor n)
      (normalPositive (naturalNormal positive small)))) := by
  have normal := naturalNormal positive small
  have product : Float.ofNat n = n.toUInt64.toFloat * Float.ofBits 0x3FF0000000000000 := by
    change Float.ofScientific n false 0 = _
    unfold Float.ofScientific
    rw [dif_pos ⟨small, by decide⟩]
    rfl
  have word : n.toUInt64.toNat = n := Nat.mod_eq_of_lt (by omega)
  have left : n.toUInt64.toFloat.toModel.unpack =
      .finite .positive (mantissaOf n) (exponentFor n) (normalPositive normal) := by
    change UnpackedFloat.unpack .binary64 (UnpackedFloat.pack .binary64
      (UnpackedFloat.ofNat .binary64 n.toUInt64.toNat)) = _
    rw [word, naturalRounds positive small, unpackNormal normal]
  rw [product]
  change Float.ofModel (Float.Model.pack (UnpackedFloat.mul .binary64
    n.toUInt64.toFloat.toModel.unpack (Float.ofBits 0x3FF0000000000000).toModel.unpack)) = _
  rw [left, oneUnpacked]
  exact congrArg (fun u => Float.ofModel (Float.Model.pack u)) (roundNormal normal .positive 52)

end Natural

theorem floorNatural {n : Nat} (small : n < 2 ^ 53) :
    ∃ d, decode (Float.ofNat n) = .finite false d ∧ floorOf false d = n := by
  rcases Nat.eq_zero_or_pos n with rfl | positive
  · exact ⟨⟨0, -1074⟩, by decide +kernel, floorZero _⟩
  · refine ⟨_, ?_, floorMantissa n⟩
    rw [naturalIs positive small, decodeNormal (naturalNormal positive small)]

theorem clampedNatural {n : Nat} (small : n < 2 ^ 31) : floorClamped (Float.ofNat n) = n := by
  obtain ⟨d, decoded, floor⟩ := floorNatural (n := n) (by omega)
  unfold floorClamped
  simp only [decoded, floor, minIndex, maxIndex]
  omega

end LineBasic.Number
