import Mathlib.Data.List.Infix
import LineBasic.Text.Bytes

/-!
Texts as UTF-8. Bytes are taken apart into characters and stray bytes in exactly one way, and those
that make up characters only are the encoded texts. The first byte of a character is told from the
others by itself, so a search for an encoded text finds it only where its characters stand.
-/
namespace LineBasic.Text

variable {c : Char} {cs ds : List Char} {b : UInt8} {bs rest sub : Bytes} {rs : List Rune}

inductive MadeOf : List Rune → Bytes → Prop where
  | nil : MadeOf [] []
  | char {rs : List Rune} {rest : Bytes} (c : Char) (tail : MadeOf rs rest) :
      MadeOf (.char c :: rs) (String.utf8EncodeChar c ++ rest)
  | stray {rs : List Rune} {b : UInt8} {rest : Bytes}
      (alone : ∀ c, ¬ String.utf8EncodeChar c <+: b :: rest) (tail : MadeOf rs rest) :
      MadeOf (.stray b :: rs) (b :: rest)

def Valid (bs : Bytes) : Prop := ∃ cs, bs = encode cs

section Encoding

@[simp] theorem encodeAppend (cs ds : List Char) : encode (cs ++ ds) = encode cs ++ encode ds :=
  List.flatMap_append

@[simp] theorem encodeCons (c : Char) (cs : List Char) :
    encode (c :: cs) = String.utf8EncodeChar c ++ encode cs := rfl

theorem encodePrefix (first : encode cs <+: encode ds) : cs <+: ds := by
  obtain ⟨rest, whole⟩ := first
  refine List.isPrefix_of_utf8Encode_append_eq_utf8Encode rest.toByteArray ?_
  have joined := congrArg List.toByteArray whole
  rw [List.toByteArray_append] at joined
  exact joined

theorem encodedHead (c : Char) : ∃ b rest, String.utf8EncodeChar c = b :: rest ∧
    b.IsUTF8FirstByte ∧ ∀ x ∈ rest, ¬ x.IsUTF8FirstByte := by
  cases shape : String.utf8EncodeChar c with
  | nil => exact absurd shape String.utf8EncodeChar_ne_nil
  | cons b rest =>
      have byte : ∀ i, (inside : i < (b :: rest).length) →
          ((b :: rest)[i].IsUTF8FirstByte ↔ i = 0) := by
        rw [← shape]
        intro i inside
        exact UInt8.isUTF8FirstByte_getElem_utf8EncodeChar
      refine ⟨b, rest, rfl, (byte 0 (by simp)).mpr rfl, fun x member => ?_⟩
      obtain ⟨i, inside, rfl⟩ := List.getElem_of_mem member
      have later := byte (i + 1) (by simpa using inside)
      simpa using later

end Encoding

section Decoding

@[simp] theorem leadingEncoded (c : Char) (rest : Bytes) :
    leading? (String.utf8EncodeChar c ++ rest) = some c := by
  have short : (String.utf8EncodeChar c).length ≤ 4 := by
    rw [String.length_utf8EncodeChar]
    exact c.utf8Size_le_four
  rw [leading?, List.take_append, List.take_of_length_le short, List.toByteArray_append]
  exact ByteArray.utf8DecodeChar?_utf8EncodeChar_append

theorem leadingExact : leading? bs = some c ↔ String.utf8EncodeChar c <+: bs := by
  constructor
  · intro found
    obtain ⟨rest, whole⟩ := ByteArray.exists_of_utf8DecodeChar?_eq_some found
    have start : String.utf8EncodeChar c <+: bs.take 4 := by
      refine ⟨rest.data.toList, ?_⟩
      have bytes := congrArg (fun bytes => bytes.data.toList) whole
      simpa using bytes.symm
    exact start.trans (List.take_prefix 4 bs)
  · rintro ⟨rest, rfl⟩
    exact leadingEncoded c rest

theorem runesSkip (front rest : Bytes) : runesFrom front.length (front ++ rest) = runes rest := by
  induction front with
  | nil => rfl
  | cons b front ih => exact ih

@[simp] theorem runesChar (c : Char) (rest : Bytes) :
    runes (String.utf8EncodeChar c ++ rest) = .char c :: runes rest := by
  have found := leadingEncoded c rest
  have size := String.length_utf8EncodeChar c
  obtain ⟨b, more, shape, _⟩ := encodedHead c
  rw [shape, List.length_cons] at size
  rw [shape, List.cons_append] at found ⊢
  rw [runes, runesFrom, found]
  simp only [← size, Nat.add_sub_cancel, runesSkip]

theorem runesStray (alone : ∀ c, ¬ String.utf8EncodeChar c <+: b :: rest) :
    runes (b :: rest) = .stray b :: runes rest := by
  have nothing : leading? (b :: rest) = none := by
    refine Option.eq_none_iff_forall_ne_some.mpr fun c found => ?_
    exact alone c (leadingExact.mp found)
  rw [runes, runesFrom, nothing]
  rfl

theorem runesSpell (bs : Bytes) : MadeOf (runes bs) bs := by
  induction long : bs.length using Nat.strong_induction_on generalizing bs with
  | _ n ih =>
      cases bs with
      | nil => exact .nil
      | cons b rest =>
          by_cases led : ∃ c, String.utf8EncodeChar c <+: b :: rest
          · obtain ⟨c, more, whole⟩ := led
            have shorter : more.length < n := by
              have size := congrArg List.length whole
              have positive := c.utf8Size_pos
              rw [List.length_append, String.length_utf8EncodeChar] at size
              omega
            rw [← whole, runesChar]
            exact .char c (ih _ shorter more rfl)
          · have alone := not_exists.mp led
            rw [runesStray alone]
            exact .stray alone (ih _ (by simp [← long]) rest rfl)

@[simp] theorem runesEncode (cs : List Char) (rest : Bytes) :
    runes (encode cs ++ rest) = cs.map .char ++ runes rest := by
  induction cs with
  | nil => rfl
  | cons c cs ih =>
      rw [encodeCons, List.append_assoc, runesChar, ih, List.map_cons, List.cons_append]

@[simp] theorem charsAfter (cs : List Char) (rest : Bytes) :
    chars (encode cs ++ rest) = cs ++ chars rest := by
  rw [chars, runesEncode, List.map_append, List.map_map]
  exact congrArg (· ++ chars rest) (List.map_id cs)

@[simp] theorem charsEncode (cs : List Char) : chars (encode cs) = cs := by
  have whole := charsAfter cs []
  rwa [List.append_nil, show chars [] = [] from rfl, List.append_nil] at whole

theorem encodeValid (cs : List Char) : Valid (encode cs) := ⟨cs, rfl⟩

theorem validExact : Valid bs ↔ encode (chars bs) = bs := by
  constructor
  · rintro ⟨cs, rfl⟩
    rw [charsEncode]
  · exact fun same => ⟨chars bs, same.symm⟩

end Decoding

section Joining

variable {xs ys : Bytes}

end Joining

section Searching

variable {α : Type} [BEq α] [LawfulBEq α] {part : List α}

theorem offsetFound {xs : List α} {n : Nat} (found : offsetOf part xs = some n) :
    n < xs.length ∧ part <+: xs.drop n ∧ ∀ q < n, ¬ part <+: xs.drop q := by
  induction xs generalizing n with
  | nil => cases found
  | cons x xs ih =>
      rw [offsetOf] at found
      split at found
      · rename_i begins
        cases found
        exact ⟨by simp, List.isPrefixOf_iff_prefix.mp begins, fun q below => absurd below (by simp)⟩
      · rename_i other
        obtain ⟨m, later, rfl⟩ := Option.map_eq_some_iff.mp found
        obtain ⟨inside, occurs, least⟩ := ih later
        refine ⟨by simpa using inside, occurs, fun q below => ?_⟩
        cases q with
        | zero => exact fun begins => other (List.isPrefixOf_iff_prefix.mpr begins)
        | succ q => exact least q (by omega)

theorem offsetMissing {xs : List α} (nonempty : part ≠ []) (missing : offsetOf part xs = none)
    (n : Nat) : ¬ part <+: xs.drop n := by
  induction xs generalizing n with
  | nil =>
      rw [List.drop_nil, List.prefix_nil]
      exact nonempty
  | cons x xs ih =>
      rw [offsetOf] at missing
      split at missing
      · cases missing
      · rename_i other
        cases n with
        | zero => exact fun begins => other (List.isPrefixOf_iff_prefix.mpr begins)
        | succ n => exact ih (Option.map_eq_none_iff.mp missing) n

theorem offsetPasses (sub bytes : Bytes) (first : b.IsUTF8FirstByte)
    (others : ∀ x ∈ rest, ¬ x.IsUTF8FirstByte) :
    offsetOf (b :: sub) (rest ++ bytes) = (offsetOf (b :: sub) bytes).map (· + rest.length) := by
  induction rest with
  | nil => simp
  | cons x rest ih =>
      have differs : b ≠ x := by
        rintro rfl
        exact others b (by simp) first
      have apart : (b :: sub).isPrefixOf (x :: (rest ++ bytes)) = false := by
        simp [List.isPrefixOf, differs]
      rw [List.cons_append, offsetOf, apart, ih fun y member => others y (by simp [member])]
      simp [Function.comp_def, Nat.add_assoc]

theorem offsetEncodedCons (nonempty : cs ≠ []) (c : Char) (ds : List Char) :
    offsetOf (encode cs) (encode (c :: ds)) =
      if cs.isPrefixOf (c :: ds) then some 0
      else (offsetOf (encode cs) (encode ds)).map (· + (String.utf8EncodeChar c).length) := by
  obtain ⟨d, cs, rfl⟩ := List.exists_cons_of_ne_nil nonempty
  obtain ⟨b, rest, shape, first, _⟩ := encodedHead d
  obtain ⟨x, others, shape', _, more⟩ := encodedHead c
  have begins :
      (encode (d :: cs)).isPrefixOf (encode (c :: ds)) = (d :: cs).isPrefixOf (c :: ds) := by
    rw [Bool.eq_iff_iff, List.isPrefixOf_iff_prefix, List.isPrefixOf_iff_prefix]
    refine ⟨encodePrefix, ?_⟩
    rintro ⟨tail, whole⟩
    rw [← whole, encodeAppend]
    exact List.prefix_append _ _
  have passes := offsetPasses (rest ++ encode cs) (encode ds) first more
  rw [encodeCons d, shape, List.cons_append] at begins ⊢
  rw [encodeCons c, shape', List.cons_append] at begins ⊢
  rw [offsetOf, begins, passes]
  split
  · rfl
  · simp [Function.comp_def, Nat.add_assoc]

theorem offsetEncoded (nonempty : cs ≠ []) (ds : List Char) :
    offsetOf (encode cs) (encode ds) =
      (offsetOf cs ds).map fun n => (encode (ds.take n)).length := by
  induction ds with
  | nil => rfl
  | cons d ds ih =>
      rw [offsetEncodedCons nonempty, offsetOf]
      split
      · rfl
      · rw [ih, Option.map_map, Option.map_map]
        refine congrArg (Option.map · _) (funext fun n => ?_)
        simp only [Function.comp_apply, List.take_succ_cons, encodeCons, List.length_append]
        omega

end Searching

end LineBasic.Text
