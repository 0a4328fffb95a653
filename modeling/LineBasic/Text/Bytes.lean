import LineBasic.Text.Quoted

/-!
Texts as bytes. What comes from outside need not be UTF-8: it is made up of the encodings of
characters and of stray bytes that are part of none. Where characters are wanted, a stray byte is
read as U+FFFD.
-/
namespace LineBasic

abbrev Bytes := List UInt8

inductive Rune where
  | char (c : Char)
  | stray (b : UInt8)
  deriving DecidableEq, Repr

namespace Rune

def toChar : Rune → Char
  | char c => c
  | stray _ => '\ufffd'

def bytes : Rune → Bytes
  | char c => String.utf8EncodeChar c
  | stray b => [b]

def quoted : Rune → List Char
  | char c => Text.quoteChar c
  | stray b => '\\' :: 'x' :: Text.hex 2 b.toNat

end Rune

namespace Text

def encode (cs : List Char) : Bytes := cs.flatMap String.utf8EncodeChar

-- no encoding is longer than four bytes
def leading? (bs : Bytes) : Option Char := (bs.take 4).toByteArray.utf8DecodeChar? 0

def runesFrom : (skipped : Nat) → Bytes → List Rune
  | _, [] => []
  | n + 1, _ :: rest => runesFrom n rest
  | 0, b :: rest =>
    match leading? (b :: rest) with
    | some c => .char c :: runesFrom (c.utf8Size - 1) rest
    | none => .stray b :: runesFrom 0 rest

def runes (bs : Bytes) : List Rune := runesFrom 0 bs

def chars (bs : Bytes) : List Char := (runes bs).map Rune.toChar

def offsetOf {α : Type} [BEq α] (sub : List α) : List α → Option Nat
  | [] => none
  | x :: rest => if sub.isPrefixOf (x :: rest) then some 0 else (offsetOf sub rest).map (· + 1)

end Text

namespace Bytes

def ofString (s : String) : Bytes := Text.encode s.toList

instance : Coe String Bytes := ⟨ofString⟩

def toText (bs : Bytes) : String := String.ofList (Text.chars bs)

def quote (bs : Bytes) : String :=
  String.ofList ('"' :: (Text.runes bs).flatMap Rune.quoted ++ ['"'])

end Bytes

end LineBasic
