import LineBasic.Text.Bytes
import LineBasic.Text.CaseTable

/-!
Upper and lower case of characters. Names are compared after the one-to-one upper-case mapping; the
text of a string is converted by the full mappings, in which one character may become several.
-/
namespace LineBasic.Text

open Case

def upperChar (c : Char) : Char :=
  if c.toNat < 0x80 then c.toUpper else Char.ofNat (shifted upperRuns c.toNat)

def upperNameChar (c : Char) : Char :=
  if c.toNat < 0x80 then c.toUpper else Char.ofNat (shifted (upperRuns ++ laterUpperRuns) c.toNat)

def lowerChar (c : Char) : Char :=
  if c.toNat < 0x80 then c.toLower else Char.ofNat (shifted lowerRuns c.toNat)

def upper (s : String) : String := String.ofList (s.toList.map upperNameChar)

def lowerAscii (s : String) : String := String.ofList (s.toList.map Char.toLower)

def isCased (c : Char) : Bool := flipsBelow casedFlips c.toNat

def isCaseIgnorable (c : Char) : Bool := flipsBelow ignorableFlips c.toNat

def fullUpperChar (c : Char) : List Char :=
  if c.toNat < 0x80 then [c.toUpper] else (expansion? upperExpansions c).getD [upperChar c]

def fullLowerChar (c : Char) : List Char :=
  if c.toNat < 0x80 then [c.toLower] else (expansion? lowerExpansions c).getD [lowerChar c]

def fullUpperRune : Rune → Bytes
  | .char c => encode (fullUpperChar c)
  | .stray b => [b]

def fullUpper (s : Bytes) : Bytes := (runes s).flatMap fullUpperRune

end LineBasic.Text
