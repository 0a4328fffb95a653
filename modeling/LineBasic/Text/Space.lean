/-!
White space as the White_Space property defines it, and the three things done with it:
dropping it at one end, trimming, and splitting a text into its blank-separated fields.
-/
namespace LineBasic.Text

def isSpace (c : Char) : Bool :=
  let n := c.toNat
  n == 0x20 || (0x09 ≤ n && n ≤ 0x0D) || n == 0x85 || n == 0xA0 || n == 0x1680 ||
  (0x2000 ≤ n && n ≤ 0x200A) || n == 0x2028 || n == 0x2029 || n == 0x202F || n == 0x205F ||
  n == 0x3000

def dropSpaces (cs : List Char) : List Char := cs.dropWhile isSpace

def trimChars (cs : List Char) : List Char :=
  (dropSpaces (dropSpaces cs).reverse).reverse

def trim (s : String) : String := String.ofList (trimChars s.toList)

def isBlank (s : String) : Bool := s.toList.all isSpace

def fieldsFrom (current : List Char) : List Char → List (List Char) → List (List Char)
  | [], done => (if current.isEmpty then done else current.reverse :: done).reverse
  | c :: rest, done =>
    if isSpace c then
      fieldsFrom [] rest (if current.isEmpty then done else current.reverse :: done)
    else fieldsFrom (c :: current) rest done

def fields (s : String) : List String := (fieldsFrom [] s.toList []).map String.ofList

end LineBasic.Text
