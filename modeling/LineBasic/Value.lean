import LineBasic.Number.Format
import LineBasic.Number.Reader
import LineBasic.Text.Bytes
import LineBasic.Text.Space

/-!
Values: a number or a text, each readable as the other. A text is any bytes.
-/
namespace LineBasic

inductive Value where
  | number (x : Float)
  | text (s : Bytes)
  deriving DecidableEq

namespace Value

def zero : Value := .number 0

instance : Inhabited Value := ⟨zero⟩

def ofBool (b : Bool) : Value := .number (if b then 1 else 0)

def isText : Value → Bool
  | number _ => false
  | text _ => true

def asNumber : Value → Float
  | number x => x
  | text s => (Number.read? (Text.trim s.toText)).getD 0

def asText : Value → Bytes
  | number x => Bytes.ofString (Number.format x)
  | text s => s

def truth : Value → Bool
  | number x => x != 0
  | text s => !s.isEmpty

def shown : Value → String
  | number x => Number.format x
  | text s => s.quote

end Value

end LineBasic
