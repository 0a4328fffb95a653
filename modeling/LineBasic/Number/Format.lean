import LineBasic.Number.Shortest

/-!
The text of a number: the shortest digits that read back, positional for moderate magnitudes and
with an exponent for the others.
-/
namespace LineBasic.Number

def positional (e : Int) : Bool := -6 ≤ e && e < 21

def layoutPositional (digits : List Char) (point : Int) : List Char :=
  if point ≤ 0 then
    '0' :: '.' :: (List.replicate (-point).toNat '0' ++ digits)
  else if (digits.length : Int) ≤ point then
    digits ++ List.replicate (point - digits.length).toNat '0'
  else digits.take point.toNat ++ '.' :: digits.drop point.toNat

def layoutExponent (e : Int) : List Char :=
  let digits := Nat.toDigits 10 e.natAbs
  'e' :: (if e < 0 then '-' else '+') :: (List.replicate (2 - digits.length) '0' ++ digits)

def layoutScientific (digits : List Char) (e : Int) : List Char :=
  match digits with
  | [] => []
  | [c] => c :: layoutExponent e
  | c :: rest => c :: '.' :: (rest ++ layoutExponent e)

def Decimal.layout (d : Decimal) : List Char :=
  let digits := Nat.toDigits 10 d.digits
  let point := d.exponent + digits.length
  if positional (point - 1) then layoutPositional digits point
  else layoutScientific digits (point - 1)

def format (x : Float) : String :=
  match decode x with
  | .notANumber => "NaN"
  | .infinite negative => if negative then "-Inf" else "+Inf"
  | .finite negative d =>
    if d.mantissa = 0 then "0"
    else
      let text := (shortest d).layout
      String.ofList (if negative then '-' :: text else text)

end LineBasic.Number
