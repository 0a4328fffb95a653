import LineBasic.Text.Integer

/-!
Dates, and dates with a time of day.
-/
namespace LineBasic.Yaml

def readUpTo? (least greatest : Nat) (cs : List Char) : Option (Nat × List Char) :=
  let digits := (cs.take 2).takeWhile Char.isDigit
  let n := digits.foldl (fun n c => n * 10 + Text.digitValue c) 0
  if digits.isEmpty || n < least || greatest < n then none else some (n, cs.drop digits.length)

def expect? (c : Char) : List Char → Option (List Char)
  | d :: rest => if c = d then some rest else none
  | [] => none

def isLeapYear (year : Nat) : Bool := year % 4 == 0 && (year % 100 != 0 || year % 400 == 0)

def daysIn (year month : Nat) : Nat :=
  if month == 2 then (if isLeapYear year then 29 else 28)
  else if month == 4 || month == 6 || month == 9 || month == 11 then 30
  else 31

def skipFraction : List Char → List Char
  | mark :: c :: rest =>
    if (mark == '.' || mark == ',') && c.isDigit then rest.dropWhile Char.isDigit
    else mark :: c :: rest
  | cs => cs

def skipTime? (cs : List Char) : Option (List Char) := do
  let (_, cs) ← readUpTo? 0 23 cs
  let (_, cs) ← readUpTo? 0 59 (← expect? ':' cs)
  let (_, cs) ← readUpTo? 0 59 (← expect? ':' cs)
  some (skipFraction cs)

def isZone : List Char → Bool
  | ['Z'] => true
  | [sign, a, b, ':', c, d] =>
    (sign == '+' || sign == '-') && [a, b, c, d].all Char.isDigit &&
      Text.digitValue a * 10 + Text.digitValue b ≤ 24 &&
      Text.digitValue c * 10 + Text.digitValue d ≤ 60
  | _ => false

def isTimestamp (s : String) : Bool :=
  let cs := s.toList
  let year := cs.takeWhile Char.isDigit
  let check : Option Bool := do
    let (month, cs) ← readUpTo? 1 12 (← expect? '-' (cs.drop year.length))
    let (day, cs) ← readUpTo? 1 31 (← expect? '-' cs)
    let n := year.foldl (fun n c => n * 10 + Text.digitValue c) 0
    if daysIn n month < day then none
    else
      match cs with
      | [] => some true
      | mark :: rest => do
        let after ← skipTime? rest
        if mark == ' ' then some after.isEmpty
        else if mark == 'T' || mark == 't' then some (isZone after)
        else none
  year.length == 4 && check.getD false

end LineBasic.Yaml
