/-!
The time of day and the date.
-/
namespace LineBasic

structure Clock where
  year : Nat
  month : Nat
  day : Nat
  hour : Nat
  minute : Nat
  second : Nat
  nanosecond : Nat
  deriving DecidableEq, Repr

namespace Clock

def padded (width n : Nat) : String :=
  let digits := Nat.toDigits 10 n
  String.ofList (List.replicate (width - digits.length) '0' ++ digits)

def timeText (c : Clock) : String :=
  padded 2 c.hour ++ ":" ++ padded 2 c.minute ++ ":" ++ padded 2 c.second

def dateText (c : Clock) : String :=
  padded 4 c.year ++ "-" ++ padded 2 c.month ++ "-" ++ padded 2 c.day

def sinceMidnight (c : Clock) : Nat :=
  ((c.hour * 60 + c.minute) * 60 + c.second) * 1000000000 + c.nanosecond

def civil (days : Nat) : Nat × Nat × Nat :=
  -- years are counted from March, so that the day of a leap year comes last
  let n := days + 719468
  let cycle := n / 146097
  let day := n % 146097
  let year := (day - day / 1460 + day / 36524 - day / 146096) / 365
  let dayOfYear := day - (365 * year + year / 4 - year / 100)
  let month := (5 * dayOfYear + 2) / 153
  let dayOfMonth := dayOfYear - (153 * month + 2) / 5 + 1
  if month < 10 then (cycle * 400 + year, month + 3, dayOfMonth)
  else (cycle * 400 + year + 1, month - 9, dayOfMonth)

def ofUnixTime (seconds nanosecond : Nat) : Clock :=
  let (year, month, day) := civil (seconds / 86400)
  ⟨year, month, day, seconds / 3600 % 24, seconds / 60 % 60, seconds % 60, nanosecond⟩

def seed (c : Clock) : Int :=
  (((c.year * 12 + c.month) * 31 + c.day : Nat) : Int) * 86400000000000 + c.sinceMidnight

end Clock

end LineBasic
