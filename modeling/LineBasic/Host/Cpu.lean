import LineBasic.Text.Integer
import LineBasic.Text.Quoted
import LineBasic.Text.Space

/-!
CPU time: read from the text in which the system reports on a process, converted from clock ticks,
and written as hours, minutes and seconds.
-/
namespace LineBasic.Cpu

inductive StatFault where
  | noName
  | tooFewFields (count : Nat)
  | badNumber (text : String) (fault : Text.IntegerFault)
  deriving DecidableEq, Repr

def StatFault.message : StatFault → String
  | noName => "malformed stat line"
  | tooFewFields count => "stat line has " ++ toString count ++ " fields"
  | badNumber text fault =>
    "strconv.ParseInt: parsing " ++ Text.quote text ++ ": " ++
      match fault with
      | .malformed => "invalid syntax"
      | .outOfRange => "value out of range"

structure Reading where
  user : Int
  system : Int
  fault? : Option StatFault
  deriving DecidableEq, Repr

def Reading.failed (f : StatFault) : Reading := ⟨0, 0, some f⟩

def afterName? (cs : List Char) : Option (List Char) :=
  if cs.contains ')' then some (cs.reverse.takeWhile (· != ')')).reverse else none

def readTicks (field : String) : Except StatFault Int :=
  match Text.readInteger field.toList with
  | .ok n => .ok n
  | .error f => .error (.badNumber field f)

/-- The ticks in the twelfth and thirteenth field after the name of the command. The name may hold
blanks and parentheses, so fields are counted from its end; two stand before. -/
def readStat (stat : String) : Reading :=
  match afterName? stat.toList with
  | none => .failed .noName
  | some rest =>
    let fields := Text.fields (String.ofList rest)
    match fields[11]?, fields[12]? with
    | some user, some system =>
      match readTicks user with
      | .error f => .failed f
      | .ok user =>
        match readTicks system with
        | .error f => .failed f
        | .ok system => ⟨user, system, none⟩
    | _, _ => .failed (.tooFewFields (fields.length + 2))

def nanosPerSecond : Int := 1000000000

def wrap (n : Int) : Int := Int.bmod n (0x10000000000000000)

/-- Nanoseconds in this many ticks, in 64-bit arithmetic: the product wraps around before the
division rounds it toward zero. -/
def nanoseconds (ticks perSecond : Int) : Int :=
  wrap (Int.tdiv (wrap (ticks * nanosPerSecond)) perSecond)

structure Meter where
  stat : String
  name : String
  ticksPerSecond : Int

def Meter.times (m : Meter) : Reading :=
  let ticks := readStat m.stat
  match ticks.fault? with
  | some f => .failed f
  | none =>
    ⟨nanoseconds ticks.user m.ticksPerSecond, nanoseconds ticks.system m.ticksPerSecond, none⟩

def seconds (nanos : Int) : Float :=
  Float.ofInt (Int.tdiv nanos nanosPerSecond) +
    Float.ofInt (Int.tmod nanos nanosPerSecond) / Float.ofInt nanosPerSecond

def twoDigits (n : Int) : String :=
  if 0 ≤ n ∧ n < 10 then "0" ++ toString n else toString n

def clockFormat (nanos : Int) : String :=
  let t := Int.tdiv nanos nanosPerSecond
  let hours := Int.tdiv t 3600
  let minutes := Int.tdiv (Int.tmod t 3600) 60
  let seconds := Int.tmod t 60
  twoDigits hours ++ ":" ++ twoDigits minutes ++ ":" ++ twoDigits seconds

end LineBasic.Cpu
