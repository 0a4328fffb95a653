import LineBasic.Function.Math
import LineBasic.Function.Strings

/-!
Functions that read the clock and the CPU meter, that are called for their effect on the console, or
that wait; and with them the table of all standard functions.
-/
namespace LineBasic

namespace Function

def clockText (name : String) (f : Clock → String) : NamedFunction := ofNone name do
  let h ← Effect.host
  pure (.text (Bytes.ofString (f h.clock)))

-- seconds since midnight
def timer : NamedFunction := ofNone "TIMER" do
  let h ← Effect.host
  pure (.number (Cpu.seconds h.clock.sinceMidnight))

def cpu : NamedFunction := ofNone "CPU" do
  let h ← Effect.host
  let t := h.meter.times
  match t.fault? with
  | none => pure (.number (Cpu.seconds (Cpu.wrap (t.user + t.system))))
  | some f => Effect.fault (.cpuUnknown h.meter.name f)

def clockFunctions : List NamedFunction :=
  [clockText "TIME$" Clock.timeText, clockText "DATE$" Clock.dateText, timer, cpu]

def emitter (name sequence : String) : NamedFunction := ofNone name do
  Effect.write .result (Bytes.ofString sequence)
  pure (.number 0)

-- a day, in seconds
def longestPause : Float := 86400

def pause : NamedFunction := ofOne "PAUSE" fun v => do
  let seconds := v.asNumber
  if longestPause < seconds then Effect.fault (.badArgument "PAUSE" .delayTooLong)
  else if seconds * 1000 ≥ 0.5 then
    if (← Effect.host).interrupted then Effect.fault .interrupted
    else
      Effect.wait ((Number.floor? (seconds * 1000 + 0.5)).getD 0).toNat
      pure (.number 0)
  else pure (.number 0)

def consoleFunctions : List NamedFunction :=
  [emitter "CLS" "\x1b[2J\x1b[H", emitter "BEEP" "\x07", pause]

end Function

def Functions.standard : Functions :=
  Functions.ofList (Function.mathFunctions ++ Function.textFunctions ++
    Function.consoleFunctions ++ Function.clockFunctions)

end LineBasic
