import LineBasic.Fault
import LineBasic.Host.Clock
import LineBasic.Host.Console
import LineBasic.Host.Cpu
import LineBasic.Host.Random
import LineBasic.Host.Reader

/-!
All that a running program can reach outside its variables: the console, the input, the generator
of random numbers, the clock, the CPU meter, and whether someone has asked it to stop.
-/
namespace LineBasic

structure Host where
  console : Console
  input : Option InputChannel
  random : Random
  clock : Clock
  meter : Cpu.Meter
  interrupted : Bool
  breakOn : Option Bytes
  waited : Nat

/-- A computation that may use the host and may end in a fault. The host keeps what was done to it
before a fault. -/
abbrev Effect := ExceptT Fault (StateM Host)

namespace Host

def write (h : Host) (purpose : Purpose) (text : Bytes) : Bool × Host :=
  if h.console.accepts text then
    let console := h.console.add ⟨purpose, text⟩
    let stop :=
      match h.breakOn with
      | some needle => console.hasJustShown needle
      | none => false
    (true, { h with console, interrupted := h.interrupted || stop })
  else (false, h)

def writeAnyway (h : Host) (purpose : Purpose) (text : Bytes) : Host := (h.write purpose text).2

def idle : Host where
  console := .empty
  input := none
  random := ⟨.mixed, 0, []⟩
  clock := ⟨1970, 1, 1, 0, 0, 0, 0⟩
  meter := ⟨"", "", 100⟩
  interrupted := false
  breakOn := none
  waited := 0

end Host

namespace Effect

def fault {α : Type} (f : Fault) : Effect α := fun h => (.error f, h)

def ofExcept {α : Type} (r : Except Fault α) : Effect α := fun h => (r, h)

def write (purpose : Purpose) (text : Bytes) : Effect Unit := fun h =>
  match h.write purpose text with
  | (true, h) => (.ok (), h)
  | (false, h) => (.error .outputClosed, h)

def unlessDefect {α : Type} : Except Defect α → Effect α
  | .ok a => pure a
  | .error d => fault (.internal d)

def host : Effect Host := fun h => (.ok h, h)

def wait (milliseconds : Nat) : Effect Unit := fun h =>
  (.ok (), { h with waited := h.waited + milliseconds })

def drawBelow (n : Int) : Effect Nat := fun h =>
  if positive : 0 < n then
    let (k, random) := h.random.below n.toNat (Int.pos_iff_toNat_pos.mp positive)
    (.ok k.val, { h with random })
  else (.error (.internal (.badDraw n)), h)

def drawFraction : Effect Float := fun h =>
  let (x, random) := h.random.fraction
  (.ok x.val, { h with random })

end Effect

end LineBasic
