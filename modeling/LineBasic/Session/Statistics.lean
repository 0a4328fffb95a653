import LineBasic.Fault
import LineBasic.Host.Cpu

/-!
What is told about a run after it.
-/
namespace LineBasic.Statistics

def megabytes (bytes : UInt64) : UInt64 := (bytes + 1048576 - 1) / 1048576

structure Usage where
  elapsed : Int
  user : Int
  system : Int

def Usage.line (u : Usage) : String :=
  "CPU Usage: elapsed = " ++ Cpu.clockFormat u.elapsed ++ " / user = " ++
    Cpu.clockFormat u.user ++ " / system = " ++ Cpu.clockFormat u.system ++ "\n"

def lines (usage : Option Usage) (memory : UInt64) (statements : Nat) : List String :=
  ["\n"] ++ (usage.map Usage.line).toList ++
    [toString (megabytes memory) ++ "MB memory used\n",
      toString statements ++ " " ++ counted "statement" statements ++ " executed\n"]

end LineBasic.Statistics
