import LineBasic.Run.Machine
import LineBasic.Settings.Duration
import LineBasic.Text.Case
import LineBasic.Text.Quoted
import LineBasic.Text.Space

/-!
The settings of a session: what they are when nothing is said, what makes them invalid, and the
options that a run takes from them.
-/
namespace LineBasic

structure Settings where
  prompt : String
  history : Bool
  statistics : Bool
  inputPrompt : Bool
  maxSteps : Int
  traceVariables : Bool
  traceLines : Bool
  traceOnly : List String
  logLevel : String
  debounce : Duration
  deriving DecidableEq, Repr

inductive SettingsProblem where
  | emptyPrompt
  | negativeSteps (n : Int)
  | unknownLevel (level : String)
  | badDebounce (d : Duration)
  | notAVariable (index : Nat) (name : String)
  deriving DecidableEq, Repr

namespace Settings

def initial : Settings where
  prompt := "% "
  history := true
  statistics := false
  inputPrompt := false
  maxSteps := 0
  traceVariables := false
  traceLines := false
  traceOnly := []
  logLevel := "info"
  debounce := .ofMilliseconds 200

def options (s : Settings) : Options where
  traceVariables := s.traceVariables
  traceLines := s.traceLines
  traced := s.traceOnly.map fun name => Text.upper (Text.trim name)
  inputPrompt := s.inputPrompt
  maxSteps := s.maxSteps

def logLevels : List String := ["debug", "info", "warn", "error"]

def maxDebounce : Duration := .ofSeconds 10

def isAsciiLetter (c : Char) : Bool := ('a' ≤ c && c ≤ 'z') || ('A' ≤ c && c ≤ 'Z')

def isTraceable (name : String) : Bool :=
  match Text.trimChars name.toList with
  | [] => false
  | c :: rest =>
    isAsciiLetter c && rest.all fun c => isAsciiLetter c || c.isDigit || c == '_' || c == '$'

def promptProblems (s : Settings) : List SettingsProblem :=
  if Text.isBlank s.prompt then [.emptyPrompt] else []

def stepProblems (s : Settings) : List SettingsProblem :=
  if s.maxSteps < 0 then [.negativeSteps s.maxSteps] else []

def levelProblems (s : Settings) : List SettingsProblem :=
  if logLevels.contains s.logLevel then [] else [.unknownLevel s.logLevel]

def debounceProblems (s : Settings) : List SettingsProblem :=
  if s.debounce.nanoseconds < 0 ∨ maxDebounce.nanoseconds < s.debounce.nanoseconds then
    [.badDebounce s.debounce]
  else []

def traceProblems (s : Settings) : List SettingsProblem :=
  (s.traceOnly.zipIdx.filter fun e => !isTraceable e.1).map fun e => .notAVariable e.2 e.1

def problems (s : Settings) : List SettingsProblem :=
  s.promptProblems ++ s.stepProblems ++ s.levelProblems ++ s.debounceProblems ++ s.traceProblems

end Settings

namespace SettingsProblem

def message : SettingsProblem → String
  | emptyPrompt => "prompt must not be empty"
  | negativeSteps n => "invalid max_steps: " ++ toString n ++ " (must be >= 0)"
  | unknownLevel level =>
    "invalid log level: " ++ level ++ " (must be debug, info, warn, or error)"
  | badDebounce d =>
    "invalid watch.debounce: " ++ d.shown ++ " (must be 0-" ++ Settings.maxDebounce.shown ++ ")"
  | notAVariable index name =>
    "trace.only[" ++ toString index ++ "]: " ++ Text.quote name ++ " is not a variable name"

def summary (ps : List SettingsProblem) : String :=
  "configuration errors:\n  - " ++ "\n  - ".intercalate (ps.map message)

end SettingsProblem

end LineBasic
