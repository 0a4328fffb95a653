import LineBasic.Host.Files
import LineBasic.Settings.Document
import LineBasic.Settings.Environment

/-!
Where settings are loaded from: the file asked for, or else a file in the working directory, or
else one in the home directory, or else nowhere.
-/
namespace LineBasic

inductive SettingsFault where
  | notFound (path : String)
  | unreadable (f : FileFault)
  | notSettings (path : String) (f : Yaml.RecordFault)
  | invalid (path : String) (ps : List SettingsProblem)
  deriving DecidableEq, Repr

def SettingsFault.message : SettingsFault → String
  | notFound path => "config file not found: " ++ path
  | unreadable f => "failed to read config: " ++ f.message
  | notSettings path f => "failed to parse config " ++ path ++ ": " ++ f.message
  | invalid path ps => path ++ ": " ++ SettingsProblem.summary ps

namespace Settings

def fileName : String := "minibasic.yaml"

def homeFileName : String := ".minibasic.yaml"

def findFile (fs : Files) (home : String) (asked : String) :
    Except SettingsFault (Option String) :=
  let inHome := home ++ "/" ++ homeFileName
  if !asked.isEmpty then
    if fs.exists? asked then .ok (some asked) else .error (.notFound asked)
  else if fs.exists? fileName then .ok (some fileName)
  else if !home.isEmpty && fs.exists? inHome then .ok (some inHome)
  else .ok none

def ofFile (fs : Files) (env : Environment) (path : String) : Except SettingsFault Settings :=
  match fs.read path with
  | .error f => .error (.unreadable f)
  | .ok document =>
    match initial.applyDocument (env.expand document) with
    | .error f => .error (.notSettings path f)
    | .ok s => if s.problems.isEmpty then .ok s else .error (.invalid path s.problems)

def load (fs : Files) (home : String) (env : Environment) (asked : String) :
    Except SettingsFault (Settings × Option String) := do
  match (← findFile fs home asked) with
  | none => .ok (initial, none)
  | some path => do
    let s ← ofFile fs env path
    .ok (s, some path)

end Settings

end LineBasic
