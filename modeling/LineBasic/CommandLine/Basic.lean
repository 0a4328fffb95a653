import LineBasic.CommandLine.Arguments
import LineBasic.Function.Standard
import LineBasic.Session.Basic
import LineBasic.Settings.Load

/-!
The program as a whole: from its arguments, its environment, its files and its input to an exit
status, an output, a text of errors and the files it leaves.
-/
namespace LineBasic

structure Launch where
  arguments : List String
  home : String
  environment : Environment
  files : Files
  input : LineReader
  host : Host
  memory : UInt64

structure Report where
  status : Nat
  output : Bytes
  errors : String
  files : Files
  dumps : List Dump

namespace Session

def runNote (name : String) (o : Outcome) : String :=
  "[" ++ baseName name ++ ": " ++ o.ending.state.word ++ " after " ++
    toString o.statements ++ " " ++ counted "statement" o.statements ++ "]\n"

def reload (fuel : Nat) (s : Session) (name : String) :
    Option (Except CommandError Unit × Session) :=
  match s.files.readProgram name with
  | .error e => some (.error e, s)
  | .ok p => do
    let (o, s) ← runProgram fuel { s with workspace := s.workspace.install p }
    match runResult o with
    | .error e => some (.error e, s)
    | .ok () => some (.ok (), s.write (runNote name o))

def errorText : Except CommandError Unit → String
  | .ok () => ""
  | .error e => "! " ++ e.message ++ "\n"

def reloadAll (fuel : Nat) : List String → Session → Option (String × Session)
  | [], s => some ("", s)
  | name :: rest, s => do
    let (r, s) ← s.reload fuel name
    let (errors, s) ← reloadAll fuel rest s
    some (errorText r ++ errors, s)

def finish (s : Session) (status : Nat) (errors : String) : Report :=
  ⟨status, s.host.console.text, errors, s.files, s.dumps⟩

def runOnce (fuel : Nat) (s : Session) : Option Report := do
  let (o, s) ← s.runProgram fuel
  match runResult o with
  | .ok () => some (s.finish 0 "")
  | .error e => some (s.finish 1 (errorText (.error e)))

def runFile (fuel : Nat) (s : Session) (name : String) (dump : Bool) : Option Report :=
  match s.files.readProgram name with
  | .error e => some (s.finish 1 ("minibasic: " ++ e.message ++ "\n"))
  | .ok p =>
    let s := { s with workspace := s.workspace.install p }
    if dump then
      match Action.dumpProgram.run s with
      | (.error e, s) => some (s.finish 1 (errorText (.error e)))
      | (.ok (), s) => s.runOnce fuel
    else s.runOnce fuel

def interact (fuel : Nat) (s : Session) : Option Report := do
  let (ending, s) ← s.loop fuel
  match ending with
  | .failed _ => some (s.finish 1 "")
  | _ => some (s.finish 0 "")

def directoryOf (name : String) : String :=
  let cs := name.toList
  String.ofList (cs.take (cs.length - (lastElement cs).length))

def watch (fuel : Nat) (s : Session) (name : String) : Option Report :=
  match programFilename name with
  | .error _ => some (s.finish 1 "")
  | .ok name =>
    let directory := directoryOf name
    if directory.isEmpty || s.files.exists? directory then do
      let (errors, s) ← s.reloadAll fuel [name]
      some (s.finish 0 errors)
    else some (s.finish 1 "")

end Session

namespace Launch

def session (l : Launch) (settings : Settings) : Session where
  workspace := Workspace.new .standard settings.options
  source := l.input
  input := none
  echo := false
  host := l.host
  files := l.files
  memory := l.memory
  prompt := settings.prompt
  keepsHistory := settings.history
  statistics := settings.statistics
  width := Session.defaultWidth
  filename := ""
  exiting := false
  history := []
  dumps := []

def refuse (l : Launch) (status : Nat) (errors : String) : Report :=
  ⟨status, [], errors, l.files, []⟩

def settingsNames (l : Launch) : List String :=
  let asked :=
    match Arguments.parse l.arguments with
    | .ok a => [a.config]
    | .error _ => []
  asked ++ [Settings.fileName, l.home ++ "/" ++ Settings.homeFileName]

def programNames (l : Launch) : List String :=
  let words :=
    (match Arguments.parse l.arguments with
      | .ok a => a.names
      | .error _ => []) ++
    (LineReader.linesFrom (l.input.rest.length + 1) l.input).map fun line =>
      (Session.splitCommand (Text.trimChars (Text.chars line))).2
  words.filterMap fun word => (programFilename word).toOption

def namesMisfit (a : Arguments) : Bool := 1 < a.names.length || (a.watch && a.names.isEmpty)

def run (fuel : Nat) (l : Launch) : Option Report :=
  match Arguments.parse l.arguments with
  | .error f => some (l.refuse 2 (f.message ++ Arguments.usage))
  | .ok a =>
    if namesMisfit a then some (l.refuse 2 Arguments.usage)
    else
      match Settings.load l.files l.home l.environment a.config with
      | .error f => some (l.refuse 1 ("minibasic: " ++ f.message ++ "\n"))
      | .ok (settings, _) =>
        let s := l.session settings
        match a.names with
        | [] => s.interact fuel
        | name :: _ => if a.watch then s.watch fuel name else s.runFile fuel name a.dump

end Launch

end LineBasic
