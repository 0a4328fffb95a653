import LineBasic.Run.Workspace
import LineBasic.Session.Columns
import LineBasic.Session.Command
import LineBasic.Session.Statistics

/-!
A session: a workspace edited by numbered lines and commands that come from a source of lines,
with files to load from and save to.
-/
namespace LineBasic

structure DumpedLine where
  number : Int
  text : String
  body : Body

inductive Dump where
  | line (l : DumpedLine)
  | program (ls : List DumpedLine)
  | memory (vs : Variables)

def Dump.heading : Dump → String
  | line _ => "#line\n"
  | program _ => "#program\n"
  | memory _ => "#variables\n"

structure Session where
  workspace : Workspace
  source : LineReader
  input : Option LineReader
  echo : Bool
  host : Host
  files : Files
  memory : UInt64
  prompt : String
  keepsHistory : Bool
  statistics : Bool
  width : Int
  filename : String
  exiting : Bool
  history : List String
  dumps : List Dump

abbrev Action := ExceptT CommandError (StateM Session)

namespace Session

def defaultWidth : Int := 80

def write (s : Session) (text : String) : Session :=
  { s with host := s.host.writeAnyway .result (Bytes.ofString text) }

def ask (s : Session) (prompt : String) : Except ReadFault String × Session :=
  let s :=
    if s.echo && !prompt.isEmpty then
      { s with host := s.host.writeAnyway .prompt (Bytes.ofString prompt) }
    else s
  let (line, source) := s.source.readLine
  (line.map Bytes.toText, { s with source })

def confirm (prompt : String) : Nat → Session → Bool × Session
  | 0, s => (false, s)
  | fuel + 1, s =>
    match s.ask prompt with
    | (.error _, s) => (false, s)
    | (.ok line, s) =>
      match Text.lowerAscii (Text.trim line) with
      | "yes" => (true, s)
      | "y" => (true, s)
      | "no" => (false, s)
      | "n" => (false, s)
      | _ => confirm prompt fuel (s.write "Answer yes or no!\n")

end Session

namespace Action

def fail {α : Type} (e : CommandError) : Action α := fun s => (.error e, s)

def say (text : String) : Action Unit := fun s => (.ok (), s.write text)

def sayLines : List String → Action Unit
  | [] => pure ()
  | line :: rest => do
    say (line ++ "\n")
    sayLines rest

def setListing (p : Listing) : Action Unit :=
  modify fun s => { s with workspace := { s.workspace with listing := p } }

def checkModified : Action Unit := fun s =>
  if s.workspace.listing.modified then
    match s.confirm "Discard modified program (yes/no)? " (s.source.rest.length + 2) with
    | (true, s) => (.ok (), s)
    | (false, s) => (.error .notSaved, s)
  else (.ok (), s)

def editLine (line : String) : Action Unit := do
  let p := (← get).workspace.listing
  match splitLine line with
  | .error f => fail (.lineNumber f)
  | .ok l =>
    if l.text.isEmpty then
      match p.delete l.number with
      | (true, p) => setListing p
      | (false, _) => fail (.noLine l.number)
    else
      match p.set l.number l.text with
      | .ok p => setListing p
      | .error f => fail (.lineNumber f)

def bye : Action Unit := do
  checkModified
  modify fun s => { s with exiting := true }

def parseRange (text : String) : Action LineRange :=
  match LineRange.parse text with
  | .ok r => pure r
  | .error f => fail (.range f)

def delete (arg : String) : Action Unit := do
  if arg.isEmpty then fail .rangeNeeded
  else
    let r ← parseRange arg
    let p := (← get).workspace.listing
    let lines := p.between r.low r.high
    if lines.isEmpty then fail (.noLinesIn arg)
    else setListing (p.deleteAll lines)

def list (arg : String) : Action Unit := do
  let r ← if arg.isEmpty then pure LineRange.all else parseRange arg
  let p := (← get).workspace.listing
  sayLines ((p.between r.low r.high).map Line.shown)

def new : Action Unit := do
  checkModified
  modify fun s => { s with workspace := s.workspace.reset, filename := "" }

def load (arg : String) : Action Unit := do
  checkModified
  match programFilename arg with
  | .error f => fail (.fileName f)
  | .ok name =>
    match (← get).files.readProgram name with
    | .error e => fail e
    | .ok p =>
      if p.size = 0 then say ("File " ++ name ++ " is empty?\n")
      modify fun s => { s with workspace := s.workspace.install p, filename := name }

def saveName (arg : String) : Action String := do
  if arg.isEmpty then pure (← get).filename
  else
    match programFilename arg with
    | .ok name => pure name
    | .error f => fail (.fileName f)

def save (arg : String) : Action Unit := do
  let name ← saveName arg
  let s ← get
  let p := s.workspace.listing
  if name.isEmpty then fail .filenameRequired
  else if p.size = 0 then fail (.program .noProgram)
  else
    match s.files.write name p.save with
    | .error f => fail (.file f)
    | .ok files =>
      modify fun s => { s with files, filename := name }
      setListing p.saved

def onOff (b : Bool) : String := if b then "ON" else "OFF"

def toggleStatistics : Action Unit := do
  modify fun s => { s with statistics := !s.statistics }
  say ("Statistics " ++ onOff (← get).statistics ++ "\n")

def traceWord (o : Options) (word : String) : Except CommandError (Options × String) :=
  let name := Text.upper word
  if name = "EXEC" then
    let b := !o.traceLines
    .ok ({ o with traceLines := b }, "toggling traceExec " ++ onOff b ++ "\n")
  else if name = "VARS" then
    let b := !o.traceVariables
    .ok ({ o with traceVariables := b }, "toggling traceVars " ++ onOff b ++ "\n")
  else if name = "OFF" then
    .ok ({ o with traceLines := false, traceVariables := false, traced := [] },
      "Tracing disabled\n")
  else if isVariableName name then
    let text := "Tracing variable " ++ Text.quote name
    if o.traced.contains name then
      .ok ({ o with traceVariables := false, traced := o.traced.filter (· != name) },
        text ++ " disabled\n")
    else .ok ({ o with traceVariables := false, traced := name :: o.traced }, text ++ " enabled\n")
  else .error (.notAVariable word)

def traceWords (o : Options) : List String → Action Options
  | [] => pure o
  | word :: rest => do
    match traceWord o word with
    | .error e => fail e
    | .ok (o, text) =>
      say text
      traceWords o rest

def trace (arg : String) : Action Unit := do
  let words := Text.fields arg
  if words.isEmpty then fail .traceWordNeeded
  else
    let o ← traceWords (← get).workspace.options words
    modify fun s => { s with workspace := { s.workspace with options := o } }

def help (arg : String) : Action Unit := do
  if arg.isEmpty then
    let words := Command.all.map fun c => Text.lowerAscii c.name
    sayLines (Columns.layout words (← get).width)
  else
    match Command.ofName? arg with
    | none => fail (.noHelp arg)
    | some c =>
      sayLines c.description
      if !c.aliases.isEmpty then
        say ("\talso: " ++ Text.lowerAscii (", ".intercalate c.aliases) ++ "\n")

def emitDump (d : Dump) : Action Unit :=
  modify fun s => { s.write d.heading with dumps := d :: s.dumps }

def dumpedLines (w : Workspace) : Except ProgramError (List DumpedLine) := do
  let code ← w.code
  .ok (code.lines.toList.map fun l =>
    ⟨l.number, (w.listing.lookup? l.number).getD "", l.body⟩)

def dumpProgram : Action Unit := do
  match dumpedLines (← get).workspace with
  | .error e => fail (.program e)
  | .ok lines => emitDump (.program lines)

def dumpLine (n : Int) : Action Unit := do
  let w := (← get).workspace
  match w.listing.lookup? n with
  | none => fail (.noLine n)
  | some text =>
    match parseLine w.functions.has text with
    | .error f => fail (.program (.badSyntax 0 f))
    | .ok body => emitDump (.line ⟨n, text, body⟩)

def dump (arg : String) : Action Unit := do
  if arg.isEmpty then
    dumpProgram
    emitDump (.memory (← get).workspace.vars)
  else
    match LineRange.readBound arg.toList with
    | .error f => fail (.range f)
    | .ok n => dumpLine n

def command (arg : String) : Command → Action Unit
  | .bye => bye
  | .delete => delete arg
  | .dump => dump arg
  | .help => help arg
  | .list => list arg
  | .load => load arg
  | .new => new
  | .save => save arg
  | .stats => toggleStatistics
  | .trace => trace arg
  | .run => pure ()

end Action

namespace Session

def usage (before after : Host) : Option Statistics.Usage :=
  let b := before.meter.times
  let a := after.meter.times
  match b.fault?, a.fault? with
  | none, none =>
    some ⟨((after.waited : Int) - before.waited) * 1000000, a.user - b.user, a.system - b.system⟩
  | _, _ => none

def writeAll (s : Session) (texts : List String) : Session := texts.foldl write s

def afterRun (s : Session) (w : Workspace) (h : Host) : Session :=
  let s := { s with workspace := w, host := { h with input := none } }
  match h.input, s.input with
  | some channel, some _ => { s with input := some channel.reader }
  | some channel, none => { s with source := channel.reader }
  | none, _ => s

def runProgram (fuel : Nat) (s : Session) : Option (Outcome × Session) := do
  let host := { s.host with input := some ⟨s.input.getD s.source, false, []⟩ }
  let (o, w, h) ← s.workspace.run fuel host
  let after := s.afterRun w h
  if s.statistics then
    some (o, after.writeAll (Statistics.lines (usage host h) s.memory o.statements))
  else some (o, after)

def runResult (o : Outcome) : Except CommandError Unit :=
  match o.error? with
  | some e => .error (.program e)
  | none => .ok ()

def splitCommand (line : List Char) : String × String :=
  let name := line.takeWhile (· != ' ')
  (Text.upper (String.ofList name),
    String.ofList (Text.trimChars (line.drop name.length)))

/-- Handles one line: a numbered line edits the program, anything else is a command. There is no
result if a run does not end within `fuel` statements. -/
def execute (fuel : Nat) (s : Session) (line : String) :
    Option (Except CommandError Unit × Session) :=
  let cs := Text.trimChars line.toList
  match cs with
  | [] => some (.ok (), s)
  | c :: _ =>
    if c.isDigit then some ((Action.editLine line).run s)
    else
      let (name, arg) := splitCommand cs
      match Command.ofName? name with
      | none => some (.error (.unknownCommand name), s)
      | some .run => do
        let (o, s) ← s.runProgram fuel
        some (runResult o, s)
      | some command => some ((Action.command arg command).run s)

inductive LoopEnd where
  | finished
  | interrupted
  | failed (message : String)

def LoopEnd.message? : LoopEnd → Option String
  | finished => none
  | interrupted => some "context canceled"
  | failed message => some message

def remember (s : Session) (line : String) : Session :=
  if s.keepsHistory then { s with history := line :: s.history } else s

def report (s : Session) : Except CommandError Unit → Session
  | .ok () => s
  | .error e => s.write ("! " ++ e.message ++ "\n")

def loopFor (fuel : Nat) : Nat → Session → Option (LoopEnd × Session)
  | 0, _ => none
  | lines + 1, s =>
    if s.exiting then some (.finished, s)
    else if s.host.interrupted then some (.interrupted, s)
    else
      match s.ask s.prompt with
      | (.error .ended, s) => some (.finished, s)
      | (.error (.failed message), s) => some (.failed message, s)
      | (.ok line, s) =>
        let line := Text.trim line
        if line.isEmpty then loopFor fuel lines s
        else do
          let (r, s) ← (s.remember line).execute fuel line
          loopFor fuel lines (s.report r)

def loop (fuel : Nat) (s : Session) : Option (LoopEnd × Session) :=
  -- every line is taken from the source, so their number bounds the loop
  loopFor fuel (s.source.rest.length + 2) s

end Session

end LineBasic
