import LineBasic.Host.Files
import LineBasic.Program.Code
import LineBasic.Program.Record
import LineBasic.Session.LineRange
import LineBasic.Syntax.Keyword

/-!
The commands of a session: their names, what HELP says about them, and how each can fail.
-/
namespace LineBasic

inductive Command where
  | bye
  | delete
  | dump
  | help
  | list
  | load
  | new
  | run
  | save
  | stats
  | trace
  deriving DecidableEq, Repr

namespace Command

def name : Command → String
  | bye => "BYE"
  | delete => "DELETE"
  | dump => "DUMP"
  | help => "HELP"
  | list => "LIST"
  | load => "LOAD"
  | new => "NEW"
  | run => "RUN"
  | save => "SAVE"
  | stats => "STATS"
  | trace => "TRACE"

def aliases : Command → List String
  | bye => ["EXIT", "QUIT"]
  | load => ["OLD"]
  | _ => []

def description : Command → List String
  | bye => ["Exit from minibasic"]
  | delete => ["Delete a line or a range of lines", "\tdelete 100", "\tdelete 100-200"]
  | dump => ["Dump the parsed form of a line, or the program and variables"]
  | help => ["List the commands, or describe one"]
  | list =>
    ["List the program or a range of lines", "\tlist 100", "\tlist 100-200", "\tlist -200"]
  | load => ["Load an existing program"]
  | new => ["Erase the current program and variables"]
  | run => ["Execute the current program"]
  | save => ["Save the current program, optionally specifying a new filename"]
  | stats => ["Toggle printing execution statistics when the program stops"]
  | trace =>
    ["Toggle tracing of line execution or variable changes", "\ttrace exec", "\ttrace vars",
      "\ttrace <variable name>", "\ttrace off"]

def all : List Command :=
  [bye, delete, dump, help, list, load, new, run, save, stats, trace]

def ofName? (name : String) : Option Command :=
  let name := Text.upper name
  all.find? fun c => c.name == name || c.aliases.contains name

end Command

inductive CommandError where
  | unknownCommand (name : String)
  | noLine (number : Int)
  | lineNumber (f : LineNumberFault)
  | notSaved
  | rangeNeeded
  | range (f : LineRange.RangeFault)
  | noLinesIn (text : String)
  | fileName (f : FileNameFault)
  | file (f : FileFault)
  | badProgram (name : String) (f : LoadFault)
  | unreadableProgram (name : String) (f : FileFault)
  | filenameRequired
  | traceWordNeeded
  | notAVariable (word : String)
  | noHelp (name : String)
  | program (e : ProgramError)

def CommandError.message : CommandError → String
  | unknownCommand name => "Unknown command " ++ name
  | noLine number => "No line " ++ toString number
  | lineNumber f => f.message
  | notSaved => "Please save the current program first"
  | rangeNeeded => "DELETE needs a line or range of lines"
  | range f => f.message
  | noLinesIn text => "No lines in " ++ text
  | fileName f => f.message
  | file f => f.message
  | badProgram name f => name ++ ": " ++ f.message
  | unreadableProgram name f => name ++ ": " ++ f.message
  | filenameRequired => "Filename required"
  | traceWordNeeded => "TRACE needs EXEC, VARS, OFF or a variable name"
  | notAVariable word => Text.quote word ++ " is not a variable name"
  | noHelp name => "No help for " ++ name
  | program e => e.message

def Files.readProgram (fs : Files) (name : String) : Except CommandError Listing :=
  match programFilename name with
  | .error f => .error (.fileName f)
  | .ok name =>
    match fs.read name with
    | .error f =>
      match f.action with
      | .open => .error (.file f)
      | .read => .error (.unreadableProgram name f)
    | .ok text =>
      match Listing.load text with
      | .error f => .error (.badProgram name f)
      | .ok p => .ok p

def isVariableName (name : String) : Bool :=
  let upper (c : Char) : Bool := 'A' ≤ c && c ≤ 'Z'
  match name.toList with
  | [] => false
  | c :: rest =>
    !isKeyword name && upper c &&
      rest.all fun c => upper c || c.isDigit || c == '$' || c == '_'

end LineBasic
