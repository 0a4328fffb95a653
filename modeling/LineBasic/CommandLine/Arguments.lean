import LineBasic.Text.Quoted

/-!
The arguments of the command line: switches, the name of a settings file, and after them the names
of program files.
-/
namespace LineBasic

structure Arguments where
  config : String
  watch : Bool
  dump : Bool
  verbose : Bool
  names : List String
  deriving DecidableEq, Repr

inductive ArgumentFault where
  | help
  | badSyntax (word : String)
  | undefined (flag : String)
  | missingValue (flag : String)
  | badTruth (value flag : String)
  deriving DecidableEq, Repr

def ArgumentFault.message : ArgumentFault → String
  | help => ""
  | badSyntax word => "bad flag syntax: " ++ word ++ "\n"
  | undefined flag => "flag provided but not defined: -" ++ flag ++ "\n"
  | missingValue flag => "flag needs an argument: -" ++ flag ++ "\n"
  | badTruth value flag =>
    "invalid boolean value " ++ Text.quote value ++ " for -" ++ flag ++ ": parse error\n"

namespace Arguments

def usage : String :=
  "Usage: minibasic [-config file] [-watch] [-dump] [-v] [program.bas]\n" ++
  "  -config string\n    \tconfiguration file\n" ++
  "  -dump\n    \tdump the parsed program before running it\n" ++
  "  -v\tlog debug messages\n" ++
  "  -watch\n    \trerun the program whenever its file changes\n"

def initial : Arguments := ⟨"", false, false, false, []⟩

inductive Switch where
  | watch
  | dump
  | verbose
  deriving DecidableEq, Repr

def Switch.ofName? : String → Option Switch
  | "watch" => some watch
  | "dump" => some dump
  | "v" => some verbose
  | _ => none

def set (a : Arguments) (b : Bool) : Switch → Arguments
  | .watch => { a with watch := b }
  | .dump => { a with dump := b }
  | .verbose => { a with verbose := b }

def truth? : String → Option Bool
  | "1" => some true
  | "t" => some true
  | "T" => some true
  | "TRUE" => some true
  | "true" => some true
  | "True" => some true
  | "0" => some false
  | "f" => some false
  | "F" => some false
  | "FALSE" => some false
  | "false" => some false
  | "False" => some false
  | _ => none

inductive Word where
  | name
  | endOfFlags
  | malformed
  | flag (name : String) (value : Option String)

def Word.ofFlag : List Char → Word
  | [] => malformed
  | c :: rest =>
    let name := rest.takeWhile (· != '=')
    if c == '-' || c == '=' then malformed
    else
      flag (String.ofList (c :: name))
        (match rest.drop name.length with
          | [] => none
          | _ :: value => some (String.ofList value))

def Word.read (word : String) : Word :=
  match word.toList with
  | ['-'] => name
  | ['-', '-'] => endOfFlags
  | '-' :: '-' :: rest => ofFlag rest
  | '-' :: rest => ofFlag rest
  | _ => name

def parseFrom (a : Arguments) : List String → Except ArgumentFault Arguments
  | [] => .ok a
  | word :: rest =>
    match Word.read word with
    | .name => .ok { a with names := word :: rest }
    | .endOfFlags => .ok { a with names := rest }
    | .malformed => .error (.badSyntax word)
    | .flag "config" (some value) => parseFrom { a with config := value } rest
    | .flag "config" none =>
      match rest with
      | value :: rest => parseFrom { a with config := value } rest
      | [] => .error (.missingValue "config")
    | .flag name value =>
      match Switch.ofName? name with
      | some s =>
        match truth? (value.getD "true") with
        | some b => parseFrom (a.set b s) rest
        | none => .error (.badTruth (value.getD "") name)
      | none =>
        .error (if name == "help" || name == "h" then .help else .undefined name)

def parse (words : List String) : Except ArgumentFault Arguments := initial.parseFrom words

end Arguments

end LineBasic
