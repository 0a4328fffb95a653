import LineBasic.Fault
import LineBasic.Program.Listing
import LineBasic.Syntax.Parser

/-!
A program in parsed form: the statements of every line, in line order.
-/
namespace LineBasic

inductive ProgramError where
  | noProgram
  | outOfOrder
  | badSyntax (line : Int) (f : SyntaxFault)
  | fault (line : Int) (f : Fault)

def atLine (line : Int) (message : String) : String :=
  if line = 0 then message else "line " ++ toString line ++ ": " ++ message

def ProgramError.message : ProgramError → String
  | noProgram => "No program loaded"
  | outOfOrder => "minibasic: internal error: program lines out of order"
  | badSyntax line f => atLine line f.message
  | fault line f => atLine line f.message

structure CodeLine where
  number : Int
  body : Body
  deriving Inhabited

structure Code where
  lines : Array CodeLine

namespace Code

def parseFrom (isFunction : String → Bool) (last : Option Int) :
    List Line → Except ProgramError (List CodeLine)
  | [] => .ok []
  | l :: rest =>
    match parseLine isFunction l.text with
    | .error f => .error (.badSyntax l.number f)
    | .ok body =>
      if last.any (l.number ≤ ·) then .error .outOfOrder
      else do
        let more ← parseFrom isFunction (some l.number) rest
        .ok (⟨l.number, body⟩ :: more)

def compile (isFunction : String → Bool) (lines : List Line) : Except ProgramError Code := do
  let parsed ← parseFrom isFunction none lines
  .ok ⟨parsed.toArray⟩

def find? (c : Code) (number : Int) : Option Nat := c.lines.findIdx? fun l => l.number == number

def after? (c : Code) (pc : Nat) : Option Int := c.lines[pc + 1]?.map CodeLine.number

end Code

end LineBasic
