import LineBasic.Program.Record
import LineBasic.Run.Machine

/-!
A workspace: the program being edited, the variables that stay from one run to the next, the
functions and the options.
-/
namespace LineBasic

structure Workspace where
  listing : Listing
  vars : Variables
  functions : Functions
  options : Options

structure Outcome where
  ending : Ending
  line : Int
  statements : Nat

def Outcome.error? (o : Outcome) : Option ProgramError := o.ending.error?

def ProgramError.line : ProgramError → Int
  | noProgram => 0
  | outOfOrder => 0
  | badSyntax line _ => line
  | fault line _ => line

namespace Workspace

def new (functions : Functions) (options : Options) : Workspace :=
  ⟨.empty, .empty, functions, options⟩

def reset (w : Workspace) : Workspace := { w with listing := .empty, vars := .empty }

def install (w : Workspace) (p : Listing) : Workspace := { w with listing := p, vars := .empty }

def code (w : Workspace) : Except ProgramError Code :=
  if w.listing.size = 0 then .error .noProgram
  else Code.compile w.functions.has w.listing.lines

/-- Parses the whole program and runs it from its lowest line, for at most `fuel` statements. A
program that does not parse leaves everything as it is. -/
def run (fuel : Nat) (w : Workspace) (h : Host) : Option (Outcome × Workspace × Host) :=
  match w.code with
  | .error e => some (⟨.faulted e, e.line, 0⟩, w, h)
  | .ok code => do
    let (m, ending) ← Machine.run ⟨code, w.functions, w.options⟩ fuel (Machine.start w.vars h)
    some (⟨ending, m.line, m.steps⟩, { w with vars := m.vars }, m.host)

end Workspace

end LineBasic
