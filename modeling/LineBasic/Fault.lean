import LineBasic.Host.Cpu
import LineBasic.Number.Format
import LineBasic.Syntax.Statement
import LineBasic.Text.Bytes

/-!
What can go wrong while a statement is executed or a function is called, and how each fault is
worded.
-/
namespace LineBasic

inductive ArgumentProblem where
  | count (least most got : Nat)
  | limit (n : Int)
  | negative (x : Float)
  | notPositive (x : Float)
  | delayTooLong
  | emptyText

inductive TypeProblem where
  | mustBeNumeric (what : String)
  | negatedText
  | textOperand (op : ArithOp)

inductive Returning where
  | gosub (target : Int)
  | loop (name : String)

inductive Defect where
  | noDimensions
  | badCut (low high length : Int)
  | badDraw (n : Int)

inductive Stack where
  | gosubs
  | loops

inductive Fault where
  | divisionByZero
  | typeMismatch (p : TypeProblem)
  | badSubscript (shown : String)
  | wrongRank (name : String) (dims got : Nat)
  | outOfBounds (name : String) (index : List Int) (bound : Nat)
  | undimensioned (name : String)
  | badDimension (name : String) (dims : List Int)
  | tooManyElements (name : String) (dims : List Int)
  | internal (d : Defect)
  | noSuchLine (line : Int)
  | nextWithoutFor (name : String)
  | nextMismatch (name expected : String)
  | returnWithoutGosub
  | lastLine (r : Returning)
  | illegalNumber (text : Bytes) (name : String)
  | endOfInput
  | unknownFunction (name : String)
  | badArgument (function : String) (p : ArgumentProblem)
  | interrupted
  | stepLimit (limit : Int)
  | stackOverflow (s : Stack)
  | inputFailed (message : String)
  | outputClosed
  | cpuUnknown (source : String) (f : Cpu.StatFault)

def counted (word : String) (n : Int) : String := if n = 1 then word else word ++ "s"

def joinInts (ns : List Int) : String := ",".intercalate (ns.map toString)

def stackDepth : Nat := 1000

def ArgumentProblem.message : ArgumentProblem → String
  | count least most got =>
    if least = most then
      "expects " ++ toString least ++ " " ++ counted "argument" least ++ ", got " ++ toString got
    else
      "expects " ++ toString least ++ " to " ++ toString most ++ " arguments, got " ++ toString got
  | limit n => "limit must be > 0, got " ++ toString n
  | negative x => "negative argument " ++ Number.format x
  | notPositive x => "argument must be > 0, got " ++ Number.format x
  | delayTooLong => "delay longer than 24h0m0s"
  | emptyText => "empty string"

def TypeProblem.message : TypeProblem → String
  | mustBeNumeric what => what ++ " must be numeric"
  | negatedText => "cannot negate a string"
  | textOperand op => "string operand for '" ++ op.symbol.spelling ++ "'"

def Returning.shown : Returning → String
  | gosub target => "GOSUB " ++ toString target
  | loop name => "FOR " ++ name

def Defect.message : Defect → String
  | noDimensions => "minibasic: internal error: DIM with no dimensions"
  | badCut low high length =>
    "runtime error: slice bounds out of range [" ++ toString low ++ ":" ++ toString high ++
      "] with length " ++ toString length
  | badDraw _ => "invalid argument to Intn"

def Stack.word : Stack → String
  | gosubs => "GOSUB"
  | loops => "FOR"

def Fault.message : Fault → String
  | divisionByZero => "Division by 0"
  | typeMismatch p => "Data type error: " ++ p.message
  | badSubscript shown => "Subscript out of range: " ++ shown
  | wrongRank name dims got =>
    "Subscript out of range: " ++ name ++ " has " ++ toString dims ++ " " ++
      counted "dimension" dims ++ ", got " ++ toString got
  | outOfBounds name index bound =>
    "Subscript out of range: " ++ name ++ "(" ++ joinInts index ++ "), bounds are 1.." ++
      toString bound
  | undimensioned name => "Array not dimensioned: " ++ name
  | badDimension name dims => "Array dimension must be > 0: " ++ name ++ "(" ++ joinInts dims ++ ")"
  | tooManyElements name dims =>
    "Array dimension must be > 0: " ++ name ++ "(" ++ joinInts dims ++ ") is too large"
  | internal d => d.message
  | noSuchLine line => "Jump to nonexistent line: " ++ toString line
  | nextWithoutFor name => "NEXT without FOR: NEXT " ++ name
  | nextMismatch name expected =>
    "NEXT variable does not match FOR: NEXT " ++ name ++ ", expected NEXT " ++ expected
  | returnWithoutGosub => "RETURN without GOSUB"
  | lastLine r => "Statement not allowed on last line: " ++ r.shown
  | illegalNumber text name => "Illegal number: " ++ text.quote ++ " for " ++ name
  | endOfInput => "End of input"
  | unknownFunction name => "Unknown function: " ++ name
  | badArgument function p => "Illegal argument: " ++ function ++ ": " ++ p.message
  | interrupted => "Interrupted: context canceled"
  | stepLimit limit => "Statement limit exceeded: " ++ toString limit ++ " statements"
  | stackOverflow s =>
    "Stack overflow: " ++ s.word ++ " nested deeper than " ++ toString stackDepth
  | inputFailed message => message
  | outputClosed => "output closed"
  | cpuUnknown source f => "CPU: " ++ source ++ ": " ++ f.message

end LineBasic
