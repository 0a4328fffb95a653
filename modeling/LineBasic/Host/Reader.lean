import LineBasic.Text.Bytes

/-!
Input read line by line.
-/
namespace LineBasic

inductive ReadFault where
  | ended
  | failed (message : String)
  deriving DecidableEq, Repr

structure LineReader where
  rest : Bytes
  failure : Option String
  deriving DecidableEq, Repr

namespace LineReader

def ofText (text : String) (failure : Option String) : LineReader := ⟨Bytes.ofString text, failure⟩

def newline : UInt8 := 0x0A
def carriageReturn : UInt8 := 0x0D

def stripReturns (line : Bytes) : Bytes := (line.reverse.dropWhile (· == carriageReturn)).reverse

-- a last line without a terminator counts, unless the input fails there
def readLine (r : LineReader) : Except ReadFault Bytes × LineReader :=
  let line := r.rest.takeWhile (· != newline)
  match r.rest.drop line.length with
  | _ :: rest => (.ok (stripReturns line), { r with rest })
  | [] =>
    match r.failure with
    | some message => (.error (.failed message), { r with rest := [] })
    | none =>
      if line.isEmpty then (.error .ended, r)
      else (.ok (stripReturns line), { r with rest := [] })

def linesFrom : Nat → LineReader → List Bytes
  | 0, _ => []
  | fuel + 1, r =>
    match r.readLine with
    | (.ok line, r) => line :: linesFrom fuel r
    | (.error _, _) => []

def lines (text : Bytes) : List Bytes := linesFrom (text.length + 1) ⟨text, none⟩

end LineReader

structure InputChannel where
  reader : LineReader
  drawsPrompt : Bool
  prompts : List String

end LineBasic
