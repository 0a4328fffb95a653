import LineBasic.Program.Listing
import LineBasic.Text.Integer

/-!
A program as a text of records, one line each: its number, a blank, and its text.
-/
namespace LineBasic

def splitLine (s : String) : Except LineNumberFault Line :=
  let cs := Text.trimChars s.toList
  let digits := cs.takeWhile Char.isDigit
  if digits.isEmpty then .error (.text (String.ofList cs))
  else
    match Text.readInteger digits with
    | .ok n =>
      if n ≤ 0 then .error (.text (String.ofList digits))
      else .ok ⟨n, String.ofList (Text.trimChars (cs.drop digits.length))⟩
    | .error _ => .error (.text (String.ofList digits))

inductive LoadFault where
  | record (number : Nat) (f : LineNumberFault)
  | recordTooLong
  deriving DecidableEq, Repr

def LoadFault.message : LoadFault → String
  | record number f => "record " ++ toString number ++ ": " ++ f.message
  | recordTooLong => "bufio.Scanner: token too long"

def recordLimit : Nat := 65536

def recordsFrom (current : List Char) : List Char → List (List Char) → List (List Char)
  | [], done => (if current.isEmpty then done else current.reverse :: done).reverse
  | c :: rest, done =>
    if c = '\n' then recordsFrom [] rest (current.reverse :: done)
    else recordsFrom (c :: current) rest done

def records (text : String) : List String := (recordsFrom [] text.toList []).map String.ofList

namespace Listing

def addRecords (p : Listing) (n : Nat) : List String → Except LoadFault Listing
  | [] => .ok p
  | r :: rest =>
    if recordLimit ≤ r.utf8ByteSize then .error .recordTooLong
    else if Text.isBlank r then p.addRecords (n + 1) rest
    else
      match splitLine r with
      | .error f => .error (.record n f)
      | .ok l =>
        if l.text.isEmpty then p.addRecords (n + 1) rest
        else
          match p.set l.number l.text with
          | .error f => .error (.record n f)
          | .ok p => p.addRecords (n + 1) rest

def load (text : String) : Except LoadFault Listing :=
  (empty.addRecords 1 (records text)).map saved

def save (p : Listing) : String := String.join (p.lines.map fun l => l.shown ++ "\n")

end Listing

def fileSuffix : String := ".bas"

inductive FileNameFault where
  | missing
  | wrongSuffix (name : String)
  deriving DecidableEq, Repr

def FileNameFault.message : FileNameFault → String
  | missing => "missing file name"
  | wrongSuffix name => Text.quote name ++ ": program files must end in " ++ fileSuffix

def lastElement (cs : List Char) : List Char := (cs.reverse.takeWhile (· != '/')).reverse

def baseName (name : String) : String :=
  let cs := (name.toList.reverse.dropWhile (· == '/')).reverse
  if cs.isEmpty then "/" else String.ofList (lastElement cs)

def extension (name : List Char) : List Char :=
  let element := lastElement name
  if element.contains '.' then '.' :: (element.reverse.takeWhile (· != '.')).reverse else []

def programFilename (name : String) : Except FileNameFault String :=
  let name := Text.trim name
  if name.isEmpty then .error .missing
  else
    let suffix := String.ofList (extension name.toList)
    if suffix.isEmpty then .ok (name ++ fileSuffix)
    else if suffix = fileSuffix then .ok name
    else .error (.wrongSuffix name)

end LineBasic
