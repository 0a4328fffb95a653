import LineBasic.Function.Table
import LineBasic.Text.Lowering

/-!
Functions of texts. Positions count characters from 1.
-/
namespace LineBasic.Function

def str : NamedFunction := ofOne "STR$" fun v => pure (.text v.asText)

def val : NamedFunction := ofOne "VAL" fun v => pure (.number (Value.text v.asText).asNumber)

def len : NamedFunction := ofOne "LEN" fun v =>
  pure (.number (Float.ofNat (Text.chars v.asText).length))

def cut (s : List Char) (low high : Int) : Except Defect (List Char) :=
  if 0 ≤ low ∧ low ≤ high ∧ high ≤ s.length then .ok ((s.take high.toNat).drop low.toNat)
  else .error (.badCut low high s.length)

def atMostAll (s : List Char) (n : Int) : Int := min (max n 0) s.length

def leftChars (s : List Char) (n : Int) : Except Defect (List Char) := cut s 0 (atMostAll s n)

def rightChars (s : List Char) (n : Int) : Except Defect (List Char) :=
  cut s (s.length - atMostAll s n) s.length

def midChars (s : List Char) (start : Int) (count : Option Int) : Except Defect (List Char) :=
  let offset := max start 1 - 1
  let count := count.getD s.length
  if count ≤ 0 ∨ s.length ≤ offset then .ok []
  else cut s offset (offset + min count (s.length - offset))

def cutText (cs : Except Defect (List Char)) : Effect Value := do
  let cs ← Effect.unlessDefect cs
  pure (.text (Text.encode cs))

def left : NamedFunction := ofTwo "LEFT$" fun s n =>
  cutText (leftChars (Text.chars s.asText) n.asInteger)

def right : NamedFunction := ofTwo "RIGHT$" fun s n =>
  cutText (rightChars (Text.chars s.asText) n.asInteger)

def mid : NamedFunction := ofTwoOrThree "MID$"
  (fun s start => cutText (midChars (Text.chars s.asText) start.asInteger none))
  fun s start count => cutText (midChars (Text.chars s.asText) start.asInteger count.asInteger)

/-- The first position of `sub` in `s` at or after `start`, at least 1, or 0. The search compares
bytes: those of `sub` as they are, with those that the characters of `s` are encoded in. An empty
text is found at `start` up to one past the end. -/
def position (s : List Char) (sub : Bytes) (start : Int) : Except Defect Nat :=
  let start := max start 1
  if sub.isEmpty then .ok (if start ≤ s.length + 1 then start.toNat else 0)
  else if s.length < start then .ok 0
  else (cut s (start - 1) s.length).map fun tail =>
    let tail := Text.encode tail
    match Text.offsetOf sub tail with
    | none => 0
    | some offset => start.toNat + (Text.chars (tail.take offset)).length

def foundAt (s sub : Value) (start : Int) : Effect Value := do
  let pos ← Effect.unlessDefect (position (Text.chars s.asText) sub.asText start)
  pure (.number (Float.ofNat pos))

def instr : NamedFunction := ofTwoOrThree "INSTR" (fun s sub => foundAt s sub 1)
  fun start s sub => foundAt s sub start.asInteger

def chr : NamedFunction := ofOne "CHR$" fun v =>
  pure (.text (Text.encode [Char.ofNat (min 255 (max 0 v.asInteger)).toNat]))

def asc : NamedFunction := ofOne "ASC" fun v =>
  match Text.chars v.asText with
  | c :: _ => pure (.number (Float.ofNat (c.toNat % 256)))
  | [] => Effect.fault (.badArgument "ASC" .emptyText)

def caseMapper (name : String) (f : Bytes → Bytes) : NamedFunction := ofOne name fun v =>
  pure (.text (f v.asText))

def textFunctions : List NamedFunction :=
  [str, val, len, left, right, mid, instr, chr, asc, caseMapper "UCASE$" Text.fullUpper,
    caseMapper "LCASE$" Text.fullLower]

end LineBasic.Function
