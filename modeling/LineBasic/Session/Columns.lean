/-!
Words laid out in columns, read downwards.
-/
namespace LineBasic.Columns

def columnWidth (words : List String) : Nat :=
  (words.map String.utf8ByteSize).foldl max 0 + 2

def columnCount (width : Int) (columnWidth : Nat) : Nat :=
  (max 1 (Int.tdiv width columnWidth)).toNat

def pad (width : Nat) (word : String) : String :=
  word ++ String.ofList (List.replicate (width - word.length) ' ')

def row (words : List String) (columnWidth rows r : Nat) : Nat → Nat → String
  | 0, _ => ""
  | columns + 1, c =>
    match words[c * rows + r]? with
    | none => ""
    | some word =>
      if columns = 0 ∨ words.length ≤ (c + 1) * rows + r then word
      else pad columnWidth word ++ row words columnWidth rows r columns (c + 1)

def layout (words : List String) (width : Int) : List String :=
  let w := columnWidth words
  let columns := columnCount width w
  let rows := (words.length + columns - 1) / columns
  (List.range rows).map fun r => row words w rows r columns 0

end LineBasic.Columns
