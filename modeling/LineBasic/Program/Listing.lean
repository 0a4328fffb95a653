import LineBasic.Text.Quoted
import LineBasic.Text.Space

/-!
The text of a program: numbered lines in ascending order, and whether it has changed since it was
last read or written.
-/
namespace LineBasic

structure Line where
  number : Int
  text : String
  deriving DecidableEq, Repr

def Line.shown (l : Line) : String := toString l.number ++ " " ++ l.text

inductive LineNumberFault where
  | text (s : String)
  | number (n : Int)
  deriving DecidableEq, Repr

def LineNumberFault.message : LineNumberFault → String
  | text s => "Illegal line number: " ++ Text.quote s
  | number n => "Illegal line number: " ++ toString n

structure Listing where
  lines : List Line
  count : Nat
  modified : Bool
  counted : count = lines.length
  deriving DecidableEq, Repr

namespace Listing

def empty : Listing := ⟨[], 0, false, rfl⟩

def insertLine (l : Line) : List Line → List Line
  | [] => [l]
  | m :: rest => if l.number < m.number then l :: m :: rest else m :: insertLine l rest

def replaceLine (l : Line) : List Line → List Line
  | [] => []
  | m :: rest => if m.number = l.number then l :: rest else m :: replaceLine l rest

theorem insertLineLength (l : Line) (lines : List Line) :
    (insertLine l lines).length = lines.length + 1 := by
  induction lines with
  | nil => rfl
  | cons m rest ih =>
      unfold insertLine
      split <;> simp [ih]

theorem replaceLineLength (l : Line) (lines : List Line) :
    (replaceLine l lines).length = lines.length := by
  induction lines with
  | nil => rfl
  | cons m rest ih =>
      unfold replaceLine
      split <;> simp [ih]

def lookup? (p : Listing) (number : Int) : Option String :=
  (p.lines.find? fun l => l.number == number).map Line.text

def has (p : Listing) (number : Int) : Bool := p.lines.any fun l => l.number == number

theorem deleteCounted {p : Listing} {number : Int} (found : p.has number = true) :
    p.count - 1 = (p.lines.eraseP fun l => l.number == number).length := by
  rw [p.counted, List.length_eraseP]
  exact (if_pos found).symm

def delete (p : Listing) (number : Int) : Bool × Listing :=
  if found : p.has number then
    (true, ⟨p.lines.eraseP fun l => l.number == number, p.count - 1, true, deleteCounted found⟩)
  else (false, p)

def deleteAll (p : Listing) (lines : List Line) : Listing :=
  lines.foldl (fun p l => (p.delete l.number).2) p

def put (p : Listing) (l : Line) : Listing :=
  if p.has l.number then
    ⟨replaceLine l p.lines, p.count, true, p.counted.trans (replaceLineLength l p.lines).symm⟩
  else
    ⟨insertLine l p.lines, p.count + 1, true, by rw [insertLineLength, p.counted]⟩

def set (p : Listing) (number : Int) (text : String) : Except LineNumberFault Listing :=
  if number ≤ 0 then .error (.number number)
  else
    let text := Text.trim text
    if text.isEmpty then .ok (p.delete number).2 else .ok (p.put ⟨number, text⟩)

def between (p : Listing) (low high : Int) : List Line :=
  p.lines.filter fun l => low ≤ l.number && l.number ≤ high

def bounds (p : Listing) : Int × Int :=
  match p.lines.head?, p.lines.getLast? with
  | some first, some last => (first.number, last.number)
  | _, _ => (0, 0)

def size (p : Listing) : Nat := p.count

def saved (p : Listing) : Listing := { p with modified := false }

end Listing

end LineBasic
