import LineBasic.Text.Bytes

/-!
The output of a program as the sequence of its writes, each with what it was written for.
-/
namespace LineBasic

inductive Purpose where
  | result
  | trace
  | prompt
  deriving DecidableEq, Repr

structure Write where
  purpose : Purpose
  text : Bytes
  deriving DecidableEq, Repr

structure Console where
  writes : List Write
  size : Nat
  limit : Option Nat

namespace Console

def empty : Console := ⟨[], 0, none⟩

def accepts (c : Console) (text : Bytes) : Bool :=
  match c.limit with
  | none => true
  | some limit => c.size + text.length ≤ limit

def add (c : Console) (w : Write) : Console :=
  { c with writes := w :: c.writes, size := c.size + w.text.length }

def text (c : Console) : Bytes := c.writes.reverse.flatMap Write.text

def recent (n : Nat) : List Write → Bytes → Bytes
  | [], found => found
  | w :: older, found =>
    if n ≤ found.length then found else recent n older (w.text ++ found)

def occursIn (needle : Bytes) : Bytes → Bool
  | [] => needle.isEmpty
  | b :: rest => needle.isPrefixOf (b :: rest) || occursIn needle rest

def hasJustShown (c : Console) (needle : Bytes) : Bool :=
  match c.writes with
  | [] => needle.isEmpty
  | w :: _ => occursIn needle (recent (needle.length + w.text.length) c.writes [])

end Console

end LineBasic
