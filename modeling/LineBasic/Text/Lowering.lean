import LineBasic.Text.Case

/-!
Lower case of strings by the full mapping, with the final form of a sigma at the end of a word. A
string is converted in pieces that fit the room at hand, and no piece looks back: what follows the
boundary inside a word counts as a new word, in which a first sigma has the common form. Stray bytes
stay as they are and belong to no word.
-/
namespace LineBasic

namespace Rune

def isCased : Rune → Bool
  | char c => Text.isCased c
  | stray _ => false

def isCaseIgnorable : Rune → Bool
  | char c => Text.isCaseIgnorable c
  | stray _ => false

def lower : Rune → List Rune
  | char c => (Text.fullLowerChar c).map char
  | stray b => [stray b]

end Rune

namespace Text

def capitalSigma : Rune := .char 'Σ'
def smallSigma : Rune := .char 'σ'
def finalSigma : Rune := .char 'ς'

-- the number of bytes that runes take up
def width (rs : List Rune) : Nat := rs.foldl (fun n r => n + r.bytes.length) 0

/-! ### One piece -/

structure Lowered where
  written : List Rune
  rest : List Rune
  -- the conversion stopped because its next rune had no room
  full : Bool
  deriving DecidableEq, Repr

-- how many ignorable characters after a sigma are looked at for the rest of its word
def sigmaReach : Nat := 31

/-- The form of a sigma inside a word and the number of ignorable characters after it that are
passed over: the final form unless a cased character follows them. There is none where the piece
ends first and the string does not. -/
def sigmaBefore? (last : Bool) (rest : List Rune) : Option (Rune × Nat) :=
  let skipped := (rest.take sigmaReach).takeWhile Rune.isCaseIgnorable
  if skipped.length = sigmaReach then some (finalSigma, sigmaReach)
  else match rest.drop skipped.length with
    | r :: _ => some (if r.isCased then smallSigma else finalSigma, skipped.length)
    | [] => if last then some (finalSigma, skipped.length) else none

/-- Converts a piece, the last one of its string or not. `inWord` says whether a cased character
stands before with only ignorable or cased characters since, `kept` how many of the coming
characters were passed over by a sigma and stay as they are, `room` how many bytes can still be
written, and `done` is what has been written, the last rune first. -/
def lowerPiece (last inWord : Bool) (kept room : Nat) (done : List Rune) : List Rune → Lowered
  | [] => ⟨done.reverse, [], false⟩
  | r :: rest =>
    match kept with
    | k + 1 => lowerPiece last inWord k (room - width [r]) (r :: done) rest
    | 0 =>
      if inWord && r == capitalSigma then
        let skipped := (rest.take sigmaReach).takeWhile Rune.isCaseIgnorable
        if room < width [r] + width skipped then ⟨done.reverse, r :: rest, true⟩
        else match sigmaBefore? last rest with
          | some (sigma, k) => lowerPiece last true k (room - width [r]) (sigma :: done) rest
          | none => ⟨done.reverse, r :: rest, false⟩
      else
        let lower := if inWord || r.isCased then r.lower else [r]
        if room < width lower then ⟨done.reverse, r :: rest, true⟩
        else
          lowerPiece last (r.isCased || (inWord && r.isCaseIgnorable)) 0 (room - width lower)
            (lower.reverse ++ done) rest

/-! ### The pieces of a string -/

-- the greatest size of a piece, and the room there is at first
def pieceSize : Nat := 128

def pieceOf (size : Nat) : List Rune → List Rune
  | [] => []
  | r :: rest => if width [r] ≤ size then r :: pieceOf (size - width [r]) rest else []

def enlarged (room : Nat) : Nat :=
  if room ≤ 32 then 64 else if room ≤ 256 then 2 * room else room + room / 2

structure Lowering where
  total : Nat
  done : List Rune
  used : Nat
  rest : List Rune
  capacity : Option Nat
  deriving DecidableEq, Repr

def Lowering.capacityAfter (l : Lowering) (before : Nat) (taken written : List Rune) : Nat :=
  if 0 < before ∧ pieceSize < l.used + width written then l.total + width written - width taken
  else pieceSize

def Lowering.step (l : Lowering) : Lowering :=
  let piece := pieceOf pieceSize l.rest
  let room := match l.capacity with
    | none => pieceSize
    | some n => n - l.used
  let r := lowerPiece (piece.length = l.rest.length) false 0 room [] piece
  let taken := piece.take (piece.length - r.rest.length)
  let capacity := match l.capacity with
    | none =>
      if taken ≠ r.written then some (l.capacityAfter l.used taken r.written)
      else if r.full then some (l.capacityAfter (l.used + width taken) taken r.written)
      else none
    | some n => some (if r.full && r.written.isEmpty then enlarged n else n)
  { l with
    done := r.written.reverse ++ l.done
    used := l.used + width r.written
    rest := l.rest.drop taken.length
    capacity := capacity }

def Lowering.run : Nat → Lowering → Lowering
  | 0, l => l
  | fuel + 1, l => if l.rest.isEmpty then l else Lowering.run fuel l.step

def fullLower (s : Bytes) : Bytes :=
  let rs := runes s
  -- enlarged room is enough for one rune, so of two steps at least one takes a rune
  let l := Lowering.run (2 * rs.length + 2) ⟨s.length, [], 0, rs, none⟩
  l.done.reverse.flatMap Rune.bytes

end Text

end LineBasic
