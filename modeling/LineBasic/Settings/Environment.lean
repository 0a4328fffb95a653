/-!
References to environment variables inside a text: a dollar sign and, in braces, the name of a
variable, which may be followed by a colon, a minus and a fallback for when it has no value.
-/
namespace LineBasic

abbrev Environment := String → String

structure Reference where
  name : List Char
  fallback : Option (List Char)
  deriving DecidableEq, Repr

inductive Segment where
  | literal (c : Char)
  | reference (r : Reference)
  deriving DecidableEq, Repr

namespace Reference

def fallbackSpelling : Option (List Char) → List Char
  | none => []
  | some cs => ':' :: '-' :: cs

def spelling (r : Reference) : List Char :=
  '$' :: '\x7b' :: r.name ++ fallbackSpelling r.fallback ++ ['\x7d']

def value (env : Environment) (r : Reference) : List Char :=
  match (env (String.ofList r.name)).toList with
  | [] => r.fallback.getD []
  | cs => cs

def isNameChar (c : Char) : Bool := c != '\x7d' && c != ':'

def isFallbackChar (c : Char) : Bool := c != '\x7d'

def readEnd (name : List Char) : List Char → Option (Reference × List Char)
  | '\x7d' :: rest => some (⟨name, none⟩, rest)
  | ':' :: '-' :: rest =>
    let fallback := rest.takeWhile isFallbackChar
    match rest.drop fallback.length with
    | _ :: rest => some (⟨name, some fallback⟩, rest)
    | [] => none
  | _ => none

def read? : List Char → Option (Reference × List Char)
  | '$' :: '\x7b' :: rest =>
    let name := rest.takeWhile isNameChar
    if name.isEmpty then none else readEnd name (rest.drop name.length)
  | _ => none

theorem length_of_readEnd {name cs rest : List Char} {r : Reference}
    (h : readEnd name cs = some (r, rest)) : rest.length < cs.length := by
  unfold readEnd at h
  split at h
  · cases h; simp
  · next tail =>
    simp only at h
    split at h
    · next kept heq =>
      cases h
      have := congrArg List.length heq
      simp only [List.length_drop, List.length_cons] at this ⊢
      omega
    · cases h
  · cases h

theorem length_of_read? {cs rest : List Char} {r : Reference} (h : read? cs = some (r, rest)) :
    rest.length < cs.length := by
  unfold read? at h
  split at h
  · next tail =>
    simp only at h
    split at h
    · cases h
    · have := length_of_readEnd h
      simp only [List.length_drop, List.length_cons] at this ⊢
      omega
  · cases h

end Reference

namespace Segment

def spelling : Segment → List Char
  | literal c => [c]
  | reference r => r.spelling

def value (env : Environment) : Segment → List Char
  | literal c => [c]
  | reference r => r.value env

def ofChars (cs : List Char) : List Segment :=
  match _h : Reference.read? cs with
  | some (r, rest) => reference r :: ofChars rest
  | none =>
    match cs with
    | [] => []
    | c :: rest => literal c :: ofChars rest
  termination_by cs.length
  decreasing_by
  · exact Reference.length_of_read? _h
  · simp

end Segment

def referredNames (text : String) : List String :=
  (Segment.ofChars text.toList).filterMap fun s =>
    match s with
    | .reference r => some (String.ofList r.name)
    | .literal _ => none

def Environment.expand (env : Environment) (text : String) : String :=
  String.ofList ((Segment.ofChars text.toList).flatMap (Segment.value env))

end LineBasic
