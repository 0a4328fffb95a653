import LineBasic.Yaml.Scalar
import LineBasic.Yaml.Token

/-!
The tree of a YAML document: scalars, lists and maps, in blocks or in brackets. A node may be given
a name by an anchor, and an alias stands for the node that was named last before it, which may be
one of those around the alias.
-/
namespace LineBasic.Yaml

inductive Node where
  | scalar (s : Scalar)
  | list (items : List Node)
  | map (entries : List (Node × Node))
  | alias (name : String) (number : Nat) (anchor : Nat)

def Node.omitted : Node := .scalar .omitted

structure Document where
  root : Node
  named : List (Nat × Node)
  size : Nat

structure Reading where
  tokens : Tokens
  handles : List (String × String)
  anchors : List (String × Nat)
  count : Nat
  named : List (Nat × Node)

abbrev Parse := StateT Reading Option

namespace Parse

def fail {α : Type} : Parse α := fun _ => none

def scan {α : Type} (s : Scan α) : Parse α := do
  let r ← get
  match s r.tokens with
  | some (a, tokens) => do
    set { r with tokens }
    return a
  | none => fail

def peek : Parse Token := scan Scan.peek

def next : Parse Unit := scan Scan.next

def takes (token : Token) : Parse Bool := do
  if (← peek) = token then do
    next
    return true
  else return false

def isAt (tokens : List Token) : Parse Bool := do return tokens.contains (← peek)

/-! ### Names and tags -/

def freshNumber : Parse Nat := do
  let n := (← get).count
  modify fun r => { r with count := n + 1 }
  return n

def nameAnchor (name : String) : Parse Nat := do
  let n ← freshNumber
  modify fun r => { r with anchors := (name, n) :: r.anchors }
  return n

def resolveAlias (name : String) : Parse Node := do
  match (← get).anchors.lookup name with
  | some anchor => return .alias name (← freshNumber) anchor
  | none => fail

def standardTags : String := "tag:yaml.org,2002:"

def resolveTag (t : TagSpelling) : Parse (Option String) := do
  let full ←
    if t.handle.isEmpty then pure t.suffix
    else
      match (← get).handles.lookup t.handle with
      | some expansion => pure (expansion ++ t.suffix)
      | none => fail
  let cs := full.toList
  let start := standardTags.toList
  if full.isEmpty then fail
  else if full = "!" then return none
  else if start.isPrefixOf cs then return some ("!!" ++ String.ofList (cs.drop start.length))
  else return some full

structure Properties where
  anchor : Option String
  tag : Option TagSpelling

def readAnchor? : Parse (Option String) := do
  match ← peek with
  | .anchor name => do
    next
    return some name
  | _ => return none

def readTag? : Parse (Option TagSpelling) := do
  match ← peek with
  | .tag t => do
    next
    return some t
  | _ => return none

def readProperties : Parse Properties := do
  match ← readAnchor? with
  | some name => return ⟨some name, ← readTag?⟩
  | none =>
    match ← readTag? with
    | some t => return ⟨← readAnchor?, some t⟩
    | none => return ⟨none, none⟩

/-! ### Nodes -/

def blockPartEnds : List Token := [.key, .value, .blockEnd]

mutual

def readNode (inBlock asValue : Bool) : Nat → Parse Node
  | 0 => fail
  | fuel + 1 => do
    match ← peek with
    | .alias name => do
      next
      resolveAlias name
    | _ =>
      let p ← readProperties
      let tag ← match p.tag with
        | some t => resolveTag t
        | none => pure none
      let number ← match p.anchor with
        | some name => do pure (some (← nameAnchor name))
        | none => pure none
      let node ← (do
        match ← peek with
        | .entry => if asValue then readSameColumnList fuel [] else emptyNode p tag
        | .scalar text plain => do
          next
          return .scalar ⟨text, plain, tag⟩
        | .bracketOpen => do
          next
          readBracketList fuel true []
        | .braceOpen => do
          next
          readBraceMap fuel true []
        | .listStart =>
          if inBlock then do
            next
            readBlockList fuel []
          else emptyNode p tag
        | .mapStart =>
          if inBlock then do
            next
            readBlockMap fuel []
          else emptyNode p tag
        | _ => emptyNode p tag)
      match number with
      | some n => modify fun r => { r with named := (n, node) :: r.named }
      | none => pure ()
      return node
  termination_by structural fuel => fuel

def emptyNode (p : Properties) (tag : Option String) : Parse Node :=
  if p.anchor.isNone && p.tag.isNone then fail else return .scalar ⟨"", true, tag⟩

def readPart (inBlock asValue : Bool) (ends : List Token) : Nat → Parse Node
  | 0 => fail
  | fuel + 1 => do
    if ← isAt ends then return .omitted else readNode inBlock asValue fuel
  termination_by structural fuel => fuel

def readBlockList : Nat → List Node → Parse Node
  | 0, _ => fail
  | fuel + 1, items => do
    if ← takes .entry then
      let item ← readPart true false [.entry, .blockEnd] fuel
      readBlockList fuel (item :: items)
    else if ← takes .blockEnd then return .list items.reverse
    else fail
  termination_by structural fuel => fuel

def readSameColumnList : Nat → List Node → Parse Node
  | 0, _ => fail
  | fuel + 1, items => do
    if ← takes .entry then
      let item ← readPart true false (.entry :: blockPartEnds) fuel
      readSameColumnList fuel (item :: items)
    else return .list items.reverse
  termination_by structural fuel => fuel

def readBlockMap : Nat → List (Node × Node) → Parse Node
  | 0, _ => fail
  | fuel + 1, entries => do
    if ← takes .key then
      let key ← readPart true true blockPartEnds fuel
      let value ← if ← takes .value then readPart true true blockPartEnds fuel else pure .omitted
      readBlockMap fuel ((key, value) :: entries)
    else if ← takes .blockEnd then return .map entries.reverse
    else fail
  termination_by structural fuel => fuel

def readBracketList : Nat → Bool → List Node → Parse Node
  | 0, _, _ => fail
  | fuel + 1, first, items => do
    if ← takes .bracketClose then return .list items.reverse
    else
      if !first then
        if !(← takes .comma) then fail
      if ← takes .bracketClose then return .list items.reverse
      else
        let item ← if ← takes .key then readPair fuel else readNode false false fuel
        readBracketList fuel false (item :: items)
  termination_by structural fuel => fuel

def readPair : Nat → Parse Node
  | 0 => fail
  | fuel + 1 => do
    let ends := [.comma, .bracketClose]
    let key ←
      if ← isAt (.value :: ends) then do
        next
        pure .omitted
      else readNode false false fuel
    let value ← if ← takes .value then readPart false false ends fuel else pure .omitted
    let _ ← peek
    return .map [(key, value)]
  termination_by structural fuel => fuel

def readBraceMap : Nat → Bool → List (Node × Node) → Parse Node
  | 0, _, _ => fail
  | fuel + 1, first, entries => do
    let ends := [.comma, .braceClose]
    if ← takes .braceClose then return .map entries.reverse
    else
      if !first then
        if !(← takes .comma) then fail
      if ← takes .braceClose then return .map entries.reverse
      else if ← takes .key then
        let key ← readPart false false (.value :: ends) fuel
        let value ← if ← takes .value then readPart false false ends fuel else pure .omitted
        readBraceMap fuel false ((key, value) :: entries)
      else
        let key ← readNode false false fuel
        readBraceMap fuel false ((key, .omitted) :: entries)
  termination_by structural fuel => fuel

end

/-! ### Documents -/

def readDirectives (version : Bool) : Nat → Parse Unit
  | 0 => fail
  | fuel + 1 => do
    match ← peek with
    | .directive (.version major minor) =>
      if version || major ≠ 1 || minor ≠ 1 then fail
      else do
        next
        readDirectives true fuel
    | .directive (.tag handle expansion) =>
      if ((← get).handles.lookup handle).isSome then fail
      else do
        modify fun r => { r with handles := (handle, expansion) :: r.handles }
        next
        readDirectives version fuel
    | _ =>
      modify fun r => { r with handles := r.handles ++ [("!", "!"), ("!!", standardTags)] }

def isDirective : Token → Bool
  | .directive _ => true
  | _ => false

def readRoot (fuel : Nat) : Parse (Option Node) := do
  let first ← peek
  if first = .streamEnd then return none
  else
    readDirectives false fuel
    let explicit := isDirective first || first = .documentStart
    if explicit && !(← takes .documentStart) then fail
    let token ← peek
    let root ←
      if explicit && (isDirective token ||
          [Token.documentStart, .documentEnd, .streamEnd].contains token) then pure .omitted
      else readNode true false fuel
    let _ ← takes .documentEnd
    return some root

end Parse

/-- The first document of a text, if the text has one; a text that is no YAML has no reading. Every
step of a reader takes up a token or is followed by one that does, so the fuel is enough. -/
def Document.ofText? (text : String) : Option (Option Document) := do
  let fuel := 8 * text.length + 64
  let (root, r) ← Parse.readRoot fuel ⟨Tokens.ofText text, [], [], 0, []⟩
  some (root.map fun root => ⟨root, r.named, text.length⟩)

end LineBasic.Yaml
