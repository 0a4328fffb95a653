import LineBasic.Text.Quoted
import LineBasic.Yaml.Node

/-!
Records given by maps. The entries of a map give values to the fields of a record by their names;
what is left out or null stays as it is, and names that are no fields are passed over. A merge
takes up the entries of other maps, as far as they are not given already.
-/
namespace LineBasic.Yaml

inductive RecordFault where
  | malformed
  | repeatedKey (key : String)
  | wrongKind (key : String)
  | endless (name : String)
  | mostlyAliases
  deriving DecidableEq, Repr

def RecordFault.message : RecordFault → String
  | malformed => "not a YAML document"
  | repeatedKey key => "mapping key " ++ Text.quote key ++ " already defined"
  | wrongKind key => "value of another kind expected for " ++ Text.quote key
  | endless name => "anchor " ++ Text.quote name ++ " value contains itself"
  | mostlyAliases => "document contains excessive aliasing"

/-! ### Visits -/

structure Visits where
  nodes : Nat
  aliased : Nat
  deriving DecidableEq, Repr

namespace Visits

def allowedShare (nodes : Nat) : Float :=
  if nodes ≤ 400000 then 0.99
  else if 4000000 ≤ nodes then 0.1
  else 0.99 - 0.89 * ((nodes - 400000).toFloat / 3600000)

def isExcessive (v : Visits) : Bool :=
  100 < v.aliased && 1000 < v.nodes && allowedShare v.nodes < v.aliased.toFloat / v.nodes.toFloat

end Visits

abbrev Visit := StateT Visits (Except RecordFault)

structure Place where
  document : Document
  opened : List Nat

namespace Place

def root (document : Document) : Place := ⟨document, []⟩

def count (p : Place) : Visit Unit := do
  let v ← get
  let v : Visits := ⟨v.nodes + 1, if p.opened.isEmpty then v.aliased else v.aliased + 1⟩
  if v.isExcessive then throw .mostlyAliases else set v

def visit (p : Place) (node : Node) : Visit (Place × Node) := do
  p.count
  match node with
  | .alias name number anchor =>
    if p.opened.contains number then throw (.endless name)
    else
      match p.document.named.lookup anchor with
      | some target => do
        let q := { p with opened := number :: p.opened }
        q.count
        return (q, target)
      | none => throw .malformed
  | _ => return (p, node)

end Place

/-! ### Values -/

abbrev Reader (α : Type) := (key : String) → Place → Node → Visit (Option α)

namespace Reader

def ofScalar {α : Type} (read : Scalar → Atom → Option α) : Reader α := fun key p node => do
  match (← p.visit node).2 with
  | .scalar s =>
    match s.atom? with
    | none => throw (.wrongKind key)
    | some .null => return none
    | some a =>
      match read s a with
      | some x => return some x
      | none => throw (.wrongKind key)
  | _ => throw (.wrongKind key)

def text : Reader String := ofScalar fun s a =>
  match a with
  | .text t => some t
  | _ => some s.text

def truthWord? : String → Option Bool
  | "y" => some true
  | "Y" => some true
  | "yes" => some true
  | "Yes" => some true
  | "YES" => some true
  | "on" => some true
  | "On" => some true
  | "ON" => some true
  | "n" => some false
  | "N" => some false
  | "no" => some false
  | "No" => some false
  | "NO" => some false
  | "off" => some false
  | "Off" => some false
  | "OFF" => some false
  | _ => none

def truth : Reader Bool := ofScalar fun _ a =>
  match a with
  | .boolean b => some b
  | .text s => truthWord? s
  | _ => none

def integer : Reader Int := ofScalar fun _ a =>
  match a with
  | .integer n => if n < 0x8000000000000000 then some n else none
  | .real x => if x ≤ 9223372036854775808 then some (Number.truncate64 x) else none
  | _ => none

def textItems (key : String) (p : Place) : List Node → Visit (List String)
  | [] => return []
  | item :: rest => do
    let s ← text key p item
    let ss ← textItems key p rest
    return s.toList ++ ss

def texts : Reader (List String) := fun key p node => do
  match ← p.visit node with
  | (q, .list items) => return some (← textItems key q items)
  | (_, .scalar s) =>
    match s.atom? with
    | some .null => return some []
    | _ => throw (.wrongKind key)
  | _ => throw (.wrongKind key)

end Reader

/-! ### Fields -/

structure RecordField (σ : Type) where
  name : String
  take : Place → Node → σ → Visit σ

def RecordField.ofReader {σ α : Type} (name : String) (read : Reader α) (put : α → σ → σ) :
    RecordField σ where
  name := name
  take := fun p node r => do
    match ← read name p node with
    | some x => return put x r
    | none => return r

def Node.signature : Node → Nat × String
  | .scalar s => (0, s.text)
  | .list _ => (1, "")
  | .map _ => (2, "")
  | .alias name _ _ => (3, name)

def repeatedKey? : List (Node × Node) → Option String
  | [] => none
  | (key, _) :: rest =>
    if rest.any (fun e => e.1.signature == key.signature) then some key.signature.2
    else repeatedKey? rest

def Node.isMerge : Node → Bool
  | .scalar s => s.isMerge
  | _ => false

def Node.merged : Node → List Node
  | .list items => items
  | node => [node]

structure Filling (σ : Type) where
  record : σ
  taken : List String

namespace Filling

variable {σ : Type}

def takeEntry (fields : List (RecordField σ)) (merging : Bool) (p : Place) (f : Filling σ)
    (entry : Node × Node) : Visit (Filling σ) := do
  if entry.1.isMerge then return f
  else
    match ← Reader.text "" p entry.1 with
    | none => return f
    | some name =>
      match fields.find? (·.name == name) with
      | none => return { f with taken := name :: f.taken }
      | some field =>
        if f.taken.contains name then
          if merging then return f else throw (.repeatedKey name)
        else return ⟨← field.take p entry.2 f.record, name :: f.taken⟩

def takeMap (fields : List (RecordField σ)) :
    (depth : Nat) → (merging : Bool) → Place → List (Node × Node) → Filling σ → Visit (Filling σ)
  | 0, _, _, _, _ => throw .malformed
  | depth + 1, merging, p, entries, f => do
    match repeatedKey? entries with
    | some key => throw (.repeatedKey key)
    | none =>
      let f ← entries.foldlM (takeEntry fields merging p) f
      match entries.find? (·.1.isMerge) with
      | none => return f
      | some (_, source) =>
        -- The keys of a map are looked at once more for the first merge.
        if !merging then entries.forM fun e => do let _ ← p.visit e.1
        source.merged.foldlM (fun f node => do
          match ← p.visit node with
          | (q, .map entries) => takeMap fields depth true q entries f
          | _ => throw (.wrongKind "<<")) f

end Filling

/-- Merges stand one in the other in the text, or an alias leads from one into the other, and an
alias is opened only once on the way; so they are not more than this. -/
def Document.mergeDepth (d : Document) : Nat := (d.size + 1) * (d.size + 1)

def takeRecord {σ : Type} (fields : List (RecordField σ)) (key : String) (p : Place) (node : Node)
    (r : σ) : Visit σ := do
  match ← p.visit node with
  | (q, .map entries) =>
    return (← Filling.takeMap fields q.document.mergeDepth false q entries ⟨r, []⟩).record
  | (_, .scalar s) =>
    match s.atom? with
    | some .null => return r
    | _ => throw (.wrongKind key)
  | _ => throw (.wrongKind key)

def RecordField.group {σ : Type} (name : String) (fields : List (RecordField σ)) : RecordField σ :=
  ⟨name, takeRecord fields name⟩

def Document.fill {σ : Type} (fields : List (RecordField σ)) (d : Document) (r : σ) :
    Except RecordFault σ :=
  (takeRecord fields "" (.root d) d.root r).run' ⟨1, 0⟩

end LineBasic.Yaml
