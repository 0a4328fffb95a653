import Std.Data.TreeMap
import LineBasic.Host.Basic
import LineBasic.Syntax.Keyword
import LineBasic.Value

/-!
The functions a program can call, by name. Names are kept in upper case and looked up in any case.
-/
namespace LineBasic

abbrev FunctionBody := List Value → Effect Value

structure Functions where
  table : Std.TreeMap String FunctionBody

inductive RegisterFault where
  | emptyName
  | noBody (name : String)
  | keyword (name : String)
  | duplicate (name : String)
  deriving DecidableEq, Repr

def RegisterFault.message : RegisterFault → String
  | emptyName => "builtin with empty name"
  | noBody name => "builtin " ++ name ++ " has no body"
  | keyword name => "builtin " ++ name ++ " collides with a statement keyword"
  | duplicate name => "builtin " ++ name ++ " already registered"

namespace Functions

def empty : Functions := ⟨∅⟩

def register (fns : Functions) (name : String) (body : Option FunctionBody) :
    Except RegisterFault Functions :=
  let name := Text.upper (Text.trim name)
  if name.isEmpty then .error .emptyName
  else
    match body with
    | none => .error (.noBody name)
    | some body =>
      if isKeyword name then .error (.keyword name)
      else if fns.table.contains name then .error (.duplicate name)
      else .ok ⟨fns.table.insert name body⟩

def has (fns : Functions) (name : String) : Bool := fns.table.contains (Text.upper name)

def call (fns : Functions) (name : String) (args : List Value) : Effect Value :=
  match fns.table[Text.upper name]? with
  | some body => body args
  | none => Effect.fault (.unknownFunction (Text.upper name))

def names (fns : Functions) : List String := fns.table.keys

end Functions

structure NamedFunction where
  name : String
  body : FunctionBody

def Functions.ofList (fs : List NamedFunction) : Functions :=
  fs.foldl (fun fns f => (fns.register f.name (some f.body)).toOption.getD fns) .empty

def wrongCount (name : String) (least most : Nat) (args : List Value) : Effect Value :=
  Effect.fault (.badArgument name (.count least most args.length))

def Value.asInteger (v : Value) : Int := Number.floorClamped v.asNumber

/-! ### Functions by the number of their arguments -/

def ofNone (name : String) (f : Effect Value) : NamedFunction where
  name := name
  body
    | [] => f
    | args => wrongCount name 0 0 args

def ofOne (name : String) (f : Value → Effect Value) : NamedFunction where
  name := name
  body
    | [v] => f v
    | args => wrongCount name 1 1 args

def ofTwo (name : String) (f : Value → Value → Effect Value) : NamedFunction where
  name := name
  body
    | [v, w] => f v w
    | args => wrongCount name 2 2 args

def ofTwoOrThree (name : String) (f : Value → Value → Effect Value)
    (g : Value → Value → Value → Effect Value) : NamedFunction where
  name := name
  body
    | [u, v] => f u v
    | [u, v, w] => g u v w
    | args => wrongCount name 2 3 args

def unary (name : String) (f : Float → Float) : NamedFunction :=
  ofOne name fun v => pure (.number (f v.asNumber))

end LineBasic
