/-!
Files by path. A path is a list of names from the root; directories are those of the files, and
the ones given besides.
-/
namespace LineBasic

abbrev Path := List String

inductive FileReason where
  | notFound
  | notDirectory
  | isDirectory
  | nameTooLong
  | invalidName
  deriving DecidableEq, Repr

def FileReason.message : FileReason → String
  | notFound => "no such file or directory"
  | notDirectory => "not a directory"
  | isDirectory => "is a directory"
  | nameTooLong => "file name too long"
  | invalidName => "invalid argument"

inductive FileAction where
  | open
  | read
  deriving DecidableEq, Repr

structure FileFault where
  action : FileAction
  name : String
  reason : FileReason
  deriving DecidableEq, Repr

def FileFault.message (f : FileFault) : String :=
  let action :=
    match f.action with
    | .open => "open "
    | .read => "read "
  action ++ f.name ++ ": " ++ f.reason.message

structure Files where
  current : Path
  directories : List Path
  entries : List (Path × String)
  deriving DecidableEq, Repr

namespace Files

def contents? (fs : Files) (p : Path) : Option String :=
  (fs.entries.find? fun e => e.1 == p).map Prod.snd

def isDirectory (fs : Files) (p : Path) : Bool :=
  p.isEmpty || p.isPrefixOf fs.current || fs.directories.any (p.isPrefixOf ·) ||
    fs.entries.any fun e => p.isPrefixOf e.1 && p != e.1

def walk (fs : Files) (here : Path) : List String → Except FileReason Path
  | [] => .ok here
  | name :: rest =>
    if !fs.isDirectory here then
      .error (if (fs.contents? here).isSome then .notDirectory else .notFound)
    else if name == "" || name == "." then fs.walk here rest
    else if name == ".." then fs.walk here.dropLast rest
    else if 255 < name.utf8ByteSize then .error .nameTooLong
    else fs.walk (here ++ [name]) rest

def splitSlashes (current : List Char) : List Char → List String → List String
  | [], done => (String.ofList current.reverse :: done).reverse
  | c :: rest, done =>
    if c = '/' then splitSlashes [] rest (String.ofList current.reverse :: done)
    else splitSlashes (c :: current) rest done

def extend (p : Path) : List String → Path
  | [] => p
  | name :: rest =>
    if name == "" || name == "." then extend p rest
    else if name == ".." then extend p.dropLast rest
    else extend (p ++ [name]) rest

def pathOf (current : Path) (name : String) : Path :=
  let cs := name.toList
  extend (if cs.head? == some '/' then [] else current) (splitSlashes [] cs [])

def nameOf (p : Path) : String := "/" ++ "/".intercalate p

def locate (fs : Files) (name : String) : Except FileReason Path :=
  let cs := name.toList
  if cs.contains (Char.ofNat 0) then .error .invalidName
  else if 4096 ≤ name.utf8ByteSize then .error .nameTooLong
  else if cs.isEmpty then .error .notFound
  else fs.walk (if cs.head? == some '/' then [] else fs.current) (splitSlashes [] cs [])

def exists? (fs : Files) (name : String) : Bool :=
  match fs.locate name with
  | .ok p => fs.isDirectory p || (fs.contents? p).isSome
  | .error _ => false

def read (fs : Files) (name : String) : Except FileFault String :=
  match fs.locate name with
  | .error r => .error ⟨.open, name, r⟩
  | .ok p =>
    match fs.contents? p with
    | some text => .ok text
    | none =>
      if fs.isDirectory p then .error ⟨.read, name, .isDirectory⟩
      else .error ⟨.open, name, .notFound⟩

def put (p : Path) (text : String) : List (Path × String) → List (Path × String)
  | [] => [(p, text)]
  | e :: rest => if e.1 == p then (p, text) :: rest else e :: put p text rest

def write (fs : Files) (name : String) (text : String) : Except FileFault Files :=
  match fs.locate name with
  | .error r => .error ⟨.open, name, r⟩
  | .ok p =>
    if fs.isDirectory p then .error ⟨.open, name, .isDirectory⟩
    else if !fs.isDirectory p.dropLast then
      .error ⟨.open, name,
        if (fs.contents? p.dropLast).isSome then .notDirectory else .notFound⟩
    else .ok { fs with entries := put p text fs.entries }

end Files

end LineBasic
