import LineBasic.CommandLine.Basic
import Std.Time.DateTime.Timestamp

/-!
The command line. It gathers what the program is started with, runs it, and puts what it leaves
where it belongs. The input is read to its end first.
-/
namespace LineBasic.Main

partial def readAll (input : IO.FS.Stream) (found : ByteArray) : IO ByteArray := do
  let more ← input.read 0x10000
  if more.isEmpty then pure found else readAll input (found ++ more)

def readFile? (name : String) : IO (Option String) := do
  try
    pure (some (← IO.FS.readFile name))
  catch _ => pure none

def realName? (name : String) : IO (Option String) := do
  try
    pure (some (← IO.FS.realPath name).toString)
  catch _ => pure none

def addFile (fs : Files) (name : String) : IO Files := do
  let p := Files.pathOf fs.current name
  let fs ← match (← realName? (Files.nameOf p.dropLast)) with
    | some _ => pure { fs with directories := p.dropLast :: fs.directories }
    | none => pure fs
  match (← readFile? name) with
  | some text => pure { fs with entries := Files.put p text fs.entries }
  | none =>
    match (← realName? name) with
    | some _ => pure { fs with directories := p :: fs.directories }
    | none => pure fs

def addFiles (fs : Files) (names : List String) : IO Files :=
  (names.filter fun name => !name.isEmpty).foldlM addFile fs

def environment (texts : List String) : IO Environment := do
  let values ← (texts.flatMap referredNames).mapM fun name => do
    pure (name, (← IO.getEnv name).getD "")
  pure fun name => ((values.find? fun v => v.1 == name).map Prod.snd).getD ""

def host : IO Host := do
  let now := (← Std.Time.Timestamp.now).val
  let clock := Clock.ofUnixTime now.second.val.toNat now.nano.val.toNat
  let stat := "/proc/self/stat"
  pure {
    console := .empty
    input := none
    random := ⟨.mixed, clock.seed, []⟩
    clock := clock
    meter := ⟨(← readFile? stat).getD "", stat, 100⟩
    interrupted := false
    breakOn := none
    waited := 0 }

def memory : IO UInt64 := do
  let fields := Text.fields ((← readFile? "/proc/self/statm").getD "")
  pure (UInt64.ofNat (((fields[1]?.bind String.toNat?).getD 0) * 4096))

def launch (arguments : List String) (input : Bytes) : IO Launch := do
  let home := (← IO.getEnv "HOME").getD ""
  let current := Files.pathOf [] ((← realName? ".").getD "/")
  let bare : Launch :=
    { arguments := arguments
      home := home
      environment := fun _ => ""
      files := ⟨current, [], []⟩
      input := ⟨input, none⟩
      host := (← host)
      memory := (← memory) }
  let settings ← addFiles bare.files bare.settingsNames
  pure { bare with
    files := (← addFiles settings bare.programNames)
    environment := (← environment (settings.entries.map Prod.snd)) }

def writeFiles (before after : Files) : IO Unit :=
  (after.entries.filter fun e => !before.entries.contains e).forM fun e =>
    IO.FS.writeFile (Files.nameOf e.1) e.2

def plenty : Nat := 0x4000000000000000

def runOnce (l : Launch) : IO Nat := do
  match l.run plenty with
  | none => pure 1
  | some r =>
    (← IO.getStdout).write ⟨r.output.toArray⟩
    IO.eprint r.errors
    writeFiles l.files r.files
    pure r.status

def watches (arguments : List String) : Bool :=
  match Arguments.parse arguments with
  | .ok a => a.watch && a.names.length == 1
  | .error _ => false

partial def watch (l : Launch) (input : Bytes) : IO Unit := do
  IO.sleep 200
  let next ← launch l.arguments input
  if next.files.entries != l.files.entries then
    let _ ← runOnce next
    watch next input
  else watch l input

end LineBasic.Main

def main (arguments : List String) : IO UInt32 := do
  let input := (← LineBasic.Main.readAll (← IO.getStdin) .empty).toList
  let l ← LineBasic.Main.launch arguments input
  let status ← LineBasic.Main.runOnce l
  if status == 0 && LineBasic.Main.watches arguments then LineBasic.Main.watch l input
  pure (UInt32.ofNat status)
