import LineBasic.Program.Code
import LineBasic.Run.Evaluation

/-!
Running a program. A machine holds the state of a run, and a step executes exactly one statement:
the next of the line begun, or the first of the line that comes next. A run is a sequence of steps
up to the first that ends it.
-/
namespace LineBasic

structure Options where
  traceVariables : Bool
  traceLines : Bool
  traced : List String
  inputPrompt : Bool
  maxSteps : Int

def Options.none : Options := ⟨false, false, [], false, 0⟩

def Options.traces (o : Options) (name : String) : Bool :=
  o.traceVariables || o.traced.contains name

structure Loop where
  name : String
  limit : Float
  step : Float
  resume : Int
  deriving DecidableEq

def Loop.continues (l : Loop) (x : Float) : Bool :=
  if l.step < 0 then x ≥ l.limit else x ≤ l.limit

structure Machine where
  pc : Nat
  line : Int
  pending : List Stmt
  steps : Nat
  gosubs : List Int
  loops : List Loop
  vars : Variables
  host : Host

structure Setting where
  code : Code
  functions : Functions
  options : Options

inductive Flow where
  | next
  | jump (line : Int)
  | stop
  | inner (s : Stmt)

abbrev Exec := ExceptT Fault (StateM Machine)

namespace Exec

def fault {α : Type} (f : Fault) : Exec α := fun m => (.error f, m)

def ofExcept {α : Type} (r : Except Fault α) : Exec α := fun m => (r, m)

def effect {α : Type} (e : Variables → Effect α) : Exec α := fun m =>
  match (e m.vars).run m.host with
  | (r, host) => (r, { m with host })

def writeAnyway (purpose : Purpose) (text : Bytes) : Exec Unit := fun m =>
  (.ok (), { m with host := m.host.writeAnyway purpose text })

section Statements

variable (c : Setting)

def traceText (name : String) (old new : Value) : String :=
  "Variable " ++ name ++ " changed from " ++ old.shown ++ " to " ++ new.shown ++ "\n"

def traceChange (name shown : String) (old new : Value) : Exec Unit :=
  if c.options.traces name then writeAnyway .trace (Bytes.ofString (traceText shown old new))
  else pure ()

def setScalar (name : String) (v : Value) : Exec Unit := do
  let old ← effect fun vs => pure (vs.get name)
  traceChange c name name old v
  modify fun m => { m with vars := m.vars.set name v }

def evaluate (e : Expr) : Exec Value := effect fun vs => e.eval c.functions vs

def evaluateNumber (what : String) (e : Expr) : Exec Float :=
  effect fun vs => e.evalNumber c.functions vs what

def setElement (name : String) (index : List Int) (v : Value) : Exec Unit := do
  let old ← effect fun vs => Effect.ofExcept (vs.element name index)
  modify fun m => { m with vars := m.vars.putElement name index v }
  let new ← effect fun vs => Effect.ofExcept (vs.element name index)
  traceChange c name (name ++ "(" ++ joinInts index ++ ")") old new

def assign (target : Target) (value : Expr) : Exec Unit := do
  let v ← evaluate c value
  match target with
  | .scalar name => setScalar c name v
  | .element name index =>
    let index ← effect fun vs => evalIndex c.functions vs index
    setElement c name index v

def printRestText : List (Separator × Expr) → Exec Bytes
  | [] => pure []
  | (separator, e) :: rest => do
    let v ← evaluate c e
    let more ← printRestText rest
    pure (Bytes.ofString (if separator = .blank then " " else "") ++ v.asText ++ more)

def printText : Option PrintList → Exec Bytes
  | none => pure (Bytes.ofString "\n")
  | some items => do
    let v ← evaluate c items.first
    let rest ← printRestText c items.rest
    pure (v.asText ++ rest ++ Bytes.ofString "\n")

def print (items : Option PrintList) : Exec Unit := do
  let text ← printText c items
  effect fun _ => Effect.write .result text

def promptFor (name : String) : String :=
  if c.options.inputPrompt then "? " ++ name ++ " = " else ""

def readInput (prompt : String) (h : Host) : Except ReadFault Bytes × Host :=
  match h.input with
  | none => (.error .ended, h.writeAnyway .prompt (Bytes.ofString prompt))
  | some channel =>
    let h := if channel.drawsPrompt then h else h.writeAnyway .prompt (Bytes.ofString prompt)
    let (line, reader) := channel.reader.readLine
    let prompts := if channel.drawsPrompt then prompt :: channel.prompts else channel.prompts
    (line, { h with input := some { channel with reader, prompts } })

def inputValue (name : String) : Except ReadFault Bytes → Except Fault Value
  | .error (.failed message) => .error (.inputFailed message)
  | .error .ended => if isTextName name then .ok (.text []) else .error .endOfInput
  | .ok line =>
    if isTextName name then .ok (.text line)
    else
      match Number.read? (Text.trim line.toText) with
      | some x => .ok (.number x)
      | none => .error (.illegalNumber line name)

def input (name : String) : Exec Unit := do
  let line ← effect fun _ h =>
    let (line, h) := readInput (promptFor c name) h
    (.ok line, h)
  let v ← ofExcept (inputValue name line)
  setScalar c name v

def lineAfter (r : Returning) : Exec Int := do
  match c.code.after? (← get).pc with
  | some line => pure line
  | none => fault (.lastLine r)

def gosub (target : Int) : Exec Flow := do
  let resume ← lineAfter c (.gosub target)
  if stackDepth ≤ (← get).gosubs.length then fault (.stackOverflow .gosubs)
  else
    modify fun m => { m with gosubs := resume :: m.gosubs }
    pure (.jump target)

def goBack : Exec Flow := do
  match (← get).gosubs with
  | [] => fault .returnWithoutGosub
  | resume :: rest =>
    modify fun m => { m with gosubs := rest }
    pure (.jump resume)

def leaveLoop (name : String) (loops : List Loop) : List Loop :=
  match loops.dropWhile fun l => l.name != name with
  | [] => loops
  | _ :: outer => outer

/-- Enters a loop. The body runs at least once: the limit is tested by NEXT. A loop over the same
variable that was left by a jump is dropped, and so are the loops inside it. -/
def enterLoop (name : String) (start limit : Expr) (step : Option Expr) : Exec Unit := do
  let start ← evaluateNumber c "FOR start" start
  let limit ← evaluateNumber c "FOR limit" limit
  let step ←
    match step with
    | some e => evaluateNumber c "FOR step" e
    | none => pure 1
  let resume ← lineAfter c (.loop name)
  modify fun m => { m with loops := leaveLoop name m.loops }
  if stackDepth ≤ (← get).loops.length then fault (.stackOverflow .loops)
  else
    setScalar c name (.number start)
    modify fun m => { m with loops := ⟨name, limit, step, resume⟩ :: m.loops }

def nextLoop (name : String) : Exec Flow := do
  match (← get).loops with
  | [] => fault (.nextWithoutFor name)
  | l :: outer =>
    if l.name ≠ name then fault (.nextMismatch name l.name)
    else
      let x := ((← get).vars.get name).asNumber + l.step
      setScalar c name (.number x)
      if l.continues x then pure (.jump l.resume)
      else
        modify fun m => { m with loops := outer }
        pure .next

def dimension : List Declaration → Exec Unit
  | [] => pure ()
  | d :: rest => do
    let dims ← effect fun vs => evalDims c.functions vs d.dims
    let vars ← ofExcept ((← get).vars.dimension d.name dims)
    modify fun m => { m with vars }
    dimension rest

def randomize (seed : Option Expr) : Exec Unit := do
  let seed ←
    match seed with
    | some e =>
      let x ← evaluateNumber c "RANDOMIZE seed" e
      pure (Number.truncate64 x)
    | none => pure (← get).host.clock.seed
  modify fun m => { m with host := { m.host with random := m.host.random.seeded seed } }

def statement : Stmt → Exec Flow
  | .remark _ => pure .next
  | .print items => do
    print c items
    pure .next
  | .assign target value => do
    assign c target value
    pure .next
  | .input name => do
    input c name
    pure .next
  | .jumpIf condition line => do
    let v ← evaluate c condition
    pure (if v.truth then .jump line else .next)
  | .doIf condition inner => do
    let v ← evaluate c condition
    pure (if v.truth then .inner inner else .next)
  | .goto line => pure (.jump line)
  | .gosub line => gosub c line
  | .goBack => goBack
  | .loop name start limit step => do
    enterLoop c name start limit step
    pure .next
  | .next name => nextLoop c name
  | .dim arrays => do
    dimension c arrays
    pure .next
  | .randomize seed => do
    randomize c seed
    pure .next
  | .finish _ => pure .stop
  | .call name args => do
    let _ ← effect fun vs => do
      let args ← evalArgs c.functions vs args
      c.functions.call name args
    pure .next

end Statements

end Exec

inductive RunState where
  | completed
  | ended
  | faulted
  deriving DecidableEq, Repr

def RunState.word : RunState → String
  | completed => "completed"
  | ended => "ended"
  | faulted => "faulted"

structure Ending where
  state : RunState
  error? : Option ProgramError

namespace Ending

abbrev completed : Ending := ⟨.completed, none⟩
abbrev ended : Ending := ⟨.ended, none⟩
abbrev faulted (e : ProgramError) : Ending := ⟨.faulted, some e⟩

end Ending

inductive Progress where
  | running (m : Machine)
  | finished (m : Machine) (e : Ending)

namespace Machine

def start (vars : Variables) (host : Host) : Machine :=
  { pc := 0, line := 0, pending := [], steps := 0, gosubs := [], loops := [], vars, host }

def settle (m : Machine) : Machine := if m.pending.isEmpty then { m with pc := m.pc + 1 } else m

def fail (m : Machine) (f : Fault) : Progress := .finished m (.faulted (.fault m.line f))

def follow (c : Setting) (m : Machine) : Flow → Progress
  | .next => .running m.settle
  | .inner s => .running { m with pending := s :: m.pending }
  | .stop => .finished m .ended
  | .jump line =>
    match c.code.find? line with
    | some pc => .running { m with pc, pending := [] }
    | none => m.fail (.noSuchLine line)

def perform (c : Setting) (m : Machine) (s : Stmt) : Progress :=
  let m := { m with steps := m.steps + 1 }
  if 0 < c.options.maxSteps ∧ c.options.maxSteps < m.steps then
    m.fail (.stepLimit c.options.maxSteps)
  else
    match (Exec.statement c s).run m with
    | (.ok flow, m) => m.follow c flow
    | (.error f, m) => m.fail f

def traceLine (c : Setting) (m : Machine) : Machine :=
  if c.options.traceLines then
    { m with host := m.host.writeAnyway .trace (Bytes.ofString ("[" ++ toString m.line ++ "] ")) }
  else m

def beginLine (c : Setting) (m : Machine) (l : CodeLine) : Progress :=
  let m := { m with line := l.number }
  if m.host.interrupted then m.fail .interrupted
  else perform c { m.traceLine c with pending := l.body.rest } l.body.first

def step (c : Setting) (m : Machine) : Progress :=
  match m.pending with
  | s :: rest => perform c { m with pending := rest } s
  | [] =>
    match c.code.lines[m.pc]? with
    | some l => m.beginLine c l
    | none => .finished m .completed

def run (c : Setting) : Nat → Machine → Option (Machine × Ending)
  | 0, _ => none
  | fuel + 1, m =>
    match m.step c with
    | .running m => run c fuel m
    | .finished m e => some (m, e)

end Machine

end LineBasic
