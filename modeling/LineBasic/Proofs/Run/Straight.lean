import LineBasic.Proofs.Program.Edits
import LineBasic.Proofs.Run.CutShort
import LineBasic.Proofs.Run.Reports
import LineBasic.Proofs.Run.Whole

/-!
Programs without jumps. Their lines are executed in the order of their numbers, each once and each
from left to right, until a statement fails. So a run of such a program is the statements one after
the other, and nothing else.
-/
namespace LineBasic

def Stmt.Straight : Stmt → Prop
  | .doIf _ inner => inner.Straight
  | .jumpIf _ _ => False
  | .goto _ => False
  | .gosub _ => False
  | .goBack => False
  | .next _ => False
  | .finish _ => False
  | _ => True

def Workspace.Straight (w : Workspace) : Prop :=
  ∀ l ∈ w.listing.lines, ∃ body, parseLine w.functions.has l.text = .ok body ∧
    ∀ s ∈ body.toList, s.Straight

def Workspace.Undisturbed (w : Workspace) (h : Host) : Prop :=
  ∀ code m, w.code = .ok code →
    Machine.Reaches ⟨code, w.functions, w.options⟩ (Machine.start w.vars h) m →
    m.host.interrupted = false

namespace Exec

section Definitions

variable (c : Setting)

def inTurn : List Stmt → Exec Nat
  | [] => pure 0
  | s :: rest => do
    let (_, held) ← whole c s
    let more ← inTurn rest
    pure (held + more)

def lineByLine (place : Nat) : List CodeLine → Exec Nat
  | [] => pure 0
  | l :: rest => do
    modify fun m => ({ m with pc := place, line := l.number } : Machine).traceLine c
    let held ← inTurn c l.body.toList
    let more ← lineByLine (place + 1) rest
    pure (held + more)

end Definitions

variable {c : Setting} {m m' : Machine} {s : Stmt} {ss : List Stmt}

theorem straightFlow {flow : Flow} (straight : s.Straight)
    (ran : statement c s m = (.ok flow, m')) : flow = .next ∨ ∃ inner, flow = .inner inner := by
  have goesOn {α : Type} {x : Exec α}
      (ran : (x >>= fun _ => pure Flow.next) m = (.ok flow, m')) : flow = .next := by
    rcases bindRuns.mp ran with ⟨_, mid, _, told⟩ | ⟨_, _, same⟩
    · exact Except.ok.inj (pureRuns.mp told).1
    · cases same
  cases s with
  | remark text => exact .inl (Except.ok.inj (pureRuns.mp ran).1)
  | doIf condition inner =>
      rcases bindRuns.mp ran with ⟨v, mid, _, told⟩ | ⟨_, _, same⟩
      · have told := Except.ok.inj (pureRuns.mp told).1
        split at told
        · exact .inr ⟨inner, told⟩
        · exact .inl told
      · cases same
  | print items => exact .inl (goesOn ran)
  | assign target value => exact .inl (goesOn ran)
  | input name => exact .inl (goesOn ran)
  | loop name start limit step => exact .inl (goesOn ran)
  | dim declared => exact .inl (goesOn ran)
  | randomize seed => exact .inl (goesOn ran)
  | call name args => exact .inl (goesOn ran)
  | _ => exact straight.elim

theorem straightWhole {r : Except Fault (Flow × Nat)} (wholly : Wholly c m s r m')
    (straight : s.Straight) : ∀ told ∈ r.toOption, told.1 = .next := by
  induction wholly with
  | refused limit => exact nofun
  | failed below ran => exact nofun
  | done below plain ran =>
      rintro told ⟨rfl⟩
      rcases straightFlow straight ran with next | ⟨inner, nested⟩
      · exact next
      · exact absurd nested (plain inner)
  | @inside m condition inner host r m' below applies rest ih =>
      cases r with
      | error f => exact nofun
      | ok deeper =>
          rintro told ⟨rfl⟩
          exact ih straight deeper rfl

/- A statement as a whole stays on its line, and is counted with all statements inside it that are
executed. -/
theorem whollyFrame {r : Except Fault (Flow × Nat)} (wholly : Wholly c m s r m') :
    m'.pc = m.pc ∧ m'.line = m.line ∧ ∀ told ∈ r.toOption, m'.steps = m.steps + 1 + told.2 := by
  induction wholly with
  | refused limit => exact ⟨rfl, rfl, nofun⟩
  | failed below ran =>
      obtain ⟨pc, line, _, _⟩ := Machine.doesFrame (statementDoes ran)
      exact ⟨pc, line, nofun⟩
  | done below plain ran =>
      obtain ⟨pc, line, _, steps⟩ := Machine.doesFrame (statementDoes ran)
      refine ⟨pc, line, ?_⟩
      rintro told ⟨rfl⟩
      exact steps
  | @inside m condition inner host r m' below applies rest ih =>
      obtain ⟨pc, line, steps⟩ := ih
      refine ⟨pc, line, ?_⟩
      cases r with
      | error f => exact nofun
      | ok deeper =>
          rintro told ⟨rfl⟩
          have count : m'.steps = m.steps + 1 + 1 + deeper.2 := steps deeper rfl
          simp only
          omega

theorem inTurnFrame {r : Except Fault Nat} (ran : inTurn c ss m = (r, m')) :
    m'.pc = m.pc ∧ m'.line = m.line ∧
      ∀ held ∈ r.toOption, m'.steps = m.steps + ss.length + held := by
  induction ss generalizing m r with
  | nil =>
      obtain ⟨rfl, rfl⟩ := pureRuns.mp ran
      refine ⟨rfl, rfl, ?_⟩
      rintro held ⟨rfl⟩
      rfl
  | cons s rest ih =>
      rcases bindRuns.mp ran with ⟨told, mid, one, others⟩ | ⟨f, failed, rfl⟩
      · obtain ⟨pc, line, steps⟩ := whollyFrame (wholeRuns one)
        have first := steps told rfl
        rcases bindRuns.mp others with ⟨more, last, tail, sum⟩ | ⟨f, failed, rfl⟩
        · obtain ⟨rfl, rfl⟩ := pureRuns.mp sum
          obtain ⟨pc', line', steps'⟩ := ih tail
          have second := steps' more rfl
          refine ⟨pc'.trans pc, line'.trans line, ?_⟩
          rintro held ⟨rfl⟩
          rw [List.length_cons]
          omega
        · obtain ⟨pc', line', _⟩ := ih failed
          exact ⟨pc'.trans pc, line'.trans line, nofun⟩
      · obtain ⟨pc, line, _⟩ := whollyFrame (wholeRuns failed)
        exact ⟨pc, line, nofun⟩

theorem lineByLineFrame {place : Nat} {lines : List CodeLine} {r : Except Fault Nat}
    (ran : lineByLine c place lines m = (r, m')) : ∀ held ∈ r.toOption,
      m'.line = (lines.getLast?.map CodeLine.number).getD m.line ∧
        m'.steps = m.steps + (lines.flatMap fun l => l.body.toList).length + held := by
  induction lines generalizing place m r with
  | nil =>
      obtain ⟨rfl, rfl⟩ := pureRuns.mp ran
      rintro held ⟨rfl⟩
      exact ⟨rfl, rfl⟩
  | cons l rest ih =>
      rcases bindRuns.mp ran with ⟨_, begun, first, lines⟩ | ⟨f, failed, rfl⟩
      · cases first
        beta_reduce at lines
        rcases bindRuns.mp lines with ⟨held, mid, statements, others⟩ | ⟨f, failed, rfl⟩
        · obtain ⟨_, line, steps⟩ := inTurnFrame statements
          have here := steps held rfl
          rw [Machine.traceLineRemarks] at line here
          rcases bindRuns.mp others with ⟨more, last, tail, sum⟩ | ⟨f, failed, rfl⟩
          · obtain ⟨rfl, rfl⟩ := pureRuns.mp sum
            obtain ⟨line', steps'⟩ := ih tail more rfl
            rintro total ⟨rfl⟩
            constructor
            · rw [line', line]
              cases rest <;> rfl
            · simp only [List.flatMap_cons, List.length_append] at here ⊢
              omega
          · exact nofun
        · exact nofun
      · exact nofun

end Exec

namespace Machine

variable {c : Setting} {m m' : Machine} {s : Stmt} {ss : List Stmt}

def Comes (r : Except Fault Nat) (m : Machine) (p : Progress) : Prop :=
  match r with
  | .ok _ => p = .running { m with pc := m.pc + 1, pending := [] }
  | .error f => ∃ pending, p = ({ m with pending } : Machine).fail f

theorem inTurnLeads {r : Except Fault Nat} (straight : ∀ t ∈ s :: ss, t.Straight)
    (ran : Exec.inTurn c (s :: ss) m = (r, m')) :
    ∃ k p, Progress.Leads c k (({ m with pending := ss } : Machine).perform c s) p ∧
      Comes r m' p := by
  induction ss generalizing s m r with
  | nil =>
      obtain ⟨k, leads⟩ := performWhole c s { m with pending := [] }
      rw [Exec.wholeHeedless s m []] at leads
      refine ⟨k, _, leads, ?_⟩
      rcases bindRuns.mp ran with ⟨told, mid, one, others⟩ | ⟨f, failed, rfl⟩
      · have next := Exec.straightWhole (Exec.wholeRuns one) (straight s (by simp)) told rfl
        obtain ⟨rfl, rfl⟩ := pureRuns.mp others
        simp only [one, settled, next, follow]
        rfl
      · rw [failed]
        exact ⟨[], rfl⟩
  | cons t rest ih =>
      obtain ⟨k, leads⟩ := performWhole c s { m with pending := t :: rest }
      rw [Exec.wholeHeedless s m (t :: rest)] at leads
      rcases bindRuns.mp ran with ⟨told, mid, one, others⟩ | ⟨f, failed, rfl⟩
      · have next := Exec.straightWhole (Exec.wholeRuns one) (straight s (by simp)) told rfl
        -- the statement that comes next is due on the same line
        have settled : settled c (.ok told) { mid with pending := t :: rest } =
            .running { mid with pending := t :: rest } := by
          simp only [settled, next, follow]
          rfl
        rw [one, settled] at leads
        have later : ∀ u ∈ t :: rest, u.Straight := fun u inside =>
          straight u (List.mem_cons_of_mem _ inside)
        have due : ({ mid with pending := t :: rest } : Machine).step c =
            ({ mid with pending := rest } : Machine).perform c t := stepPending rfl
        have further (r : Except Fault Nat)
            (tail : Exec.inTurn c (t :: rest) mid = (r, m')) : ∃ k p,
            Progress.Leads c k (({ m with pending := t :: rest } : Machine).perform c s) p ∧
              Comes r m' p := by
          obtain ⟨j, p, rest, comes⟩ := ih later tail
          rw [← due] at rest
          exact ⟨_, p, leads.trans (.step rest), comes⟩
        rcases bindRuns.mp others with ⟨more, last, tail, sum⟩ | ⟨f, failed, rfl⟩
        · obtain ⟨rfl, rfl⟩ := pureRuns.mp sum
          obtain ⟨k, p, leads, comes⟩ := further _ tail
          exact ⟨k, p, leads, comes⟩
        · exact further _ failed
      · rw [failed] at leads
        exact ⟨_, _, leads, _, rfl⟩

theorem beginStraight {place : Nat} {l : CodeLine} (found : c.code.lines[place]? = some l)
    (calm : m.host.interrupted = false) :
    ({ m with pc := place, pending := [] } : Machine).step c =
      ({ ({ m with pc := place, line := l.number } : Machine).traceLine c with
        pending := l.body.rest } : Machine).perform c l.body.first := by
  rw [stepLine rfl found]
  simp only [beginLine, calm, traceLineRemarks]
  rfl

def endsWith (r : Except Fault Nat) (line : Int) : Ending :=
  match r with
  | .ok _ => .completed
  | .error f => .faulted (.fault line f)

theorem lineByLineLeads {place : Nat} {lines : List CodeLine} {r : Except Fault Nat}
    (remaining : c.code.lines.toList.drop place = lines)
    (straight : ∀ l ∈ lines, ∀ s ∈ l.body.toList, s.Straight)
    (calm : ∀ now, Reaches c { m with pc := place, pending := [] } now →
      now.host.interrupted = false)
    (ran : Exec.lineByLine c place lines m = (r, m')) :
    ∃ k pc pending, Progress.Leads c k (.running { m with pc := place, pending := [] })
      (.finished { m' with pc, pending } (endsWith r m'.line)) := by
  induction lines generalizing place m r with
  | nil =>
      obtain ⟨rfl, rfl⟩ := pureRuns.mp ran
      have past : c.code.lines[place]? = none := by
        have beyond := List.drop_eq_nil_iff.mp remaining
        simpa using beyond
      refine ⟨1, place, [], .step ?_⟩
      rw [stepDone rfl past]
      exact .here
  | cons l rest ih =>
      have found : c.code.lines[place]? = some l := by
        have first := congrArg List.head? remaining
        simpa using first
      have tail : c.code.lines.toList.drop (place + 1) = rest := by
        have second := congrArg List.tail remaining
        simpa using second
      have unasked : m.host.interrupted = false := calm { m with pc := place, pending := [] } .here
      have begins := beginStraight (m := m) found unasked
      rcases bindRuns.mp ran with ⟨_, begun, first, ran⟩ | ⟨f, failed, rfl⟩
      · cases first
        beta_reduce at ran
        rcases bindRuns.mp ran with ⟨held, mid, statements, others⟩ | ⟨f, failed, rfl⟩
        · obtain ⟨k, p, leads, rfl⟩ := inTurnLeads (straight l (by simp)) statements
          rw [← begins] at leads
          have place' : mid.pc = place := by
            rw [(Exec.inTurnFrame statements).1, traceLineRemarks]
          rw [place'] at leads
          have later : ∀ l ∈ rest, ∀ s ∈ l.body.toList, s.Straight := fun l inside =>
            straight l (List.mem_cons_of_mem _ inside)
          have calm' : ∀ now, Reaches c { mid with pc := place + 1, pending := [] } now →
              now.host.interrupted = false := fun now reached =>
            calm now ((Progress.Leads.step leads).reaches reached)
          have further (r : Except Fault Nat)
              (ran : Exec.lineByLine c (place + 1) rest mid = (r, m')) : ∃ k pc pending,
              Progress.Leads c k (.running { m with pc := place, pending := [] })
                (.finished { m' with pc, pending } (endsWith r m'.line)) := by
            obtain ⟨j, pc, pending, further⟩ := ih tail later calm' ran
            exact ⟨_, pc, pending, (Progress.Leads.step leads).trans further⟩
          rcases bindRuns.mp others with ⟨more, last, ran, sum⟩ | ⟨f, failed, rfl⟩
          · obtain ⟨rfl, rfl⟩ := pureRuns.mp sum
            obtain ⟨k, pc, pending, leads⟩ := further _ ran
            exact ⟨k, pc, pending, leads⟩
          · exact further _ failed
        · obtain ⟨k, p, leads, pending, rfl⟩ := inTurnLeads (straight l (by simp)) failed
          rw [← begins] at leads
          exact ⟨_, m'.pc, pending, .step leads⟩
      · cases failed

def begun (c : Setting) : Nat → Machine → List Int
  | 0, _ => []
  | fuel + 1, m =>
    let here := if m.pending.isEmpty then c.code.lines[m.pc]?.toList.map CodeLine.number else []
    match m.step c with
    | .running m => here ++ begun c fuel m
    | .finished _ _ => here

def nextPlace (m : Machine) : Nat := if m.pending.isEmpty then m.pc else m.pc + 1

section Order

variable (straight : ∀ l ∈ c.code.lines, ∀ s ∈ l.body.toList, s.Straight)
include straight

theorem stepNextPlace (kept : ∀ s ∈ m.pending, s.Straight) (running : m.step c = .running m') :
    m'.nextPlace = m.pc + 1 := by
  obtain ⟨s, start, flow, after, due, _, ran, followed⟩ := stepRunning running
  have place : after.pc = m.pc := (doesFrame (statementDoes ran)).1.trans (dueFrame due).1
  unfold nextPlace
  rcases followRunning followed with ⟨_, rfl⟩ | ⟨inner, _, rfl⟩ | ⟨line, _, rfl, _, _⟩
  · unfold settle
    cases pending : after.pending <;> simp [pending, place]
  · simp [place]
  · rcases Exec.straightFlow (dueHolds straight kept due).1 ran with
      impossible | ⟨_, impossible⟩ <;> cases impossible

theorem begunInOrder (fuel : Nat) (kept : ∀ s ∈ m.pending, s.Straight) :
    ∃ left, (c.code.lines.toList.drop m.nextPlace).map CodeLine.number = begun c fuel m ++ left ∧
      ∀ last, run c fuel m = some (last, .completed) → left = [] := by
  induction fuel generalizing m with
  | zero => exact ⟨_, rfl, nofun⟩
  | succ fuel ih =>
      have here : c.code.lines.toList.drop m.nextPlace =
          (if m.pending.isEmpty then c.code.lines[m.pc]?.toList else []) ++
            c.code.lines.toList.drop (m.pc + 1) := by
        unfold nextPlace
        split
        · rw [← Array.getElem?_toList]
          exact List.drop_eq_getElem?_toList_append
        · rfl
      rw [here, begun, run]
      cases next : m.step c with
      | running after =>
          obtain ⟨left, order, complete⟩ := ih (stepHolds straight id kept next)
          rw [stepNextPlace straight kept next] at order
          refine ⟨left, ?_, complete⟩
          rw [List.map_append, order, List.append_assoc]
          split <;> rfl
      | finished last e =>
          refine ⟨(c.code.lines.toList.drop (m.pc + 1)).map CodeLine.number, ?_, ?_⟩
          · rw [List.map_append]
            split <;> rfl
          · rintro last ⟨rfl⟩
            cases stepEnds next with
            | completed idle past =>
                have beyond := Array.getElem?_eq_none_iff.mp past
                simp only [List.map_eq_nil_iff, List.drop_eq_nil_iff, Array.length_toList]
                omega

end Order

end Machine

section Workspaces

variable {w : Workspace} {h : Host}

/- What the run of a program without jumps does: it is the execution of the lines one after the
other, and begins them in the order of their numbers. -/
structure RunsThrough (w : Workspace) (h : Host) (code : Code) : Prop where
  numbers : code.lines.toList.map CodeLine.number = w.listing.lines.map Line.number
  order (fuel : Nat) :
    Machine.begun ⟨code, w.functions, w.options⟩ fuel (Machine.start w.vars h) <+:
      w.listing.lines.map Line.number
  completes (held : Nat) (m : Machine)
    (ran : Exec.lineByLine ⟨code, w.functions, w.options⟩ 0 code.lines.toList
      (Machine.start w.vars h) = (.ok held, m)) :
    m.steps = (code.lines.toList.flatMap fun l => l.body.toList).length + held ∧
      (∃ l ∈ w.listing.lines, l.number = m.line) ∧ (∀ l ∈ w.listing.lines, l.number ≤ m.line) ∧
      ∃ enough, ∀ fuel, enough ≤ fuel → w.run fuel h = some (w.after (m, .completed)) ∧
        Machine.begun ⟨code, w.functions, w.options⟩ fuel (Machine.start w.vars h) =
          w.listing.lines.map Line.number
  faults (f : Fault) (m : Machine)
    (ran : Exec.lineByLine ⟨code, w.functions, w.options⟩ 0 code.lines.toList
      (Machine.start w.vars h) = (.error f, m)) :
    ∃ enough, ∀ fuel, enough ≤ fuel →
      w.run fuel h = some (w.after (m, .faulted (.fault m.line f)))

theorem codeStraight {code : Code} (straight : w.Straight)
    (compiled : Code.compile w.functions.has w.listing.lines = .ok code) :
    ∀ l ∈ code.lines, ∀ s ∈ l.body.toList, s.Straight := by
  intro l member
  obtain ⟨source, listed, _, parsed⟩ := Code.compileSource compiled member
  obtain ⟨body, also, kept⟩ := straight source listed
  rw [parsed] at also
  cases also
  exact kept

theorem startLeads {code : Code} (straight : ∀ l ∈ code.lines, ∀ s ∈ l.body.toList, s.Straight)
    (compiled : w.code = .ok code) (calm : w.Undisturbed h) {m : Machine} {r : Except Fault Nat}
    (ran : Exec.lineByLine ⟨code, w.functions, w.options⟩ 0 code.lines.toList
      (Machine.start w.vars h) = (r, m)) :
    ∃ k pc pending, ∀ fuel, k ≤ fuel →
      Machine.run ⟨code, w.functions, w.options⟩ fuel (Machine.start w.vars h) =
        some ({ m with pc, pending }, Machine.endsWith r m.line) := by
  obtain ⟨k, pc, pending, leads⟩ := Machine.lineByLineLeads
    (c := ⟨code, w.functions, w.options⟩) (m := Machine.start w.vars h) rfl
    (fun l member => straight l (Array.mem_def.mpr (List.mem_of_mem_drop member)))
    (fun now reached => calm code now compiled reached) ran
  exact ⟨k, pc, pending, fun fuel enough => Machine.runMore leads.runs enough⟩

theorem runsThrough (nonempty : w.listing.lines ≠ []) (ordered : Listing.Ascending w.listing.lines)
    (straight : w.Straight) (calm : w.Undisturbed h) :
    ∃ code, w.code = .ok code ∧ RunsThrough w h code := by
  obtain ⟨code, compiled, numbers⟩ := Code.compileGood ordered fun l member =>
    let ⟨body, parsed, _⟩ := straight l member
    ⟨body, parsed⟩
  have ok : w.code = .ok code := (codeOfLines nonempty).trans compiled
  have lines := codeStraight straight compiled
  have order (fuel : Nat) := Machine.begunInOrder (c := ⟨code, w.functions, w.options⟩)
    (m := Machine.start w.vars h) lines fuel nofun
  have all : (code.lines.toList.drop (Machine.start w.vars h).nextPlace).map CodeLine.number =
      w.listing.lines.map Line.number := numbers
  refine ⟨code, ok, numbers, ?_, ?_, ?_⟩
  · intro fuel
    obtain ⟨left, begun, _⟩ := order fuel
    exact ⟨left, begun.symm.trans all⟩
  · intro held m ran
    obtain ⟨line, steps⟩ := Exec.lineByLineFrame ran held rfl
    have last : (code.lines.toList.getLast?.map CodeLine.number) =
        w.listing.lines.getLast?.map Line.number := by
      rw [← List.getLast?_map, numbers, List.getLast?_map]
    have final := List.getLast?_eq_some_getLast nonempty
    rw [last, final] at line
    refine ⟨by simpa [Machine.start] using steps, ⟨_, List.getLast_mem nonempty, line.symm⟩, ?_, ?_⟩
    · intro l member
      rw [line]
      exact Listing.lastGreatest ordered final l member
    · obtain ⟨k, pc, pending, finishes⟩ := startLeads lines ok calm ran
      refine ⟨k, fun fuel enough => ⟨?_, ?_⟩⟩
      · rw [runOf ok, finishes fuel enough]
        rfl
      · obtain ⟨left, begun, complete⟩ := order fuel
        rw [complete _ (finishes fuel enough), List.append_nil] at begun
        exact begun.symm.trans all
  · intro f m ran
    obtain ⟨k, pc, pending, finishes⟩ := startLeads lines ok calm ran
    refine ⟨k, fun fuel enough => ?_⟩
    rw [runOf ok, finishes fuel enough]
    rfl

theorem runByLines {other : Listing} (same : w.listing.lines = other.lines) (fuel : Nat) :
    ({ w with listing := other } : Workspace).run fuel h =
      (w.run fuel h).map fun result =>
        (result.1, { result.2.1 with listing := other }, result.2.2) := by
  have code : ({ w with listing := other } : Workspace).code = w.code := by
    simp only [Workspace.code, Listing.sizeLength, same]
  cases compiled : w.code with
  | error e =>
      rw [runUnparsed compiled, runUnparsed (code.trans compiled)]
      rfl
  | ok parsed =>
      rw [runOf compiled, runOf (code.trans compiled), Option.map_map]
      rfl

end Workspaces

def Unasked (h k : Host) : Prop := k = h ∧ h.interrupted = false ∧ h.breakOn = none

section Calm

variable {w : Workspace} {h k : Host} {F : Fault → Prop}

theorem writeUnasked (free : Unasked h k) (purpose : Purpose) (text : Bytes) :
    Unasked (h.write purpose text).2 (k.write purpose text).2 := by
  obtain ⟨rfl, calm, silent⟩ := free
  refine ⟨rfl, ?_, ?_⟩ <;> unfold Host.write <;> split <;> simp [calm, silent]

theorem remarkUnasked (free : Unasked h k) (wanted : Bool) (text : Bytes) :
    Unasked (h.remark wanted text) (k.remark wanted text) := by
  cases wanted with
  | false => exact free
  | true => exact writeUnasked free .trace text

theorem readUnasked (free : Unasked h k) (prompt : String) :
    Unasked (Exec.readInput prompt h).2 (Exec.readInput prompt k).2 := by
  have prompted := writeUnasked free .prompt prompt
  obtain ⟨rfl, calm, silent⟩ := free
  unfold Exec.readInput
  cases k.input with
  | none => exact prompted
  | some channel =>
      simp only
      cases channel.drawsPrompt with
      | true => exact ⟨rfl, calm, silent⟩
      | false => exact ⟨rfl, prompted.2⟩

theorem unaskedServe : ServeAlike F Unasked where
  write text free := by
    refine ⟨?_, writeUnasked free .result text⟩
    rw [free.1]
  clock free := by rw [free.1]
  meter free := by rw [free.1]
  random free := by rw [free.1]
  drawn _ free := by
    obtain ⟨rfl, calm⟩ := free
    exact ⟨rfl, calm⟩
  waits _ free := by
    obtain ⟨rfl, calm⟩ := free
    exact ⟨rfl, calm⟩
  asked free := .inl (by rw [free.1])

/- When nobody asks for a stop beforehand, and the functions of the table do not either, nobody does
during the run. -/
theorem undisturbed (blind : w.functions.Blind (fun _ => False) Unasked)
    (calm : h.interrupted = false) (silent : h.breakOn = none) : w.Undisturbed h := by
  intro code m _ reached
  have same : Companion (fun _ => False) Unasked ⟨code, w.functions, w.options⟩ w.options :=
    { toServeAlike := unaskedServe
      blind
      change := fun _ _ _ _ free => remarkUnasked free _ _
      begun := fun _ free => remarkUnasked free _ _
      read := by
        intro h k name free
        refine ⟨?_, readUnasked free _⟩
        rw [free.1]
      limit := .inl rfl }
  obtain ⟨also, _, host, _, free⟩ :=
    Machine.reachesBeside same (.refl ⟨rfl, calm, silent⟩) reached
  exact free.2.1

end Calm

/- The first part is about the program without lines, the second about all others. The last says
that only the last edit of each line counts, in whatever order the lines have been entered. -/
theorem straightProgramsRunThrough (w : Workspace) (h : Host)
    (ordered : Listing.Ascending w.listing.lines) (straight : w.Straight)
    (calm : w.Undisturbed h) :
    (w.listing.lines = [] → ∀ fuel, w.run fuel h = some (⟨.faulted .noProgram, 0, 0⟩, w, h)) ∧
      (w.listing.lines ≠ [] → ∃ code, w.code = .ok code ∧ RunsThrough w h code) ∧
      ∀ past other, w.listing = Listing.replay past →
        (∀ n, 0 < n → Listing.lastEdit n past = Listing.lastEdit n other) →
        ∀ fuel, ({ w with listing := Listing.replay other } : Workspace).run fuel h =
          (w.run fuel h).map fun result =>
            (result.1, { result.2.1 with listing := Listing.replay other }, result.2.2) := by
  refine ⟨fun empty fuel => ?_, fun nonempty => runsThrough nonempty ordered straight calm, ?_⟩
  · have missing : w.code = .error .noProgram := by
      rw [Workspace.code, if_pos (Listing.sizeZero.mpr empty)]
    exact runUnparsed missing fuel h
  · intro past other entered same fuel
    exact runByLines (entered ▸ Listing.lastEditDecides same) fuel

/- Three lines, entered out of order. Of the two conditions the first holds and the second does
not. -/
def shuffledEdits : List Listing.Edit :=
  [.set 20 "IF \"A\" < \"B\" THEN IF \"B\" < \"A\" THEN PRINT", .set 30 "PRINT",
    .set 10 "INPUT A$ : PRINT"]

def shuffled : Workspace := ⟨.replay shuffledEdits, .empty, .empty, .none⟩

theorem shuffledRunsThrough :
    (∃ code, shuffled.code = .ok code ∧ RunsThrough shuffled .idle code) ∧
      (({ shuffled with listing := .replay shuffledEdits.reverse } : Workspace).run 6 .idle).map
        (fun result => (result.1.line, result.1.statements)) = some (30, 5) := by
  have lines : shuffled.listing.lines = [⟨10, "INPUT A$ : PRINT"⟩,
      ⟨20, "IF \"A\" < \"B\" THEN IF \"B\" < \"A\" THEN PRINT"⟩, ⟨30, "PRINT"⟩] := by
    decide +kernel
  have straight : shuffled.Straight := by
    unfold Workspace.Straight
    rw [lines]
    simp only [List.forall_mem_cons]
    refine ⟨⟨_, rfl, ?_⟩, ⟨_, rfl, ?_⟩, ⟨_, rfl, ?_⟩, nofun⟩ <;>
      simp [Body.toList, Stmt.Straight]
  have calm : shuffled.Undisturbed .idle := by
    refine undisturbed ?_ rfl rfl
    intro name body args found
    simp [shuffled, Functions.empty] at found
  obtain ⟨_, runs, reordered⟩ := straightProgramsRunThrough shuffled .idle
    (Listing.replayAscending _) straight calm
  have same (n : Int) (_ : 0 < n) :
      Listing.lastEdit n shuffledEdits = Listing.lastEdit n shuffledEdits.reverse := by
    by_cases ten : n = 10
    · subst ten
      rfl
    · by_cases twenty : n = 20
      · subst twenty
        rfl
      · have notTen : (10 == n) = false := by simpa using Ne.symm ten
        have notTwenty : (20 == n) = false := by simpa using Ne.symm twenty
        simp [Listing.lastEdit, shuffledEdits, Listing.Edit.concerns, Listing.Edit.number?,
          List.find?_cons, notTen, notTwenty]
  refine ⟨runs (by simp [lines]), ?_⟩
  rw [reordered shuffledEdits _ rfl same, Option.map_map]
  decide +kernel

end LineBasic
