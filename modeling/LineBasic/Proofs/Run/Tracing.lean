import LineBasic.Proofs.Function.Hosts
import LineBasic.Proofs.Program.Order

/-!
Tracing and prompts are remarks on a run and no part of it. With all remarks taken out, two runs
that differ only in the remarks asked for write the same texts, and they end in the same way with
the same variables.
-/
namespace LineBasic

namespace Console

def results (c : Console) : List Write := c.writes.filter (·.purpose == .result)

def remarks (c : Console) : List Write := c.writes.filter (·.purpose != .result)

variable (c : Console) (text : Bytes) {p : Purpose}

theorem addResult : (c.add ⟨.result, text⟩).results = ⟨.result, text⟩ :: c.results ∧
    (c.add ⟨.result, text⟩).remarks = c.remarks := ⟨rfl, rfl⟩

theorem addRemark (other : p ≠ .result) : (c.add ⟨p, text⟩).results = c.results ∧
    (c.add ⟨p, text⟩).remarks = ⟨p, text⟩ :: c.remarks := by
  cases p with
  | result => exact absurd rfl other
  | trace => exact ⟨rfl, rfl⟩
  | prompt => exact ⟨rfl, rfl⟩

end Console

/- The texts of remarks: the number of a line that begins, a change of a variable, and the prompt of
an INPUT, which is empty when none is wanted. -/
inductive Write.Remark : Write → Prop where
  | line (n : Int) : Remark ⟨.trace, Bytes.ofString ("[" ++ toString n ++ "] ")⟩
  | change (name : String) (old new : Value) : Remark ⟨.trace, Bytes.ofString ("Variable " ++ name ++
      " changed from " ++ old.shown ++ " to " ++ new.shown ++ "\n")⟩
  | prompt (name : String) : Remark ⟨.prompt, Bytes.ofString ("? " ++ name ++ " = ")⟩
  | silent : Remark ⟨.prompt, ""⟩

/- Hosts that differ in nothing but remarks. The console takes every text, and no text asks for a
stop. -/
structure Host.Alike (h k : Host) : Prop where
  unlimited : h.console.limit = none ∧ k.console.limit = none
  unwatched : h.breakOn = none ∧ k.breakOn = none
  results : h.console.results = k.console.results
  input : h.input.map ({ · with prompts := [] }) = k.input.map ({ · with prompts := [] })
  random : h.random = k.random
  clock : h.clock = k.clock
  meter : h.meter = k.meter
  interrupted : h.interrupted = k.interrupted
  waited : h.waited = k.waited

/- A function does not see what has been written or asked, and what it writes itself belongs to the
output. -/
def Functions.Unaware (fns : Functions) : Prop :=
  ∀ (name : String) (body : FunctionBody) (args : List Value) (h k : Host),
    fns.table[name]? = some body → h.Alike k →
      (body args h).1 = (body args k).1 ∧ (body args h).2.Alike (body args k).2 ∧
        (body args h).2.console.remarks = h.console.remarks

namespace Host

variable {h k : Host} {p : Purpose}

theorem writeOpen (unlimited : h.console.limit = none) (unwatched : h.breakOn = none)
    (text : Bytes) :
    h.write p text = (true, { h with console := h.console.add ⟨p, text⟩ }) := by
  simp [write, Console.accepts, unlimited, unwatched]

theorem Alike.symm (alike : h.Alike k) : k.Alike h where
  unlimited := alike.unlimited.symm
  unwatched := alike.unwatched.symm
  results := alike.results.symm
  input := alike.input.symm
  random := alike.random.symm
  clock := alike.clock.symm
  meter := alike.meter.symm
  interrupted := alike.interrupted.symm
  waited := alike.waited.symm

theorem Alike.write (alike : h.Alike k) (text : Bytes) :
    (h.write .result text).1 = (k.write .result text).1 ∧
      (h.write .result text).2.Alike (k.write .result text).2 ∧
      (h.write .result text).2.console.remarks = h.console.remarks := by
  rw [writeOpen alike.unlimited.1 alike.unwatched.1, writeOpen alike.unlimited.2 alike.unwatched.2]
  have results : (h.console.add ⟨.result, text⟩).results =
      (k.console.add ⟨.result, text⟩).results := by
    rw [(Console.addResult h.console text).1, (Console.addResult k.console text).1, alike.results]
  exact ⟨rfl, { alike with results }, (Console.addResult h.console text).2⟩

theorem Alike.remarked (alike : h.Alike k) (other : p ≠ .result) (text : Bytes) :
    (h.writeAnyway p text).Alike k ∧
      (h.writeAnyway p text).console.remarks = ⟨p, text⟩ :: h.console.remarks := by
  unfold writeAnyway
  rw [writeOpen alike.unlimited.1 alike.unwatched.1]
  obtain ⟨results, remarks⟩ := Console.addRemark h.console text other
  exact ⟨{ alike with results := results.trans alike.results }, remarks⟩

theorem Alike.both (alike : h.Alike k) (other : p ≠ .result) (text text' : String) :
    (h.writeAnyway p text).Alike (k.writeAnyway p text') :=
  ((alike.remarked other text).1.symm.remarked other text').1.symm

theorem Alike.read (alike : h.Alike k) (prompt prompt' : String) :
    (Exec.readInput prompt h).1 = (Exec.readInput prompt' k).1 ∧
      (Exec.readInput prompt h).2.Alike (Exec.readInput prompt' k).2 ∧
      ((Exec.readInput prompt h).2.console.remarks = h.console.remarks ∨
        (Exec.readInput prompt h).2.console.remarks = ⟨.prompt, prompt⟩ :: h.console.remarks) := by
  have input := alike.input
  have prompted := alike.both (p := .prompt) nofun prompt prompt'
  have remarked := (alike.remarked (p := .prompt) nofun prompt).2
  cases here : h.input with
  | none =>
      have there : k.input = none := by simpa [here] using input.symm
      simp only [Exec.readInput, here, there]
      exact ⟨trivial, prompted, .inr remarked⟩
  | some channel =>
      obtain ⟨channel', there, same⟩ : ∃ channel', k.input = some channel' ∧
          { channel' with prompts := [] } = { channel with prompts := [] } := by
        simpa [here] using input.symm
      obtain ⟨reader, draws, prompts⟩ := channel
      obtain ⟨reader', draws', prompts'⟩ := channel'
      cases same
      simp only [Exec.readInput, here, there]
      cases draws with
      | true => exact ⟨trivial, { alike with input := rfl }, .inl rfl⟩
      | false => exact ⟨trivial, { prompted with input := rfl }, .inr remarked⟩

def AlikeWith (P : List Write → Prop) (h k : Host) : Prop := h.Alike k ∧ P h.console.remarks

theorem alikeServe (P : List Write → Prop) {F : Fault → Prop} : ServeAlike F (AlikeWith P) where
  write text related := by
    obtain ⟨accepted, alike, remarks⟩ := related.1.write text
    refine ⟨accepted, alike, ?_⟩
    rw [remarks]
    exact related.2
  clock related := related.1.clock
  meter related := related.1.meter
  random related := related.1.random
  drawn _ related := ⟨{ related.1 with random := rfl }, related.2⟩
  waits n related := ⟨{ related.1 with waited := congrArg (· + n) related.1.waited }, related.2⟩
  asked related := .inl related.1.interrupted

end Host

theorem Functions.Unaware.blind {fns : Functions} (unaware : fns.Unaware)
    (P : List Write → Prop) {F : Fault → Prop} : fns.Blind F (Host.AlikeWith P) := by
  intro name body args found h k related
  obtain ⟨same, alike, remarks⟩ := unaware name body args h k found related.1
  refine .inl ⟨same, alike, ?_⟩
  rw [remarks]
  exact related.2

/- The standard functions are unaware of remarks, since they are of any difference between hosts
that serve alike. -/
theorem Functions.standardUnaware : Functions.standard.Unaware := by
  intro name body args h k found alike
  have blind : Functions.standard.Blind (fun _ => False)
      (Host.AlikeWith fun remarks => remarks = h.console.remarks) :=
    Functions.standardBlind (Host.alikeServe _)
  rcases blind name body args found h k ⟨alike, rfl⟩ with
    ⟨same, alike, remarks⟩ | ⟨_, _, impossible⟩
  · exact ⟨same, alike, remarks⟩
  · exact impossible.elim

def Remarks (old remarks : List Write) : Prop := ∀ x ∈ remarks, x ∈ old ∨ x.Remark

theorem Remarks.cons {old remarks : List Write} {x : Write} (rest : Remarks old remarks)
    (remark : x.Remark) : Remarks old (x :: remarks) := by
  intro y member
  rcases List.mem_cons.mp member with rfl | inside
  · exact .inr remark
  · exact rest y inside

section Runs

variable {c : Setting} {o : Options} {old : List Write}

theorem remarkAlike {h k : Host} {wanted wanted' : Bool} {text : Bytes}
    (remark : (⟨.trace, text⟩ : Write).Remark) (related : h.AlikeWith (Remarks old) k) :
    (h.remark wanted text).AlikeWith (Remarks old) (k.remark wanted' text) := by
  obtain ⟨alike, remarks⟩ := related
  have left : (h.remark wanted text).Alike k ∧
      Remarks old (h.remark wanted text).console.remarks := by
    cases wanted with
    | false => exact ⟨alike, remarks⟩
    | true =>
        obtain ⟨alike, added⟩ := alike.remarked (p := .trace) nofun text
        refine ⟨alike, ?_⟩
        change Remarks old (h.writeAnyway .trace text).console.remarks
        rw [added]
        exact remarks.cons remark
  refine ⟨?_, left.2⟩
  cases wanted' with
  | false => exact left.1
  | true => exact (left.1.symm.remarked (p := .trace) nofun text).1.symm

theorem promptRemark (c : Setting) (name : String) :
    (⟨.prompt, Exec.promptFor c name⟩ : Write).Remark := by
  unfold Exec.promptFor
  split
  · exact .prompt name
  · exact .silent

theorem tracingCompanion (unaware : c.functions.Unaware) (limit : o.maxSteps = c.options.maxSteps) :
    Companion (fun _ => False) (Host.AlikeWith (Remarks old)) c o where
  toServeAlike := Host.alikeServe _
  blind := unaware.blind _
  change name shown before after related := remarkAlike (.change shown before after) related
  begun line related := remarkAlike (.line line) related
  read {h k} name related := by
    obtain ⟨same, alike, remarks⟩ := related.1.read (Exec.promptFor c name)
      (Exec.promptFor { c with options := o } name)
    refine ⟨same, alike, ?_⟩
    rcases remarks with silent | one
    · rw [silent]
      exact related.2
    · rw [one]
      exact related.2.cons (promptRemark c name)
  limit := .inl limit

end Runs

/- All of a finished run but the remarks: how and where it ended after how many statements, all
variables, and the output. -/
def essence (result : Outcome × Workspace × Host) : Outcome × Variables × List Write :=
  (result.1, result.2.1.vars, result.2.2.console.results)

theorem startAlike {h : Host} (unlimited : h.console.limit = none) (unwatched : h.breakOn = none) :
    h.AlikeWith (Remarks h.console.remarks) h :=
  ⟨⟨⟨unlimited, unlimited⟩, ⟨unwatched, unwatched⟩, rfl, rfl, rfl, rfl, rfl, rfl, rfl⟩,
    fun _ member => .inl member⟩

theorem askAlike {P : List Write → Prop} (m k : Machine) (asked : Bool)
    (beside : m.Beside (Host.AlikeWith P) k) :
    (m.ask asked).Beside (Host.AlikeWith P) (k.ask asked) := by
  obtain ⟨host, rfl, alike, remarks⟩ := beside
  exact ⟨_, rfl, { alike with interrupted := congrArg (· || asked) alike.interrupted }, remarks⟩

theorem essenceBeside {P : List Write → Prop} {w w' : Workspace} {m k : Machine} {e : Ending}
    (beside : m.Beside (Host.AlikeWith P) k) :
    essence (w.after (m, e)) = essence (w'.after (k, e)) := by
  obtain ⟨host, rfl, alike, _⟩ := beside
  simp only [essence, Workspace.after, alike.results]

section Workspaces

variable {w : Workspace} {o : Options} {h : Host} {asked : Nat → Bool} {fuel : Nat}

theorem machinesAlike {c : Setting} (asked : Nat → Bool) (fuel : Nat) (vars : Variables)
    (limit : o.maxSteps = c.options.maxSteps) (unaware : c.functions.Unaware)
    (unlimited : h.console.limit = none) (unwatched : h.breakOn = none) :
    (Machine.runAsked c asked fuel (Machine.start vars h) = none ∧
        Machine.runAsked { c with options := o } asked fuel (Machine.start vars h) = none) ∨
      ∃ m k e, Machine.runAsked c asked fuel (Machine.start vars h) = some (m, e) ∧
        Machine.runAsked { c with options := o } asked fuel (Machine.start vars h) = some (k, e) ∧
        m.Beside (Host.AlikeWith (Remarks h.console.remarks)) k := by
  have same : Companion (fun _ => False) (Host.AlikeWith (Remarks h.console.remarks)) c o :=
    tracingCompanion unaware limit
  have start : (Machine.start vars h).Beside _ (Machine.start vars h) :=
    .refl (startAlike unlimited unwatched)
  obtain ⟨unfinished, finished⟩ := Machine.runBeside same askAlike asked fuel start
  cases ran : Machine.runAsked c asked fuel (Machine.start vars h) with
  | none => exact .inl ⟨rfl, unfinished ran⟩
  | some result =>
      rcases finished result.1 result.2 ran with ⟨k, also, beside⟩ | ⟨_, _, _, impossible⟩
      · exact .inr ⟨result.1, k, result.2, rfl, also, beside⟩
      · exact impossible.elim

theorem essenceSame (limit : o.maxSteps = w.options.maxSteps) (unaware : w.functions.Unaware)
    (unlimited : h.console.limit = none) (unwatched : h.breakOn = none) :
    (w.runAsked asked fuel h).map essence =
      (({ w with options := o } : Workspace).runAsked asked fuel h).map essence := by
  have code : ({ w with options := o } : Workspace).code = w.code := rfl
  unfold Workspace.runAsked
  rw [code]
  cases compiled : w.code with
  | error e => rfl
  | ok code =>
      simp only
      rcases machinesAlike (c := ⟨code, w.functions, w.options⟩) asked fuel w.vars limit unaware
        unlimited unwatched with ⟨here, there⟩ | ⟨m, k, e, here, there, beside⟩
      · rw [here, there]
        rfl
      · rw [here, there]
        exact congrArg some (essenceBeside beside)

theorem remarksKnown {outcome : Outcome} {w' : Workspace} {h' : Host}
    (unaware : w.functions.Unaware) (unlimited : h.console.limit = none)
    (unwatched : h.breakOn = none) (ran : w.runAsked asked fuel h = some (outcome, w', h')) :
    Remarks h.console.remarks h'.console.remarks := by
  unfold Workspace.runAsked at ran
  cases compiled : w.code with
  | error e =>
      rw [compiled] at ran
      cases ran
      exact fun _ member => .inl member
  | ok code =>
      simp only [compiled] at ran
      rcases machinesAlike (c := ⟨code, w.functions, w.options⟩) asked fuel w.vars rfl unaware
        unlimited unwatched with ⟨here, _⟩ | ⟨m, k, e, here, _, beside⟩
      · rw [here] at ran
        cases ran
      · rw [here] at ran
        cases ran
        obtain ⟨_, _, _, remarks⟩ := beside
        exact remarks

end Workspaces

/- The options `o` differ from those of the workspace only in the remarks they ask for. Whatever is
left out of the writes of a run is a remark that was there before or has one of their texts. -/
theorem tracingInvisible (w : Workspace) (o : Options) (h : Host) (fuel : Nat)
    (limit : o.maxSteps = w.options.maxSteps) (unaware : w.functions.Unaware)
    (unlimited : h.console.limit = none) (unwatched : h.breakOn = none) :
    (w.run fuel h).map essence = (({ w with options := o } : Workspace).run fuel h).map essence ∧
      (∀ asked, (w.runAsked asked fuel h).map essence =
        (({ w with options := o } : Workspace).runAsked asked fuel h).map essence) ∧
      ∀ asked outcome w' h', w.runAsked asked fuel h = some (outcome, w', h') →
        ∀ x ∈ h'.console.remarks, x ∈ h.console.remarks ∨ x.Remark := by
  refine ⟨?_, ?_, ?_⟩
  · rw [← Workspace.runNeverAsked, ← Workspace.runNeverAsked]
    exact essenceSame limit unaware unlimited unwatched
  · intro asked
    exact essenceSame limit unaware unlimited unwatched
  · intro asked outcome w' h' ran
    exact remarksKnown unaware unlimited unwatched ran

def dieProgram : Workspace :=
  ⟨.ofLines [⟨10, "INPUT A"⟩, ⟨20, "LET B = A + RND(6) : PRINT B"⟩] false, .empty, .standard, .none⟩

def dieHost : Host := { Host.idle with input := some ⟨.ofText "41" none, false, []⟩ }

def everythingShown : Options := ⟨true, true, ["A"], true, 0⟩

theorem shownDieSame :
    dieProgram.functions.Unaware ∧ dieHost.console.limit = none ∧ dieHost.breakOn = none ∧
      everythingShown.maxSteps = dieProgram.options.maxSteps ∧
      (dieProgram.run 9 dieHost).map essence =
        (({ dieProgram with options := everythingShown } : Workspace).run 9 dieHost).map essence := by
  have standard : dieProgram.functions = .standard := by simp only [dieProgram]
  have unaware : dieProgram.functions.Unaware := standard ▸ Functions.standardUnaware
  have unlimited : dieHost.console.limit = none := rfl
  have unwatched : dieHost.breakOn = none := rfl
  have limit : everythingShown.maxSteps = dieProgram.options.maxSteps := rfl
  have same := tracingInvisible dieProgram everythingShown dieHost 9 limit unaware unlimited
    unwatched
  exact ⟨unaware, unlimited, unwatched, limit, same.1⟩

end LineBasic
