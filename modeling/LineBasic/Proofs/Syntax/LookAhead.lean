import Mathlib.Data.List.TakeWhile
import LineBasic.Proofs.Syntax.Scanning

/-!
Looking ahead. A lexer may be asked what comes next, whether anything comes, and what is left of the
line, as often as one likes and at any time: what it reads afterwards is what it would have read
without. So every answer is told by plain reading, the reading with nothing but `next`.
-/
namespace LineBasic

namespace Cursor

theorem skipSpacesSolid {c : Cursor} {x : Char} (first : x ∈ c.skipSpaces.rest.head?) :
    Text.isSpace x = false := by
  have stopped := List.head?_dropWhile_not Text.isSpace c.rest
  rw [skipSpacesRest] at first
  rw [Option.mem_def.mp first] at stopped
  exact stopped

@[simp] theorem skipSpacesTwice (c : Cursor) : c.skipSpaces.skipSpaces = c.skipSpaces := by
  have nothing : c.skipSpaces.rest.takeWhile Text.isSpace = [] := by
    cases left : c.skipSpaces.rest with
    | nil => rfl
    | cons x rest => simp [skipSpacesSolid (c := c) (x := x) (by simp [left])]
  have again : c.skipSpaces.skipSpaces = c.skipSpaces.skip
      (c.skipSpaces.rest.takeWhile Text.isSpace).length := rfl
  rw [again, nothing]
  rfl

theorem nextAfterSpaces {c c' : Cursor} (same : c'.skipSpaces = c.skipSpaces) :
    c'.next = c.next := by
  unfold next
  simp only [same]

theorem nextEnds {c after : Cursor} {t : Token} (read : c.next = .ok (t, after)) :
    t.lexeme = .endOfLine ↔ c.skipSpaces.rest = [] := by
  obtain ⟨width, lexeme, _, _⟩ := nextOk.mp read
  constructor
  · intro last
    rw [last] at lexeme
    exact (Lexeme.readEnd lexeme).1
  · intro nothing
    rw [nothing, Lexeme.read] at lexeme
    exact (Prod.mk.inj (Except.ok.inj lexeme)).1.symm

theorem nextFails {c : Cursor} {f : LexFault} (stops : c.next = .error f) :
    c.skipSpaces.rest ≠ [] := by
  intro nothing
  have read := (nextError.mp stops).1
  rw [nothing] at read
  cases read

end Cursor

namespace Lexer

def nexts : Nat → Lexer → List (Except LexFault Token)
  | 0, _ => []
  | n + 1, l => l.next.1 :: nexts n l.next.2

def readOn : Nat → Lexer → Lexer
  | 0, l => l
  | n + 1, l => readOn n l.next.2

inductive Call where
  | peek
  | next
  | hasMore
  | remaining
  deriving DecidableEq

inductive Answer where
  | token (result : Except LexFault Token)
  | more (yes : Bool)
  | rest (text : String)

def Answer.fault? : Answer → Option LexFault
  | .token (.error f) => some f
  | _ => none

def perform (l : Lexer) : Call → Answer × Lexer
  | .peek => (.token l.peek.1, l.peek.2)
  | .next => (.token l.next.1, l.next.2)
  | .hasMore => (.more l.hasMore.1, l.hasMore.2)
  | .remaining => (.rest l.remaining.1, l.remaining.2)

def run : List Call → Lexer → List (Call × Answer) × Lexer
  | [], l => ([], l)
  | call :: calls, l =>
    let done := l.perform call
    let others := run calls done.2
    ((call, done.1) :: others.1, others.2)

def resultsOfNext : List (Call × Answer) → List (Except LexFault Token)
  | [] => []
  | (.next, .token result) :: others => result :: resultsOfNext others
  | _ :: others => resultsOfNext others

def leftOf (line : String) : Except LexFault Token → String
  | .ok t => if t.lexeme = .endOfLine then "" else String.ofList (line.toList.drop t.pos)
  | .error f => String.ofList (line.toList.drop f.pos)

structure Plain (l : Lexer) : Prop where
  peeked : l.peeked = none
  sound : l.fault = none
  placed : l.cursor.rest = l.line.toList.drop l.cursor.pos

/- `l` reads on as `plain` does: it may have skipped white space, looked at the next token, or met
the fault that `plain` comes to next. -/
inductive ReadsLike (l plain : Lexer) : Prop where
  | level (place : plain.Plain) (peeked : l.peeked = none) (sound : l.fault = none)
      (line : l.line = plain.line) (skipped : l.cursor.skipSpaces = plain.cursor.skipSpaces)
  | ahead {t} (place : plain.Plain) (peeked : l.peeked = some t) (sound : l.fault = none)
      (line : l.line = plain.line) (read : plain.cursor.next = .ok (t, l.cursor))
  | stopped {f} (peeked : l.peeked = none) (fault : l.fault = some f)
      (fresh : plain.peeked = none) (stops : plain.next.1 = .error f)

section Scan

variable {l plain : Lexer} {t : Token} {f : LexFault} {c : Cursor}

theorem scanOk (sound : l.fault = none) (read : l.cursor.next = .ok (t, c)) :
    l.scan = (.ok t, { l with cursor := c }) := by
  simp only [scan, sound, read]

theorem scanStops (sound : l.fault = none) (stops : l.cursor.next = .error f) :
    l.scan = (.error f, { l with cursor := stoppedAt l.cursor f.problem, fault := some f }) := by
  simp only [scan, sound, stops]

theorem scanFault (fault : l.fault = some f) : l.scan = (.error f, l) := by
  simp only [scan, fault]

theorem nextScans (peeked : l.peeked = none) : l.next = l.scan := by
  simp only [next, peeked]

theorem Plain.nextOk (place : plain.Plain) (read : plain.cursor.next = .ok (t, c)) :
    plain.next = (.ok t, { plain with cursor := c }) := by
  rw [nextScans place.peeked, scanOk place.sound read]

theorem Plain.nextStops (place : plain.Plain) (stops : plain.cursor.next = .error f) :
    plain.next.1 = .error f := by
  rw [nextScans place.peeked, scanStops place.sound stops]

theorem Plain.moved (place : plain.Plain) (read : plain.cursor.next = .ok (t, c)) :
    ({ plain with cursor := c } : Lexer).Plain :=
  ⟨place.peeked, place.sound, Cursor.nextPlaced read place.placed⟩

theorem Plain.restPlaced (place : plain.Plain) :
    plain.cursor.skipSpaces.rest = plain.line.toList.drop plain.cursor.skipSpaces.pos := by
  simp [Cursor.skipSpaces, place.placed]

theorem Plain.left (place : plain.Plain) :
    String.ofList plain.cursor.skipSpaces.rest = leftOf plain.line plain.next.1 ∧
      (plain.cursor.skipSpaces.rest = [] ↔ ∃ pos, plain.next.1 = .ok ⟨.endOfLine, pos⟩) := by
  cases read : plain.cursor.next with
  | ok result =>
      obtain ⟨⟨lexeme, pos⟩, c⟩ := result
      obtain ⟨width, _, rfl, _⟩ := Cursor.nextOk.mp read
      have ends := Cursor.nextEnds read
      rw [place.nextOk read, leftOf, ← place.restPlaced]
      refine ⟨?_, ?_⟩
      · split
        · rename_i last
          rw [ends.mp last]
        · rfl
      · rw [← ends]
        simp
  | error f =>
      obtain ⟨_, pos⟩ := Cursor.nextError.mp read
      rw [place.nextStops read, leftOf, pos, ← place.restPlaced]
      simp [Cursor.nextFails read]

theorem faultStays (peeked : l.peeked = none) (stops : l.next.1 = .error f) :
    l.next.2.peeked = none ∧ l.next.2.fault = some f ∧ l.next.2.next.1 = .error f := by
  rw [nextScans peeked] at stops ⊢
  cases fault : l.fault with
  | some g =>
      rw [scanFault fault] at stops ⊢
      cases stops
      refine ⟨peeked, fault, ?_⟩
      rw [nextScans peeked, scanFault fault]
  | none =>
      cases read : l.cursor.next with
      | ok result =>
          rw [scanOk fault read] at stops
          cases stops
      | error g =>
          rw [scanStops fault read] at stops ⊢
          cases stops
          refine ⟨peeked, rfl, ?_⟩
          rw [nextScans (by exact peeked), scanFault rfl]

end Scan

namespace ReadsLike

variable {l plain : Lexer} (like : ReadsLike l plain)

theorem start (line : String) : ReadsLike (ofLine line) (ofLine line) :=
  .level ⟨rfl, rfl, rfl⟩ rfl rfl rfl rfl

include like

theorem next : l.next.1 = plain.next.1 ∧ ReadsLike l.next.2 plain.next.2 := by
  cases like with
  | level place peeked sound line skipped =>
      have same := Cursor.nextAfterSpaces skipped
      rw [nextScans peeked]
      cases read : plain.cursor.next with
      | ok result =>
          obtain ⟨t, c⟩ := result
          rw [scanOk sound (same.trans read), place.nextOk read]
          exact ⟨rfl, .level (place.moved read) peeked sound line rfl⟩
      | error f =>
          have stops := place.nextStops read
          have stays := faultStays place.peeked stops
          rw [scanStops sound (same.trans read), stops]
          exact ⟨rfl, .stopped peeked rfl stays.1 stays.2.2⟩
  | @ahead t place peeked sound line read =>
      have taken : l.next = (.ok t, { l with peeked := none }) := by simp only [Lexer.next, peeked]
      rw [taken, place.nextOk read]
      exact ⟨rfl, .level (place.moved read) rfl sound line rfl⟩
  | @stopped f peeked fault fresh stops =>
      have stays := faultStays fresh stops
      rw [nextScans peeked, scanFault fault, stops]
      exact ⟨rfl, .stopped peeked fault stays.1 stays.2.2⟩

theorem peek : l.peek.1 = plain.next.1 ∧ ReadsLike l.peek.2 plain := by
  cases like with
  | level place peeked sound line skipped =>
      have same := Cursor.nextAfterSpaces skipped
      unfold Lexer.peek
      rw [peeked]
      cases read : plain.cursor.next with
      | ok result =>
          obtain ⟨t, c⟩ := result
          rw [scanOk sound (same.trans read), place.nextOk read]
          exact ⟨rfl, .ahead place rfl sound line read⟩
      | error f =>
          have stops := place.nextStops read
          rw [scanStops sound (same.trans read), stops]
          exact ⟨rfl, .stopped peeked rfl place.peeked stops⟩
  | @ahead t place peeked sound line read =>
      have kept : l.peek = (.ok t, l) := by simp only [Lexer.peek, peeked]
      rw [kept, place.nextOk read]
      exact ⟨rfl, .ahead place peeked sound line read⟩
  | @stopped f peeked fault fresh stops =>
      have kept : l.peek = (.error f, l) := by simp only [Lexer.peek, peeked, scanFault fault]
      rw [kept, stops]
      exact ⟨rfl, .stopped peeked fault fresh stops⟩

theorem upcoming : ReadsLike l.upcoming.2 plain := by
  cases like with
  | level place peeked sound line skipped =>
      have moved : l.upcoming.2 = { l with cursor := l.cursor.skipSpaces } := by
        simp only [Lexer.upcoming, peeked]
      rw [moved]
      exact .level place peeked sound line ((Cursor.skipSpacesTwice _).trans skipped)
  | @ahead t place peeked sound line read =>
      have kept : l.upcoming.2 = l := by simp only [Lexer.upcoming, peeked]
      rw [kept]
      exact .ahead place peeked sound line read
  | @stopped f peeked fault fresh stops =>
      have moved : l.upcoming.2 = { l with cursor := l.cursor.skipSpaces } := by
        simp only [Lexer.upcoming, peeked]
      rw [moved]
      exact .stopped peeked fault fresh stops

theorem upcomingRest (sound : l.fault = none) :
    plain.Plain ∧ l.upcoming.1 = plain.cursor.skipSpaces.rest := by
  cases like with
  | level place peeked _ line skipped =>
      refine ⟨place, ?_⟩
      simp only [Lexer.upcoming, peeked, skipped]
  | @ahead t place peeked _ line read =>
      refine ⟨place, ?_⟩
      simp only [Lexer.upcoming, peeked]
      split
      · rename_i last
        exact ((Cursor.nextEnds read).mp last).symm
      · obtain ⟨width, _, pos, _⟩ := Cursor.nextOk.mp read
        rw [line, pos, place.restPlaced]
  | stopped _ fault _ _ =>
      rw [sound] at fault
      cases fault

theorem afterFault {f : LexFault} (fault : l.fault = some f) : plain.next.1 = .error f := by
  cases like with
  | level _ _ sound => cases sound.symm.trans fault
  | ahead _ _ sound => cases sound.symm.trans fault
  | stopped _ fault' _ stops =>
      cases fault'.symm.trans fault
      exact stops

end ReadsLike

@[simp] theorem nextLine (l : Lexer) : l.next.2.line = l.line := by
  unfold next scan
  repeat' split
  all_goals rfl

@[simp] theorem readOnLine (n : Nat) (l : Lexer) : (readOn n l).line = l.line := by
  induction n generalizing l with
  | zero => rfl
  | succ n ih => exact (ih l.next.2).trans (nextLine l)

section Run

variable {l plain : Lexer}

theorem performLike (like : ReadsLike l plain) (call : Call) (other : call ≠ .next) :
    ReadsLike (l.perform call).2 plain := by
  cases call with
  | peek => exact like.peek.2
  | next => exact absurd rfl other
  | hasMore => exact like.upcoming
  | remaining => exact like.upcoming

theorem runLike (calls : List Call) (like : ReadsLike l plain) :
    ReadsLike (run calls l).2 (readOn (calls.count .next) plain) ∧
      resultsOfNext (run calls l).1 = nexts (calls.count .next) plain := by
  induction calls generalizing l plain with
  | nil => exact ⟨like, rfl⟩
  | cons call calls ih =>
      by_cases reading : call = .next
      · subst reading
        obtain ⟨same, after⟩ := like.next
        obtain ⟨others, results⟩ := ih after
        rw [List.count_cons_self]
        refine ⟨others, ?_⟩
        have first : resultsOfNext (run (.next :: calls) l).1 =
            l.next.1 :: resultsOfNext (run calls l.next.2).1 := rfl
        rw [first, same, results]
        rfl
      · obtain ⟨others, results⟩ := ih (performLike like call reading)
        rw [List.count_cons_of_ne reading]
        refine ⟨others, ?_⟩
        rw [← results]
        cases call with
        | next => exact absurd rfl reading
        | _ => rfl

theorem scanRemembers (sound : l.fault = none) :
    l.scan.2.fault = (Answer.token l.scan.1).fault? := by
  cases read : l.cursor.next with
  | ok result =>
      rw [scanOk sound read]
      exact sound
  | error f =>
      rw [scanStops sound read]
      rfl

theorem performRemembers (sound : l.fault = none) (call : Call) :
    (l.perform call).2.fault = (l.perform call).1.fault? := by
  have remembers := scanRemembers sound
  cases call with
  | peek =>
      cases peeked : l.peeked with
      | some t => simpa only [perform, peek, peeked, Answer.fault?] using sound
      | none =>
          simp only [perform, peek, peeked]
          cases scanned : l.scan with
          | mk result after =>
              rw [scanned] at remembers
              cases result <;> exact remembers
  | next =>
      cases peeked : l.peeked with
      | some t => simpa only [perform, next, peeked, Answer.fault?] using sound
      | none => simpa only [perform, next, peeked] using remembers
  | hasMore =>
      cases peeked : l.peeked <;>
        simpa only [perform, hasMore, upcoming, peeked, Answer.fault?] using sound
  | remaining =>
      cases peeked : l.peeked <;>
        simpa only [perform, remaining, upcoming, peeked, Answer.fault?] using sound

theorem performKeeps {f : LexFault} (fault : l.fault = some f) (call : Call) :
    (l.perform call).2.fault = some f ∧ ∀ g, (l.perform call).1.fault? = some g → g = f := by
  have scanned := scanFault fault
  cases call <;> cases peeked : l.peeked <;>
    simp [perform, peek, next, hasMore, remaining, upcoming, peeked, scanned, fault,
      Answer.fault?, eq_comm]

theorem runKeeps (calls : List Call) {f : LexFault} (fault : l.fault = some f) :
    (run calls l).2.fault = some f ∧
      ∀ done ∈ (run calls l).1, ∀ g, done.2.fault? = some g → g = f := by
  induction calls generalizing l with
  | nil => exact ⟨fault, by simp [run]⟩
  | cons call calls ih =>
      obtain ⟨stays, same⟩ := performKeeps fault call
      obtain ⟨kept, others⟩ := ih stays
      refine ⟨kept, fun done member => ?_⟩
      rcases List.mem_cons.mp member with rfl | later
      · exact same
      · exact others done later

theorem runRemembers (calls : List Call) (sound : l.fault = none) (f : LexFault) :
    (run calls l).2.fault = some f ↔ ∃ done ∈ (run calls l).1, done.2.fault? = some f := by
  induction calls generalizing l with
  | nil => simp [run, sound]
  | cons call calls ih =>
      have first := performRemembers sound call
      have whole : (run (call :: calls) l).1 =
          (call, (l.perform call).1) :: (run calls (l.perform call).2).1 := rfl
      have last : (run (call :: calls) l).2 = (run calls (l.perform call).2).2 := rfl
      rw [whole, last]
      simp only [List.mem_cons, exists_eq_or_imp, ← first]
      cases fault : (l.perform call).2.fault with
      | none => simpa using ih fault
      | some g =>
          obtain ⟨kept, others⟩ := runKeeps calls fault
          rw [kept]
          constructor
          · exact .inl
          · rintro (same | ⟨done, member, returned⟩)
            · exact same
            · rw [others done member f returned]

end Run

theorem lookAheadInvisible (line : String) (calls : List Call) :
    let answered := (run calls (ofLine line)).1
    let l := (run calls (ofLine line)).2
    let plain := readOn (calls.count .next) (ofLine line)
    resultsOfNext answered = nexts (calls.count .next) (ofLine line) ∧
    l.next.1 = plain.next.1 ∧ l.peek.1 = plain.next.1 ∧
    (∀ looks, .next ∉ looks → (run looks l).2.next.1 = l.next.1) ∧
    ((∀ done ∈ answered, done.2.fault? = none) →
      (l.hasMore.1 = true ↔ ¬ ∃ pos, l.next.1 = .ok ⟨.endOfLine, pos⟩) ∧
      l.remaining.1 = leftOf line l.next.1) ∧
    ∀ f, (∃ done ∈ answered, done.2.fault? = some f) → l.peek.1 = .error f ∧ l.next.1 = .error f := by
  intro answered l plain
  obtain ⟨like, results⟩ := runLike calls (ReadsLike.start line)
  have nextSame : l.next.1 = plain.next.1 := like.next.1
  have peekSame : l.peek.1 = plain.next.1 := like.peek.1
  refine ⟨results, nextSame, peekSame, ?_, ?_, ?_⟩
  · intro looks unused
    have still := (runLike looks like).1
    rw [List.count_eq_zero.mpr unused] at still
    exact still.next.1.trans nextSame.symm
  · intro clean
    have sound : l.fault = none := by
      refine Option.eq_none_iff_forall_ne_some.mpr fun f fault => ?_
      obtain ⟨done, member, returned⟩ := (runRemembers calls rfl f).mp fault
      rw [clean done member] at returned
      cases returned
    obtain ⟨place, comes⟩ := like.upcomingRest sound
    obtain ⟨left, ends⟩ := place.left
    have same : plain.line = line := readOnLine _ _
    rw [same] at left
    rw [nextSame, ← ends, ← left, ← comes]
    exact ⟨by simp [hasMore, l], rfl⟩
  · intro f returned
    have fault : l.fault = some f := (runRemembers calls rfl f).mpr returned
    rw [peekSame, nextSame]
    exact ⟨like.afterFault fault, like.afterFault fault⟩

end Lexer

end LineBasic
