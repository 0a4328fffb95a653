import LineBasic.Proofs.Text.Runs
import LineBasic.Syntax.Parser

/-!
Scanning without fuel. Every token takes at least one character, so the tokens of a line are what a
cursor reads step by step. `Scans` says this as a relation, for the tokens of a line and for any
other way of reading that makes progress.
-/
namespace LineBasic

namespace Lexeme

theorem quotedWidth {done cs contents : List Char} {width n : Nat}
    (closed : quotedFrom done width cs = some (contents, n)) :
    width < n ∧ n ≤ width + cs.length := by
  fun_induction quotedFrom done width cs with
  | case1 => cases closed
  | case2 done width rest ih =>
      have bounds := ih closed
      simp only [List.length_cons]
      omega
  | case3 =>
      cases closed
      simp
  | case4 done width c rest _ _ ih =>
      have bounds := ih closed
      simp only [List.length_cons]
      omega

theorem numberWidthLe (cs : List Char) : numberWidth cs ≤ cs.length := by
  have whole := Text.takeWhileLength Char.isDigit cs
  unfold numberWidth
  simp only
  split
  · rename_i rest shape
    have fraction := Text.takeWhileLength Char.isDigit rest
    have left := congrArg List.length shape
    simp only [List.length_drop, List.length_cons] at left
    omega
  · exact whole

theorem numberWidthPos {cs : List Char} (starts : startsNumber cs = true) : 0 < numberWidth cs := by
  unfold startsNumber at starts
  split at starts
  · have solid : Char.isDigit '.' = false := rfl
    simp only [numberWidth, List.takeWhile_cons, solid, Bool.false_eq_true, if_false,
      List.length_nil, List.drop_zero]
    omega
  · rename_i c rest _
    unfold numberWidth
    simp only [List.takeWhile_cons, starts, if_true, List.length_cons]
    split <;> omega
  · cases starts

theorem symbolWidth {cs : List Char} {s : Symbol} {width : Nat}
    (found : symbol? cs = some (s, width)) : 0 < width ∧ width ≤ cs.length := by
  unfold symbol? at found
  split at found
  · cases found
  · obtain ⟨_, _, same⟩ := Option.map_eq_some_iff.mp found
    cases same
    simp
  · split at found
    · cases found
      simp
    · obtain ⟨_, _, same⟩ := Option.map_eq_some_iff.mp found
      cases same
      simp

theorem readWidth {afterOperand : Bool} {cs : List Char} {t : Lexeme} {width : Nat}
    (ok : read afterOperand cs = .ok (t, width)) :
    width ≤ cs.length ∧ (t ≠ .endOfLine → 0 < width) := by
  unfold read at ok
  split at ok
  · cases ok
    simp
  · rename_i c rest
    split at ok
    · split at ok
      · rename_i closed
        cases ok
        have bounds := quotedWidth closed
        simp only [List.length_cons]
        omega
      · cases ok
    · split at ok
      · rename_i starts
        cases ok
        exact ⟨numberWidthLe _, fun _ => numberWidthPos starts⟩
      · split at ok
        · cases ok
          have inside := numberWidthLe rest
          simp only [List.length_cons]
          omega
        · split at ok
          · cases ok
            have inside := Text.takeWhileLength isNameChar rest
            simp only [List.length_cons]
            omega
          · split at ok
            · rename_i found
              cases ok
              have bounds := symbolWidth found
              exact ⟨bounds.2, fun _ => bounds.1⟩
            · cases ok

theorem readEnd {afterOperand : Bool} {cs : List Char} {width : Nat}
    (ok : read afterOperand cs = .ok (.endOfLine, width)) : cs = [] ∧ width = 0 := by
  unfold read at ok
  split at ok
  · cases ok
    exact ⟨rfl, rfl⟩
  · repeat' split at ok
    all_goals cases ok

end Lexeme

namespace Cursor

theorem skipSpacesRest (c : Cursor) : c.skipSpaces.rest = c.rest.dropWhile Text.isSpace :=
  Text.dropTakeWhile Text.isSpace c.rest

theorem nextOk {c : Cursor} {t : Token} {after : Cursor} :
    c.next = .ok (t, after) ↔ ∃ width,
      Lexeme.read c.afterOperand c.skipSpaces.rest = .ok (t.lexeme, width) ∧
      t.pos = c.skipSpaces.pos ∧
      after = ⟨c.skipSpaces.pos + width, c.skipSpaces.rest.drop width, t.lexeme.endsOperand⟩ := by
  unfold next
  simp only
  have kept : c.skipSpaces.afterOperand = c.afterOperand := rfl
  rw [kept]
  cases found : Lexeme.read c.afterOperand c.skipSpaces.rest with
  | error problem => simp
  | ok result =>
      obtain ⟨lexeme, width⟩ := result
      simp only [Except.ok.injEq, Prod.mk.injEq]
      constructor
      · intro same
        obtain ⟨rfl, rfl⟩ := same
        exact ⟨width, ⟨rfl, rfl⟩, rfl, rfl⟩
      · intro given
        obtain ⟨_, ⟨rfl, rfl⟩, place, rfl⟩ := given
        refine ⟨?_, rfl⟩
        rw [← place]

theorem nextError {c : Cursor} {f : LexFault} :
    c.next = .error f ↔ Lexeme.read c.afterOperand c.skipSpaces.rest = .error f.problem ∧
      f.pos = c.skipSpaces.pos := by
  unfold next
  simp only
  have kept : c.skipSpaces.afterOperand = c.afterOperand := rfl
  rw [kept]
  cases found : Lexeme.read c.afterOperand c.skipSpaces.rest with
  | ok result => simp
  | error problem =>
      obtain ⟨p, pos⟩ := f
      simp [eq_comm]

theorem nextPlaced {line : List Char} {c after : Cursor} {t : Token}
    (read : c.next = .ok (t, after)) (placed : c.rest = line.drop c.pos) :
    after.rest = line.drop after.pos := by
  obtain ⟨width, _, _, rfl⟩ := nextOk.mp read
  simp [skipSpaces, placed]

def Advances (next : Cursor → Except LexFault (Token × Cursor)) : Prop :=
  ∀ {c t after}, next c = .ok (t, after) → t.lexeme ≠ .endOfLine →
    after.rest.length < c.rest.length

theorem nextAdvances : Advances next := by
  intro c t after ok token
  obtain ⟨width, read, _, rfl⟩ := nextOk.mp ok
  have bounds := Lexeme.readWidth read
  have positive := bounds.2 token
  have shorter : c.skipSpaces.rest.length ≤ c.rest.length := by simp [skipSpaces]
  simp only [List.length_drop]
  omega

end Cursor

namespace TokenStream

inductive Scans (next : Cursor → Except LexFault (Token × Cursor)) :
    Cursor → TokenStream → Prop where
  | fault {c f} (stops : next c = .error f) : Scans next c ⟨[], .error f⟩
  | done {c t after} (read : next c = .ok (t, after)) (last : t.lexeme = .endOfLine) :
      Scans next c ⟨[], .ok t.pos⟩
  | token {c t after s} (read : next c = .ok (t, after)) (more : t.lexeme ≠ .endOfLine)
      (rest : Scans next after s) : Scans next c ⟨t :: s.tokens, s.ending⟩

variable {next : Cursor → Except LexFault (Token × Cursor)} {c : Cursor} {s s' : TokenStream}

theorem Scans.unique (first : Scans next c s) (second : Scans next c s') : s = s' := by
  induction first generalizing s' with
  | fault stops =>
      cases second with
      | fault stops' =>
          cases stops.symm.trans stops'
          rfl
      | done read' last' => cases stops.symm.trans read'
      | token read' more' rest' => cases stops.symm.trans read'
  | done read last =>
      cases second with
      | fault stops' => cases read.symm.trans stops'
      | done read' last' =>
          cases read.symm.trans read'
          rfl
      | token read' more' rest' =>
          cases read.symm.trans read'
          exact absurd last more'
  | token read more rest ih =>
      cases second with
      | fault stops' => cases read.symm.trans stops'
      | done read' last' =>
          cases read.symm.trans read'
          exact absurd last' more
      | token read' more' rest' =>
          cases read.symm.trans read'
          rw [ih rest']

theorem Scans.first {t : Token} {tokens : List Token} {ending : Except LexFault Nat}
    (scans : Scans next c ⟨t :: tokens, ending⟩) :
    ∃ after, next c = .ok (t, after) ∧ Scans next after ⟨tokens, ending⟩ := by
  generalize shape : (⟨t :: tokens, ending⟩ : TokenStream) = s at scans
  cases scans with
  | fault stops => cases shape
  | done read last => cases shape
  | @token _ _ after s read more rest =>
      obtain ⟨_, _⟩ := s
      cases shape
      exact ⟨after, read, rest⟩

theorem Scans.tokens (scans : Scans next c s) : ∀ t ∈ s.tokens, t.lexeme ≠ .endOfLine := by
  induction scans with
  | fault stops => simp
  | done read last => simp
  | token read more rest ih => simpa using ⟨more, ih⟩

def readBy (next : Cursor → Except LexFault (Token × Cursor)) :
    Nat → List Token → Cursor → TokenStream
  | 0, done, c => ⟨done.reverse, .ok c.pos⟩
  | fuel + 1, done, c =>
    match next c with
    | .error f => ⟨done.reverse, .error f⟩
    | .ok (t, after) =>
      if t.lexeme = .endOfLine then ⟨done.reverse, .ok t.pos⟩
      else readBy next fuel (t :: done) after

theorem readFromBy (fuel : Nat) (done : List Token) (c : Cursor) :
    readFrom fuel done c = readBy Cursor.next fuel done c := by
  induction fuel generalizing done c with
  | zero => rfl
  | succ fuel ih =>
      rw [readFrom, readBy]
      cases c.next with
      | error f => rfl
      | ok result => simp only [ih]

theorem readByScans (advances : Cursor.Advances next) {fuel : Nat} (done : List Token)
    (enough : c.rest.length < fuel) :
    ∃ s, Scans next c s ∧ readBy next fuel done c = ⟨done.reverse ++ s.tokens, s.ending⟩ := by
  induction fuel generalizing done c with
  | zero => omega
  | succ fuel ih =>
      unfold readBy
      cases read : next c with
      | error f => exact ⟨_, .fault read, by simp⟩
      | ok result =>
          obtain ⟨t, after⟩ := result
          simp only
          split
          · rename_i last
            exact ⟨_, .done read last, by simp⟩
          · rename_i more
            have shorter := advances read more
            obtain ⟨s, scans, same⟩ := ih (t :: done) (c := after) (by omega)
            exact ⟨_, .token read more scans, by simp [same]⟩

def scanWith (next : Cursor → Except LexFault (Token × Cursor)) (line : String) : TokenStream :=
  readBy next (line.length + 1) [] (Cursor.start line)

theorem scanWithExact (advances : Cursor.Advances next) {line : String} :
    scanWith next line = s ↔ Scans next (Cursor.start line) s := by
  have enough : (Cursor.start line).rest.length < line.length + 1 := by
    simp [Cursor.start, String.length_toList]
  obtain ⟨found, scans, same⟩ := readByScans advances [] enough
  have read : scanWith next line = found := by simpa [scanWith] using same
  rw [read]
  constructor
  · intro same
    subst same
    exact scans
  · intro other
    exact scans.unique other

theorem ofLineExact {line : String} :
    ofLine line = s ↔ Scans Cursor.next (Cursor.start line) s := by
  rw [← scanWithExact Cursor.nextAdvances, scanWith, ofLine, readFromBy]

theorem ofLineScans (line : String) :
    Scans Cursor.next (Cursor.start line) (ofLine line) := ofLineExact.mp rfl

end TokenStream

end LineBasic
