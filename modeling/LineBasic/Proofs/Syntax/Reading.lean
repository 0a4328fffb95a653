import LineBasic.Proofs.Syntax.Grammar

/-!
What the small parsers do to a token stream. `s.Reads w s'` says that the lexemes `w` stand at the
front of `s` and that `s'` is what is left behind them; `s.Ahead t` that `t` is what a look ahead
sees. A successful parse reads some `w`; the grammar says which.
-/
namespace LineBasic

namespace TokenStream

def Reads (s : TokenStream) (w : List Lexeme) (s' : TokenStream) : Prop :=
  ∃ tokens, s = ⟨tokens ++ s'.tokens, s'.ending⟩ ∧ tokens.map Token.lexeme = w

def Ahead (s : TokenStream) (t : Lexeme) : Prop := ∃ pos, s.peek = .ok ⟨t, pos⟩

theorem readsNothing (s : TokenStream) : s.Reads [] s := ⟨[], rfl, rfl⟩

theorem Reads.trans {s s' s'' u v} (first : Reads s u s') (second : Reads s' v s'') :
    Reads s (u ++ v) s'' := by
  obtain ⟨a, rfl, rfl⟩ := first
  obtain ⟨b, rfl, rfl⟩ := second
  exact ⟨a ++ b, by simp, by simp⟩

theorem Reads.cons {s s' s'' t v} (first : Reads s [t] s') (second : Reads s' v s'') :
    Reads s (t :: v) s'' := first.trans second

theorem Reads.split {s s'' u v} (both : Reads s (u ++ v) s'') :
    ∃ s', Reads s u s' ∧ Reads s' v s'' := by
  obtain ⟨tokens, rfl, shape⟩ := both
  obtain ⟨a, b, rfl, rfl, rfl⟩ := List.map_eq_append_iff.mp shape
  exact ⟨⟨b ++ s''.tokens, s''.ending⟩, ⟨a, by simp, rfl⟩, ⟨b, rfl, rfl⟩⟩

theorem Reads.uncons {s s'' t v} (both : Reads s (t :: v) s'') :
    ∃ s', Reads s [t] s' ∧ Reads s' v s'' :=
  Reads.split (u := [t]) both

theorem Reads.ahead {s s' t w} (reads : Reads s (t :: w) s') : Ahead s t := by
  obtain ⟨tokens, rfl, shape⟩ := reads
  cases tokens with
  | nil => simp at shape
  | cons token rest =>
      simp only [List.map_cons, List.cons.injEq] at shape
      exact ⟨token.pos, by simp [peek, ← shape.1]⟩

theorem Reads.advance {s s' t} (reads : Reads s [t] s') : s.advance = s' := by
  obtain ⟨tokens, rfl, shape⟩ := reads
  obtain ⟨token, rfl, _⟩ := List.map_eq_singleton_iff.mp shape
  rfl

theorem Reads.nothing {s s'} (reads : Reads s [] s') : s = s' := by
  obtain ⟨tokens, rfl, shape⟩ := reads
  rw [List.map_eq_nil_iff] at shape
  subst shape
  rfl

theorem Reads.length {s s' w} (reads : Reads s w s') :
    s.tokens.length = w.length + s'.tokens.length := by
  obtain ⟨tokens, rfl, rfl⟩ := reads
  simp

theorem Ahead.unique {s t t'} (first : Ahead s t) (second : Ahead s t') : t = t' := by
  obtain ⟨p, hp⟩ := first
  obtain ⟨q, hq⟩ := second
  rw [hp] at hq
  cases hq
  rfl

theorem Ahead.reads {s t} (ahead : Ahead s t) (token : t ≠ .endOfLine) :
    Reads s [t] s.advance := by
  obtain ⟨pos, shown⟩ := ahead
  obtain ⟨tokens, ending⟩ := s
  cases tokens with
  | nil =>
      cases ending with
      | error f => cases shown
      | ok n =>
          cases shown
          exact absurd rfl token
  | cons head rest =>
      cases shown
      exact ⟨[⟨t, pos⟩], rfl, rfl⟩

theorem readsOne {s s' t} (token : t ≠ .endOfLine) :
    Reads s [t] s' ↔ Ahead s t ∧ s.advance = s' := by
  constructor
  · intro reads
    exact ⟨reads.ahead, reads.advance⟩
  · intro given
    obtain ⟨ahead, rfl⟩ := given
    exact ahead.reads token

theorem ahead_endOfLine (n : Nat) : Ahead ⟨[], .ok n⟩ .endOfLine := ⟨n, rfl⟩

end TokenStream

namespace Parser

open TokenStream

variable {α β : Type} {s s' : TokenStream}

@[simp] theorem bindOk {p : Parser α} {f : α → Parser β} {b : β} :
    (p >>= f) s = .ok (b, s') ↔ ∃ a mid, p s = .ok (a, mid) ∧ f a mid = .ok (b, s') := by
  change Except.bind (p s) (fun r => f r.1 r.2) = _ ↔ _
  cases h : p s with
  | error e => simp [Except.bind]
  | ok r =>
      obtain ⟨a, mid⟩ := r
      constructor
      · intro second
        exact ⟨a, mid, rfl, second⟩
      · intro given
        obtain ⟨a, mid, first, second⟩ := given
        cases first
        exact second

theorem bindRun {p : Parser α} {f : α → Parser β} {a : α} (first : p s = .ok (a, s')) :
    (p >>= f) s = f a s' := by
  change Except.bind (p s) (fun r => f r.1 r.2) = _
  rw [first]
  rfl

@[simp] theorem pureOk {a b : α} : (pure a : Parser α) s = .ok (b, s') ↔ a = b ∧ s = s' := by
  change Except.ok (a, s) = .ok (b, s') ↔ _
  simp

@[simp] theorem mapOk {p : Parser α} {f : α → β} {b : β} :
    (f <$> p) s = .ok (b, s') ↔ ∃ a, p s = .ok (a, s') ∧ f a = b := by
  rw [← bind_pure_comp, bindOk]
  simp only [pureOk]
  constructor
  · intro given
    obtain ⟨a, mid, ran, rfl, rfl⟩ := given
    exact ⟨a, ran, rfl⟩
  · intro given
    obtain ⟨a, ran, rfl⟩ := given
    exact ⟨a, s', ran, rfl, rfl⟩

@[simp] theorem failOk {f : ParseFault} {a : α} : ¬ (fail f : Parser α) s = .ok (a, s') := by
  simp [fail]

@[simp] theorem peekOk {t : Lexeme} : peek s = .ok (t, s') ↔ Ahead s t ∧ s = s' := by
  unfold peek Ahead
  cases h : s.peek with
  | error f => simp
  | ok token =>
      simp only [Except.ok.injEq, Prod.mk.injEq]
      constructor
      · intro given
        obtain ⟨rfl, rfl⟩ := given
        exact ⟨⟨token.pos, rfl⟩, rfl⟩
      · intro given
        obtain ⟨⟨pos, rfl⟩, rfl⟩ := given
        exact ⟨rfl, rfl⟩

theorem peekRun {t : Lexeme} (ahead : Ahead s t) : peek s = .ok (t, s) := peekOk.mpr ⟨ahead, rfl⟩

theorem skipRun {t : Lexeme} (reads : Reads s [t] s') : skip s = .ok ((), s') := by
  rw [← reads.advance]
  rfl

@[simp] theorem skipOk {u : Unit} : skip s = .ok (u, s') ↔ s.advance = s' := by
  simp [skip]

@[simp] theorem nextOk {t : Lexeme} : next s = .ok (t, s') ↔ Ahead s t ∧ s.advance = s' := by
  unfold next
  simp only [bindOk, peekOk, skipOk, pureOk]
  constructor
  · intro given
    obtain ⟨t, _, ⟨ahead, rfl⟩, _, _, rfl, rfl, rfl⟩ := given
    exact ⟨ahead, rfl⟩
  · intro given
    obtain ⟨ahead, rfl⟩ := given
    exact ⟨t, s, ⟨ahead, rfl⟩, (), s.advance, rfl, rfl, rfl⟩

theorem nextRun {t : Lexeme} (reads : Reads s [t] s') : next s = .ok (t, s') :=
  nextOk.mpr ⟨reads.ahead, reads.advance⟩

@[simp] theorem expectOk {x : Symbol} {u : Unit} :
    expect x s = .ok (u, s') ↔ Reads s [.symbol x] s' := by
  unfold expect
  simp only [bindOk, nextOk, readsOne (t := .symbol x) (by simp)]
  constructor
  · intro given
    obtain ⟨t, _, ⟨ahead, rfl⟩, rest⟩ := given
    split at rest
    · rename_i same
      subst same
      exact ⟨ahead, (pureOk.mp rest).2⟩
    · exact absurd rest failOk
  · intro given
    obtain ⟨ahead, rfl⟩ := given
    exact ⟨_, _, ⟨ahead, rfl⟩, by simp⟩

@[simp] theorem acceptYes {x : Symbol} : accept x s = .ok (true, s') ↔ Reads s [.symbol x] s' := by
  unfold accept
  simp only [bindOk, peekOk, readsOne (t := .symbol x) (by simp)]
  constructor
  · intro given
    obtain ⟨t, _, ⟨ahead, rfl⟩, rest⟩ := given
    split at rest
    · rename_i same
      subst same
      simp only [bindOk, skipOk, pureOk] at rest
      obtain ⟨_, _, rfl, _, rfl⟩ := rest
      exact ⟨ahead, rfl⟩
    · simp at rest
  · intro given
    obtain ⟨ahead, rfl⟩ := given
    exact ⟨_, s, ⟨ahead, rfl⟩, by simp⟩

@[simp] theorem acceptNo {x : Symbol} :
    accept x s = .ok (false, s') ↔ s = s' ∧ ∃ t, Ahead s t ∧ t ≠ .symbol x := by
  unfold accept
  simp only [bindOk, peekOk]
  constructor
  · intro given
    obtain ⟨t, _, ⟨ahead, rfl⟩, rest⟩ := given
    split at rest
    · simp at rest
    · rename_i other
      exact ⟨(pureOk.mp rest).2, t, ahead, other⟩
  · intro given
    obtain ⟨rfl, t, ahead, other⟩ := given
    exact ⟨t, s, ⟨ahead, rfl⟩, by simp [other]⟩

open Grammar

theorem isConnectiveTrue {w : Connective} {t : Lexeme} :
    isConnective w t = true ↔ ∃ k, t = .name k ∧ SpellsWord w k := by
  cases t <;> simp [isConnective, Connective.matches, SpellsWord]

@[simp] theorem expectWordOk {w : Connective} {u : Unit} :
    expectWord w s = .ok (u, s') ↔ ∃ k, SpellsWord w k ∧ Reads s [.name k] s' := by
  unfold expectWord
  simp only [bindOk, nextOk]
  constructor
  · intro given
    obtain ⟨t, _, ⟨ahead, rfl⟩, rest⟩ := given
    split at rest
    · rename_i word
      obtain ⟨k, rfl, spells⟩ := isConnectiveTrue.mp word
      obtain ⟨_, rfl⟩ := pureOk.mp rest
      exact ⟨k, spells, ahead.reads (by simp)⟩
    · exact absurd rest failOk
  · intro given
    obtain ⟨k, spells, reads⟩ := given
    have word : isConnective w (.name k) = true := isConnectiveTrue.mpr ⟨k, rfl, spells⟩
    exact ⟨_, _, ⟨reads.ahead, reads.advance⟩, by simp [word]⟩

theorem acceptWordYes {w : Connective} :
    acceptWord w s = .ok (true, s') ↔ ∃ k, SpellsWord w k ∧ Reads s [.name k] s' := by
  unfold acceptWord
  simp only [bindOk, peekOk]
  constructor
  · intro given
    obtain ⟨t, _, ⟨ahead, rfl⟩, rest⟩ := given
    split at rest
    · rename_i word
      obtain ⟨k, rfl, spells⟩ := isConnectiveTrue.mp word
      simp only [bindOk, skipOk, pureOk] at rest
      obtain ⟨_, _, rfl, _, rfl⟩ := rest
      exact ⟨k, spells, ahead.reads (by simp)⟩
    · simp at rest
  · intro given
    obtain ⟨k, spells, reads⟩ := given
    have word : isConnective w (.name k) = true := isConnectiveTrue.mpr ⟨k, rfl, spells⟩
    exact ⟨_, s, ⟨reads.ahead, rfl⟩, by simp [word, reads.advance]⟩

theorem acceptWordNo {w : Connective} :
    acceptWord w s = .ok (false, s') ↔ s = s' ∧ ∃ t, Ahead s t ∧ isConnective w t = false := by
  unfold acceptWord
  simp only [bindOk, peekOk]
  constructor
  · intro given
    obtain ⟨t, _, ⟨ahead, rfl⟩, rest⟩ := given
    split at rest
    · simp at rest
    · rename_i other
      exact ⟨(pureOk.mp rest).2, t, ahead, by simpa using other⟩
  · intro given
    obtain ⟨rfl, t, ahead, other⟩ := given
    exact ⟨t, s, ⟨ahead, rfl⟩, by simp [other]⟩

@[simp] theorem expectNameOk {name : String} :
    expectName s = .ok (name, s') ↔ ∃ k, Text.upper k = name ∧ Reads s [.name k] s' := by
  unfold expectName
  simp only [bindOk, nextOk]
  constructor
  · intro given
    obtain ⟨t, _, ⟨ahead, rfl⟩, rest⟩ := given
    split at rest
    · rename_i k
      obtain ⟨rfl, rfl⟩ := pureOk.mp rest
      exact ⟨k, rfl, ahead.reads (by simp)⟩
    · exact absurd rest failOk
  · intro given
    obtain ⟨k, rfl, reads⟩ := given
    exact ⟨_, _, ⟨reads.ahead, reads.advance⟩, pureOk.mpr ⟨rfl, rfl⟩⟩

theorem lineNumberAfter {negative : Bool} {n : Int} :
    (do
      let t ← next
      match lineNumber? t with
      | some n => pure (if negative then Text.negateWrapping n else n)
      | none => fail (.expectedLineNumber t) : Parser Int) s = .ok (n, s') ↔
    ∃ k value, Text.readInteger? k = some value ∧ Reads s [.number k] s' ∧
      (if negative then Text.negateWrapping value else value) = n := by
  simp only [bindOk, nextOk]
  constructor
  · intro given
    obtain ⟨t, _, ⟨ahead, rfl⟩, rest⟩ := given
    cases found : lineNumber? t with
    | none =>
        rw [found] at rest
        exact absurd rest failOk
    | some value =>
        rw [found] at rest
        obtain ⟨rfl, rfl⟩ := pureOk.mp rest
        cases t with
        | number k => exact ⟨k, value, found, ahead.reads (by simp), rfl⟩
        | _ => cases found
  · intro given
    obtain ⟨k, value, found, reads, rfl⟩ := given
    refine ⟨_, _, ⟨reads.ahead, reads.advance⟩, ?_⟩
    simp only [lineNumber?, found, pureOk, and_self]

theorem expectLineNumberOk {n : Int} :
    expectLineNumber s = .ok (n, s') ↔ ∃ w, JumpTarget w n ∧ Reads s w s' := by
  unfold expectLineNumber
  rw [bindOk]
  constructor
  · intro given
    obtain ⟨negative, mid, first, rest⟩ := given
    obtain ⟨k, value, found, reads, rfl⟩ := lineNumberAfter.mp rest
    cases negative with
    | true => exact ⟨_, .negated found, (acceptYes.mp first).cons reads⟩
    | false =>
        obtain ⟨rfl, _⟩ := acceptNo.mp first
        exact ⟨_, .plain found, reads⟩
  · intro given
    obtain ⟨w, target, reads⟩ := given
    cases target with
    | plain found =>
        refine ⟨false, s, acceptNo.mpr ⟨rfl, _, reads.ahead, by simp⟩, ?_⟩
        exact lineNumberAfter.mpr ⟨_, _, found, reads, by simp⟩
    | negated found =>
        obtain ⟨mid, minus, number⟩ := reads.uncons
        refine ⟨true, mid, acceptYes.mpr minus, ?_⟩
        exact lineNumberAfter.mpr ⟨_, _, found, number, by simp⟩

end Parser

end LineBasic
