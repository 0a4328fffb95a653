import Mathlib.Data.List.TakeWhile
import LineBasic.Proofs.Text.Runs
import LineBasic.Settings.Environment

/-!
References to the environment. A text is read once from left to right: the leftmost reference is
replaced, and what follows it is read in the same way. What it is replaced by is not looked at
again, and all else stays as it is.
-/
namespace LineBasic

open Text

namespace Reference

variable {r : Reference} {name cs rest : List Char}

/- A reference that can be written. Its name has no closing brace and no colon, its fallback no
closing brace. -/
structure Proper (r : Reference) : Prop where
  named : r.name ≠ []
  name : ∀ c ∈ r.name, c ≠ '\x7d' ∧ c ≠ ':'
  fallback : ∀ d ∈ r.fallback, '\x7d' ∉ d

def Begins (cs : List Char) : Prop := ∃ r : Reference, r.Proper ∧ r.spelling <+: cs

/- What a reference is replaced by: the value of its variable, its fallback if that is empty, or
nothing. -/
inductive Yields (env : Environment) (r : Reference) : List Char → Prop where
  | value (set : env (String.ofList r.name) ≠ "") : Yields env r (env (String.ofList r.name)).toList
  | fallback {d : List Char} (unset : env (String.ofList r.name) = "")
      (given : r.fallback = some d) : Yields env r d
  | nothing (unset : env (String.ofList r.name) = "") (bare : r.fallback = none) : Yields env r []

theorem readEndExact : readEnd name cs = some (r, rest) ↔ r.name = name ∧
    (∀ d ∈ r.fallback, '\x7d' ∉ d) ∧ cs = fallbackSpelling r.fallback ++ '\x7d' :: rest := by
  constructor
  · intro read
    unfold readEnd at read
    split at read
    · cases read
      simp [fallbackSpelling]
    · rename_i tail
      simp only [dropTakeWhile] at read
      split at read
      · rename_i c kept shape
        cases read
        have stops := dropWhileStops isFallbackChar tail
        rw [shape] at stops
        have closes : c = '\x7d' := by simpa [isFallbackChar] using stops c rfl
        have whole := List.takeWhile_append_dropWhile (p := isFallbackChar) (l := tail)
        rw [shape, closes] at whole
        refine ⟨rfl, fun d given member => ?_, ?_⟩
        · cases given
          have inside := List.mem_takeWhile_imp member
          simp [isFallbackChar] at inside
        · rw [fallbackSpelling, List.cons_append, List.cons_append, whole]
      · cases read
    · cases read
  · rintro ⟨rfl, closed, rfl⟩
    obtain ⟨name, fallback⟩ := r
    cases fallback with
    | none => rfl
    | some d =>
        have inside : ∀ c ∈ d, isFallbackChar c = true := by
          intro c member
          rw [isFallbackChar, bne_iff_ne]
          rintro rfl
          exact closed d rfl member
        have run : (d ++ '\x7d' :: rest).takeWhile isFallbackChar = d :=
          takeWhileStop inside (by simp [isFallbackChar])
        have text : fallbackSpelling (some d) ++ '\x7d' :: rest =
            ':' :: '-' :: (d ++ '\x7d' :: rest) := by
          simp [fallbackSpelling]
        rw [text]
        simp only [readEnd, run, List.drop_left]

theorem readExact : read? cs = some (r, rest) ↔ r.Proper ∧ cs = r.spelling ++ rest := by
  constructor
  · intro read
    unfold read? at read
    split at read
    · rename_i tail
      simp only at read
      split at read
      · cases read
      · rename_i named
        obtain ⟨name, closed, behind⟩ := readEndExact.mp read
        rw [dropTakeWhile] at behind
        have whole := List.takeWhile_append_dropWhile (p := isNameChar) (l := tail)
        rw [← name, behind] at whole
        refine ⟨⟨?_, fun c member => ?_, closed⟩, ?_⟩
        · rw [name]
          simpa using named
        · rw [name] at member
          simpa [isNameChar] using List.mem_takeWhile_imp member
        · rw [← whole]
          simp [spelling]
    · cases read
  · rintro ⟨proper, rfl⟩
    have text : r.spelling ++ rest =
        '$' :: '\x7b' :: (r.name ++ (fallbackSpelling r.fallback ++ '\x7d' :: rest)) := by
      simp [spelling]
    have inside : ∀ c ∈ r.name, isNameChar c = true := by
      intro c member
      simpa [isNameChar] using proper.name c member
    have stop : ∀ c ∈ (fallbackSpelling r.fallback ++ '\x7d' :: rest).head?,
        isNameChar c = false := by
      cases r.fallback <;> simp [fallbackSpelling, isNameChar]
    have run := takeWhileStop inside stop
    have named : r.name.isEmpty = false := by simpa using proper.named
    rw [text]
    simp only [read?, run, named, List.drop_left]
    exact readEndExact.mpr ⟨rfl, proper.fallback, rfl⟩

theorem readNone : read? cs = none ↔ ¬ Begins cs := by
  constructor
  · rintro nothing ⟨r, proper, rest, rfl⟩
    rw [readExact.mpr ⟨proper, rfl⟩] at nothing
    cases nothing
  · intro nothing
    cases read : read? cs with
    | none => rfl
    | some found =>
        obtain ⟨proper, whole⟩ := readExact.mp read
        exact absurd ⟨_, proper, _, whole.symm⟩ nothing

theorem yieldsExact {env : Environment} {value : List Char} :
    Yields env r value ↔ r.value env = value := by
  unfold Reference.value
  constructor
  · intro yields
    cases yields with
    | value set =>
        split
        · rename_i empty
          exact absurd (String.toList_eq_nil_iff.mp empty) set
        · rfl
    | fallback unset given => simp [unset, given]
    | nothing unset bare => simp [unset, bare]
  · rintro rfl
    split
    · rename_i empty
      have unset := String.toList_eq_nil_iff.mp empty
      cases given : r.fallback with
      | none => exact .nothing unset given
      | some d => exact .fallback unset given
    · rename_i set
      exact .value fun empty => set (String.toList_eq_nil_iff.mpr empty)

end Reference

open Reference

/- A text with its references replaced: none is left in it, or the first is replaced and the text
behind it is treated in the same way. -/
inductive Expanded (env : Environment) : List Char → List Char → Prop where
  | plain {cs : List Char} (free : ∀ tail, tail <:+ cs → ¬ Begins tail) : Expanded env cs cs
  | replaced {before value rest out : List Char} {r : Reference} (proper : r.Proper)
      (first : ∀ tail, tail <:+ before → tail ≠ [] → ¬ Begins (tail ++ r.spelling ++ rest))
      (yields : Yields env r value) (later : Expanded env rest out) :
      Expanded env (before ++ r.spelling ++ rest) (before ++ value ++ out)

def Named (text name : String) : Prop :=
  ∃ r : Reference, r.Proper ∧ r.spelling <:+: text.toList ∧ String.ofList r.name = name

namespace Segment

variable {env : Environment} {cs before rest out : List Char} {r : Reference}

theorem ofCharsReference (proper : r.Proper) :
    ofChars (r.spelling ++ rest) = reference r :: ofChars rest := by
  have read : read? (r.spelling ++ rest) = some (r, rest) := readExact.mpr ⟨proper, rfl⟩
  rw [ofChars]
  split
  · rename_i found
    rw [read] at found
    cases found
    rfl
  · rename_i nothing
    rw [read] at nothing
    cases nothing

theorem ofCharsLiteral {c : Char} (stuck : ¬ Begins (c :: cs)) :
    ofChars (c :: cs) = literal c :: ofChars cs := by
  have read := readNone.mpr stuck
  rw [ofChars]
  split
  · rename_i found
    rw [read] at found
    cases found
  · rfl

theorem ofCharsPlain (before rest : List Char)
    (plain : ∀ tail, tail <:+ before → tail ≠ [] → ¬ Begins (tail ++ rest)) :
    ofChars (before ++ rest) = before.map literal ++ ofChars rest := by
  induction before with
  | nil => rfl
  | cons c before ih =>
      have front : ¬ Begins (c :: (before ++ rest)) :=
        plain (c :: before) (List.suffix_refl _) (by simp)
      rw [List.cons_append, ofCharsLiteral front,
        ih fun tail inside => plain tail (inside.trans (List.suffix_cons c before))]
      rfl

theorem valueLiterals (cs : List Char) : (cs.map literal).flatMap (value env) = cs := by
  induction cs with
  | nil => rfl
  | cons c cs ih =>
      rw [List.map_cons, List.flatMap_cons, ih]
      rfl

theorem expandedOut (expanded : Expanded env cs out) : (ofChars cs).flatMap (value env) = out := by
  induction expanded with
  | @plain cs free =>
      have whole := ofCharsPlain cs [] fun _ inside _ => by
        rw [List.append_nil]
        exact free _ inside
      have nothing : ofChars [] = [] := by rw [ofChars]; rfl
      rw [List.append_nil, nothing, List.append_nil] at whole
      rw [whole, valueLiterals]
  | @replaced before value rest out r proper first yields later ih =>
      have front := ofCharsPlain before (r.spelling ++ rest) fun tail inside nonempty => by
        rw [← List.append_assoc]
        exact first tail inside nonempty
      rw [List.append_assoc, front, ofCharsReference proper, List.flatMap_append, valueLiterals,
        List.flatMap_cons, ih, ← yieldsExact.mp yields, List.append_assoc]
      rfl

theorem expandedReference (proper : r.Proper) (expanded : Expanded env rest out) :
    Expanded env (r.spelling ++ rest) (r.value env ++ out) :=
  @Expanded.replaced env [] (r.value env) rest out r proper
    (fun _ inside nonempty => absurd (List.suffix_nil.mp inside) nonempty) (yieldsExact.mpr rfl)
    expanded

theorem expandedLiteral {c : Char} (stuck : ¬ Begins (c :: cs)) (expanded : Expanded env cs out) :
    Expanded env (c :: cs) (c :: out) := by
  cases expanded with
  | plain later =>
      refine .plain fun tail inside => ?_
      rcases List.suffix_cons_iff.mp inside with rfl | behind
      · exact stuck
      · exact later tail behind
  | @replaced before value rest out r proper first yields later =>
      refine @Expanded.replaced env (c :: before) value rest out r proper ?_ yields later
      intro tail inside nonempty
      rcases List.suffix_cons_iff.mp inside with rfl | behind
      · exact stuck
      · exact first tail behind nonempty

theorem expandedSome (env : Environment) (cs : List Char) :
    Expanded env cs ((ofChars cs).flatMap (value env)) := by
  fun_induction ofChars cs with
  | case1 cs r rest read ih =>
      obtain ⟨proper, rfl⟩ := readExact.mp read
      exact expandedReference proper ih
  | case2 read =>
      exact .plain fun tail inside => by
        rw [List.suffix_nil.mp inside]
        exact readNone.mp read
  | case3 c rest read ih => exact expandedLiteral (readNone.mp read) ih

theorem referenceWritten (member : reference r ∈ ofChars cs) : r.Proper ∧ r.spelling <:+: cs := by
  fun_induction ofChars cs with
  | case1 cs found rest read ih =>
      obtain ⟨proper, rfl⟩ := readExact.mp read
      rcases List.mem_cons.mp member with same | later
      · cases same
        exact ⟨proper, List.infix_append_of_infix_left (List.infix_refl _)⟩
      · obtain ⟨proper', inside⟩ := ih later
        exact ⟨proper', List.infix_append_of_infix_right inside⟩
  | case2 read => cases member
  | case3 c rest read ih =>
      rcases List.mem_cons.mp member with same | later
      · cases same
      · obtain ⟨proper, inside⟩ := ih later
        exact ⟨proper, List.infix_cons inside⟩

end Segment

open Segment

namespace Environment

variable {env env' : Environment} {text : String}

theorem expandExact {out : String} :
    env.expand text = out ↔ Expanded env text.toList out.toList := by
  have expanded := expandedSome env text.toList
  unfold expand
  constructor
  · rintro rfl
    rw [String.toList_ofList]
    exact expanded
  · intro given
    rw [expandedOut given, String.ofList_toList]

theorem referredExact {name : String} : name ∈ referredNames text ↔
    ∃ r, reference r ∈ ofChars text.toList ∧ String.ofList r.name = name := by
  unfold referredNames
  rw [List.mem_filterMap]
  constructor
  · rintro ⟨segment, member, same⟩
    cases segment with
    | literal c => cases same
    | reference r =>
        cases same
        exact ⟨r, member, rfl⟩
  · rintro ⟨r, member, rfl⟩
    exact ⟨_, member, rfl⟩

theorem expandPlain (free : ¬ ['$', '\x7b'] <:+: text.toList) : env.expand text = text := by
  refine expandExact.mpr (.plain fun tail inside begins => free ?_)
  obtain ⟨r, _, front⟩ := begins
  have sign : ['$', '\x7b'] <+: r.spelling := ⟨_, rfl⟩
  exact (sign.trans front).isInfix.trans inside.isInfix

theorem expandAgrees (same : ∀ name ∈ referredNames text, env' name = env name) :
    env'.expand text = env.expand text := by
  have values : ∀ s ∈ ofChars text.toList, Segment.value env' s = Segment.value env s := by
    intro s member
    cases s with
    | literal c => rfl
    | reference r =>
        have agrees := same _ (referredExact.mpr ⟨r, member, rfl⟩)
        change r.value env' = r.value env
        unfold Reference.value
        rw [agrees]
  unfold expand
  rw [List.flatMap_def, List.flatMap_def, List.map_congr_left values]

/- Expanding a text replaces its references in one pass and does nothing else, and no variable
matters but those whose references are replaced. -/
theorem expandsOnce (env : Environment) (text : String) :
    (∀ out, env.expand text = out ↔ Expanded env text.toList out.toList) ∧
      (¬ ['$', '\x7b'] <:+: text.toList → env.expand text = text) ∧
      (∀ name ∈ referredNames text, Named text name) ∧
      ∀ env' : Environment, (∀ name ∈ referredNames text, env' name = env name) →
        env'.expand text = env.expand text := by
  refine ⟨fun out => expandExact, expandPlain, fun name referred => ?_, fun env' => expandAgrees⟩
  obtain ⟨r, member, same⟩ := referredExact.mp referred
  obtain ⟨proper, written⟩ := referenceWritten member
  exact ⟨r, proper, written, same⟩

def tangled : String := "a$\x7bA:-b $\x7bC\x7d$\x7b$\x7bB\x7d\x7d $\x7bA"

def offered (secret : String) : Environment := fun name =>
  if name = "$\x7bB" then "$\x7bA\x7d" else if name = "C" then secret else ""

theorem tangledOnce : (offered "").expand tangled = "ab $\x7bC$\x7bA\x7d\x7d $\x7bA" ∧
    ∀ secret, (offered secret).expand tangled = (offered "").expand tangled := by
  have names : referredNames tangled = ["A", "$\x7bB"] := by decide +kernel
  have out : (offered "").expand tangled = "ab $\x7bC$\x7bA\x7d\x7d $\x7bA" := by decide +kernel
  refine ⟨out, fun secret => (expandsOnce (offered "") tangled).2.2.2 (offered secret) ?_⟩
  rw [names]
  simp [offered]

end Environment

end LineBasic
