import LineBasic.Proofs.Program.RoundTrip
import LineBasic.Proofs.Session.Commands

/-!
The lines an argument of LIST and DELETE stands for. A range in one of its four forms is taken for
what it says. Other arguments are refused, except those that blanks or a plus sign inside a number
make into such a form, and a dash without any number, which stands for the whole program.
-/
namespace LineBasic

open Text

namespace LineRange

variable {cs before after digits : List Char} {n : Int} {r : LineRange} {text : String}

def Spaces (cs : List Char) : Prop := ∀ c ∈ cs, c = ' '

def squeeze (cs : List Char) : List Char := cs.filter (· != ' ')

structure Numeral (n : Int) (digits : List Char) : Prop where
  nonempty : digits ≠ []
  all : AllDigits digits
  value : (decimal digits : Int) = n
  positive : 0 < n
  fits : n ≤ maxInteger

inductive Padded (n : Int) : List Char → Prop where
  | mk {before digits after : List Char} (front : Spaces before) (numeral : Numeral n digits)
      (back : Spaces after) : Padded n (before ++ digits ++ after)

def Slack (n : Int) (cs : List Char) : Prop :=
  ∃ digits, Numeral n digits ∧ (squeeze cs = digits ∨ squeeze cs = '+' :: digits)

inductive Form where
  | line (n : Int)
  | span (n m : Int)
  | upTo (m : Int)
  | onwards (n : Int)

def Form.covers : Form → Int → Bool
  | line n, k => k == n
  | span n m, k => n ≤ k && k ≤ m
  | upTo m, k => 1 ≤ k && k ≤ m
  | onwards n, k => n ≤ k

inductive Spelled (number : Int → List Char → Prop) : Form → List Char → Prop where
  | line {n : Int} {cs : List Char} (only : number n cs) : Spelled number (.line n) cs
  | span {n m : Int} {before after : List Char} (first : number n before) (last : number m after)
      (order : n ≤ m) : Spelled number (.span n m) (before ++ '-' :: after)
  | upTo {m : Int} {before after : List Char} (blank : Spaces before) (last : number m after) :
      Spelled number (.upTo m) (before ++ '-' :: after)
  | onwards {n : Int} {before after : List Char} (first : number n before)
      (blank : Spaces after) : Spelled number (.onwards n) (before ++ '-' :: after)

def Written (f : Form) (text : String) : Prop := Spelled Padded f text.toList

inductive Bare : List Char → Prop where
  | blank {cs : List Char} (blank : Spaces cs) : Bare cs
  | dash {before after : List Char} (front : Spaces before) (back : Spaces after) :
      Bare (before ++ '-' :: after)

inductive Parted (cs : List Char) : Prop where
  | mk {c d : Char} {blanks : List Char} (first : c.isDigit = true) (blank : Spaces blanks)
      (second : d.isDigit = true) (inside : c :: ' ' :: (blanks ++ [d]) <:+: cs) : Parted cs

inductive Slipped (text : String) : Prop where
  | bare (bare : Bare text.toList)
  | plus (sign : '+' ∈ text.toList)
  | parted (gap : Parted text.toList)

def Form.range : Form → LineRange
  | line n => ⟨n, n⟩
  | span n m => ⟨n, m⟩
  | upTo m => ⟨1, m⟩
  | onwards n => ⟨n, maxInteger⟩

def covers (r : LineRange) (k : Int) : Bool := r.low ≤ k && k ≤ r.high

inductive Taken (text : String) : LineRange → Prop where
  | form {f : Form} (spelled : Spelled Slack f text.toList) : Taken text f.range
  | bare (bare : Bare text.toList) : Taken text all

section Numbers

@[simp] theorem squeezeNil : squeeze cs = [] ↔ Spaces cs := by
  simp [squeeze, Spaces]

theorem squeezeDigits (all : AllDigits digits) : squeeze digits = digits := by
  refine List.filter_eq_self.mpr fun c member => ?_
  have digit := all c member
  rw [bne_iff_ne]
  rintro rfl
  cases digit

theorem squeezePadded (front : Spaces before) (all : AllDigits digits) (back : Spaces after) :
    squeeze (before ++ digits ++ after) = digits := by
  have blank := squeezeNil.mpr front
  have nothing := squeezeNil.mpr back
  have whole := squeezeDigits all
  unfold squeeze at blank nothing whole ⊢
  rw [List.filter_append, List.filter_append, blank, nothing, whole, List.nil_append,
    List.append_nil]

theorem Numeral.noDash (numeral : Numeral n digits) : '-' ∉ digits := fun member => by
  cases numeral.all '-' member

theorem Slack.noDash (slack : Slack n cs) : '-' ∉ squeeze cs := by
  obtain ⟨digits, numeral, same | same⟩ := slack
  · rw [same]
    exact numeral.noDash
  · rw [same]
    simpa using numeral.noDash

theorem Slack.nonempty (slack : Slack n cs) : squeeze cs ≠ [] := by
  obtain ⟨digits, numeral, same | same⟩ := slack
  · rw [same]
    exact numeral.nonempty
  · rw [same]
    exact List.cons_ne_nil _ _

theorem Slack.positive (slack : Slack n cs) : 0 < n := by
  obtain ⟨_, numeral, _⟩ := slack
  exact numeral.positive

theorem Slack.fits (slack : Slack n cs) : n ≤ maxInteger := by
  obtain ⟨_, numeral, _⟩ := slack
  exact numeral.fits

theorem Padded.slack (padded : Padded n cs) : Slack n cs := by
  cases padded with
  | mk front numeral back => exact ⟨_, numeral, .inl (squeezePadded front numeral.all back)⟩

theorem Numeral.small (numeral : Numeral n digits) : decimal digits < 0x8000000000000000 := by
  have value := numeral.value
  have fits := numeral.fits
  rw [maxInteger] at fits
  omega

theorem Numeral.integer (numeral : Numeral n digits) :
    Integer n digits ∧ Integer n ('+' :: digits) := by
  rw [← numeral.value]
  exact ⟨.plain numeral.nonempty numeral.all numeral.small,
    .plus numeral.nonempty numeral.all numeral.small⟩

theorem numeralOf (nonempty : digits ≠ []) (all : AllDigits digits)
    (small : decimal digits < 0x8000000000000000) (positive : 0 < (decimal digits : Int)) :
    Numeral (decimal digits) digits := ⟨nonempty, all, rfl, positive, by rw [maxInteger]; omega⟩

theorem readIntegerExact :
    readInteger cs = .ok n ∧ 0 < n ↔
      ∃ digits, Numeral n digits ∧ (cs = digits ∨ cs = '+' :: digits) := by
  rw [integerExact]
  constructor
  · rintro ⟨integer, positive⟩
    cases integer with
    | plain nonempty all small => exact ⟨_, numeralOf nonempty all small positive, .inl rfl⟩
    | plus nonempty all small => exact ⟨_, numeralOf nonempty all small positive, .inr rfl⟩
    | minus nonempty all small => omega
  · rintro ⟨digits, numeral, rfl | rfl⟩
    · exact ⟨numeral.integer.1, numeral.positive⟩
    · exact ⟨numeral.integer.2, numeral.positive⟩

theorem readBoundExact :
    readBound cs = .ok n ↔ ∃ digits, Numeral n digits ∧ (cs = digits ∨ cs = '+' :: digits) := by
  rw [← readIntegerExact]
  unfold readBound
  cases readInteger cs with
  | error f => simp
  | ok k =>
      simp only
      split <;> simp only [Except.ok.injEq, reduceCtorEq, false_iff, not_and] <;> omega

theorem readSideExact {absent : Int} :
    readSide absent (squeeze cs) = .ok n ↔ Spaces cs ∧ n = absent ∨ Slack n cs := by
  unfold readSide
  by_cases empty : squeeze cs = []
  · rw [if_pos (by simpa using empty), Except.ok.injEq]
    constructor
    · exact fun same => .inl ⟨squeezeNil.mp empty, same.symm⟩
    · rintro (⟨_, same⟩ | slack)
      · exact same.symm
      · exact absurd empty slack.nonempty
  · rw [if_neg (by simpa using empty), readBoundExact]
    constructor
    · exact .inr
    · rintro (⟨blank, _⟩ | slack)
      · exact absurd (squeezeNil.mpr blank) empty
      · exact slack

end Numbers

section Ranges

@[simp] theorem squeezeDash (before after : List Char) :
    squeeze (before ++ '-' :: after) = squeeze before ++ '-' :: squeeze after := by
  simp [squeeze]

theorem allBeforeDash (noDash : '-' ∉ cs) : ∀ c ∈ cs, (c != '-') = true := by
  intro c member
  rw [bne_iff_ne]
  rintro rfl
  exact noDash member

theorem parseDash (whole : text.toList = before ++ '-' :: after) (first : '-' ∉ squeeze before) :
    parse text = .ok r ↔ readSide all.low (squeeze before) = .ok r.low ∧
      readSide all.high (squeeze after) = .ok r.high ∧ r.low ≤ r.high := by
  have cut : (squeeze text.toList).takeWhile (· != '-') = squeeze before := by
    rw [whole, squeezeDash]
    exact takeWhileStop (allBeforeDash first) (by simp)
  have rest : (squeeze text.toList).drop (squeeze before).length = '-' :: squeeze after := by
    rw [whole, squeezeDash, List.drop_left]
  unfold parse
  unfold squeeze at cut rest ⊢
  simp only [cut, rest]
  cases readSide all.low (before.filter (· != ' ')) with
  | error f => simp [bind, Except.bind]
  | ok low =>
      cases readSide all.high (after.filter (· != ' ')) with
      | error f => simp [bind, Except.bind]
      | ok high =>
          cases r with
          | mk l h =>
              simp only [bind, Except.bind, Except.ok.injEq]
              split <;> simp <;> omega

theorem parsePlain (noDash : '-' ∉ text.toList) :
    parse text = .ok r ↔ Spaces text.toList ∧ r = all ∨ ∃ n, Slack n text.toList ∧ r = ⟨n, n⟩ := by
  have cut : (squeeze text.toList).takeWhile (· != '-') = squeeze text.toList :=
    List.takeWhile_eq_self_iff.mpr
      (allBeforeDash fun member => noDash (List.mem_of_mem_filter member))
  have rest : (squeeze text.toList).drop (squeeze text.toList).length = [] := List.drop_length
  have slack : ∀ n, Slack n text.toList ↔ readBound (squeeze text.toList) = .ok n :=
    fun n => readBoundExact.symm
  simp only [slack, ← squeezeNil]
  unfold parse
  unfold squeeze at cut rest ⊢
  simp only [cut, rest]
  generalize text.toList.filter (· != ' ') = cs
  cases cs with
  | nil => simp [readBound, readInteger, readMagnitude, bind, Except.bind, eq_comm]
  | cons c others =>
      cases readBound (c :: others) with
      | error f => simp [bind, Except.bind]
      | ok n => simp [bind, Except.bind, eq_comm]

@[simp] theorem dashKept : '-' ∈ squeeze cs ↔ '-' ∈ cs := by
  simp [squeeze]

theorem blankNoDash (blank : Spaces cs) : '-' ∉ squeeze cs := by
  rw [squeezeNil.mpr blank]
  exact List.not_mem_nil

theorem parseTaken (read : parse text = .ok r) : Taken text r := by
  by_cases dash : '-' ∈ text.toList
  · obtain ⟨before, after, whole, noDash⟩ := List.eq_append_cons_of_mem dash
    obtain ⟨left, right, order⟩ :=
      (parseDash whole fun member => noDash (dashKept.mp member)).mp read
    obtain ⟨low, high⟩ := r
    rcases readSideExact.mp left with ⟨front, rfl⟩ | first <;>
      rcases readSideExact.mp right with ⟨back, rfl⟩ | last
    · exact .bare (whole ▸ .dash front back)
    · exact .form (f := .upTo high) (whole ▸ .upTo front last)
    · exact .form (f := .onwards low) (whole ▸ .onwards first back)
    · exact .form (f := .span low high) (whole ▸ .span first last order)
  · rcases (parsePlain dash).mp read with ⟨blank, rfl⟩ | ⟨n, slack, rfl⟩
    · exact .bare (.blank blank)
    · exact .form (f := .line n) (.line slack)

theorem takenParse (taken : Taken text r) : parse text = .ok r := by
  cases taken with
  | form spelled =>
      generalize whole : text.toList = cs at spelled
      cases spelled with
      | line only =>
          have noDash : '-' ∉ text.toList :=
            fun member => only.noDash (dashKept.mpr (whole ▸ member))
          exact (parsePlain noDash).mpr (.inr ⟨_, whole ▸ only, rfl⟩)
      | span first last order =>
          exact (parseDash whole first.noDash).mpr
            ⟨readSideExact.mpr (.inr first), readSideExact.mpr (.inr last), order⟩
      | upTo blank last =>
          exact (parseDash whole (blankNoDash blank)).mpr
            ⟨readSideExact.mpr (.inl ⟨blank, rfl⟩), readSideExact.mpr (.inr last), last.positive⟩
      | onwards first blank =>
          exact (parseDash whole first.noDash).mpr
            ⟨readSideExact.mpr (.inr first), readSideExact.mpr (.inl ⟨blank, rfl⟩), first.fits⟩
  | bare bare =>
      generalize whole : text.toList = cs at bare
      cases bare with
      | blank blank =>
          have noDash : '-' ∉ text.toList :=
            fun member => blankNoDash blank (dashKept.mpr (whole ▸ member))
          exact (parsePlain noDash).mpr (.inl ⟨whole ▸ blank, rfl⟩)
      | dash front back =>
          exact (parseDash whole (blankNoDash front)).mpr
            ⟨readSideExact.mpr (.inl ⟨front, rfl⟩), readSideExact.mpr (.inl ⟨back, rfl⟩), by decide⟩

theorem parseExact : parse text = .ok r ↔ Taken text r := ⟨parseTaken, takenParse⟩

end Ranges

section Slips

variable {f : Form}

theorem Written.taken (written : Written f text) : Taken text f.range := by
  refine .form ?_
  unfold Written at written
  generalize text.toList = cs at written
  cases written with
  | line only => exact .line only.slack
  | span first last order => exact .span first.slack last.slack order
  | upTo blank last => exact .upTo blank last.slack
  | onwards first blank => exact .onwards first.slack blank

theorem beforeDash : before <:+: before ++ '-' :: after :=
  (List.prefix_append before ('-' :: after)).isInfix

theorem afterDash : after <:+: before ++ '-' :: after :=
  (List.suffix_append_of_suffix (List.suffix_cons '-' after)).isInfix

theorem Parted.within (gap : Parted cs) {whole : List Char} (inside : cs <:+: whole) :
    Parted whole := by
  obtain ⟨first, blank, second, there⟩ := gap
  exact ⟨first, blank, second, there.trans inside⟩

/- Digits and blanks, of which none is between two digits, are digits with blanks around them. The
induction puts one character before a text of that form. -/
theorem unpartedPadded (only : ∀ c ∈ cs, c = ' ' ∨ c.isDigit = true) (whole : ¬ Parted cs) :
    ∃ before digits after, cs = before ++ digits ++ after ∧ Spaces before ∧ AllDigits digits ∧
      Spaces after := by
  induction cs with
  | nil => exact ⟨[], [], [], rfl, by simp [Spaces], by simp [AllDigits], by simp [Spaces]⟩
  | cons c rest ih =>
      have later : ¬ Parted rest := fun gap => whole (gap.within (List.suffix_cons c rest).isInfix)
      obtain ⟨before, digits, after, same, front, all, back⟩ :=
        ih (fun d member => only d (by simp [member])) later
      rcases only c (by simp) with rfl | digit
      · have blank : Spaces (' ' :: before) := by simpa [Spaces] using front
        exact ⟨' ' :: before, digits, after, by simp [same], blank, all, back⟩
      · cases before with
        | nil =>
            have digits' : AllDigits (c :: digits) := by simpa [AllDigits, digit] using all
            exact ⟨[], c :: digits, after, by simp [same], front, digits', back⟩
        | cons b blanks =>
            obtain rfl : b = ' ' := front b (by simp)
            cases digits with
            | nil =>
                refine ⟨[], [c], ' ' :: blanks ++ after, by simp [same], by simp [Spaces],
                  by simpa [AllDigits] using digit, ?_⟩
                intro d member
                rcases List.mem_append.mp member with left | right
                · exact front d left
                · exact back d right
            | cons d others =>
                have blank : Spaces blanks := fun b member => front b (by simp [member])
                have start : c :: ' ' :: (blanks ++ [d]) <+: c :: rest :=
                  ⟨others ++ after, by simp [same]⟩
                exact absurd (.mk digit blank (all d (by simp)) start.isInfix) whole

theorem Slack.padded (slack : Slack n cs) (unsigned : '+' ∉ cs) (whole : ¬ Parted cs) :
    Padded n cs := by
  obtain ⟨digits, numeral, same | same⟩ := slack
  · have only : ∀ c ∈ cs, c = ' ' ∨ c.isDigit = true := by
      intro c member
      by_cases blank : c = ' '
      · exact .inl blank
      · refine .inr (numeral.all c ?_)
        rw [← same]
        exact List.mem_filter.mpr ⟨member, by simpa using blank⟩
    obtain ⟨before, inner, after, rfl, front, all, back⟩ := unpartedPadded only whole
    rw [squeezePadded front all back] at same
    exact .mk front (same ▸ numeral) back
  · have sign : '+' ∈ squeeze cs := by simp [same]
    exact absurd (List.mem_of_mem_filter sign) unsigned

theorem Taken.writtenOrSlipped (taken : Taken text r) : (∃ f, Written f text) ∨ Slipped text := by
  by_cases slipped : Slipped text
  · exact .inr slipped
  · refine .inl ?_
    have unsigned : '+' ∉ text.toList := fun sign => slipped (.plus sign)
    have unparted : ¬ Parted text.toList := fun gap => slipped (.parted gap)
    cases taken with
    | bare bare => exact absurd (.bare bare) slipped
    | @form f spelled =>
        refine ⟨f, ?_⟩
        unfold Written
        generalize text.toList = cs at spelled unsigned unparted
        have plain : ∀ {n ds}, ds <:+: cs → Slack n ds → Padded n ds := fun inside slack =>
          slack.padded (fun sign => unsigned (inside.subset sign))
            fun gap => unparted (gap.within inside)
        cases spelled with
        | line only => exact .line (plain List.infix_rfl only)
        | span first last order => exact .span (plain beforeDash first) (plain afterDash last) order
        | upTo blank last => exact .upTo blank (plain afterDash last)
        | onwards first blank => exact .onwards (plain beforeDash first) blank

def Digited (cs : List Char) : Prop := ∃ c ∈ cs, c.isDigit = true

theorem Padded.digited (padded : Padded n cs) : Digited cs := by
  cases padded with
  | mk front numeral back =>
      obtain ⟨c, rest, rfl⟩ := List.exists_cons_of_ne_nil numeral.nonempty
      exact ⟨c, by simp, numeral.all c (by simp)⟩

theorem Digited.within (digited : Digited cs) {whole : List Char} (inside : cs <:+: whole) :
    Digited whole := by
  obtain ⟨c, member, digit⟩ := digited
  exact ⟨c, inside.subset member, digit⟩

theorem Bare.unwritten (bare : Bare text.toList) (f : Form) : ¬ Written f text := by
  intro written
  unfold Written at written
  generalize text.toList = cs at bare written
  have digited : Digited cs := by
    cases written with
    | line only => exact only.digited
    | span first last order => exact first.digited.within beforeDash
    | upTo blank last => exact last.digited.within afterDash
    | onwards first blank => exact first.digited.within beforeDash
  have plain : ∀ c ∈ cs, c = ' ' ∨ c = '-' := by
    cases bare with
    | blank blank => exact fun c member => .inl (blank c member)
    | dash front back =>
        intro c member
        rcases List.mem_append.mp member with left | right
        · exact .inl (front c left)
        · rcases List.mem_cons.mp right with rfl | right
          · exact .inr rfl
          · exact .inl (back c right)
  obtain ⟨c, member, digit⟩ := digited
  rcases plain c member with rfl | rfl <;> cases digit

end Slips

end LineRange

namespace Action

open LineRange Session

variable {s : Session} {arg : String} {r : LineRange}

/- What the two commands do if the argument stands for the lines of these numbers: LIST writes them
in order, and DELETE takes them out if there is one. -/
structure ActOn (s : Session) (arg : String) (covers : Int → Bool) : Prop where
  list : command arg .list s = (.ok (),
    s.writeAll ((s.workspace.listing.lines.filter fun l => covers l.number).map fun l =>
      l.shown ++ "\n"))
  delete : (∃ l ∈ s.workspace.listing.lines, covers l.number = true) →
    command arg .delete s = (.ok (),
      s.holding (.ofLines (s.workspace.listing.lines.filter fun l => !covers l.number) true))
  nothing : (∀ l ∈ s.workspace.listing.lines, covers l.number = false) →
    command arg .delete s = (.error (.noLinesIn arg), s)

def Refused (s : Session) (arg : String) : Prop :=
  ∃ f, command arg .list s = (.error (.range f), s) ∧
    command arg .delete s = (.error (.range f), s)

theorem sayLinesWrites (lines : List String) (s : Session) :
    sayLines lines s = (.ok (), s.writeAll (lines.map (· ++ "\n"))) := by
  induction lines generalizing s with
  | nil => rfl
  | cons line rest ih => exact ih (s.write (line ++ "\n"))

theorem parseRefused {f : RangeFault} (given : arg ≠ "") (read : parse arg = .error f) :
    Refused s arg := by
  have argued : ¬ arg.isEmpty = true := by simpa using given
  refine ⟨f, ?_, ?_⟩
  · show list arg s = _
    unfold list parseRange
    rw [if_neg argued, read]
    rfl
  · show delete arg s = _
    unfold delete parseRange
    rw [if_neg argued, read]
    rfl

theorem takenActs (ordered : Listing.Ascending s.workspace.listing.lines) (given : arg ≠ "")
    (read : parse arg = .ok r) : ActOn s arg r.covers := by
  have argued : ¬ arg.isEmpty = true := by simpa using given
  have deleted : command arg .delete s =
      (if (s.workspace.listing.between r.low r.high).isEmpty then fail (.noLinesIn arg)
        else setListing (s.workspace.listing.deleteAll
          (s.workspace.listing.between r.low r.high))) s := by
    show delete arg s = _
    unfold delete parseRange
    rw [if_neg argued, read]
    rfl
  constructor
  · show list arg s = _
    unfold list parseRange
    rw [if_neg argued, read]
    refine (sayLinesWrites _ s).trans ?_
    rw [List.map_map]
    rfl
  · rintro ⟨l, member, covered⟩
    have found : s.workspace.listing.between r.low r.high ≠ [] :=
      List.ne_nil_of_mem (List.mem_filter.mpr ⟨member, covered⟩)
    rw [deleted, if_neg (by simpa using found), Listing.deleteBetween ordered found]
    rfl
  · intro outside
    have nothing : s.workspace.listing.between r.low r.high = [] :=
      List.filter_eq_nil_iff.mpr fun l member => by simpa [covers] using outside l member
    rw [deleted, nothing]
    rfl

theorem ActOn.congr {covers covers' : Int → Bool} (acts : ActOn s arg covers)
    (same : ∀ l ∈ s.workspace.listing.lines, covers l.number = covers' l.number) :
    ActOn s arg covers' := by
  have kept := List.filter_congr same
  have left : (s.workspace.listing.lines.filter fun l => !covers l.number) =
      s.workspace.listing.lines.filter fun l => !covers' l.number :=
    List.filter_congr fun l member => by rw [same l member]
  constructor
  · rw [acts.list, kept]
  · rintro ⟨l, member, covered⟩
    rw [acts.delete ⟨l, member, by rw [same l member, covered]⟩, left]
  · exact fun outside => acts.nothing fun l member => by rw [same l member, outside l member]

theorem rangeCovers (edited : s.workspace.listing.Edited) (f : Form) :
    ∀ l ∈ s.workspace.listing.lines, f.range.covers l.number = f.covers l.number := by
  intro l member
  have sound := edited.sound l member
  have positive := sound.positive
  have fits := sound.fits
  rw [Bool.eq_iff_iff, LineRange.covers, Bool.and_eq_true, decide_eq_true_eq, decide_eq_true_eq]
  cases f <;> simp only [Form.range, Form.covers, Bool.and_eq_true, decide_eq_true_eq,
    beq_iff_eq] <;> omega

/- LIST and DELETE keep to the ranges that an argument writes, and refuse one that writes none,
unless it has slipped through. What is taken for a range is known for every argument. -/
theorem rangeArguments (s : Session) (edited : s.workspace.listing.Edited) (arg : String)
    (given : arg ≠ "") :
    (∀ f, Written f arg → ActOn s arg f.covers) ∧
      ((∀ f, ¬ Written f arg) → ¬ Slipped arg → Refused s arg) ∧
      (∀ r, Taken arg r → ActOn s arg r.covers) ∧
      ((∀ r, ¬ Taken arg r) → Refused s arg) := by
  have taken : ∀ r, Taken arg r → ActOn s arg r.covers :=
    fun r taken => takenActs edited.ascending given (parseExact.mpr taken)
  have refused : (∀ r, ¬ Taken arg r) → Refused s arg := by
    intro nothing
    cases read : parse arg with
    | ok r => exact absurd (parseExact.mp read) (nothing r)
    | error f => exact parseRefused given read
  refine ⟨?_, ?_, taken, refused⟩
  · exact fun f written => (taken _ written.taken).congr (rangeCovers edited f)
  · intro unwritten whole
    refine refused fun r taken => ?_
    rcases taken.writtenOrSlipped with ⟨f, written⟩ | slipped
    · exact unwritten f written
    · exact whole slipped

def twoLines : Session := unsavedUnparsed.holding (.ofLines [⟨10, "PRINT 1"⟩, ⟨20, "PRINT 2"⟩] true)

theorem twoLinesEdited : twoLines.workspace.listing.Edited := by
  have first : Listing.empty.set (10 : Int64).toInt "PRINT 1" =
      .ok (.ofLines [⟨10, "PRINT 1"⟩] true) := by decide +kernel
  have second : Listing.set (.ofLines [⟨10, "PRINT 1"⟩] true) (20 : Int64).toInt "PRINT 2" =
      .ok twoLines.workspace.listing := by decide +kernel
  exact .set (.set .new first) second

theorem twoLinesRanged :
    command "15 -" .delete twoLines = (.ok (), twoLines.holding (.ofLines [⟨10, "PRINT 1"⟩] true)) ∧
      Refused twoLines "20-10" := by
  constructor
  · have number : Numeral 15 ['1', '5'] :=
      ⟨by decide, by simp [AllDigits], by decide, by decide, by decide⟩
    have padded : Padded 15 ([] ++ ['1', '5'] ++ [' ']) :=
      .mk (by simp [Spaces]) number (by simp [Spaces])
    have written : Written (.onwards 15) "15 -" := .onwards padded (by simp [Spaces])
    exact ((rangeArguments twoLines twoLinesEdited "15 -" (by decide)).1 _ written).delete
      ⟨⟨20, "PRINT 2"⟩, by decide, by decide⟩
  · refine (rangeArguments twoLines twoLinesEdited "20-10" (by decide)).2.2.2 fun r taken => ?_
    have read := parseExact.mpr taken
    have backwards : parse "20-10" = .error (.backwards "20-10") := by decide +kernel
    rw [backwards] at read
    cases read

theorem loneDashDeletesAll :
    ¬ ∀ (s : Session) (arg : String), s.workspace.listing.Edited → arg ≠ "" →
      (∀ f, Written f arg → ActOn s arg f.covers) ∧
        ((∀ f, ¬ Written f arg) → Refused s arg) := by
  intro documented
  have nothing : Spaces [] := by simp [Spaces]
  have bare : Bare "-".toList := .dash nothing nothing
  obtain ⟨f, _, refused⟩ := (documented twoLines "-" twoLinesEdited (by decide)).2 bare.unwritten
  have deleted : (command "-" .delete twoLines).1 = .ok () := by rfl
  rw [refused] at deleted
  cases deleted

end Action

end LineBasic
