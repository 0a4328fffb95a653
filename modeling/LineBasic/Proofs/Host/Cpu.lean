import Mathlib.Algebra.Group.Int.Defs
import LineBasic.Host.Cpu
import LineBasic.Proofs.Text.Decimal
import LineBasic.Proofs.Text.Fields
import LineBasic.Proofs.Text.Runs

/-!
CPU time. The name of the command in a status text may imitate all the rest of it and is never
read: the two counts of ticks come from what follows its last parenthesis. They are turned into
nanoseconds exactly as long as a count stays below some 9.2 thousand million ticks, and never
beyond.
-/
namespace LineBasic.Cpu

open Text

variable {rest : List Char} {fields : List (List Char)}

def statusText (before name rest : List Char) : String :=
  String.ofList (before ++ '(' :: name ++ ')' :: rest)

inductive Counted (rest : List Char) (u v : Int) : Prop where
  | mk {fields : List (List Char)} {user system : List Char} (fielded : Fielded rest fields)
      (twelfth : fields[11]? = some user) (thirteenth : fields[12]? = some system)
      (first : Integer u user) (second : Integer v system) : Counted rest u v

inductive Uncounted (rest : List Char) : StatFault → Prop where
  | few {fields : List (List Char)} (fielded : Fielded rest fields) (few : fields.length < 13) :
      Uncounted rest (.tooFewFields (fields.length + 2))
  | user {fields : List (List Char)} {user system : List Char} {f : IntegerFault}
      (fielded : Fielded rest fields) (twelfth : fields[11]? = some user)
      (thirteenth : fields[12]? = some system) (bad : readInteger user = .error f) :
      Uncounted rest (.badNumber (String.ofList user) f)
  | system {fields : List (List Char)} {user system : List Char} {n : Int} {f : IntegerFault}
      (fielded : Fielded rest fields) (twelfth : fields[11]? = some user)
      (thirteenth : fields[12]? = some system) (good : Integer n user)
      (bad : readInteger system = .error f) : Uncounted rest (.badNumber (String.ofList system) f)

section Status

theorem afterLastClose (unclosed : ')' ∉ rest) (cs : List Char) :
    afterName? (cs ++ ')' :: rest) = some rest := by
  have found : (cs ++ ')' :: rest).contains ')' = true := by simp
  have inside : ∀ c ∈ rest.reverse, (c != ')') = true := by
    intro c member
    rw [bne_iff_ne]
    rintro rfl
    exact unclosed (List.mem_reverse.mp member)
  unfold afterName?
  rw [if_pos found, List.reverse_append, List.reverse_cons, List.append_assoc,
    takeWhileStop inside (by simp), List.reverse_reverse]

theorem readStatus (unclosed : ')' ∉ rest) (fielded : Fielded rest fields)
    (before name : List Char) : readStat (statusText before name rest) =
      match fields[11]?, fields[12]? with
      | some user, some system =>
        match readTicks (String.ofList user) with
        | .error f => .failed f
        | .ok user =>
          match readTicks (String.ofList system) with
          | .error f => .failed f
          | .ok system => ⟨user, system, none⟩
      | _, _ => .failed (.tooFewFields (fields.length + 2)) := by
  have same : Text.fields (String.ofList rest) = fields.map String.ofList := by
    rw [Text.fields, String.toList_ofList, fieldsExact.mp fielded]
  unfold readStat statusText
  rw [String.toList_ofList, afterLastClose unclosed]
  simp only [same, List.getElem?_map, List.length_map]
  cases fields[11]? <;> cases fields[12]? <;> rfl

theorem readTicksOk {cs : List Char} {n : Int} (read : readInteger cs = .ok n) :
    readTicks (String.ofList cs) = .ok n := by
  unfold readTicks
  rw [String.toList_ofList, read]

theorem readTicksError {cs : List Char} {f : IntegerFault} (read : readInteger cs = .error f) :
    readTicks (String.ofList cs) = .error (.badNumber (String.ofList cs) f) := by
  unfold readTicks
  rw [String.toList_ofList, read]

theorem countedRead (unclosed : ')' ∉ rest) {u v : Int} (counted : Counted rest u v)
    (before name : List Char) : readStat (statusText before name rest) = ⟨u, v, none⟩ := by
  obtain ⟨fielded, twelfth, thirteenth, first, second⟩ := counted
  rw [readStatus unclosed fielded]
  simp only [twelfth, thirteenth, readTicksOk (integerExact.mpr first),
    readTicksOk (integerExact.mpr second)]

theorem statusRead (unclosed : ')' ∉ rest) (before name : List Char) :
    (∃ u v, Counted rest u v ∧ readStat (statusText before name rest) = ⟨u, v, none⟩) ∨
      ∃ f, Uncounted rest f ∧ readStat (statusText before name rest) = .failed f := by
  obtain ⟨fields, fielded⟩ := fieldedSome rest
  by_cases few : fields.length < 13
  · refine .inr ⟨_, .few fielded few, ?_⟩
    have missing : fields[12]? = none := List.getElem?_eq_none (by omega)
    rw [readStatus unclosed fielded, missing]
    cases fields[11]? <;> rfl
  · have twelfth : fields[11]? = some fields[11] := List.getElem?_eq_getElem _
    have thirteenth : fields[12]? = some fields[12] := List.getElem?_eq_getElem _
    cases first : readInteger fields[11] with
    | error f =>
        refine .inr ⟨_, .user fielded twelfth thirteenth first, ?_⟩
        rw [readStatus unclosed fielded]
        simp only [twelfth, thirteenth, readTicksError first]
    | ok n =>
        have good := integerExact.mp first
        cases second : readInteger fields[12] with
        | error f =>
            refine .inr ⟨_, .system fielded twelfth thirteenth good second, ?_⟩
            rw [readStatus unclosed fielded]
            simp only [twelfth, thirteenth, readTicksOk first, readTicksError second]
        | ok k =>
            have counted : Counted rest n k :=
              ⟨fielded, twelfth, thirteenth, good, integerExact.mp second⟩
            exact .inl ⟨_, _, counted, countedRead unclosed counted before name⟩

/- Whatever the name of the command is, the counts are those that follow it. -/
theorem nameNeverRead (unclosed : ')' ∉ rest) (before name : List Char) :
    (∀ before' name', readStat (statusText before' name' rest) =
        readStat (statusText before name rest)) ∧
      (∀ u v, readStat (statusText before name rest) = ⟨u, v, none⟩ ↔ Counted rest u v) ∧
      ((¬ ∃ u v, Counted rest u v) → ∃ f, Uncounted rest f ∧
        readStat (statusText before name rest) = ⟨0, 0, some f⟩) := by
  refine ⟨fun before' name' => ?_, fun u v => ⟨fun read => ?_, fun counted => ?_⟩,
    fun uncounted => ?_⟩
  · obtain ⟨fields, fielded⟩ := fieldedSome rest
    rw [readStatus unclosed fielded, readStatus unclosed fielded]
  · rcases statusRead unclosed before name with ⟨u', v', counted, same⟩ | ⟨f, _, same⟩
    · rw [same] at read
      cases read
      exact counted
    · rw [same] at read
      cases read
  · exact countedRead unclosed counted before name
  · rcases statusRead unclosed before name with ⟨u, v, counted, _⟩ | ⟨f, lacking, same⟩
    · exact absurd ⟨u, v, counted⟩ uncounted
    · exact ⟨f, lacking, same⟩

def impostor : List Char := "x) R 1 2 3 4 5 6 7 8 9 10 9 9 (".toList

def followed : List Char := " S 1 2 3 4 5 6 7 8 9 10 250 75 0 0\n".toList

theorem impostorNotRead :
    ')' ∉ followed ∧ readStat (statusText ['7', ' '] impostor followed) = ⟨250, 75, none⟩ := by
  have unclosed : ')' ∉ followed := by decide +kernel
  have fielded : Fielded followed (fieldsFrom [] followed []) := fieldsExact.mpr rfl
  have user : Integer 250 ['2', '5', '0'] := integerExact.mp (by decide +kernel)
  have system : Integer 75 ['7', '5'] := integerExact.mp (by decide +kernel)
  have counted : Counted followed 250 75 :=
    ⟨fielded, by decide +kernel, by decide +kernel, user, system⟩
  exact ⟨unclosed, ((nameNeverRead unclosed ['7', ' '] impostor).2.1 _ _).mpr counted⟩

end Status

section Conversion

def exactNanoseconds (ticks perSecond : Int) : Int := ticks * nanosPerSecond / perSecond

def mostTicks : Int := 9223372036

/- What becomes of a count of ticks: the time is right up to a number of ticks and wrong beyond it,
where so many times 2^64 are missing from the product, and it never gets larger than what 63 bits
hold at this rate. -/
structure Converted (perSecond ticks nanos : Int) : Prop where
  exact : nanos = exactNanoseconds ticks perSecond ↔ ticks ≤ mostTicks
  missing : ∃ k, (-2 ^ 63 ≤ ticks * nanosPerSecond - k * 2 ^ 64 ∧
      ticks * nanosPerSecond - k * 2 ^ 64 < 2 ^ 63) ∧
    nanos = Int.tdiv (ticks * nanosPerSecond - k * 2 ^ 64) perSecond
  bounded : -2 ^ 63 ≤ nanos * perSecond ∧ nanos * perSecond < 2 ^ 63

variable {n perSecond : Int}

theorem wrapLeaves (n : Int) :
    ∃ k, wrap n = n - k * 2 ^ 64 ∧ -2 ^ 63 ≤ wrap n ∧ wrap n < 2 ^ 63 := by
  unfold wrap
  rw [Int.bmod_def]
  split
  · exact ⟨n / 2 ^ 64, by omega⟩
  · exact ⟨n / 2 ^ 64 + 1, by omega⟩

theorem wrapInside (low : -2 ^ 63 ≤ n) (high : n < 2 ^ 63) : wrap n = n := by
  obtain ⟨k, left, range⟩ := wrapLeaves n
  omega

section Division

variable (positive : 0 < perSecond)
include positive

theorem divisionUp (up : 0 ≤ n) : 0 ≤ n.tdiv perSecond ∧ n.tdiv perSecond * perSecond ≤ n := by
  rw [Int.tdiv_eq_ediv_of_nonneg up]
  exact ⟨Int.ediv_nonneg up (Int.le_of_lt positive), Int.ediv_mul_le n (Int.ne_of_gt positive)⟩

theorem divisionDown (down : n ≤ 0) :
    n.tdiv perSecond ≤ 0 ∧ n ≤ n.tdiv perSecond * perSecond := by
  have up := divisionUp positive (n := -n) (by omega)
  rw [Int.neg_tdiv, Int.neg_mul] at up
  omega

theorem divisionInside (low : -2 ^ 63 ≤ n) (high : n < 2 ^ 63) :
    (-2 ^ 63 ≤ n.tdiv perSecond * perSecond ∧ n.tdiv perSecond * perSecond < 2 ^ 63) ∧
      -2 ^ 63 ≤ n.tdiv perSecond ∧ n.tdiv perSecond < 2 ^ 63 := by
  rcases Int.le_total 0 n with up | down
  · obtain ⟨sign, size⟩ := divisionUp positive up
    have grows := Int.mul_le_mul_of_nonneg_left (show (1 : Int) ≤ perSecond by omega) sign
    have product := Int.mul_nonneg sign (Int.le_of_lt positive)
    omega
  · obtain ⟨sign, size⟩ := divisionDown positive down
    have grows := Int.mul_le_mul_of_nonpos_left sign (show (1 : Int) ≤ perSecond by omega)
    omega

theorem nanosecondsProduct (ticks : Int) : nanoseconds ticks perSecond =
    (wrap (ticks * nanosPerSecond)).tdiv perSecond := by
  obtain ⟨_, _, low, high⟩ := wrapLeaves (ticks * nanosPerSecond)
  obtain ⟨_, least, most⟩ := divisionInside positive low high
  exact wrapInside least most

/- A product of 64 bits or more loses at least 2^64, which is more than one nanosecond's worth at
any rate of 63 bits. -/
theorem quotientLower {x r : Int} (word : perSecond < 2 ^ 63) (large : 2 ^ 63 ≤ x)
    (less : r + 2 ^ 64 ≤ x) : r.tdiv perSecond < x / perSecond := by
  rcases Int.le_total 0 r with up | down
  · rw [Int.tdiv_eq_ediv_of_nonneg up]
    have next := Int.add_mul_ediv_right r 1 (Int.ne_of_gt positive)
    have lower := Int.ediv_le_ediv positive (show r + 1 * perSecond ≤ x by omega)
    omega
  · have sign := (divisionDown positive down).1
    have one : 1 ≤ x / perSecond := (Int.le_ediv_iff_mul_le positive).mpr (by omega)
    omega

theorem nanosecondsExact {ticks : Int} (counted : 0 ≤ ticks) (word : perSecond < 2 ^ 63) :
    nanoseconds ticks perSecond = exactNanoseconds ticks perSecond ↔ ticks ≤ mostTicks := by
  obtain ⟨k, left, low, high⟩ := wrapLeaves (ticks * nanosPerSecond)
  rw [nanosecondsProduct positive]
  unfold exactNanoseconds mostTicks
  unfold nanosPerSecond at left low high ⊢
  constructor
  · intro same
    refine Int.not_lt.mp fun beyond => ?_
    have large : 2 ^ 63 ≤ ticks * 1000000000 := by omega
    have less : wrap (ticks * 1000000000) + 2 ^ 64 ≤ ticks * 1000000000 := by omega
    have lower := quotientLower positive word large less
    omega
  · intro few
    rw [wrapInside (by omega) (by omega), Int.tdiv_eq_ediv_of_nonneg (by omega)]

theorem nanosecondsConverted {ticks : Int} (counted : 0 ≤ ticks) (word : perSecond < 2 ^ 63) :
    Converted perSecond ticks (nanoseconds ticks perSecond) where
  exact := nanosecondsExact positive counted word
  missing := by
    obtain ⟨k, left, low, high⟩ := wrapLeaves (ticks * nanosPerSecond)
    refine ⟨k, ?_⟩
    rw [nanosecondsProduct positive, ← left]
    exact ⟨⟨low, high⟩, rfl⟩
  bounded := by
    obtain ⟨_, _, low, high⟩ := wrapLeaves (ticks * nanosPerSecond)
    rw [nanosecondsProduct positive]
    exact (divisionInside positive low high).1

end Division

end Conversion

/- The times of a status text with counts of ticks, by a clock of any rate that 64 bits can hold. -/
theorem ticksConverted {m : Meter} {u v : Int} (read : readStat m.stat = ⟨u, v, none⟩)
    (user : 0 ≤ u) (system : 0 ≤ v) (rate : 0 < m.ticksPerSecond)
    (word : m.ticksPerSecond < 2 ^ 63) :
    ∃ x y, m.times = ⟨x, y, none⟩ ∧ Converted m.ticksPerSecond u x ∧
      Converted m.ticksPerSecond v y := by
  refine ⟨nanoseconds u m.ticksPerSecond, nanoseconds v m.ticksPerSecond, ?_,
    nanosecondsConverted rate user word, nanosecondsConverted rate system word⟩
  unfold Meter.times
  rw [read]

def busy : Meter where
  stat := "1 (minibasic) R 1 2 3 4 5 6 7 8 9 10 9223372037 75 0 0 20 0 1 0\n"
  name := "stat"
  ticksPerSecond := 100

theorem busyRead : readStat busy.stat = ⟨9223372037, 75, none⟩ := by decide +kernel

theorem busyConverted : ∃ x y, busy.times = ⟨x, y, none⟩ ∧ Converted 100 9223372037 x ∧
    Converted 100 75 y :=
  ticksConverted busyRead (by decide) (by decide) (by decide) (by decide)

theorem busyTimeWrong :
    ¬ ∀ (m : Meter) (u v : Int), readStat m.stat = ⟨u, v, none⟩ → 0 ≤ u → 0 ≤ v →
      0 < m.ticksPerSecond → exactNanoseconds u m.ticksPerSecond < 2 ^ 63 →
      exactNanoseconds v m.ticksPerSecond < 2 ^ 63 →
      m.times = ⟨exactNanoseconds u m.ticksPerSecond, exactNanoseconds v m.ticksPerSecond, none⟩ := by
  intro documented
  have times := documented busy _ _ busyRead (by decide) (by decide) (by decide) (by decide)
    (by decide)
  have other : busy.times = ⟨-92233720367095516, 750000000, none⟩ := by decide +kernel
  rw [other] at times
  cases times

end LineBasic.Cpu
