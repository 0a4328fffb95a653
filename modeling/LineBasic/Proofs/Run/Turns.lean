import LineBasic.Run.Machine

/-!
How often a counting loop turns. The counter starts at one number and grows by another; the loop
ends at the first turn after which the counter is not within the limit. On integers that are added
and compared exactly the number of turns is a quotient.
-/
namespace LineBasic

def counter (start step : Float) : Nat → Float
  | 0 => start
  | k + 1 => counter start step k + step

def Within (limit step x : Float) : Prop := if step < 0 then limit ≤ x else x ≤ limit

structure Turns (start limit step : Float) (k : Nat) : Prop where
  positive : 1 ≤ k
  beyond : ¬ Within limit step (counter start step k)
  before : ∀ j, 1 ≤ j → j < k → Within limit step (counter start step j)

variable {start limit step : Float} {a b c : Int} {j k : Nat}

theorem continuesWithin {l : Loop} {x : Float} :
    l.continues x = true ↔ Within l.limit l.step x := by
  unfold Loop.continues Within
  split <;> simp

theorem turnsUnique (first : Turns start limit step j) (second : Turns start limit step k) :
    j = k := by
  rcases Nat.lt_trichotomy j k with less | same | more
  · exact absurd (second.before j first.positive less) first.beyond
  · exact same
  · exact absurd (first.before k second.positive more) second.beyond

theorem withinForever (endless : ∀ k, ¬ Turns start limit step k) (positive : 1 ≤ k) :
    Within limit step (counter start step k) := by
  induction k using Nat.strongRecOn with
  | ind k ih =>
      refine Classical.byContradiction fun beyond => ?_
      exact endless k ⟨positive, beyond, fun j first less => ih j less first⟩

/- The integers that a loop from `a` to `b` by `c` comes to in `k` turns are added and compared as
integers are. -/
structure ExactUpTo (a b c : Int) (k : Nat) : Prop where
  sums : ∀ j < k, Float.ofInt (a + j * c) + Float.ofInt c = Float.ofInt (a + (j + 1) * c)
  below : ∀ j, 1 ≤ j → j ≤ k → (Float.ofInt (a + j * c) ≤ Float.ofInt b ↔ a + j * c ≤ b)
  above : ∀ j, 1 ≤ j → j ≤ k → (Float.ofInt b ≤ Float.ofInt (a + j * c) ↔ b ≤ a + j * c)
  sign : Float.ofInt c < 0 ↔ c < 0

theorem counterExact (exact : ExactUpTo a b c k) (upTo : j ≤ k) :
    counter (Float.ofInt a) (Float.ofInt c) j = Float.ofInt (a + j * c) := by
  induction j with
  | zero => simp [counter]
  | succ j ih =>
      rw [counter, ih (by omega), exact.sums j upTo]
      push_cast
      rfl

theorem withinExact (nonzero : c ≠ 0) (exact : ExactUpTo a b c k) (begun : 1 ≤ j) (upTo : j ≤ k) :
    Within (Float.ofInt b) (Float.ofInt c) (counter (Float.ofInt a) (Float.ofInt c) j) ↔
      (j : Int) ≤ Int.fdiv (b - a) c := by
  rw [counterExact exact upTo, Within]
  rcases Int.lt_or_gt_of_ne nonzero with negative | positive
  · have quotient : Int.fdiv (b - a) c = (a - b) / (-c) := by
      rw [← Int.neg_fdiv_neg, Int.fdiv_eq_ediv_of_nonneg _ (by omega), Int.neg_sub]
    rw [if_pos (exact.sign.mpr negative), exact.above j begun upTo, quotient,
      Int.le_ediv_iff_mul_le (by omega), Int.mul_neg]
    omega
  · have upward : ¬ Float.ofInt c < 0 := fun negative => by
      have := exact.sign.mp negative
      omega
    rw [if_neg upward, exact.below j begun upTo, Int.fdiv_eq_ediv_of_nonneg _ (by omega),
      Int.le_ediv_iff_mul_le positive]
    omega

theorem turnsExact (nonzero : c ≠ 0)
    (exact : ExactUpTo a b c (max 1 (Int.fdiv (b - a) c + 1)).toNat) (k : Nat) :
    Turns (Float.ofInt a) (Float.ofInt b) (Float.ofInt c) k ↔
      (k : Int) = max 1 (Int.fdiv (b - a) c + 1) := by
  obtain ⟨n, count⟩ : ∃ n : Nat, max 1 (Int.fdiv (b - a) c + 1) = n :=
    ⟨(max 1 (Int.fdiv (b - a) c + 1)).toNat, by omega⟩
  rw [count] at exact ⊢
  have turns : Turns (Float.ofInt a) (Float.ofInt b) (Float.ofInt c) n := by
    refine ⟨by omega, ?_, ?_⟩
    · rw [withinExact nonzero exact (by omega) (by simp)]
      omega
    · intro j first less
      rw [withinExact nonzero exact first (by simp; omega)]
      omega
  constructor
  · intro other
    rw [turnsUnique other turns]
  · intro same
    rw [Int.ofNat_inj.mp same]
    exact turns

end LineBasic
