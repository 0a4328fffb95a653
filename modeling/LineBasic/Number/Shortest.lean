import LineBasic.Number.Binary

/-!
The shortest decimal that reads back as a given number.
-/
namespace LineBasic.Number

structure Decimal where
  digits : Nat
  exponent : Int
  deriving DecidableEq, Repr

structure Interval where
  low : Nat
  middle : Nat
  high : Nat
  closed : Bool
  exponent : Int

def Dyadic.interval (d : Dyadic) : Interval where
  low := 4 * d.mantissa - (if d.mantissa = 0x10000000000000 ∧ -1074 < d.exponent then 1 else 2)
  middle := 4 * d.mantissa
  high := 4 * d.mantissa + 2
  closed := d.mantissa % 2 = 0
  exponent := d.exponent - 2

def Interval.onGrid (i : Interval) (k : Int) : Option Decimal :=
  -- both sides of every comparison are multiplied by the denominators of `2 ^ e` and `10 ^ k`
  let unit := Nat.pow 2 i.exponent.toNat * Nat.pow 10 (-k).toNat
  let step := Nat.pow 10 k.toNat * Nat.pow 2 (-i.exponent).toNat
  let below := i.middle * unit / step
  let inside (n : Nat) : Bool :=
    if i.closed then i.low * unit ≤ n * step && n * step ≤ i.high * unit
    else i.low * unit < n * step && n * step < i.high * unit
  let candidate (n : Nat) : Option Decimal := if 0 < n && inside n then some ⟨n, k⟩ else none
  match candidate below, candidate (below + 1) with
  | some a, some b =>
    let r := i.middle * unit % step
    if 2 * r < step then some a
    else if step < 2 * r then some b
    else if below % 2 = 0 then some a else some b
  | some a, none => some a
  | none, b => b

def Interval.topGrid (i : Interval) : Int :=
  ((i.middle.log2 : Int) + i.exponent + 1) * 30103 / 100000 + 2

/-- The decimal with the fewest digits that rounds to the positive number `m · 2 ^ q`; of those the
nearest. The grids are tried from the coarsest on, and the twentieth below is fine enough for
every number. -/
def shortest (d : Dyadic) : Decimal :=
  let i := d.interval
  ((List.range 24).findSome? fun n : Nat => i.onGrid (i.topGrid - n)).getD ⟨0, 0⟩

end LineBasic.Number
