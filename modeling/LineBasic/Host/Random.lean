/-!
Random numbers, from any generator: a seed and the draws made since decide the next one. That a draw
lies in the range asked for is part of its type.
-/
namespace LineBasic

inductive Draw where
  | below (n : Nat)
  | fraction
  deriving DecidableEq, Repr

structure Generator where
  below (seed : Int) (past : List Draw) (n : Nat) (positive : 0 < n) : Fin n
  fraction (seed : Int) (past : List Draw) : { x : Float // 0 ≤ x ∧ x < 1 }

-- the newest draw comes first
structure Random where
  generator : Generator
  seed : Int
  past : List Draw

namespace Random

def seeded (r : Random) (seed : Int) : Random := { r with seed, past := [] }

def below (r : Random) (n : Nat) (positive : 0 < n) : Fin n × Random :=
  (r.generator.below r.seed r.past n positive, { r with past := .below n :: r.past })

def fraction (r : Random) : { x : Float // 0 ≤ x ∧ x < 1 } × Random :=
  (r.generator.fraction r.seed r.past, { r with past := .fraction :: r.past })

end Random

namespace Generator

def mix (z : UInt64) : UInt64 :=
  let z := (z ^^^ (z >>> 30)) * 0xBF58476D1CE4E5B9
  let z := (z ^^^ (z >>> 27)) * 0x94D049BB133111EB
  z ^^^ (z >>> 31)

def word (seed : Int) (past : List Draw) : UInt64 :=
  mix (UInt64.ofInt seed + UInt64.ofNat (past.length + 1) * 0x9E3779B97F4A7C15)

def mixed : Generator where
  below seed past n positive := ⟨(word seed past).toNat % n, Nat.mod_lt _ positive⟩
  fraction seed past :=
    let x := Float.ofNat ((word seed past).toNat / 0x800) / Float.ofNat 0x20000000000000
    if inside : 0 ≤ x ∧ x < 1 then ⟨x, inside⟩ else ⟨0, by decide +kernel⟩

end Generator

end LineBasic
