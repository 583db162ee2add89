/-!
# Random numbers

A stream of 64-bit random numbers for every seed. The number at a position is found by stepping a
counter that many times and mixing its bits, so streams need no state.
-/

namespace ChatScript.Chance

/-- The step of the counter: an odd number near 2^64 divided by the golden ratio. -/
def step : UInt64 := 0x9E3779B97F4A7C15

/-- Mixes the bits of a counter so that neighbouring counters give unrelated numbers. -/
def mix (counter : UInt64) : UInt64 :=
  let once := (counter ^^^ (counter >>> 30)) * 0xBF58476D1CE4E5B9
  let twice := (once ^^^ (once >>> 27)) * 0x94D049BB133111EB
  twice ^^^ (twice >>> 31)

/-- The random numbers of a seed. -/
def stream (seed : UInt64) (position : Nat) : Nat :=
  (mix (seed + step * (position + 1).toUInt64)).toNat

end ChatScript.Chance
