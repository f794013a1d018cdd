import AuthMiniGateway.Lib.Fuelled

namespace AuthMiniGateway.Benchmark

abbrev Word := BitVec 64

class WordRng (R : Type) where
  nextU64 : R → Word × R

structure SplitMix64 where
  state : Word
  deriving DecidableEq, Repr

namespace SplitMix64

def gamma : Word := 0x9e3779b97f4a7c15

def mixed (state : Word) : Word :=
  let value := (state ^^^ (state >>> 30)) * 0xbf58476d1ce4e5b9
  let value := (value ^^^ (value >>> 27)) * 0x94d049bb133111eb
  value ^^^ (value >>> 31)

instance : WordRng SplitMix64 where
  nextU64 rng := (mixed (rng.state + gamma), ⟨rng.state + gamma⟩)

end SplitMix64

variable {R : Type} [WordRng R]

/-- The words below this one are the biased tail; the negation wraps. -/
def rejectionThreshold (bound : Word) : Word := (-bound) % bound

def acceptWord (bound : Word) (rng : R) : Option Word × R :=
  let (word, rng) := WordRng.nextU64 rng
  (if rejectionThreshold bound ≤ word then some (word % bound) else none, rng)

def bounded (bound : Word) : Fuelled R String Word :=
  if bound = 0 then .fail "bounded draw requires a nonzero bound"
  else .untilSome (acceptWord bound)

/-- The positions `upper` to one, swapped one after another with a position that is not above. -/
def shuffleFrom {α : Type} : Nat → Array α → Fuelled R String (Array α)
  | 0, values => pure values
  | below + 1, values => do
      let upper := below + 1
      if 2 ^ 64 ≤ upper + 1 then .fail "shuffle length overflow"
      else
        let selected ← bounded (BitVec.ofNat 64 (upper + 1))
        shuffleFrom below (values.swapIfInBounds upper selected.toNat)

def fisherYates {α : Type} (values : Array α) : Fuelled R String (Array α) :=
  shuffleFrom (values.size - 1) values

end AuthMiniGateway.Benchmark
