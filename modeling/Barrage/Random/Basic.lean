import Barrage.Random.ChaCha
import Barrage.Scalar.Basic

/-!
The random numbers of an engine: the words of one ChaCha stream in order. The seed gives the key,
and the state of the generator is the key with the number of words drawn so far.
-/

namespace Barrage

structure Random where
  key : Vector UInt32 8
  drawn : Nat
  deriving DecidableEq

namespace Random

/-- The next state of the generator that stretches a seed. -/
def stretch (s : UInt64) : UInt64 := s * 6364136223846793005 + 11634580027462260723

/-- The word that a state of the stretching generator gives. -/
def stretched (s : UInt64) : UInt32 :=
  ChaCha.rotateRight (((s >>> 18) ^^^ s) >>> 27).toUInt32 (s >>> 59).toUInt32

def ofSeed (seed : UInt64) : Random where
  key := Vector.ofFn fun (i : Fin 8) =>
    stretched ((List.range (i + 1)).foldl (fun s _ => stretch s) seed)
  drawn := 0

/-- The next word of the stream. -/
def next (r : Random) : UInt32 × Random :=
  let words := ChaCha.block r.key (UInt64.ofNat (r.drawn / 16))
  (words.get ⟨r.drawn % 16, Nat.mod_lt _ (by decide)⟩, { r with drawn := r.drawn + 1 })

/-- A number between the bounds. Bounds that are not in order give the lower one and draw nothing.
-/
def between {K : Type} [Scalar K] (low high : K) (r : Random) : K × Random :=
  if low < high then
    let (word, r) := r.next
    (Scalar.pick low high word, r)
  else (low, r)

end Random

end Barrage
