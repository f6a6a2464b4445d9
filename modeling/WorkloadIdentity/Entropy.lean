import WorkloadIdentity.Hash.Sha2

/-!
# Entropy

The random bytes that keys, nonces and signatures draw on, as an endless string with a position.
Every function that draws takes the supply and returns what is left of it.
-/

namespace WorkloadIdentity

/-- An endless supply of random bytes. -/
structure Entropy where
  /-- The byte at each position. -/
  byte : Nat → UInt8
  /-- The first position not yet used. -/
  position : Nat := 0

namespace Entropy

/-- The next `count` bytes, and the supply after them. -/
def draw (count : Nat) (entropy : Entropy) : Bytes × Entropy :=
  ((List.range count).map fun i => entropy.byte (entropy.position + i),
    { entropy with position := entropy.position + count })

/-- The supply that a seed is expanded to, thirty-two bytes from each hash. -/
def ofSeed (seed : Bytes) : Entropy where
  byte i := (Sha2.sha256 (seed ++ Bytes.fixed 8 (i / 32))).getD (i % 32) 0

@[simp] theorem length_draw
    (count : Nat) (entropy : Entropy) :
    (draw count entropy).1.length = count := by
  simp [draw]

end Entropy

abbrev Random := StateM Entropy

namespace Random

def bytes (count : Nat) : Random Bytes :=
  fun entropy => entropy.draw count

/-- What comes after a computation works on what is left by it. -/
theorem run_bind_of_run
    {α β : Type} {first : Random α} {next : α → Random β}
    {entropy rest : Entropy} {value : α}
    (h : first.run entropy = (value, rest)) :
    (first >>= next).run entropy = (next value).run rest := by
  simp only [StateT.run_bind, h]
  rfl

end Random
end WorkloadIdentity
