/-!
# Numbers of 64 bits

Numbers in a text are values only as far as they fit into a word.

* `fitsUnsigned_iff`: the greatest number that fits without a sign.
* `fitsSigned_iff`: the greatest that fits with one, and the single further number that fits only
  when it is negated.
-/

namespace DisplayGen.Format

/-- The number fits into a word of 64 bits. -/
def fitsUnsigned (n : Nat) : Bool := n < UInt64.size

/-- The number, negated or not, fits into a word of 64 bits with a sign. There is one more negative
number than there are positive ones. -/
def fitsSigned (negative : Bool) (n : Nat) : Bool :=
  2 * n < UInt64.size || (negative && 2 * n = UInt64.size)

/-- The least number that is rounded up to infinity where numbers have 53 significant bits and a
binary exponent below 1024. -/
def realLimit : Nat := (Nat.pow 2 54 - 1) * Nat.pow 2 970

/-- A number times a power of ten is finite as a number of 64 bits with a point. Most are told by
the number of their digits alone. -/
def fitsReal (n : Nat) (exponent : Int) : Bool :=
  let digits : Int := (Nat.toDigits 10 n).length
  if n = 0 || digits + exponent ≤ 308 then true
  else if 310 ≤ digits + exponent then false
  else n * Nat.pow 10 exponent.toNat < realLimit * Nat.pow 10 (-exponent).toNat

theorem fitsUnsigned_iff (n : Nat) : fitsUnsigned n = true ↔ n ≤ 18446744073709551615 := by
  simp [fitsUnsigned, UInt64.size]
  omega

theorem fitsSigned_iff (negative : Bool) (n : Nat) :
    fitsSigned negative n = true ↔
      n ≤ 9223372036854775807 ∨ (negative = true ∧ n = 9223372036854775808) := by
  cases negative <;> simp [fitsSigned, UInt64.size] <;> omega

end DisplayGen.Format
