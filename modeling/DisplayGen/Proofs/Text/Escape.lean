import DisplayGen.Text.Chars
import DisplayGen.Text.Escape

/-!
# Code points in digits

`exists_hexDigits`: a code point is written in one to six hexadecimal digits, and their value is the code
point. Readers of escapes differ in how they go through the digits, but not in the value they make of them.
-/

namespace DisplayGen.Text

theorem hexValue?_hexDigit : ∀ n < 16, hexValue? (hexDigit n) = some n := by decide

theorem charOfCode?_toNat (c : Char) : charOfCode? c.toNat = some c := by
  have hvalid : c.toNat.isValidChar := c.valid
  unfold charOfCode?
  rw [dif_pos hvalid]
  rfl

/-- The value of digits behind those of a given value. -/
def digitsValue (value : Nat) (ds : List Nat) : Nat := ds.foldl (fun v d => v * 16 + d) value

/-- The digits of a number, of which there are at most so many, have the number as their value. -/
theorem exists_hexDigitsFrom {size fuel n : Nat} (hfuel : size < fuel) (hn : n < Nat.pow 16 (size + 1))
    (acc : List Char) : ∃ ds : List Nat, hexDigitsFrom fuel n acc = ds.map hexDigit ++ acc ∧
      (∀ d ∈ ds, d < 16) ∧ digitsValue 0 ds = n ∧ ds ≠ [] ∧ ds.length ≤ size + 1 := by
  induction size generalizing fuel n acc with
  | zero =>
    obtain ⟨fuel, rfl⟩ : ∃ f, fuel = f + 1 := ⟨fuel - 1, by omega⟩
    have hsmall : n < 16 := hn
    refine ⟨[n], ?_, by simpa using hsmall, by simp [digitsValue], by simp, by simp⟩
    unfold hexDigitsFrom
    dsimp only
    rw [if_pos hsmall, Nat.mod_eq_of_lt hsmall]
    rfl
  | succ size ih =>
    obtain ⟨fuel, rfl⟩ : ∃ f, fuel = f + 1 := ⟨fuel - 1, by omega⟩
    unfold hexDigitsFrom
    dsimp only
    by_cases hsmall : n < 16
    · rw [if_pos hsmall, Nat.mod_eq_of_lt hsmall]
      exact ⟨[n], rfl, by simpa using hsmall, by simp [digitsValue], by simp, by simp⟩
    · have hquotient : n / 16 < Nat.pow 16 (size + 1) := (Nat.div_lt_iff_lt_mul (by decide)).2 hn
      obtain ⟨ds, heq, hdigits, hvalue, -, hlength⟩ :=
        ih (show size < fuel by omega) hquotient (hexDigit (n % 16) :: acc)
      rw [if_neg hsmall]
      refine ⟨ds ++ [n % 16], ?_, ?_, ?_, by simp, ?_⟩
      · rw [heq, List.map_append, List.append_assoc]
        rfl
      · intro d hd
        rcases List.mem_append.1 hd with hd | hd
        · exact hdigits d hd
        · rw [List.mem_singleton.1 hd]
          exact Nat.mod_lt _ (by decide)
      · unfold digitsValue at hvalue ⊢
        rw [List.foldl_append, hvalue]
        exact Nat.div_add_mod' n 16
      · rw [List.length_append, List.length_singleton]
        omega

/-- A code point is written in one to six digits. -/
theorem exists_hexDigits (c : Char) : ∃ ds : List Nat, hexDigits c.toNat = ds.map hexDigit ∧
    (∀ d ∈ ds, d < 16) ∧ digitsValue 0 ds = c.toNat ∧ ds ≠ [] ∧ ds.length ≤ 6 := by
  have hbound : c.toNat < Nat.pow 16 (5 + 1) := by
    have hvalid : c.toNat.isValidChar := c.valid
    unfold Nat.isValidChar at hvalid
    change c.toNat < 16777216
    omega
  obtain ⟨ds, heq, h⟩ := exists_hexDigitsFrom (show 5 < 8 by decide) hbound []
  exact ⟨ds, by rw [hexDigits, heq, List.append_nil], h⟩

end DisplayGen.Text
