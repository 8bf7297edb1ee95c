import DisplayGen.Text.Scan

/-!
# Readers of characters, step by step

What the readers that others are built from do with a text that begins with what they take. A reader of a
format is followed through a written text by rewriting with these.
-/

namespace DisplayGen.Text.Scan

variable {α β : Type}

theorem bind_apply (p : Scan α) (f : α → Scan β) (cs : List Char) :
    (p >>= f) cs = (p cs).bind fun x => f x.1 x.2 := rfl

/-- Readers in a row, once it is known what the first of them takes. -/
theorem bind_of_eq {p : Scan α} {f : α → Scan β} {cs rest : List Char} {a : α}
    (h : p cs = some (a, rest)) : (p >>= f) cs = f a rest := by
  rw [bind_apply, h]
  rfl

theorem pure_apply (a : α) (cs : List Char) : (pure a : Scan α) cs = some (a, cs) := rfl

theorem next_cons (c : Char) (cs : List Char) : next (c :: cs) = some (c, cs) := rfl

theorem peek?_cons (c : Char) (cs : List Char) : peek? (c :: cs) = some (some c, c :: cs) := rfl

theorem char_cons (c : Char) (cs : List Char) : char c (c :: cs) = some ((), cs) := by
  simp [char, oneOf, bind_apply, pure_apply]

theorem text?_cons (c d : Char) (s : String) (hs : s.toList = [c]) (cs : List Char) :
    text? s (d :: cs) = if c = d then some (true, cs) else some (false, d :: cs) := by
  unfold text?
  rw [hs]
  by_cases h : c = d
  · simp [afterStart?, h]
  · simp [afterStart?, h]

end DisplayGen.Text.Scan
