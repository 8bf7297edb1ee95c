import Mathlib.Data.List.Forall2

/-!
# Computations that may fail

What it says about the steps of a computation in `Except` that the whole of it gives a result, and when
two computations agree (`Agree`).
-/

namespace DisplayGen

variable {ε α β : Type}

theorem bind_ok {x : Except ε α} {f : α → Except ε β} {b : β} (h : x >>= f = .ok b) :
    ∃ a, x = .ok a ∧ f a = .ok b := by
  cases x with
  | error e => cases h
  | ok a => exact ⟨a, rfl, h⟩

theorem bind_error {x : Except ε α} {f : α → Except ε β} {e : ε} (h : x >>= f = .error e) :
    x = .error e ∨ ∃ a, x = .ok a ∧ f a = .error e := by
  cases x with
  | error e' =>
    cases h
    exact .inl rfl
  | ok a => exact .inr ⟨a, rfl, h⟩

theorem toOption_eq_some {x : Except ε α} {a : α} (h : x.toOption = some a) : x = .ok a := by
  cases x with
  | error e => cases h
  | ok b =>
    cases h
    rfl

/-- What each step preserves, a whole sequence of steps preserves. -/
theorem foldlM_ok {f : β → α → Except ε β} {P : β → Prop} {as : List α} {b b' : β}
    (hf : ∀ b a b', P b → f b a = .ok b' → P b') (hb : P b) (h : as.foldlM f b = .ok b') :
    P b' := by
  induction as generalizing b with
  | nil =>
    cases h
    exact hb
  | cons a as ih =>
    rw [List.foldlM_cons] at h
    obtain ⟨b₁, h₁, h⟩ := bind_ok h
    exact ih (hf b a b₁ hb h₁) h

/-- A list succeeds if each of its members does, and only then. -/
theorem mapM_ok_iff {f : α → Except ε β} {as : List α} {bs : List β} :
    as.mapM f = .ok bs ↔ List.Forall₂ (fun a b => f a = .ok b) as bs := by
  constructor
  · intro h
    induction as generalizing bs with
    | nil =>
      cases h
      exact .nil
    | cons a as ih =>
      rw [List.mapM_cons] at h
      obtain ⟨b, hb, h⟩ := bind_ok h
      obtain ⟨bs', hbs, h⟩ := bind_ok h
      cases h
      exact .cons hb (ih hbs)
  · intro h
    induction h with
    | nil => rfl
    | cons hb _ ih =>
      rw [List.mapM_cons, hb, ih]
      rfl

/-- A list fails as the first of its members that does. -/
theorem mapM_error_iff {f : α → Except ε β} {as : List α} {e : ε} : as.mapM f = .error e ↔
    ∃ before a after, as = before ++ a :: after ∧ (∀ x ∈ before, ∃ b, f x = .ok b) ∧ f a = .error e := by
  constructor
  · intro h
    induction as with
    | nil => cases h
    | cons a as ih =>
      rw [List.mapM_cons] at h
      rcases bind_error h with h | ⟨b, hb, h⟩
      · exact ⟨[], a, as, rfl, List.forall_mem_nil _, h⟩
      · rcases bind_error h with h | ⟨bs, -, h⟩
        · obtain ⟨before, x, after, rfl, hbefore, hx⟩ := ih h
          exact ⟨a :: before, x, after, rfl, List.forall_mem_cons.2 ⟨⟨b, hb⟩, hbefore⟩, hx⟩
        · cases h
  · rintro ⟨before, a, after, rfl, hbefore, ha⟩
    induction before with
    | nil =>
      rw [List.nil_append, List.mapM_cons, ha]
      rfl
    | cons x before ih =>
      obtain ⟨⟨b, hb⟩, hbefore⟩ := List.forall_mem_cons.1 hbefore
      rw [List.cons_append, List.mapM_cons, hb, ih hbefore]
      rfl

/-- What fails for a list fails for one of its members. -/
theorem mapM_error {f : α → Except ε β} {as : List α} {e : ε} (h : as.mapM f = .error e) :
    ∃ a ∈ as, f a = .error e := by
  obtain ⟨before, a, after, rfl, -, ha⟩ := mapM_error_iff.1 h
  exact ⟨a, List.mem_append_right before List.mem_cons_self, ha⟩

/-- A list gives a result if all of its members do, and only then. -/
theorem exists_mapM_ok {f : α → Except ε β} {as : List α} :
    (∃ bs, as.mapM f = .ok bs) ↔ ∀ a ∈ as, ∃ b, f a = .ok b := by
  constructor
  · rintro ⟨bs, h⟩
    have hall := mapM_ok_iff.1 h
    clear h
    induction hall with
    | nil => exact List.forall_mem_nil _
    | cons hb _ ih => exact List.forall_mem_cons.2 ⟨⟨_, hb⟩, ih⟩
  · intro h
    cases hmap : as.mapM f with
    | ok bs => exact ⟨bs, rfl⟩
    | error e =>
      obtain ⟨a, ha, hfail⟩ := mapM_error hmap
      obtain ⟨b, hb⟩ := h a ha
      rw [hfail] at hb
      cases hb

/-- If all that can go wrong with a member of a list goes wrong in the same way, then so does the list,
exactly if one of the members does. -/
theorem mapM_cases {f : α → Except ε β} {e : ε} {P : α → Prop} {as : List α}
    (hbad : ∀ a ∈ as, P a → f a = .error e) (hgood : ∀ a ∈ as, ¬ P a → ∃ b, f a = .ok b) :
    (∃ bs, as.mapM f = .ok bs ∧ ∀ a ∈ as, ¬ P a) ∨ (as.mapM f = .error e ∧ ∃ a ∈ as, P a) := by
  induction as with
  | nil => exact .inl ⟨[], rfl, by simp⟩
  | cons a as ih =>
    have ih := ih (fun b hb => hbad b (List.mem_cons_of_mem a hb))
      (fun b hb => hgood b (List.mem_cons_of_mem a hb))
    rw [List.mapM_cons]
    by_cases ha : P a
    · rw [hbad a (List.mem_cons_self ..) ha]
      exact .inr ⟨rfl, a, List.mem_cons_self .., ha⟩
    · obtain ⟨b, hb⟩ := hgood a (List.mem_cons_self ..) ha
      rw [hb]
      rcases ih with ⟨bs, hbs, hall⟩ | ⟨hfail, x, hx, hbadx⟩
      · exact .inl ⟨b :: bs, by rw [hbs]; rfl, List.forall_mem_cons.2 ⟨ha, hall⟩⟩
      · exact .inr ⟨by rw [hfail]; rfl, x, List.mem_cons_of_mem a hx, hbadx⟩

/-- Two results agree: they are the same failure, or values that are related. -/
inductive Agree (R : α → β → Prop) : Except ε α → Except ε β → Prop where
  | error (e : ε) : Agree R (.error e) (.error e)
  | ok {a : α} {b : β} (h : R a b) : Agree R (.ok a) (.ok b)

namespace Agree

variable {R : α → β → Prop} {x : Except ε α} {y : Except ε β}

theorem cases (h : Agree R x y) :
    (∃ e, x = .error e ∧ y = .error e) ∨ ∃ a b, x = .ok a ∧ y = .ok b ∧ R a b := by
  cases h with
  | error e => exact .inl ⟨e, rfl, rfl⟩
  | ok h => exact .inr ⟨_, _, rfl, rfl, h⟩

theorem imp {S : α → β → Prop} (h : Agree R x y)
    (hS : ∀ a b, x = .ok a → y = .ok b → R a b → S a b) : Agree S x y := by
  cases h with
  | error e => exact .error e
  | ok hab => exact .ok (hS _ _ rfl rfl hab)

/-- Two values stand for the success of one computation. -/
theorem map_const {γ : Type} {a : α} {b : β} (h : R a b) (z : Except ε γ) :
    Agree R (z.map fun _ => a) (z.map fun _ => b) := by
  cases z with
  | error e => exact .error e
  | ok c => exact .ok h

end Agree

theorem optionRel_cases {R : α → β → Prop} {x : Option α} {y : Option β} (h : Option.Rel R x y) :
    (x = none ∧ y = none) ∨ ∃ a b, x = some a ∧ y = some b ∧ R a b := by
  cases h with
  | none => exact .inl ⟨rfl, rfl⟩
  | some h => exact .inr ⟨_, _, rfl, rfl, h⟩

end DisplayGen
