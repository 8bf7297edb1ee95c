import DisplayGen.Text.Split
import Mathlib.Data.List.Forall2

/-!
# Lists

What more than one part of the theory needs to know about lists: association lists that lose some of
their entries, lists that begin with a given one, lists whose members are related one by one, lists with a
last element, and lists in another order.
-/

namespace DisplayGen

/-- A filter that keeps all entries of a key does not change what is found for it. -/
theorem lookup_filter_of_keep {α β : Type} [BEq α] [LawfulBEq α] {keep : α × β → Bool} {k : α}
    (h : ∀ b, keep (k, b) = true) (l : List (α × β)) : (l.filter keep).lookup k = l.lookup k := by
  induction l with
  | nil => rfl
  | cons x l ih =>
    obtain ⟨a, b⟩ := x
    by_cases hk : k = a
    · subst hk
      simp [h b]
    · have hne : (k == a) = false := by simpa using hk
      cases hkeep : keep (a, b) with
      | true => simp [hkeep, List.lookup_cons, hne, ih]
      | false => simp [hkeep, List.lookup_cons, hne, ih]

theorem Text.afterStart?_eq_some {α : Type} [DecidableEq α] {start as rest : List α} :
    afterStart? start as = some rest ↔ as = start ++ rest := by
  induction start generalizing as with
  | nil => simp [afterStart?, eq_comm]
  | cons a start ih =>
    cases as with
    | nil => simp [afterStart?]
    | cons b as =>
      unfold afterStart?
      by_cases h : a = b
      · subst h
        simp [ih]
      · simp [h, Ne.symm h]

/-- What members of two lists share, one by one, the lists share. -/
theorem map_eq_of_forall₂ {α β γ : Type} {R : α → β → Prop} {f : α → γ} {g : β → γ}
    (hf : ∀ a b, R a b → f a = g b) {as : List α} {bs : List β} (h : List.Forall₂ R as bs) :
    as.map f = bs.map g := by
  rw [← List.forall₂_eq_eq_eq, List.forall₂_map_left_iff, List.forall₂_map_right_iff]
  exact h.imp hf

/-- An element of a list with a last one is this last one, or it stands before it. -/
theorem concat_eq_append_cons {α : Type} {as before after : List α} {a b : α}
    (h : as ++ [b] = before ++ a :: after) : (as = before ∧ b = a ∧ after = []) ∨
      ∃ rest, after = rest ++ [b] ∧ as = before ++ a :: rest := by
  rcases List.eq_nil_or_concat after with rfl | ⟨rest, c, rfl⟩
  · obtain ⟨rfl, hb⟩ := List.append_inj' h rfl
    exact .inl ⟨rfl, List.singleton_inj.1 hb, rfl⟩
  · rw [List.concat_eq_append, ← List.cons_append, ← List.append_assoc] at h
    obtain ⟨rfl, hb⟩ := List.append_inj' h rfl
    rw [List.concat_eq_append, List.singleton_inj.1 hb]
    exact .inr ⟨rest, rfl, rfl⟩

/-- If of any two members at most one contributes, the order of the members does not matter. -/
theorem flatMap_eq_of_perm {α β : Type} {f : α → List β} {as bs : List α} (h : as.Perm bs)
    (hsingle : as.Pairwise fun a b => f a = [] ∨ f b = []) : as.flatMap f = bs.flatMap f := by
  induction h with
  | nil => rfl
  | cons a _ ih => rw [List.flatMap_cons, List.flatMap_cons, ih hsingle.of_cons]
  | swap a b cs =>
    have hab : f b = [] ∨ f a = [] := List.rel_of_pairwise_cons hsingle List.mem_cons_self
    simp only [List.flatMap_cons]
    rcases hab with hb | ha
    · rw [hb, List.nil_append, List.nil_append]
    · rw [ha, List.nil_append, List.nil_append]
  | trans hab _ ih ih' =>
    have hsymm : ∀ a b : α, f a = [] ∨ f b = [] → f b = [] ∨ f a = [] := fun _ _ => Or.symm
    exact (ih hsingle).trans (ih' ((hab.pairwise_iff (hsymm _ _)).1 hsingle))

end DisplayGen
