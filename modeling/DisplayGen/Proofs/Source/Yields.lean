import DisplayGen.Source.Grammar.Rules

/-!
# What readers yield

`p.Yields Q`: whenever the reader `p` accepts, its result satisfies `Q`. Nothing is said about
which trees it takes, or whether it accepts at all.

* `Yields.bind` follows a sequence of readers, `Yields.skip` one whose first result does not matter,
  and `Yields.branch` a choice by a reader's answer. A proof about a reader names its branches in
  the order in which the reader has them.
* `Yields.inside`, `Yields.repeatedly`, `Yields.separated` and `Yields.linked` are the rules for
  groups and repetitions: what holds of every round holds of every member of the list.
-/

namespace DisplayGen.Source.Reader

/-- Whenever the reader accepts, its result satisfies `Q`. -/
def Yields {α : Type} (p : Reader α) (Q : α → Prop) : Prop :=
  ∀ ts a rest, p ts = some (a, rest) → Q a

namespace Yields

variable {α β : Type} {p q : Reader α} {f : α → Reader β} {P P' : α → Prop} {Q : β → Prop}

theorem any (p : Reader α) : p.Yields fun _ => True := fun _ _ _ _ => trivial

theorem mono (h : p.Yields P) (hPP' : ∀ a, P a → P' a) : p.Yields P' :=
  fun ts a rest ha => hPP' a (h ts a rest ha)

/-! ## Sequences and choices -/

theorem pure {a : α} (h : P a) : Yields (Pure.pure a : Reader α) P := by
  intro ts b rest hb
  cases hb
  exact h

theorem reject : (Reader.reject : Reader α).Yields P := by
  intro ts a rest h
  cases h

theorem bind (hp : p.Yields P) (hf : ∀ a, P a → (f a).Yields Q) : Yields (p >>= f) Q := by
  intro ts b rest h
  obtain ⟨⟨a, rest'⟩, hp', hf'⟩ := Option.bind_eq_some_iff.1 h
  exact hf a (hp ts a rest' hp') rest' b rest hf'

theorem bindPure {a : α} (hf : (f a).Yields Q) : Yields (Pure.pure a >>= f) Q := hf

/-- A sequence of which the first result does not matter. -/
theorem skip (hf : ∀ a, (f a).Yields Q) : Yields (p >>= f) Q :=
  bind (any p) fun a _ => hf a

theorem ite {c : Prop} [Decidable c] (hp : p.Yields P) (hq : q.Yields P) :
    Yields (if c then p else q) P := by
  split
  · exact hp
  · exact hq

/-- A choice by the answer of a reader. -/
theorem branch {c : Reader Bool} (hp : p.Yields P) (hq : q.Yields P) :
    Yields (c >>= fun b => if b = true then p else q) P :=
  skip fun _ => ite hp hq

/-- A reader whose fuel is counted off from what is pending. -/
theorem fueled {f : Nat → Reader α} (hf : ∀ fuel, (f fuel).Yields P) :
    Yields (fun ts => f (ts.length + 1) ts) P :=
  fun ts a rest h => hf (ts.length + 1) ts a rest h

/-! ## Groups -/

theorem inside {d : Delimiter} (hp : p.Yields P) : (Reader.inside d p).Yields P := by
  intro ts a rest h
  unfold Reader.inside at h
  split at h
  · split at h
    · split at h
      · rename_i hcontent
        cases h
        exact hp _ _ _ hcontent
      · cases h
    · cases h
  · cases h

/-! ## Repetitions -/

theorem repeatedly {go : List TokenTree → Bool} (hp : p.Yields P) :
    (Reader.repeatedly go p).Yields fun as => ∀ a ∈ as, P a := by
  have hfrom : ∀ fuel, (repeatedlyFrom go p fuel).Yields fun as => ∀ a ∈ as, P a := by
    intro fuel
    induction fuel with
    | zero => exact reject
    | succ fuel ih =>
      refine branch (bind hp fun a ha => bind ih fun as has => pure ?_) (pure (by simp))
      exact List.forall_mem_cons.2 ⟨ha, has⟩
  exact fueled hfrom

theorem separated {stop : List TokenTree → Bool} {sep : String} (hp : p.Yields P) :
    (Reader.separated stop p sep).Yields fun as => ∀ a ∈ as, P a := by
  have hfrom : ∀ fuel, (separatedFrom stop p sep fuel).Yields fun as => ∀ a ∈ as, P a := by
    intro fuel
    induction fuel with
    | zero => exact reject
    | succ fuel ih =>
      refine branch (pure (by simp)) (bind hp fun a ha => branch (pure (by simpa using ha)) ?_)
      refine skip fun _ => bind ih fun as has => pure ?_
      exact List.forall_mem_cons.2 ⟨ha, has⟩
  exact fueled hfrom

theorem commas (hp : p.Yields P) : (Reader.commas p).Yields fun as => ∀ a ∈ as, P a :=
  separated hp

theorem linked {stop : List TokenTree → Bool} {link : String} (hp : p.Yields P) :
    (Reader.linked stop p link).Yields fun as => ∀ a ∈ as, P a := by
  have hfrom : ∀ fuel, (linkedFrom stop p link fuel).Yields fun as => ∀ a ∈ as, P a := by
    intro fuel
    induction fuel with
    | zero => exact reject
    | succ fuel ih =>
      refine branch (pure (by simp)) (bind hp fun a ha => branch ?_ (pure (by simpa using ha)))
      exact bind ih fun as has => pure (List.forall_mem_cons.2 ⟨ha, has⟩)
  exact fueled hfrom

/-! ## Whole sequences -/

theorem whole? {ts : List TokenTree} {a : α} (hp : p.Yields P)
    (h : Reader.whole? p ts = some a) : P a := by
  unfold Reader.whole? at h
  split at h
  · rename_i hread
    cases h
    exact hp _ _ _ hread
  · cases h

end Yields

end DisplayGen.Source.Reader
