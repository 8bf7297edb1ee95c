import DisplayGen.Proofs.Resolution

/-!
# Resolution as questions

What a path or a name refers to is found by asking what other paths and names refer to. An `Inquiry` is
one level of this: which question is asked next, given the answers so far (`Scope.inquiry`).

* `Scope.answerWithin_succ`: resolution up to a depth is these inquiries, where a question that lies too
  deep is answered as if nothing were there.
* `Scope.answer?`: the same without that: no answer if questions nest deeper than allowed, so that an
  answer does not depend on how deep they may (`Scope.answer?_mono`).
* `Scope.resolve_of_answer?`: resolution gives the answer of the unlimited search whenever that needs no
  more levels than the limit has.
-/

namespace DisplayGen

open Source

/-- What resolution has to find out. -/
inductive Question where
  /-- What a path written in a module names. -/
  | path (module : List String) (written : WrittenPath)
  /-- What a name refers to in a module. -/
  | name (module : List String) (n : String)
  deriving DecidableEq, Repr

/-- A search for an answer: it is there, or another question has to be answered first. -/
inductive Inquiry where
  | answered (found : Option Symbol)
  | asking (q : Question) (next : Option Symbol → Inquiry)

namespace Inquiry

/-- What a search comes to if every question has an answer. -/
def outcome (answer : Question → Option Symbol) : Inquiry → Option Symbol
  | answered found => found
  | asking q next => outcome answer (next (answer q))

/-- What a search comes to, if the questions that it asks are answered at all. -/
def outcome? (answer? : Question → Option (Option Symbol)) : Inquiry → Option (Option Symbol)
  | answered found => some found
  | asking q next =>
    match answer? q with
    | some found => outcome? answer? (next found)
    | none => none

variable {i : Inquiry} {r : Option Symbol} {a b : Question → Option (Option Symbol)}

theorem outcome?_mono (hab : ∀ q r, a q = some r → b q = some r) (h : i.outcome? a = some r) :
    i.outcome? b = some r := by
  induction i with
  | answered found => exact h
  | asking q next ih =>
    unfold outcome? at h ⊢
    split at h
    · rename_i found hfound
      rw [hab q found hfound]
      exact ih found h
    · cases h

theorem outcome_of_outcome? {f : Question → Option Symbol} (haf : ∀ q r, a q = some r → f q = r)
    (h : i.outcome? a = some r) : i.outcome f = r := by
  induction i with
  | answered found => exact Option.some.inj h
  | asking q next ih =>
    unfold outcome? at h
    split at h
    · rename_i found hfound
      unfold outcome
      rw [haf q found hfound]
      exact ih found h
    · cases h

end Inquiry

namespace Scope

/-! ## Inquiries -/

/-- Following segments down from a symbol. -/
def walkInquiry (s : Scope) (start : Symbol) : List String → Inquiry
  | [] => .answered (some start)
  | n :: rest =>
    if start.crate = s.crateName then
      .asking (.name start.path n) fun
        | some next => walkInquiry s next rest
        | none => .answered (some (start.join (n :: rest)))
    else .answered (some (start.join (n :: rest)))

/-- Finding out what a path names. -/
def pathInquiry (s : Scope) (module : List String) : WrittenPath → Inquiry
  | ⟨_, []⟩ => .answered none
  | ⟨true, first :: rest⟩ => .answered (some ⟨first, rest⟩)
  | ⟨false, first :: rest⟩ =>
    if first = "crate" then s.walkInquiry (s.localSymbol []) rest
    else if first = "self" then
      if rest.head? = some "super" then .asking (.path module ⟨false, rest⟩) .answered
      else s.walkInquiry (s.localSymbol module) rest
    else if first = "super" then
      match ascend module (first :: rest) with
      | some (base, rest) => s.walkInquiry (s.localSymbol base) rest
      | none => .answered none
    else
      match importNamed first (s.importsOf module) with
      | some target =>
        .asking (.path module target) fun
          | some found => s.walkInquiry found rest
          | none => .answered none
      | none =>
        .asking (.name module first) fun
          | some found => s.walkInquiry found rest
          | none => .answered (if rest.isEmpty then none else some ⟨first, rest⟩)

/-- Finding out what the first glob provides under a name. -/
def globInquiry (s : Scope) (module : List String) (n : String) : List WrittenPath → Inquiry
  | [] => .answered none
  | base :: bases =>
    .asking (.path module base) fun
      | some found =>
        if found.crate = s.crateName then
          .asking (.name found.path n) fun
            | some provided => .answered (some provided)
            | none => globInquiry s module n bases
        else globInquiry s module n bases
      | none => globInquiry s module n bases

/-- Finding out what a name refers to. -/
def nameInquiry (s : Scope) (module : List String) (n : String) : Inquiry :=
  if s.items.contains (module ++ [n]) then .answered (some (s.localSymbol (module ++ [n])))
  else
    match importNamed n (s.importsOf module) with
    | some target => .asking (.path module target) .answered
    | none => s.globInquiry module n (globBases (s.importsOf module))

/-- How a question is answered. -/
def inquiry (s : Scope) : Question → Inquiry
  | .path module written => s.pathInquiry module written
  | .name module n => s.nameInquiry module n

/-! ## Inquiries and the limit -/

/-- What resolution answers up to a depth. -/
def answerWithin (s : Scope) (fuel : Nat) : Question → Option Symbol
  | .path module written => s.resolveWithin fuel module written
  | .name module n => s.lookupWithin fuel module n

variable {s : Scope} {module : List String} {n : String} {q : Question} {r : Option Symbol}

theorem outcome_walkInquiry (answer : Question → Option Symbol) (start : Symbol) (rest : List String) :
    (s.walkInquiry start rest).outcome answer =
      some (s.walk (fun module n => answer (.name module n)) start rest) := by
  induction rest generalizing start with
  | nil => rfl
  | cons n rest ih =>
    unfold walkInquiry walk
    split
    · unfold Inquiry.outcome
      split
      · rename_i next hnext
        rw [hnext]
        exact ih next
      · rename_i hnone
        rw [hnone]
        rfl
    · rfl

theorem outcome_globInquiry (answer : Question → Option Symbol) (module : List String) (n : String)
    (bases : List WrittenPath) : (s.globInquiry module n bases).outcome answer =
      bases.findSome? fun base =>
        match answer (.path module base) with
        | some found => if found.crate = s.crateName then answer (.name found.path n) else none
        | none => none := by
  induction bases with
  | nil => rfl
  | cons base bases ih =>
    unfold globInquiry Inquiry.outcome
    rw [List.findSome?_cons]
    cases hbase : answer (.path module base) with
    | none => exact ih
    | some found =>
      dsimp only
      by_cases hcrate : found.crate = s.crateName
      · rw [if_pos hcrate, if_pos hcrate, Inquiry.outcome]
        cases answer (.name found.path n) with
        | none => exact ih
        | some provided => rfl
      · rw [if_neg hcrate, if_neg hcrate]
        exact ih

theorem resolveWithin_succ (fuel : Nat) (module : List String) (written : WrittenPath) :
    s.resolveWithin (fuel + 1) module written =
      (s.pathInquiry module written).outcome (s.answerWithin fuel) := by
  have hwalk := outcome_walkInquiry (s := s) (s.answerWithin fuel)
  obtain ⟨leading, _ | ⟨first, rest⟩⟩ := written
  · cases leading <;> rfl
  cases leading with
  | true => rfl
  | false =>
    unfold pathInquiry resolveWithin
    dsimp only
    by_cases hcrate : first = "crate"
    · rw [if_pos hcrate, if_pos hcrate]
      exact (hwalk _ _).symm
    rw [if_neg hcrate, if_neg hcrate]
    by_cases hself : first = "self"
    · rw [if_pos hself, if_pos hself]
      by_cases hsuper : rest.head? = some "super"
      · rw [if_pos hsuper, if_pos hsuper]
        rfl
      · rw [if_neg hsuper, if_neg hsuper]
        exact (hwalk _ _).symm
    rw [if_neg hself, if_neg hself]
    by_cases hsuper : first = "super"
    · rw [if_pos hsuper, if_pos hsuper]
      cases ascend module (first :: rest) with
      | none => rfl
      | some above => exact (hwalk _ _).symm
    rw [if_neg hsuper, if_neg hsuper]
    cases importNamed first (s.importsOf module) with
    | some target =>
      dsimp only [Inquiry.outcome, answerWithin]
      cases s.resolveWithin fuel module target with
      | none => rfl
      | some found => exact (hwalk _ _).symm
    | none =>
      dsimp only [Inquiry.outcome, answerWithin]
      cases s.lookupWithin fuel module first with
      | none => rfl
      | some found => exact (hwalk _ _).symm

theorem lookupWithin_succ (fuel : Nat) (module : List String) (n : String) :
    s.lookupWithin (fuel + 1) module n =
      (s.nameInquiry module n).outcome (s.answerWithin fuel) := by
  unfold nameInquiry lookupWithin
  by_cases hitem : s.items.contains (module ++ [n]) = true
  · rw [if_pos hitem, if_pos hitem]
    rfl
  rw [if_neg hitem, if_neg hitem]
  cases importNamed n (s.importsOf module) with
  | some target => rfl
  | none => exact (outcome_globInquiry (s.answerWithin fuel) module n _).symm

/-- One more level of resolution is one inquiry, with the answers that the levels below give. -/
theorem answerWithin_succ (s : Scope) (fuel : Nat) (q : Question) :
    s.answerWithin (fuel + 1) q = (s.inquiry q).outcome (s.answerWithin fuel) := by
  cases q with
  | path module written => exact resolveWithin_succ fuel module written
  | name module n => exact lookupWithin_succ fuel module n

/-! ## Answers that do not depend on a limit -/

/-- The answer to a question, unless questions nest deeper than the given number of levels. -/
def answer? (s : Scope) : (levels : Nat) → Question → Option (Option Symbol)
  | 0, _ => none
  | levels + 1, q => (s.inquiry q).outcome? (answer? s levels)

/-- What the question is answered with when there is no limit. -/
def Answers (s : Scope) (q : Question) (r : Option Symbol) : Prop := ∃ levels, s.answer? levels q = some r

theorem answer?_succ_of {levels : Nat} (h : s.answer? levels q = some r) :
    s.answer? (levels + 1) q = some r := by
  induction levels generalizing q r with
  | zero => cases h
  | succ levels ih => exact Inquiry.outcome?_mono (fun _ _ => ih) h

theorem answer?_mono {levels levels' : Nat} (hle : levels ≤ levels') (h : s.answer? levels q = some r) :
    s.answer? levels' q = some r := by
  induction hle with
  | refl => exact h
  | step _ ih => exact answer?_succ_of ih

/-- There is one answer at most. -/
theorem Answers.unique {r' : Option Symbol} (h : s.Answers q r) (h' : s.Answers q r') : r = r' := by
  obtain ⟨n, hn⟩ := h
  obtain ⟨n', hn'⟩ := h'
  have hn := answer?_mono (Nat.le_max_left n n') hn
  have hn' := answer?_mono (Nat.le_max_right n n') hn'
  exact Option.some.inj (hn.symm.trans hn')

theorem answerWithin_of_answer? {levels : Nat} (h : s.answer? levels q = some r) :
    s.answerWithin levels q = r := by
  induction levels generalizing q r with
  | zero => cases h
  | succ levels ih =>
    rw [answerWithin_succ]
    exact Inquiry.outcome_of_outcome? (fun _ _ => ih) h

/-- Resolution gives the answer that needs no limit, if it takes no more levels than the limit has. -/
theorem resolve_of_answer? {written : WrittenPath}
    (h : s.answer? (resolutionLimit + 1) (.path module written) = some r) : s.resolve module written = r :=
  answerWithin_of_answer? h

end Scope

end DisplayGen
