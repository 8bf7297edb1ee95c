import DisplayGen.Proofs.Emission
import DisplayGen.Proofs.Emission.Writable

/-!
# Emitters that share a tally

An emitter has an extension of its own and counts in a tally that it shares with others; the tally can also
be counted in and looked at directly. `Call` is what can be asked, and `history` what is answered to calls
one after the other, whoever makes them.

* `Call.run_does`: what one call answers and counts. An emission that fails counts nothing; the text of one
  that succeeds tells the new count in its first line, and is the same for all emitters behind it.
* `Call.history_counts`: after any calls, the count of a key is the number of those that counted it.
-/

namespace DisplayGen

/-- The first line of a text. -/
def firstLine (text : String) : String := String.ofList (text.toList.takeWhile (· ≠ '\n'))

theorem firstLine_append {line rest : String} (h : '\n' ∉ line.toList) :
    firstLine (line ++ "\n" ++ rest) = line := by
  rw [firstLine, (cut_append h).1, String.ofList_toList]

theorem firstLine_artifactText (n : Nat) (code : DisplayCode) :
    firstLine (artifactText n code) = countLine n := by
  rw [artifactText_eq, firstLine_append (newline_not_mem_countLine n)]

/-- What is emitted for a summary behind the first line, if its names can be written. -/
def Summary.body (s : Summary) : String :=
  match DisplayCode.ofSummary s with
  | .ok code => generatedHeader ++ "\n" ++ code.render
  | .error _ => ""

/-! ## Calls -/

/-- What can be asked of emitters and of the tally that they share. -/
inductive Call where
  /-- The emitter with an extension emits a summary. -/
  | emit (extension : String) (s : Summary)
  /-- A key is counted directly. -/
  | increment (key : String)
  /-- The count of a key is looked at. -/
  | get (key : String)

/-- What a call answers. -/
inductive Answer where
  | emitted (result : Except GenerationError Artifact)
  | count (n : Nat)

/-- A call with its answer. -/
structure Exchange where
  call : Call
  answer : Answer

namespace Call

/-- The answer of a call, and the tally after it. -/
def run (t : Tally) : Call → Answer × Tally
  | emit extension s =>
    match DisplayGen.emit extension t s with
    | .ok (a, t') => (.emitted (.ok a), t')
    | .error e => (.emitted (.error e), t)
  | increment key => (.count ((t.increment key).get key), t.increment key)
  | get key => (.count (t.get key), t)

/-- Calls with their answers, one after the other. -/
def historyFrom (t : Tally) : List Call → List Exchange
  | [] => []
  | c :: cs => ⟨c, (c.run t).1⟩ :: historyFrom (c.run t).2 cs

/-- The tally after calls. -/
def tallyFrom (t : Tally) (cs : List Call) : Tally := cs.foldl (fun t c => (c.run t).2) t

/-- The calls on a new tally, with their answers. -/
def history (cs : List Call) : List Exchange := historyFrom .empty cs

/-- The tally after calls on a new one. -/
def tallyAfter (cs : List Call) : Tally := tallyFrom .empty cs

end Call

/-- The call has counted a key: directly, or as the key of a summary that it emitted. -/
def Exchange.counted (key : String) : Exchange → Bool
  | ⟨.emit _ s, .emitted (.ok _)⟩ => s.key == key
  | ⟨.increment k, _⟩ => k == key
  | _ => false

namespace Call

/-- What a call answers on a tally, and what the counts are after it. -/
def Does (t : Tally) : Call → Answer → Tally → Prop
  | emit extension s, answer, t' =>
    (∃ a : Artifact, answer = .emitted (.ok a) ∧
      (∀ n ∈ s.typeName :: s.memberNames, ∃ i, identFor n = .ok i) ∧
      (∀ key, t'.get key = t.get key + if s.key = key then 1 else 0) ∧
      a.name = s.artifactName extension ∧ a.module = s.modulePath ∧
      firstLine a.text = countLine (t'.get s.key) ∧ behindFirstLine a.text = s.body) ∨
    (∃ n ∈ s.typeName :: s.memberNames, ∃ bare, identFor n = .error (.invalidIdentifier bare) ∧
      answer = .emitted (.error (.invalidIdentifier bare)) ∧ ∀ key, t'.get key = t.get key)
  | increment k, answer, t' =>
    answer = .count (t'.get k) ∧ ∀ key, t'.get key = t.get key + if k = key then 1 else 0
  | get k, answer, t' => answer = .count (t'.get k) ∧ ∀ key, t'.get key = t.get key

theorem run_does (t : Tally) (c : Call) : c.Does t (c.run t).1 (c.run t).2 := by
  cases c with
  | increment k => exact ⟨rfl, t.get_increment k⟩
  | get k => exact ⟨rfl, fun key => rfl⟩
  | emit extension s =>
    unfold run Does
    dsimp only
    rw [emit_eq]
    cases hcode : DisplayCode.ofSummary s with
    | ok code =>
      have hcount : (t.increment s.key).get s.key = t.get s.key + 1 := by
        rw [Tally.get_increment, if_pos rfl]
      have hbody : s.body = generatedHeader ++ "\n" ++ code.render := by
        unfold Summary.body
        rw [hcode]
      refine .inl ⟨_, rfl, DisplayCode.names_ofSummary hcode, t.get_increment s.key, rfl, rfl, ?_, ?_⟩
      · show firstLine (artifactText (t.get s.key + 1) code) = countLine ((t.increment s.key).get s.key)
        rw [firstLine_artifactText, hcount]
      · rw [hbody]
        exact behindFirstLine_artifactText _ code
    | error e =>
      obtain ⟨n, hn, hname⟩ := DisplayCode.name_of_ofSummary_error hcode
      obtain ⟨bare, rfl⟩ := identFor_error hname
      exact .inr ⟨n, hn, bare, hname, rfl, fun key => rfl⟩

/-- One call changes the count of a key by one if it counts it, and leaves it otherwise. -/
theorem get_run (t : Tally) (c : Call) (key : String) : ((c.run t).2).get key =
    t.get key + if Exchange.counted key ⟨c, (c.run t).1⟩ = true then 1 else 0 := by
  have hdoes := c.run_does t
  cases c with
  | increment k => simpa [Exchange.counted] using hdoes.2 key
  | get k => simpa [Exchange.counted] using hdoes.2 key
  | emit extension s =>
    rcases hdoes with ⟨a, hanswer, -, hcounts, -⟩ | ⟨n, -, bare, -, hanswer, hcounts⟩
    · rw [hcounts, hanswer]
      simp [Exchange.counted]
    · rw [hcounts, hanswer]
      simp [Exchange.counted]

theorem get_tallyFrom (t : Tally) (cs : List Call) (key : String) :
    (tallyFrom t cs).get key = t.get key + (historyFrom t cs).countP (Exchange.counted key) := by
  unfold tallyFrom
  induction cs generalizing t with
  | nil => rfl
  | cons c cs ih =>
    rw [List.foldl_cons, ih, get_run, historyFrom, List.countP_cons]
    omega

theorem historyFrom_append (t : Tally) (cs ds : List Call) :
    historyFrom t (cs ++ ds) = historyFrom t cs ++ historyFrom (tallyFrom t cs) ds := by
  induction cs generalizing t with
  | nil => rfl
  | cons c cs ih =>
    rw [List.cons_append, historyFrom, historyFrom, ih]
    rfl

theorem length_historyFrom (t : Tally) (cs : List Call) : (historyFrom t cs).length = cs.length := by
  induction cs generalizing t with
  | nil => rfl
  | cons c cs ih => rw [historyFrom, List.length_cons, List.length_cons, ih]

/-- However the calls of emitters and direct calls come one after the other, the count of a key is the number
of calls that have counted it, and each of the calls does on the tally that it finds what it would do alone.
-/
theorem history_counts : (∀ (cs : List Call) (key : String),
      (tallyAfter cs).get key = (history cs).countP (Exchange.counted key)) ∧
    ∀ (before : List Call) (c : Call) (after : List Call), ∃ answer,
      (history (before ++ c :: after))[before.length]? = some ⟨c, answer⟩ ∧
        c.Does (tallyAfter before) answer (tallyAfter (before ++ [c])) := by
  refine ⟨fun cs key => ?_, fun before c after => ?_⟩
  · have hcounts := get_tallyFrom .empty cs key
    rwa [show Tally.empty.get key = 0 from rfl, Nat.zero_add] at hcounts
  · refine ⟨(c.run (tallyAfter before)).1, ?_, ?_⟩
    · unfold history
      rw [historyFrom_append, List.getElem?_append_right (length_historyFrom _ _).le,
        length_historyFrom, Nat.sub_self]
      rfl
    · have hafter : tallyAfter (before ++ [c]) = (c.run (tallyAfter before)).2 := by
        unfold tallyAfter tallyFrom
        rw [List.foldl_append, List.foldl_cons, List.foldl_nil]
      rw [hafter]
      exact c.run_does _

end Call

end DisplayGen
