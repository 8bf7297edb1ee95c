import DisplayGen.Proofs.Disk

/-!
# Names and places

Paths are compared piece by piece, the pieces being the texts between slashes. A path in a directory has
the pieces of the directory, whatever they are, and then those of the name (`splitSlashes_joinPaths`).

* `Disk.landing`: the place that parts of a path lead to. Where a path leads does not depend on what is
  there, only whether it leads anywhere does (`follow_landing`).
* `Disk.locate_last`: a path leads to a place whose last name is its last piece.
* `Disk.first_eq_of_locate`: two names in one directory lead to one place only if their first pieces are
  the same, as long as no later piece leads up again.
-/

namespace DisplayGen

/-- The name is that of a file in the directory where it is used. -/
def IsPlainName (name : String) : Prop :=
  '/' ∉ name.toList ∧ name.toList ∉ [[], ['.'], ['.', '.']]

instance (name : String) : Decidable (IsPlainName name) := inferInstanceAs (Decidable (_ ∧ _))

/-! ## Pieces of a path -/

theorem splitSlashes_ne_nil (cs : List Char) : splitSlashes cs ≠ [] := by
  cases cs with
  | nil => simp [splitSlashes]
  | cons c cs =>
    unfold splitSlashes
    split
    · simp
    · simp
    · unfold Text.consFirst
      split <;> simp

theorem splitSlashes_cons {c : Char} (h : c ≠ '/') (cs : List Char) :
    splitSlashes (c :: cs) = Text.consFirst c (splitSlashes cs) := by
  rw [splitSlashes]
  exact h

theorem consFirst_append {c : Char} {ps : List (List Char)} (h : ps ≠ []) (qs : List (List Char)) :
    Text.consFirst c (ps ++ qs) = Text.consFirst c ps ++ qs := by
  cases ps with
  | nil => exact absurd rfl h
  | cons p ps => rfl

theorem splitSlashes_append (a b : List Char) :
    splitSlashes (a ++ '/' :: b) = splitSlashes a ++ splitSlashes b := by
  induction a with
  | nil => rfl
  | cons c a ih =>
    by_cases hc : c = '/'
    · subst hc
      rw [List.cons_append, splitSlashes, splitSlashes, ih]
      rfl
    · rw [List.cons_append, splitSlashes_cons hc, splitSlashes_cons hc, ih,
        consFirst_append (splitSlashes_ne_nil a)]

theorem splitSlashes_plain {cs : List Char} (h : '/' ∉ cs) : splitSlashes cs = [cs] := by
  induction cs with
  | nil => rfl
  | cons c cs ih =>
    rw [List.mem_cons, not_or] at h
    rw [splitSlashes_cons (Ne.symm h.1), ih h.2]
    rfl

/-- The pieces have the characters of the text but the slashes. -/
theorem mem_splitSlashes {cs piece : List Char} (h : piece ∈ splitSlashes cs) {c : Char}
    (hc : c ∈ piece) : c ∈ cs ∧ c ≠ '/' := by
  induction cs generalizing piece with
  | nil =>
    rw [List.mem_singleton.1 h] at hc
    cases hc
  | cons d cs ih =>
    have hrest : ∀ piece ∈ splitSlashes cs, c ∈ piece → c ∈ d :: cs ∧ c ≠ '/' :=
      fun piece hpiece hc => (ih hpiece hc).imp_left (List.mem_cons_of_mem d)
    by_cases hd : d = '/'
    · subst hd
      rw [splitSlashes] at h
      rcases List.mem_cons.1 h with rfl | h
      · cases hc
      · exact hrest piece h hc
    · rw [splitSlashes_cons hd] at h
      obtain ⟨p, ps, hsplit⟩ := List.exists_cons_of_ne_nil (splitSlashes_ne_nil cs)
      rw [hsplit] at h hrest
      rcases List.mem_cons.1 h with rfl | h
      · rcases List.mem_cons.1 hc with rfl | hc
        · exact ⟨List.mem_cons_self .., hd⟩
        · exact hrest p (List.mem_cons_self ..) hc
      · exact hrest piece (List.mem_cons_of_mem p h) hc

/-- What stands behind the last slash is the last piece. -/
theorem getLast?_splitSlashes (a : List Char) {piece : List Char} (h : '/' ∉ piece) :
    (splitSlashes (a ++ '/' :: piece)).getLast? = some piece := by
  rw [splitSlashes_append, splitSlashes_plain h]
  exact List.getLast?_concat

/-- A text without slashes goes on the first piece of what follows it. -/
theorem splitSlashes_plain_append {a b : List Char} (h : '/' ∉ a) {first : List Char}
    {rest : List (List Char)} (hb : splitSlashes b = first :: rest) :
    splitSlashes (a ++ b) = (a ++ first) :: rest := by
  induction a with
  | nil => exact hb
  | cons c a ih =>
    rw [List.mem_cons, not_or] at h
    rw [List.cons_append, splitSlashes_cons (Ne.symm h.1), ih h.2]
    rfl

/-- A text has no slashes, or a last one. -/
theorem exists_last_slash (cs : List Char) :
    '/' ∉ cs ∨ ∃ a piece, cs = a ++ '/' :: piece ∧ '/' ∉ piece := by
  induction cs with
  | nil => exact .inl List.not_mem_nil
  | cons c cs ih =>
    rcases ih with hplain | ⟨a, piece, rfl, hpiece⟩
    · by_cases hc : c = '/'
      · exact .inr ⟨[], cs, by rw [hc]; rfl, hplain⟩
      · rw [List.mem_cons, not_or]
        exact .inl ⟨Ne.symm hc, hplain⟩
    · exact .inr ⟨c :: a, piece, rfl, hpiece⟩

theorem toList_joinPaths (dir name : String) :
    ∃ before, (joinPaths dir name).toList = before ++ name.toList := by
  unfold joinPaths
  split
  · exact ⟨[], rfl⟩
  · split
    · exact ⟨dir.toList, String.toList_append⟩
    · exact ⟨(dir ++ "/").toList, String.toList_append⟩

/-- The pieces of a path in a directory: those of the directory, but for an empty one at the end, then
those of the name. -/
theorem splitSlashes_joinPaths (dir : String) : ∃ before : List (List Char),
    (splitSlashes dir.toList = before ∨ splitSlashes dir.toList = before ++ [[]]) ∧
      ∀ name : String, name.toList.head? ≠ some '/' →
        splitSlashes (joinPaths dir name).toList = before ++ splitSlashes name.toList := by
  have hrelative : ∀ name : String, name.toList.head? ≠ some '/' → name.startsWith "/" = false := by
    intro name hname
    by_contra hslash
    rw [Bool.not_eq_false, ← String.startsWith_toSlice, String.Slice.startsWith_string_iff,
      String.copy_toSlice] at hslash
    obtain ⟨a, ha⟩ := hslash
    rw [← ha] at hname
    exact hname rfl
  unfold joinPaths
  by_cases hempty : dir.isEmpty = true
  · refine ⟨[], .inr ?_, fun name hname => ?_⟩
    · rw [String.isEmpty_iff.1 hempty]
      rfl
    · rw [hrelative name hname, hempty]
      rfl
  by_cases hslash : dir.endsWith "/" = true
  · have hend := hslash
    rw [← String.endsWith_toSlice, String.Slice.endsWith_string_iff, String.copy_toSlice] at hend
    obtain ⟨a, ha⟩ := hend
    refine ⟨splitSlashes a, .inr ?_, fun name hname => ?_⟩
    · rw [← ha]
      exact splitSlashes_append a []
    · rw [hrelative name hname, if_neg (by simpa using hempty), if_pos hslash,
        String.toList_append, ← ha, List.append_assoc]
      exact splitSlashes_append a name.toList
  · refine ⟨splitSlashes dir.toList, .inl rfl, fun name hname => ?_⟩
    rw [hrelative name hname, if_neg (by simpa using hempty), if_neg hslash, String.toList_append,
      String.toList_append, List.append_assoc]
    exact splitSlashes_append dir.toList name.toList

/-! ## Parts of a path -/

/-- What a piece behind the root stands for. -/
def innerPart? (piece : List Char) : Option PathPart :=
  match piece with
  | ['.'] => some .current
  | cs => laterPart? cs

theorem innerPart?_plain {piece : List Char} (h : piece ∉ [[], ['.'], ['.', '.']]) :
    innerPart? piece = some (.name (String.ofList piece)) := by
  unfold innerPart? laterPart?
  split
  · simp at h
  · split
    · simp at h
    · simp at h
    · simp at h
    · rfl

theorem innerPart?_ne_root (piece : List Char) : innerPart? piece ≠ some .root := by
  unfold innerPart? laterPart?
  split
  · exact fun h => nomatch h
  · split
    all_goals exact fun h => nomatch h

/-- The parts of a path below a root: none if it is the root, else what its pieces behind those of the
root stand for. -/
theorem below?_eq_some {root path : String} {parts : List PathPart} (h : below? root path = some parts) :
    path.toList = root.toList ∧ parts = [] ∨ ∃ r, path.toList = root.toList ++ '/' :: r ∧
      parts = (splitSlashes r).filterMap innerPart? ++
        if r.getLast? = some '/' then [.current] else [] := by
  unfold below? at h
  split at h
  · cases h
  · rename_i hafter
    cases h
    rw [Text.afterStart?_eq_some, List.append_nil] at hafter
    exact .inl ⟨hafter, rfl⟩
  · rename_i r hafter
    cases h
    exact .inr ⟨r, Text.afterStart?_eq_some.1 hafter, rfl⟩
  · cases h

namespace Disk

variable {d : Disk} {p q : List String} {path : String}

/-- The place that parts of a path lead to from another one. -/
def landing (place : List String) : List PathPart → List String
  | [] => place
  | .root :: r => landing [] r
  | .current :: r => landing place r
  | .parent :: r => landing place.dropLast r
  | .name n :: r => landing (place ++ [n]) r

theorem landing_append (parts parts' : List PathPart) :
    landing p (parts ++ parts') = landing (landing p parts) parts' := by
  induction parts generalizing p with
  | nil => rfl
  | cons part parts ih =>
    cases part with
    | root | current | parent | name n => exact ih

theorem follow_append (parts parts' : List PathPart) : d.follow p (parts ++ parts') =
    (d.follow p parts).bind fun q => d.follow q parts' := by
  induction parts generalizing p with
  | nil => rfl
  | cons part parts ih =>
    rw [List.cons_append]
    cases part with
    | root => exact ih
    | current | name n =>
      simp only [follow]
      cases d.checkDirectory p with
      | ok u => exact ih
      | error e => rfl
    | parent =>
      simp only [follow]
      cases d.checkDirectory p with
      | ok u =>
        dsimp only
        split
        · rfl
        · exact ih
      | error e => rfl

theorem follow_landing {parts : List PathPart} (h : d.follow p parts = .ok q) :
    q = landing p parts := by
  induction parts generalizing p with
  | nil =>
    cases h
    rfl
  | cons part parts ih =>
    cases part with
    | root => exact ih h
    | current | name n =>
      unfold follow at h
      split at h
      · exact ih h
      · cases h
    | parent =>
      unfold follow at h
      split at h
      · split at h
        · cases h
        · exact ih h
      · cases h

/-- Where a path leads: to the root, or where its pieces behind those of the root lead. -/
theorem locate_pieces (h : d.locate path = .ok q) :
    splitSlashes path.toList = splitSlashes d.root.toList ∧ q = [] ∨ ∃ pieces, pieces ≠ [] ∧
      splitSlashes path.toList = splitSlashes d.root.toList ++ pieces ∧
        q = landing [] (pieces.filterMap innerPart?) := by
  unfold locate at h
  split at h
  · rename_i parts hbelow
    have hq := follow_landing h
    rcases below?_eq_some hbelow with ⟨heq, rfl⟩ | ⟨r, heq, rfl⟩
    · exact .inl ⟨by rw [heq], hq⟩
    · refine .inr ⟨splitSlashes r, splitSlashes_ne_nil r, by rw [heq, splitSlashes_append], ?_⟩
      rw [hq, landing_append]
      split <;> rfl
  · cases h

/-- Parts that end in one that stays where it is lead to a directory. -/
theorem node?_of_follow_current {parts : List PathPart} (h : d.follow p (parts ++ [.current]) = .ok q) :
    d.node? q = some .directory := by
  induction parts generalizing p with
  | nil =>
    rw [List.nil_append] at h
    unfold follow at h
    split at h
    · rename_i hcheck
      cases h
      exact checkDirectory_ok.1 hcheck
    · cases h
  | cons part parts ih =>
    rw [List.cons_append] at h
    cases part with
    | root => exact ih h
    | current | name n =>
      unfold follow at h
      split at h
      · exact ih h
      · cases h
    | parent =>
      unfold follow at h
      split at h
      · split at h
        · cases h
        · exact ih h
      · cases h

/-- A path that ends in a slash leads to a directory. -/
theorem node?_of_last_slash (h : d.locate path = .ok q) {a : List Char}
    (hpath : path.toList = a ++ ['/']) : d.node? q = some .directory := by
  unfold locate at h
  split at h
  · rename_i parts hbelow
    rcases below?_eq_some hbelow with ⟨-, rfl⟩ | ⟨r, heq, rfl⟩
    · cases h
      rfl
    · rcases List.eq_nil_or_concat r with rfl | ⟨r, c, rfl⟩
      · cases h
        rfl
      · rw [hpath, List.concat_eq_append, ← List.cons_append, ← List.append_assoc] at heq
        obtain ⟨-, hc⟩ := List.append_inj' heq rfl
        rw [List.concat_eq_append, ← List.singleton_inj.1 hc, List.getLast?_concat, if_pos rfl] at h
        exact node?_of_follow_current h
  · cases h

/-- The last name of a place is the last piece of the path that leads there. -/
theorem locate_last {piece : List Char} (h : d.locate path = .ok q) (hq : q ≠ [])
    (hlast : (splitSlashes path.toList).getLast? = some piece)
    (hpiece : piece ∉ [[], ['.'], ['.', '.']]) : q.getLast? = some (String.ofList piece) := by
  rcases locate_pieces h with ⟨-, rfl⟩ | ⟨pieces, hne, heq, rfl⟩
  · exact absurd rfl hq
  · rw [heq, List.getLast?_append_of_ne_nil _ hne] at hlast
    obtain ⟨before, rfl⟩ := List.getLast?_eq_some_iff.1 hlast
    rw [List.filterMap_append, List.filterMap_cons_some (innerPart?_plain hpiece), landing_append]
    exact List.getLast?_concat

/-- A plain name leads to a place that ends in it, unless it leads to the root. -/
theorem locate_joinPaths {dir name : String} (hname : IsPlainName name)
    (h : d.locate (joinPaths dir name) = .ok q) (hq : q ≠ []) : q.getLast? = some name := by
  obtain ⟨before, -, hpieces⟩ := splitSlashes_joinPaths dir
  have hrelative : name.toList.head? ≠ some '/' := fun h => hname.1 (List.mem_of_head? h)
  have hlast : (splitSlashes (joinPaths dir name).toList).getLast? = some name.toList := by
    rw [hpieces name hrelative, splitSlashes_plain hname.1]
    exact List.getLast?_concat
  rw [locate_last h hq hlast hname.2, String.ofList_toList]

/-- Pieces none of which leads up only make a place longer. -/
theorem landing_prefix {pieces : List (List Char)} (h : ['.', '.'] ∉ pieces) (p : List String) :
    p <+: landing p (pieces.filterMap innerPart?) := by
  induction pieces generalizing p with
  | nil => exact List.prefix_rfl
  | cons piece pieces ih =>
    rw [List.mem_cons, not_or] at h
    by_cases hempty : piece = []
    · subst hempty
      exact ih h.2 p
    by_cases hpoint : piece = ['.']
    · subst hpoint
      exact ih h.2 p
    · have hplain : piece ∉ [[], ['.'], ['.', '.']] := by
        simp [hempty, hpoint, Ne.symm h.1]
      rw [List.filterMap_cons_some (innerPart?_plain hplain)]
      exact (List.prefix_append p _).trans (ih h.2 _)

theorem root_prefix_of_locate (h : d.locate path = .ok q) :
    splitSlashes d.root.toList <+: splitSlashes path.toList := by
  rcases locate_pieces h with ⟨heq, -⟩ | ⟨pieces, -, heq, -⟩
  · exact heq ▸ List.prefix_rfl
  · exact ⟨pieces, heq.symm⟩

/-- Where a path leads that goes on with a plain piece after some that reach below the root: to a place
below the one where these lead, and then the name of the piece. -/
theorem locate_below {before rest : List (List Char)} {first : List Char} (h : d.locate path = .ok q)
    (hpath : splitSlashes path.toList = before ++ first :: rest)
    (hfirst : first ∉ [[], ['.'], ['.', '.']]) (hrest : ['.', '.'] ∉ rest)
    (hlength : (splitSlashes d.root.toList).length ≤ before.length) : ∃ inner,
      before = splitSlashes d.root.toList ++ inner ∧
        landing [] (inner.filterMap innerPart?) ++ [String.ofList first] <+: q := by
  rcases locate_pieces h with ⟨heq, -⟩ | ⟨pieces, -, heq, rfl⟩
  · rw [hpath] at heq
    have hlengths := congrArg List.length heq
    rw [List.length_append, List.length_cons] at hlengths
    omega
  · rw [hpath] at heq
    obtain ⟨inner, hinner⟩ := List.prefix_of_prefix_length_le ⟨_, heq.symm⟩
      (List.prefix_append before (first :: rest)) hlength
    rw [← hinner, List.append_assoc, List.append_cancel_left_eq] at heq
    refine ⟨inner, hinner.symm, ?_⟩
    rw [← heq, List.filterMap_append, List.filterMap_cons_some (innerPart?_plain hfirst),
      landing_append]
    exact landing_prefix hrest _

/-- Two names in one directory that lead to one place have the same first piece, if it is plain and no
later one leads up. -/
theorem first_eq_of_locate {dir name name' : String} {first first' : List Char}
    {rest rest' : List (List Char)} (hname : splitSlashes name.toList = first :: rest)
    (hname' : splitSlashes name'.toList = first' :: rest')
    (hfirst : first ∉ [[], ['.'], ['.', '.']]) (hfirst' : first' ∉ [[], ['.'], ['.', '.']])
    (hrest : ['.', '.'] ∉ rest) (hrest' : ['.', '.'] ∉ rest')
    (h : d.locate (joinPaths dir name) = .ok q) (h' : d.locate (joinPaths dir name') = .ok q) :
    first = first' := by
  obtain ⟨before, -, hpieces⟩ := splitSlashes_joinPaths dir
  have hpath : ∀ {n : String} {f : List Char} {r : List (List Char)},
      splitSlashes n.toList = f :: r → f ∉ [[], ['.'], ['.', '.']] →
      splitSlashes (joinPaths dir n).toList = before ++ f :: r := by
    intro n f r hn hf
    rw [← hn]
    refine hpieces n fun hslash => ?_
    obtain ⟨a, ha⟩ := List.head?_eq_some_iff.1 hslash
    rw [ha, splitSlashes] at hn
    obtain ⟨rfl, -⟩ := List.cons.inj hn
    simp at hf
  by_cases hlength : (splitSlashes d.root.toList).length ≤ before.length
  · obtain ⟨inner, hinner, hprefix⟩ := locate_below h (hpath hname hfirst) hfirst hrest hlength
    obtain ⟨inner', hinner', hprefix'⟩ :=
      locate_below h' (hpath hname' hfirst') hfirst' hrest' hlength
    rw [hinner, List.append_cancel_left_eq] at hinner'
    subst hinner'
    have heq := List.prefix_of_prefix_length_le hprefix hprefix' (by simp)
    have hlast := List.append_inj_right' (heq.eq_of_length (by simp)) rfl
    exact String.ofList_injective (List.singleton_inj.1 hlast)
  · -- the root reaches into the names, and both first pieces stand in it
    have hroot : ∀ {n : String} {f : List Char} {r : List (List Char)},
        splitSlashes n.toList = f :: r → f ∉ [[], ['.'], ['.', '.']] →
        d.locate (joinPaths dir n) = .ok q → before ++ [f] <+: splitSlashes d.root.toList := by
      intro n f r hn hf hlocate
      have hprefix := root_prefix_of_locate hlocate
      rw [hpath hn hf] at hprefix
      refine List.prefix_of_prefix_length_le ⟨r, by simp⟩ hprefix ?_
      rw [List.length_append, List.length_singleton]
      omega
    have heq := List.prefix_of_prefix_length_le (hroot hname hfirst h) (hroot hname' hfirst' h')
      (by simp)
    exact List.singleton_inj.1 (List.append_inj_right' (heq.eq_of_length (by simp)) rfl)

end Disk

end DisplayGen
