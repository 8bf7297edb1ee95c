import DisplayGen.Text.Split

/-!
# Joined pieces are cut again

Cutting at `::` undoes joining, as long as no piece holds a `::` or makes one together with the separator
behind it (`splitPath_joinPath`). Names without a colon are such pieces (`segment_of_not_mem`), and so are the
pieces of a text that was cut, the last one apart (`segment_of_splitPath`). Pieces that are joined by one
character must not hold it (`splitAtChar_joinWith`).
-/

namespace DisplayGen.Text

variable {c : Char} {cs p q : List Char} {ps : List (List Char)}

/-- The pieces make the text again. -/
theorem splitColons_spec (cs : List Char) :
    ∃ p ps, splitColons cs = p :: ps ∧ cs = p ++ ps.flatMap (':' :: ':' :: ·) := by
  fun_induction splitColons cs with
  | case1 => exact ⟨[], [], rfl, rfl⟩
  | case2 r ih =>
    obtain ⟨p, ps, hsplit, heq⟩ := ih
    refine ⟨[], p :: ps, by rw [hsplit], ?_⟩
    rw [heq]
    rfl
  | case3 c r _ ih =>
    obtain ⟨p, ps, hsplit, heq⟩ := ih
    refine ⟨c :: p, ps, by rw [hsplit]; rfl, ?_⟩
    rw [heq]
    rfl

/-- Alone the piece is left whole, and a separator behind it is found where it stands. -/
structure Segment (p : List Char) : Prop where
  alone : splitColons p = [p]
  followed : ∀ r, splitColons (p ++ ':' :: ':' :: r) = p :: splitColons r

theorem splitColons_cons (h : ∀ r, c :: cs ≠ ':' :: ':' :: r) :
    splitColons (c :: cs) = consFirst c (splitColons cs) := by
  rw [splitColons]
  intro r hc hcs
  exact h r (by rw [hc, hcs])

theorem segment_of_not_mem (h : ':' ∉ p) : Segment p := by
  induction p with
  | nil => exact ⟨rfl, fun _ => rfl⟩
  | cons c p ih =>
    rw [List.mem_cons, not_or] at h
    have hp := ih h.2
    have hc : ∀ cs r, c :: cs ≠ ':' :: ':' :: r := fun cs r heq => h.1 (List.cons.inj heq).1.symm
    exact ⟨by rw [splitColons_cons (hc p), hp.alone]; rfl,
      fun r => by rw [List.cons_append, splitColons_cons (hc _), hp.followed]; rfl⟩

/-- The pieces of a text are segments, except perhaps for the last. -/
theorem segment_of_splitColons (h : splitColons cs = ps ++ [q]) : ∀ p ∈ ps, Segment p := by
  fun_induction splitColons cs generalizing ps with
  | case1 =>
    cases ps with
    | nil => exact List.forall_mem_nil _
    | cons p ps => simp at h
  | case2 r ih =>
    cases ps with
    | nil => exact List.forall_mem_nil _
    | cons p ps =>
      obtain ⟨rfl, htail⟩ := List.cons.inj h
      exact List.forall_mem_cons.2 ⟨⟨rfl, fun _ => rfl⟩, ih htail⟩
  | case3 c r hr ih =>
    cases ps with
    | nil => exact List.forall_mem_nil _
    | cons p ps =>
      obtain ⟨d, ds, hsplit, hspec⟩ := splitColons_spec r
      rw [hsplit] at h ih
      obtain ⟨rfl, rfl⟩ := List.cons.inj h
      obtain ⟨hd, hrest⟩ := List.forall_mem_cons.1 (ih (show _ = (d :: ps) ++ [q] from rfl))
      refine List.forall_mem_cons.2 ⟨?_, hrest⟩
      -- what follows the piece begins like what followed it in the text
      have hhead : ∀ t, (d ++ ':' :: t).head? = r.head? := by
        intro t
        rw [hspec]
        cases d with
        | nil => cases ps <;> rfl
        | cons e d => rfl
      have hne : ∀ rest, rest.head? = r.head? → ∀ t, c :: rest ≠ ':' :: ':' :: t := by
        intro rest hrest t heq
        obtain ⟨rfl, rfl⟩ := List.cons.inj heq
        obtain ⟨t', rfl⟩ : ∃ t', r = ':' :: t' := by
          cases r with
          | nil => cases hrest
          | cons e r => exact ⟨r, by rw [Option.some.inj hrest]⟩
        exact hr t' rfl rfl
      refine ⟨?_, fun t => ?_⟩
      · have halone : ∀ t, c :: d ≠ ':' :: ':' :: t := by
          intro t heq
          refine hne (d ++ [':']) (hhead []) (t ++ [':']) ?_
          rw [← List.cons_append, heq]
          rfl
        rw [splitColons_cons halone, hd.alone]
        rfl
      · rw [List.cons_append, splitColons_cons (hne _ (hhead (':' :: t))), hd.followed]
        rfl

theorem segment_of_splitPath {s last : String} {names : List String}
    (h : splitPath s = names ++ [last]) : ∀ n ∈ names, Segment n.toList := by
  have hcut : splitColons s.toList = names.map String.toList ++ [last.toList] := by
    have hmap := congrArg (List.map String.toList) h
    unfold splitPath at hmap
    rw [List.map_map, List.map_append, List.map_singleton] at hmap
    refine Eq.trans ?_ hmap
    exact ((List.map_congr_left fun p _ => String.toList_ofList).trans (List.map_id _)).symm
  exact fun n hn => segment_of_splitColons hcut n.toList (List.mem_map_of_mem hn)

/-- Pieces that are joined are cut into the same pieces. -/
theorem splitPath_joinPath {names : List String} (hne : names ≠ [])
    (h : ∀ n ∈ names, Segment n.toList) : splitPath (joinPath names) = names := by
  have hcut : splitColons (joinPath names).toList = names.map String.toList := by
    unfold joinPath
    induction names with
    | nil => exact absurd rfl hne
    | cons n names ih =>
      obtain ⟨hn, hnames⟩ := List.forall_mem_cons.1 h
      cases names with
      | nil => exact hn.alone
      | cons m names =>
        have hcolons : "::".toList = [':', ':'] := rfl
        rw [joinWith, String.toList_append, String.toList_append, hcolons, List.append_assoc]
        exact (hn.followed _).trans (congrArg (n.toList :: ·) (ih (List.cons_ne_nil m names) hnames))
  unfold splitPath
  rw [hcut, List.map_map]
  exact (List.map_congr_left fun n _ => String.ofList_toList).trans (List.map_id _)

/-! ## Pieces joined by one character -/

theorem splitAtChar_of_not_mem (h : c ∉ p) : splitAtChar c p = [p] := by
  induction p with
  | nil => rfl
  | cons d p ih =>
    rw [List.mem_cons, not_or] at h
    rw [splitAtChar, if_neg (Ne.symm h.1), ih h.2]
    rfl

theorem splitAtChar_append (h : c ∉ p) (r : List Char) :
    splitAtChar c (p ++ c :: r) = p :: splitAtChar c r := by
  induction p with
  | nil => exact if_pos rfl
  | cons d p ih =>
    rw [List.mem_cons, not_or] at h
    rw [List.cons_append, splitAtChar, if_neg (Ne.symm h.1), ih h.2]
    rfl

/-- What stands before the first of a character. -/
theorem eq_of_append_cons {r r' : List Char} (hp : c ∉ p) (hq : c ∉ q) (h : p ++ c :: r = q ++ c :: r') :
    p = q := by
  have hpieces := congrArg (splitAtChar c) h
  rw [splitAtChar_append hp, splitAtChar_append hq] at hpieces
  exact (List.cons.inj hpieces).1

/-- Pieces that do not hold the character which joins them are found again. -/
theorem splitAtChar_joinWith {sep : String} {names : List String} (hsep : sep.toList = [c])
    (hne : names ≠ []) (h : ∀ n ∈ names, c ∉ n.toList) :
    splitAtChar c (joinWith sep names).toList = names.map String.toList := by
  induction names with
  | nil => exact absurd rfl hne
  | cons n names ih =>
    obtain ⟨hn, hnames⟩ := List.forall_mem_cons.1 h
    cases names with
    | nil => exact splitAtChar_of_not_mem hn
    | cons m names =>
      rw [joinWith, String.toList_append, String.toList_append, hsep, List.append_assoc]
      exact (splitAtChar_append hn _).trans
        (congrArg (n.toList :: ·) (ih (List.cons_ne_nil m names) hnames))

/-- Joining such pieces loses nothing. -/
theorem joinWith_inj {sep : String} {names names' : List String} (hsep : sep.toList = [c])
    (hne : names ≠ []) (h : ∀ n ∈ names, c ∉ n.toList) (hne' : names' ≠ [])
    (h' : ∀ n ∈ names', c ∉ n.toList) : joinWith sep names = joinWith sep names' ↔ names = names' := by
  refine ⟨fun heq => ?_, congrArg _⟩
  have hpieces := splitAtChar_joinWith hsep hne h
  rw [heq, splitAtChar_joinWith hsep hne' h'] at hpieces
  exact (List.map_inj_right fun _ _ hchars => String.toList_injective hchars).1 hpieces.symm

/-- The characters of a text that is joined are those of the separator and of the pieces. -/
theorem mem_joinWith {sep : String} {names : List String}
    (h : c ∈ (joinWith sep names).toList) : c ∈ sep.toList ∨ ∃ n ∈ names, c ∈ n.toList := by
  induction names with
  | nil => cases h
  | cons n names ih =>
    cases names with
    | nil => exact .inr ⟨n, List.mem_cons_self, h⟩
    | cons m names =>
      rw [joinWith, String.toList_append, String.toList_append, List.append_assoc, List.mem_append,
        List.mem_append] at h
      rcases h with h | h | h
      · exact .inr ⟨n, List.mem_cons_self, h⟩
      · exact .inl h
      · exact (ih h).imp_right fun ⟨m, hm, hc⟩ => ⟨m, List.mem_cons_of_mem n hm, hc⟩

theorem joinWith_concat (sep last : String) {names : List String} (hne : names ≠ []) :
    joinWith sep (names ++ [last]) = joinWith sep names ++ sep ++ last := by
  induction names with
  | nil => exact absurd rfl hne
  | cons n names ih =>
    cases names with
    | nil => rfl
    | cons m names =>
      have htail : joinWith sep (m :: (names ++ [last])) = joinWith sep (m :: names) ++ sep ++ last :=
        ih (List.cons_ne_nil m names)
      rw [List.cons_append, List.cons_append, joinWith, htail, joinWith]
      simp only [String.append_assoc]

end DisplayGen.Text
