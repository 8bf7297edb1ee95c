import DisplayGen.Proofs.Lists
import DisplayGen.Source.Lexer
import Mathlib.Data.List.Infix

/-!
# The lexer only goes on

`Follows cs rest`: the text `rest` is what follows in `cs` after at least one character. Every step of
the lexer leaves such a rest (`step?_follows`), so the length of a text bounds the number of steps:
more fuel changes nothing (`scanFrom_eq`).
-/

namespace DisplayGen.Source.Lexer

open DisplayGen.Text

/-- The text `rest` follows in `cs` after at least one character. -/
def Follows (cs rest : List Char) : Prop := ∃ c r, cs = c :: r ∧ rest <:+ r

theorem follows_cons {c : Char} {r rest : List Char} (h : rest <:+ r) : Follows (c :: r) rest :=
  ⟨c, r, rfl, h⟩

namespace Follows

variable {cs rest rest' : List Char}

theorem suffix (h : Follows cs rest) : rest <:+ cs := by
  obtain ⟨c, r, rfl, hr⟩ := h
  exact hr.trans (List.suffix_cons c r)

theorem length_lt (h : Follows cs rest) : rest.length < cs.length := by
  obtain ⟨c, r, rfl, hr⟩ := h
  exact Nat.lt_succ_of_le hr.length_le

theorem trans_suffix (h : Follows cs rest) (h' : rest' <:+ rest) : Follows cs rest' := by
  obtain ⟨c, r, rfl, hr⟩ := h
  exact follows_cons (h'.trans hr)

end Follows

variable {cs rest : List Char}

/-! ## Blanks and comments -/

theorem splitLine_suffix (cs : List Char) : (splitLine cs).2 <:+ cs := List.dropWhile_suffix _

theorem closeBlock_suffix {depth : Nat} (h : closeBlock depth cs = some rest) : rest <:+ cs := by
  fun_induction closeBlock depth cs with
  | case1 => cases h
  | case2 depth r ih => exact (ih h).trans (List.suffix_append ['/', '*'] r)
  | case3 => cases h
  | case4 r =>
    cases h
    exact List.suffix_append ['*', '/'] rest
  | case5 depth r ih => exact (ih h).trans (List.suffix_append ['*', '/'] r)
  | case6 depth c r _ _ _ _ ih => exact (ih h).trans (List.suffix_cons c r)

theorem afterTrivia?_follows (h : afterTrivia? cs = some rest) : Follows cs rest := by
  unfold afterTrivia? at h
  split at h
  · rename_i r
    cases h
    exact follows_cons ((splitLine_suffix r).trans (List.suffix_append ['/', '/', '/'] r))
  · cases h
  · cases h
  · rename_i r _ _ _
    cases h
    exact follows_cons ((splitLine_suffix r).trans (List.suffix_cons '/' r))
  · cases h
    exact follows_cons (List.suffix_append ['*', '*', '/'] rest)
  · rename_i r
    exact follows_cons ((closeBlock_suffix h).trans (List.suffix_append ['*'] _))
  · cases h
  · cases h
  · rename_i r _ _ _ _
    exact follows_cons ((closeBlock_suffix h).trans (List.suffix_cons '*' r))
  · split at h
    · cases h
      exact follows_cons (List.suffix_refl rest)
    · cases h
  · cases h

theorem blockBody_suffix {body : List Char} (h : blockBody cs = some (body, rest)) : rest <:+ cs := by
  unfold blockBody at h
  split at h
  · rename_i hclose
    cases h
    exact closeBlock_suffix hclose
  · cases h

theorem docComment?_follows {d : DocComment} (h : docComment? cs = some (d, rest)) :
    Follows cs rest := by
  unfold docComment? at h
  extract_lets line block found at h
  have hblock : ∀ inner r, block inner r = some (d, rest) → rest <:+ r := by
    intro inner r hr
    unfold block at hr
    split at hr
    · rename_i hbody
      cases hr
      exact blockBody_suffix hbody
    · cases hr
  have hfound : found = some (d, rest) := by
    cases hf : found with
    | none =>
      rw [hf] at h
      cases h
    | some p =>
      obtain ⟨d', rest'⟩ := p
      rw [hf] at h
      dsimp only at h
      split at h
      · exact h
      · cases h
  unfold found at hfound
  split at hfound
  · rename_i r
    cases hfound
    exact follows_cons ((splitLine_suffix r).trans (List.suffix_append ['/', '!'] r))
  · rename_i r
    exact follows_cons ((hblock _ _ hfound).trans (List.suffix_append ['*', '!'] r))
  · cases hfound
  · rename_i r _
    cases hfound
    exact follows_cons ((splitLine_suffix r).trans (List.suffix_append ['/', '/'] r))
  · cases hfound
  · rename_i r _
    exact follows_cons ((hblock _ _ hfound).trans (List.suffix_append ['*', '*'] r))
  · cases hfound

/-! ## Quoted literals -/

theorem afterSuffix_suffix (cs : List Char) : afterSuffix cs <:+ cs := by
  unfold afterSuffix
  split
  · rename_i c r
    split
    · exact (List.dropWhile_suffix _).trans (List.suffix_cons c r)
    · exact List.suffix_refl _
  · exact List.suffix_refl _

theorem close?_suffix {f : Flavour} {m : Quoted.Mode} (h : Quoted.close? f m cs = some rest) :
    rest <:+ cs := by
  induction cs generalizing m with
  | nil => cases h
  | cons c r ih =>
    unfold Quoted.close? at h
    split at h
    · exact (ih h).trans (List.suffix_cons c r)
    · cases h
      exact List.suffix_cons c rest
    · cases h

theorem afterQuoted?_suffix {f : Flavour} (h : afterQuoted? f cs = some rest) : rest <:+ cs := by
  obtain ⟨r, hclose, rfl⟩ := Option.map_eq_some_iff.1 h
  exact (afterSuffix_suffix r).trans (close?_suffix hclose)

theorem rawOpening?_suffix {signs : Nat} (h : rawOpening? cs = some (signs, rest)) : rest <:+ cs := by
  unfold rawOpening? at h
  dsimp only at h
  split at h
  · rename_i r hdrop
    split at h
    · cases h
      have hsuffix : '\"' :: rest <:+ cs := hdrop ▸ List.dropWhile_suffix _
      exact (List.suffix_cons _ rest).trans hsuffix
    · cases h
  · cases h

theorem rawClose?_suffix {f : Flavour} {signs : Nat} (h : rawClose? f signs cs = some rest) :
    rest <:+ cs := by
  fun_induction rawClose? f signs cs with
  | case1 => cases h
  | case2 r rest' hstart =>
    cases h
    rw [afterStart?_eq_some.1 hstart]
    exact (List.suffix_append _ rest).trans (List.suffix_cons _ _)
  | case3 r _ ih => exact (ih h).trans (List.suffix_cons _ r)
  | case4 r ih => exact (ih h).trans (List.suffix_append ['\r', '\n'] r)
  | case5 => cases h
  | case6 c r _ _ _ _ ih => exact (ih h).trans (List.suffix_cons c r)
  | case7 => cases h

theorem afterRaw?_suffix {f : Flavour} (h : afterRaw? f cs = some rest) : rest <:+ cs := by
  unfold afterRaw? at h
  split at h
  · rename_i hopening
    obtain ⟨r, hclose, rfl⟩ := Option.map_eq_some_iff.1 h
    exact (afterSuffix_suffix r).trans ((rawClose?_suffix hclose).trans (rawOpening?_suffix hopening))
  · cases h

theorem afterCode?_suffix {count value : Nat} (h : afterCode? count value cs = some rest) :
    rest <:+ cs := by
  fun_induction afterCode? count value cs with
  | case1 => cases h
  | case2 count value c r _ ih => exact (ih h).trans (List.suffix_cons c r)
  | case3 count value c r =>
    cases h
    exact List.suffix_cons c rest
  | case4 => cases h
  | case5 count value c r _ _ v _ _ ih => exact (ih h).trans (List.suffix_cons c r)
  | case6 => cases h
  | case7 => cases h

theorem afterUnit?_suffix {f : Flavour} (h : afterUnit? f cs = some rest) : rest <:+ cs := by
  unfold afterUnit? at h
  split at h
  · split at h
    · split at h
      · cases h
        exact List.suffix_append ['\\', 'x', _, _] rest
      · cases h
    · cases h
  · rename_i r
    split at h
    · exact (afterCode?_suffix h).trans (List.suffix_append ['\\', 'u', '{'] r)
    · cases h
  · split at h
    · cases h
      exact List.suffix_append ['\\', _] rest
    · cases h
  · cases h
  · split at h
    · cases h
      exact List.suffix_cons _ rest
    · cases h
  · cases h

theorem afterChar?_suffix {f : Flavour} (h : afterChar? f cs = some rest) : rest <:+ cs := by
  unfold afterChar? at h
  split at h
  · rename_i r hunit
    cases h
    exact (afterSuffix_suffix r).trans ((List.suffix_cons '\'' r).trans (afterUnit?_suffix hunit))
  · cases h

/-! ## Numbers -/

/-- The text behind the digits of a mantissa. -/
def Mantissa.remaining : Mantissa → List Char
  | .done _ rest => rest
  | .exponent _ letter rest => letter :: rest
  | .foreignPoint => []

theorem scanMantissa_suffix (point : Bool) (cs : List Char) :
    (scanMantissa point cs).remaining <:+ cs := by
  fun_induction scanMantissa point cs with
  | case1 => exact List.suffix_refl _
  | case2 point c r _ ih => exact ih.trans (List.suffix_cons c r)
  | case3 => exact List.suffix_refl _
  | case4 => exact List.nil_suffix
  | case5 => exact List.nil_suffix
  | case6 point _ d r _ _ ih => exact ih.trans (List.suffix_cons _ (d :: r))
  | case7 => exact List.suffix_refl _
  | case8 => exact List.suffix_refl _

theorem afterExponent?_suffix {sign value : Bool} (h : afterExponent? sign value cs = some rest) :
    rest <:+ cs := by
  fun_induction afterExponent? sign value cs with
  | case1 | case3 | case8 =>
    cases h
    exact List.suffix_refl _
  | case2 | case4 | case9 => cases h
  | case5 _ _ c r _ _ _ ih => exact (ih h).trans (List.suffix_cons c r)
  | case6 _ _ c r _ _ ih => exact (ih h).trans (List.suffix_cons c r)
  | case7 _ _ r _ _ ih => exact (ih h).trans (List.suffix_cons _ r)

theorem afterNumberSuffix?_suffix (h : afterNumberSuffix? cs = some rest) : rest <:+ cs := by
  unfold afterNumberSuffix? at h
  split at h
  · cases h
    exact List.suffix_refl _
  · rename_i c r
    split at h
    · cases h
      exact (List.dropWhile_suffix _).trans (List.suffix_cons c r)
    · split at h
      · cases h
      · cases h
        exact List.suffix_refl _

/-- Before the first digit of a whole number, some character has to come. -/
theorem afterDigits?_suffix {base : Nat} {empty : Bool} (h : afterDigits? base empty cs = some rest) :
    rest <:+ cs ∧ (empty = true → Follows cs rest) := by
  fun_induction afterDigits? base empty cs with
  | case1 | case3 | case6 | case7 | case9 => cases h
  | case2 empty hempty =>
    cases h
    exact ⟨List.suffix_refl _, fun he => absurd he hempty⟩
  | case4 empty r _ ih =>
    exact ⟨(ih h).1.trans (List.suffix_cons _ r), fun _ => follows_cons (ih h).1⟩
  | case5 empty c r _ v _ _ ih =>
    exact ⟨(ih h).1.trans (List.suffix_cons c r), fun _ => follows_cons (ih h).1⟩
  | case8 empty c r _ v _ _ _ hempty =>
    cases h
    exact ⟨List.suffix_refl _, fun he => absurd he hempty⟩
  | case10 empty c r _ _ hempty =>
    cases h
    exact ⟨List.suffix_refl _, fun he => absurd he hempty⟩

theorem afterReal?_follows (h : afterReal? cs = some rest) : Follows cs rest := by
  unfold afterReal? at h
  split at h
  · cases h
  · rename_i c r
    split at h
    · have hmantissa := scanMantissa_suffix false r
      split at h
      · rename_i rest' hscan
        rw [hscan] at hmantissa
        exact follows_cons ((afterNumberSuffix?_suffix h).trans hmantissa)
      · cases h
      · cases h
      · rename_i point letter rest' hscan
        rw [hscan] at hmantissa
        split at h
        · rename_i rest'' hexponent
          refine follows_cons ((afterNumberSuffix?_suffix h).trans ?_)
          exact (afterExponent?_suffix hexponent).trans ((List.suffix_cons letter _).trans hmantissa)
        · split at h
          · exact follows_cons ((afterNumberSuffix?_suffix h).trans hmantissa)
          · cases h
    · cases h

theorem afterWhole?_follows (h : afterWhole? cs = some rest) : Follows cs rest := by
  unfold afterWhole? at h
  extract_lets digits at h
  have hdigits : ∀ {rest'}, digits = some rest' → Follows cs rest' := by
    intro rest' hd
    unfold digits at hd
    split at hd
    · exact follows_cons ((afterDigits?_suffix hd).1.trans (List.suffix_cons _ _))
    · exact follows_cons ((afterDigits?_suffix hd).1.trans (List.suffix_cons _ _))
    · exact follows_cons ((afterDigits?_suffix hd).1.trans (List.suffix_cons _ _))
    · exact (afterDigits?_suffix hd).2 rfl
  cases hd : digits with
  | none =>
    rw [hd] at h
    cases h
  | some rest' =>
    rw [hd] at h
    exact (hdigits hd).trans_suffix (afterNumberSuffix?_suffix h)

theorem afterNumber?_follows (h : afterNumber? cs = some rest) : Follows cs rest := by
  unfold afterNumber? at h
  split at h
  · rename_i hreal
    cases h
    exact afterReal?_follows hreal
  · exact afterWhole?_follows h

/-! ## Tokens -/

theorem word?_follows {w : List Char} (h : word? cs = some (w, rest)) : Follows cs rest := by
  unfold word? at h
  split at h
  · split at h
    · cases h
      exact follows_cons (List.dropWhile_suffix _)
    · cases h
  · cases h

theorem identOf?_follows {raw : Bool} {i : Ident} (h : identOf? raw cs = some (i, rest)) :
    Follows cs rest := by
  unfold identOf? at h
  split at h
  · rename_i hword
    obtain ⟨_, -, heq⟩ := Option.map_eq_some_iff.1 h
    cases heq
    exact word?_follows hword
  · cases h

theorem ident?_follows {i : Ident} (h : ident? cs = some (i, rest)) : Follows cs rest := by
  unfold ident? at h
  split at h
  · rename_i r
    exact follows_cons ((identOf?_follows h).suffix.trans (List.suffix_cons '#' r))
  · exact identOf?_follows h

theorem punctChar?_eq {c : Char} (h : punctChar? cs = some (c, rest)) : cs = c :: rest := by
  unfold punctChar? at h
  split at h
  · cases h
  · cases h
  · split at h
    · cases h
      rfl
    · cases h
  · cases h

theorem punct?_follows {t : Token} (h : punct? cs = some (t, rest)) : Follows cs rest := by
  unfold punct? at h
  split at h
  · cases h
  · rename_i c r hchar
    rw [punctChar?_eq hchar]
    split at h
    · split at h
      · cases h
        exact follows_cons (List.suffix_refl _)
      · cases h
    · cases h
      exact follows_cons (List.suffix_refl _)

theorem literalEnd?_follows {k : LiteralKind} (h : literalEnd? cs = some (k, rest)) :
    Follows cs rest := by
  unfold literalEnd? at h
  extract_lets kinded at h
  have hkinded : ∀ {k' r}, kinded k' r = some (k, rest) → r = some rest := by
    intro k' r hr
    obtain ⟨rest', rfl, heq⟩ := Option.map_eq_some_iff.1 hr
    cases heq
    rfl
  split at h
  · exact follows_cons (afterQuoted?_suffix (hkinded h))
  · exact follows_cons (afterRaw?_suffix (hkinded h))
  · exact follows_cons ((afterQuoted?_suffix (hkinded h)).trans (List.suffix_cons _ _))
  · exact follows_cons ((afterRaw?_suffix (hkinded h)).trans (List.suffix_cons _ _))
  · exact follows_cons ((afterChar?_suffix (hkinded h)).trans (List.suffix_cons _ _))
  · exact follows_cons ((afterQuoted?_suffix (hkinded h)).trans (List.suffix_cons _ _))
  · exact follows_cons ((afterRaw?_suffix (hkinded h)).trans (List.suffix_cons _ _))
  · exact follows_cons (afterChar?_suffix (hkinded h))
  · exact afterNumber?_follows (hkinded h)

theorem leaf?_follows {t : Token} (h : leaf? cs = some (t, rest)) : Follows cs rest := by
  unfold leaf? at h
  split at h
  · rename_i hliteral
    cases h
    exact literalEnd?_follows hliteral
  · split at h
    · rename_i hpunct
      cases h
      exact punct?_follows hpunct
    · split at h
      · cases h
      · split at h
        · rename_i hident
          cases h
          exact ident?_follows hident
        · cases h

theorem token?_follows {t : Token} (h : token? cs = some (t, rest)) : Follows cs rest := by
  unfold token? at h
  split at h
  · rename_i hstart
    cases h
    rw [afterStart?_eq_some.1 hstart]
    exact follows_cons (List.suffix_append _ rest)
  · split at h
    · cases h
    · split at h
      · cases h
        exact follows_cons (List.suffix_refl _)
      · exact leaf?_follows h

/-! ## Steps -/

theorem step?_follows {ts : List Token} (h : step? cs = some (ts, rest)) : Follows cs rest := by
  unfold step? at h
  split at h
  · rename_i htrivia
    cases h
    exact afterTrivia?_follows htrivia
  · split at h
    · rename_i hdoc
      cases h
      exact docComment?_follows hdoc
    · split at h
      · rename_i htoken
        cases h
        exact token?_follows htoken
      · cases h

/-- Fuel beyond the length of the text changes nothing. -/
theorem scanFrom_eq {fuel fuel' : Nat} (h : cs.length ≤ fuel) (h' : cs.length ≤ fuel') :
    scanFrom fuel cs = scanFrom fuel' cs := by
  induction fuel generalizing fuel' cs with
  | zero =>
    obtain rfl := List.length_eq_zero_iff.1 (Nat.le_zero.1 h)
    rw [scanFrom, scanFrom]
  | succ fuel ih =>
    cases cs with
    | nil => rw [scanFrom, scanFrom]
    | cons c r =>
      obtain ⟨fuel', rfl⟩ : ∃ n, fuel' = n + 1 := ⟨fuel' - 1, by rw [List.length_cons] at h'; omega⟩
      rw [scanFrom, scanFrom]
      cases hstep : step? (c :: r) with
      | none => rfl
      | some s =>
        obtain ⟨ts, rest⟩ := s
        have hlt := (step?_follows hstep).length_lt
        have hrest : scanFrom fuel rest = scanFrom fuel' rest := ih (by omega) (by omega)
        dsimp only
        rw [hrest]

end DisplayGen.Source.Lexer
