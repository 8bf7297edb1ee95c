import DisplayGen.Proofs.Source.Lexer.Comment

/-!
# Words are lexed as identifiers

An identifier that ends where no word can go on is lexed as itself (`step?_written`). `Lexer.Runs`
follows the lexer over a part of a text, and `scan?_of_runs` over a whole one.
-/

namespace DisplayGen

/-! ## Characters of words -/

namespace Text

variable {c d : Char} {w : List Char}

theorem ne_of_isIdentStart (hc : isIdentStart c = true) (hd : isIdentStart d = false := by decide) :
    c ≠ d := by
  rintro rfl
  rw [hc] at hd
  cases hd

theorem ne_of_isIdentContinue (hc : isIdentContinue c = true)
    (hd : isIdentContinue d = false := by decide) : c ≠ d := by
  rintro rfl
  rw [hc] at hd
  cases hd

theorem isTokenSpace_iff : isTokenSpace c = true ↔
    c.toNat ∈ [9, 10, 11, 12, 13, 0x20, 0x85, 0xA0, 0x1680, 0x2000, 0x2001, 0x2002, 0x2003, 0x2004,
      0x2005, 0x2006, 0x2007, 0x2008, 0x2009, 0x200A, 0x2028, 0x2029, 0x202F, 0x205F, 0x3000, 0x200E,
      0x200F] := by
  unfold isTokenSpace isSpace
  simp only [Bool.or_eq_true, Bool.and_eq_true, decide_eq_true_eq, beq_iff_eq, List.mem_cons,
    List.not_mem_nil, or_false]
  omega

/-- No white space starts an identifier. -/
theorem isTokenSpace_eq_false (h : isIdentStart c = true) : isTokenSpace c = false := by
  have hspaces : ∀ n ∈ [9, 10, 11, 12, 13, 0x20, 0x85, 0xA0, 0x1680, 0x2000, 0x2001, 0x2002, 0x2003,
      0x2004, 0x2005, 0x2006, 0x2007, 0x2008, 0x2009, 0x200A, 0x2028, 0x2029, 0x202F, 0x205F, 0x3000,
      0x200E, 0x200F], isIdentStart (Char.ofNat n) = false := by decide +kernel
  by_contra hspace
  have hstart := hspaces c.toNat (isTokenSpace_iff.1 (by simpa using hspace))
  rw [Char.ofNat_toNat, h] at hstart
  cases hstart

theorem isAsciiDigit_iff : isAsciiDigit c = true ↔ 48 ≤ c.toNat ∧ c.toNat ≤ 57 := by
  have h0 : ('0' : Char).val.toNat = 48 := rfl
  have h9 : ('9' : Char).val.toNat = 57 := rfl
  unfold isAsciiDigit
  rw [Bool.and_eq_true, decide_eq_true_iff, decide_eq_true_iff, Char.le_def, Char.le_def,
    UInt32.le_iff_toNat_le, UInt32.le_iff_toNat_le, h0, h9]
  rfl

/-- No digit starts an identifier. -/
theorem isAsciiDigit_eq_false (h : isIdentStart c = true) : isAsciiDigit c = false := by
  have hdigits : ∀ n ∈ List.range' 48 10, isIdentStart (Char.ofNat n) = false := by decide +kernel
  by_contra hdigit
  obtain ⟨hlow, hhigh⟩ := isAsciiDigit_iff.1 (by simpa using hdigit)
  have hstart := hdigits c.toNat (List.mem_range'_1.2 ⟨hlow, by omega⟩)
  rw [Char.ofNat_toNat, h] at hstart
  cases hstart

/-- The value of a hexadecimal digit that is no decimal one. -/
theorem le_of_hexValue? {v : Nat} (hc : isAsciiDigit c = false) (h : hexValue? c = some v) :
    10 ≤ v := by
  have hle : ∀ a b : Char, a ≤ b → a.toNat ≤ b.toNat := fun a b h => UInt32.le_iff_toNat_le.1 h
  unfold isAsciiDigit at hc
  unfold hexValue? at h
  rw [hc] at h
  simp only [Bool.false_eq_true, if_false, Bool.and_eq_true, decide_eq_true_eq] at h
  split at h
  · rename_i hlower
    have hlow : 97 ≤ c.toNat := hle 'a' c hlower.1
    cases h
    omega
  · split at h
    · rename_i hupper
      have hlow : 65 ≤ c.toNat := hle 'A' c hupper.1
      cases h
      omega
    · cases h

theorem isWord_iff : isWord w = true ↔ ∃ c r, w = c :: r ∧ isIdentStart c = true ∧
    ∀ d ∈ r, isIdentContinue d = true := by
  cases w with
  | nil => simp [isWord]
  | cons c r => simp [isWord]

/-- A word has no characters but those of words. -/
theorem not_mem_of_isWord (h : isWord w = true) (hstart : isIdentStart d = false := by decide)
    (hgoOn : isIdentContinue d = false := by decide) : d ∉ w := by
  obtain ⟨c, r, rfl, hc, hr⟩ := isWord_iff.1 h
  intro hd
  rcases List.mem_cons.1 hd with rfl | hd
  · exact ne_of_isIdentStart hc hstart rfl
  · exact ne_of_isIdentContinue (hr d hd) hgoOn rfl

end Text

namespace Source

theorem Ident.isWord_name (i : Ident) : Text.isWord i.name.toList = true := by
  have hspelled := i.spelled
  unfold isSpelling at hspelled
  exact (Bool.and_eq_true_iff.1 hspelled).1

namespace Lexer

open Text

/-! ## Words as tokens -/

/-- No word goes on into the text, and the text does not make a quoted literal out of the letters
before it. -/
def EndsWord (rest : List Char) : Prop :=
  ∀ c r, rest = c :: r → isIdentContinue c = false ∧ c ∉ ['\"', '\'', '#']

variable {c : Char} {r w rest : List Char}

/-- Behind characters of a word, nothing opens a quoted literal. -/
theorem EndsWord.not_mem_append (hrest : EndsWord rest) (hw : ∀ d ∈ w, isIdentContinue d = true)
    (h : w ++ rest = c :: r) : c ∉ ['\"', '\'', '#'] := by
  cases w with
  | nil => exact (hrest c r h).2
  | cons d w =>
    obtain ⟨rfl, -⟩ := List.cons.inj h
    have hd := hw d (List.mem_cons_self ..)
    intro hmem
    simp only [List.mem_cons, List.not_mem_nil, or_false] at hmem
    obtain rfl | rfl | rfl := hmem
    all_goals exact absurd hd (by decide)

theorem afterRaw?_eq_none {f : Flavour} {cs : List Char}
    (h : ∀ c r, cs = c :: r → c ∉ ['\"', '\'', '#']) : afterRaw? f cs = none := by
  cases cs with
  | nil => rfl
  | cons c r =>
    have hc := h c r rfl
    simp only [List.mem_cons, List.not_mem_nil, or_false, not_or] at hc
    unfold afterRaw? rawOpening?
    simp [hc]

/-- No number begins with a character that starts an identifier. -/
theorem afterNumber?_eq_none (hc : isIdentStart c = true) (r : List Char) :
    afterNumber? (c :: r) = none := by
  have hdigit := isAsciiDigit_eq_false hc
  have hzero : c ≠ '0' := ne_of_isIdentStart hc
  have hdigits : afterDigits? 10 true (c :: r) = none := by
    unfold afterDigits?
    split
    · rfl
    · cases hhex : hexValue? c with
      | none => rfl
      | some v =>
        have hv := le_of_hexValue? hdigit hhex
        dsimp only
        rw [if_neg (by omega), if_neg (by omega), if_pos rfl]
  have hreal : afterReal? (c :: r) = none := by
    unfold afterReal?
    simp [hdigit]
  have hwhole : afterWhole? (c :: r) = none := by
    unfold afterWhole?
    simp [hzero, hdigits]
  unfold afterNumber?
  rw [hreal, hwhole]

/-- What begins with a character that starts an identifier, and opens no quoted literal, is no
literal. -/
theorem literalEnd?_eq_none (hc : isIdentStart c = true)
    (hr : ∀ d r', r = d :: r' → d ∉ ['\"', '\'', '#'])
    (hr' : ∀ r', r = 'r' :: r' → ∀ d r'', r' = d :: r'' → d ∉ ['\"', '\'', '#']) :
    literalEnd? (c :: r) = none := by
  unfold literalEnd?
  extract_lets kinded
  have hnone : ∀ k, kinded k none = none := fun _ => rfl
  split
  · rename_i heq
    exact absurd (List.cons.inj heq).1 (ne_of_isIdentStart hc)
  · rename_i heq
    obtain ⟨-, rfl⟩ := List.cons.inj heq
    rw [afterRaw?_eq_none hr, hnone]
  · rename_i r' heq
    exact absurd (by simp) (hr '\"' r' (List.cons.inj heq).2)
  · rename_i r' heq
    rw [afterRaw?_eq_none (hr' r' (List.cons.inj heq).2), hnone]
  · rename_i r' heq
    exact absurd (by simp) (hr '\'' r' (List.cons.inj heq).2)
  · rename_i r' heq
    exact absurd (by simp) (hr '\"' r' (List.cons.inj heq).2)
  · rename_i r' heq
    rw [afterRaw?_eq_none (hr' r' (List.cons.inj heq).2), hnone]
  · rename_i heq
    exact absurd (List.cons.inj heq).1 (ne_of_isIdentStart hc)
  · rw [afterNumber?_eq_none hc, hnone]

theorem isPunctChar_eq_false (hc : isIdentStart c = true) : isPunctChar c = false := by
  have hpuncts : ['~', '!', '@', '#', '$', '%', '^', '&', '*', '-', '=', '+', '|', ';', ':', ',', '<',
      '.', '>', '/', '?', '\''].all (fun d => !isIdentStart d) = true := by decide
  unfold isPunctChar
  rw [decide_eq_false_iff_not]
  intro hmem
  have hc' := List.all_eq_true.1 hpuncts c hmem
  rw [hc] at hc'
  cases hc'

theorem bracket?_eq_none (hc : isIdentStart c = true) : bracket? c = none := by
  unfold bracket?
  split
  all_goals first | rfl | exact absurd hc (by decide)

theorem word?_word (hc : isIdentStart c = true) (hr : ∀ d ∈ r, isIdentContinue d = true)
    (hrest : EndsWord rest) : word? (c :: (r ++ rest)) = some (c :: r, rest) := by
  have hstop : rest.takeWhile isIdentContinue = [] ∧ rest.dropWhile isIdentContinue = rest := by
    cases rest with
    | nil => exact ⟨rfl, rfl⟩
    | cons d rest => simp [(hrest d rest rfl).1]
  unfold word?
  dsimp only
  rw [if_pos hc, List.takeWhile_append_of_pos hr, List.dropWhile_append_of_pos hr, hstop.1, hstop.2,
    List.append_nil]

theorem identOf?_word {i : Ident} (hrest : EndsWord rest) :
    identOf? i.raw (i.name.toList ++ rest) = some (i, rest) := by
  obtain ⟨c, r, heq, hc, hr⟩ := isWord_iff.1 i.isWord_name
  have hname : String.ofList (c :: r) = i.name := by rw [← heq, String.ofList_toList]
  unfold identOf?
  rw [heq, List.cons_append, word?_word hc hr hrest]
  dsimp only
  rw [hname, Ident.ofName?, dif_pos i.spelled]
  rfl

/-- What begins like an identifier, and is no literal and no part of one, is lexed as the identifier. -/
theorem step?_of_ident? {i : Ident} (hc : isIdentStart c = true)
    (hliteral : literalEnd? (c :: r) = none) (hannounced : announcesQuoted (c :: r) = false)
    (hident : ident? (c :: r) = some (i, rest)) : step? (c :: r) = some ([.ident i], rest) := by
  have hslash : c ≠ '/' := ne_of_isIdentStart hc
  have hparen : c ≠ '(' := ne_of_isIdentStart hc
  have htrivia : afterTrivia? (c :: r) = none := by
    unfold afterTrivia?
    simp [hslash, isTokenSpace_eq_false hc]
  have hdoc : docComment? (c :: r) = none := by
    unfold docComment?
    simp [hslash]
  have hpunct : punct? (c :: r) = none := by
    unfold punct? punctChar?
    simp [hslash, isPunctChar_eq_false hc]
  have hplaceholder : afterStart? placeholderText (c :: r) = none := by
    unfold placeholderText afterStart?
    simp [hparen.symm]
  unfold step? token? leaf?
  rw [htrivia, hdoc]
  dsimp only
  rw [hplaceholder, bracket?_eq_none hc, hliteral, hpunct, hannounced, hident]
  rfl

theorem step?_plain {i : Ident} (hraw : i.raw = false) (hrest : EndsWord rest) :
    step? (i.name.toList ++ rest) = some ([.ident i], rest) := by
  have hident := identOf?_word (i := i) hrest
  obtain ⟨c, r, heq, hc, hr⟩ := isWord_iff.1 i.isWord_name
  rw [heq, List.cons_append, hraw] at hident
  rw [heq, List.cons_append]
  have hquote : ∀ d r', r ++ rest = d :: r' → d ∉ ['\"', '\'', '#'] :=
    fun d r' h => hrest.not_mem_append hr h
  have hquote' : ∀ r', r ++ rest = 'r' :: r' → ∀ d r'', r' = d :: r'' → d ∉ ['\"', '\'', '#'] := by
    rintro r' h d r'' rfl
    cases r with
    | nil => exact absurd (hrest _ _ h).1 (by decide)
    | cons e r =>
      have hr' := fun d hd => hr d (List.mem_cons_of_mem e hd)
      exact hrest.not_mem_append hr' (List.cons.inj h).2
  refine step?_of_ident? hc (literalEnd?_eq_none hc hquote hquote') ?_ ?_
  · unfold announcesQuoted
    split
    case h_11 => rfl
    case h_6 | h_7 | h_9 | h_10 =>
      rename_i h
      exact absurd (by simp) (hquote' _ (List.cons.inj h).2 _ _ rfl)
    all_goals
      rename_i h
      exact absurd (by simp) (hquote _ _ (List.cons.inj h).2)
  · unfold ident?
    split
    · rename_i h
      exact absurd (by simp) (hquote _ _ (List.cons.inj h).2)
    · exact hident

theorem step?_raw {i : Ident} (hraw : i.raw = true) (hrest : EndsWord rest) :
    step? ('r' :: '#' :: (i.name.toList ++ rest)) = some ([.ident i], rest) := by
  have hident := identOf?_word (i := i) hrest
  obtain ⟨c, r, heq, hc, hr⟩ := isWord_iff.1 i.isWord_name
  rw [heq, List.cons_append, hraw] at hident
  rw [heq, List.cons_append]
  have hsign : c ≠ '#' := ne_of_isIdentStart hc
  have hquote : c ≠ '\"' := ne_of_isIdentStart hc
  have hliteral : afterRaw? .text ('#' :: c :: (r ++ rest)) = none := by
    unfold afterRaw? rawOpening?
    simp [hsign, hquote]
  refine step?_of_ident? (by decide) ?_ ?_ hident
  · unfold literalEnd?
    simp [hliteral]
  · unfold announcesQuoted
    simp [hsign, hquote]

/-- An identifier as written, at the end of a word, is lexed as itself. -/
theorem step?_written (i : Ident) (hrest : EndsWord rest) :
    step? (i.written.toList ++ rest) = some ([.ident i], rest) := by
  unfold Ident.written
  cases hraw : i.raw with
  | false => exact step?_plain hraw hrest
  | true =>
    have hsplit : ("r#" ++ i.name).toList ++ rest = 'r' :: '#' :: (i.name.toList ++ rest) := by simp
    rw [if_pos rfl, hsplit]
    exact step?_raw hraw hrest

/-! ## Lexing step by step -/

/-- Lexing the text comes to its rest, and has given the tokens by then. -/
inductive Runs : List Char → List Token → List Char → Prop where
  | done {cs : List Char} : Runs cs [] cs
  | step {cs rest rest' : List Char} {ts us : List Token} (h : step? cs = some (ts, rest))
      (hrest : Runs rest us rest') : Runs cs (ts ++ us) rest'

namespace Runs

variable {cs rest' : List Char} {ts : List Token}

/-- One token comes first. -/
theorem token {t : Token} (h : step? cs = some ([t], rest)) (hrest : Runs rest ts rest') :
    Runs cs (t :: ts) rest' := .step h hrest

/-- A blank or a comment comes first. -/
theorem trivia (h : step? cs = some ([], rest)) (hrest : Runs rest ts rest') : Runs cs ts rest' :=
  .step h hrest

/-- An identifier comes first. -/
theorem ident (i : Ident) (hrest : EndsWord rest) (h : Runs rest ts rest') :
    Runs (i.written.toList ++ rest) (.ident i :: ts) rest' :=
  .step (step?_written i hrest) h

theorem scanFrom (h : Runs cs ts []) : ∀ fuel, cs.length ≤ fuel → scanFrom fuel cs = some ts := by
  generalize hnil : ([] : List Char) = rest at h
  induction h with
  | done =>
    subst hnil
    intro fuel _
    rw [Lexer.scanFrom]
  | @step cs rest rest' ts us hstep hruns ih =>
    intro fuel hfuel
    have hlt := (step?_follows hstep).length_lt
    cases cs with
    | nil => cases hstep
    | cons c r =>
      obtain ⟨fuel, rfl⟩ : ∃ n, fuel = n + 1 := ⟨fuel - 1, by rw [List.length_cons] at hfuel; omega⟩
      rw [Lexer.scanFrom, hstep]
      dsimp only
      rw [ih hnil fuel (by omega)]
      rfl

end Runs

/-- The characters of a word. -/
def wordChars (w : String) (h : isSpelling false w = true := by exact Eq.refl true) : List Char :=
  (Ident.plain w h).written.toList

theorem endsWord_nil : EndsWord [] := by
  intro c r h
  cases h

theorem endsWord_cons {c : Char} {r : List Char}
    (h : isIdentContinue c = false ∧ c ∉ ['\"', '\'', '#'] := by decide) : EndsWord (c :: r) := by
  intro d s heq
  obtain ⟨rfl, -⟩ := List.cons.inj heq
  exact h

end Lexer

theorem Token.scan?_of_runs {c : Char} {r : List Char} {ts : List Token}
    (hc : c ≠ Lexer.byteOrderMark) (h : Lexer.Runs (c :: r) ts []) : Token.scan? (c :: r) = some ts := by
  unfold Token.scan?
  rw [Lexer.dropMark_of_ne hc]
  exact h.scanFrom _ (Nat.le_refl _)

end Source

end DisplayGen
