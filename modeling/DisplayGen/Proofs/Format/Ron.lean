import DisplayGen.Format.Ron
import DisplayGen.Proofs.Text.Scan
import DisplayGen.Proofs.Text.Utf8

/-!
# RON texts are read back

The reader goes through the bytes of a document, so a written text is followed byte by byte: `bytes cs` are
the bytes of characters, each as one character of the scan.

* `quoted_bytes`: a quoted text is read as the text, whatever its characters are and however they are escaped.
* `number_digits`: decimal digits are read as the number.
* `struct_lines`: a struct that is written with each field on a line of its own is read as its fields.
-/

namespace DisplayGen.Format.RonValue

open Text
open Scan (bind_apply bind_of_eq pure_apply next_cons peek?_cons char_cons text?_cons)

/-! ## Bytes -/

/-- The bytes of characters, one after another. -/
def bytes (cs : List Char) : List Char := cs.flatMap bytesOf

theorem bytes_cons (c : Char) (cs : List Char) : bytes (c :: cs) = bytesOf c ++ bytes cs :=
  List.flatMap_cons

theorem bytes_append (cs ds : List Char) : bytes (cs ++ ds) = bytes cs ++ bytes ds :=
  List.flatMap_append

theorem bytesOf_eq (c : Char) : bytesOf c = (charBytes c).map Char.ofNat := by
  unfold bytesOf
  rw [String.singleton_eq_ofList, encode_ofList, List.flatMap_singleton]

/-- What a scan of a text's bytes goes through. -/
theorem map_encode (s : String) : (encode s).map Char.ofNat = bytes s.toList := by
  have hbytes : bytesOf = fun c => (charBytes c).map Char.ofNat := funext bytesOf_eq
  rw [bytes, hbytes, ← List.map_flatMap, ← encode_ofList, String.ofList_toList]

theorem bytesOf_ascii {c : Char} (h : c.toNat < 128) : bytesOf c = [c] := by
  rw [bytesOf_eq, charBytes_eq, if_pos (by omega), List.map_singleton, Char.ofNat_toNat]

/-- Each of the characters takes one byte. -/
def isAscii (cs : List Char) : Bool := cs.all fun c => c.toNat < 128

theorem isAscii_iff {cs : List Char} : isAscii cs = true ↔ ∀ c ∈ cs, c.toNat < 128 := by
  simp [isAscii]

theorem bytes_ascii {cs : List Char} (h : isAscii cs = true) : bytes cs = cs := by
  rw [isAscii_iff] at h
  induction cs with
  | nil => rfl
  | cons c cs ih =>
    rw [bytes_cons, bytesOf_ascii (h c List.mem_cons_self),
      ih fun d hd => h d (List.mem_cons_of_mem _ hd)]
    rfl

theorem toNat_ofNat : ∀ b < 256, (Char.ofNat b).toNat = b := by decide +kernel

theorem charBytes_lt (c : Char) : ∀ b ∈ charBytes c, b < 256 := by
  intro b hb
  obtain ⟨u, -, rfl⟩ := List.mem_map.1 hb
  exact u.toNat_lt

/-- A byte of a character is the character itself or none of the characters below 128. -/
theorem eq_or_le_of_mem_bytesOf {c b : Char} (h : b ∈ bytesOf c) : b = c ∨ 128 ≤ b.toNat := by
  rw [bytesOf_eq] at h
  obtain ⟨n, hn, rfl⟩ := List.mem_map.1 h
  have hlt := charBytes_lt c n hn
  rw [toNat_ofNat n hlt]
  rw [charBytes_eq] at hn
  by_cases hascii : c.toNat ≤ 0x7F
  · rw [if_pos hascii, List.mem_singleton] at hn
    exact .inl (by rw [hn, Char.ofNat_toNat])
  · rw [if_neg hascii] at hn
    right
    split at hn
    · simp only [List.mem_cons, List.not_mem_nil, or_false] at hn
      omega
    split at hn
    all_goals
      simp only [List.mem_cons, List.not_mem_nil, or_false] at hn
      omega

/-- The bytes of a text are decoded to the text. -/
theorem decoded_bytes (s : String) (rest : List Char) :
    decoded (bytes s.toList) rest = some (s, rest) := by
  have hbytes : (bytes s.toList).map Char.toNat = encode s := by
    rw [← map_encode, List.map_map]
    refine (List.map_congr_left fun b hb => ?_).trans (List.map_id _)
    have hlt : b < 256 := by
      rw [← String.ofList_toList (s := s), encode_ofList] at hb
      obtain ⟨c, -, hc⟩ := List.mem_flatMap.1 hb
      exact charBytes_lt c b hc
    exact toNat_ofNat b hlt
  unfold decoded
  rw [hbytes, decode?_encode]
  rfl

/-! ## Escapes -/

theorem hexDigit_cons {d : Char} {n : Nat} (h : hexValue? d = some n) (cs : List Char) :
    hexDigit (d :: cs) = some (n, cs) := by
  rw [hexDigit, bind_of_eq (next_cons d cs), h]
  rfl

theorem hexDigit_ne_brace : ∀ n < 16, Text.hexDigit n ≠ '\x7d' := by decide

theorem codeDigits_cons {d : Char} {n : Nat} (h : hexValue? d = some n) (hbrace : d ≠ '\x7d')
    (value fuel : Nat) (cs : List Char) :
    codeDigits value (fuel + 1) (d :: cs) = codeDigits (value * 16 + n) fuel cs := by
  have hdigit := hexDigit_cons h cs
  rw [codeDigits, bind_of_eq (peek?_cons _ _)]
  generalize hd : some d = o
  split
  · cases hd
  · exact absurd (Option.some.inj hd) hbrace
  · rw [bind_of_eq hdigit]

theorem codeDigits_digits (ds : List Nat) (hdigits : ∀ d ∈ ds, d < 16) (value fuel : Nat)
    (hfuel : ds.length ≤ fuel) (rest : List Char) :
    codeDigits value fuel (ds.map Text.hexDigit ++ '\x7d' :: rest) =
      some (digitsValue value ds, '\x7d' :: rest) := by
  induction ds generalizing value fuel with
  | nil => cases fuel <;> rfl
  | cons d ds ih =>
    rw [List.length_cons] at hfuel
    obtain ⟨fuel, rfl⟩ : ∃ n, fuel = n + 1 := ⟨fuel - 1, by omega⟩
    have hd : d < 16 := hdigits d List.mem_cons_self
    have hrest := ih (fun e he => hdigits e (List.mem_cons_of_mem _ he)) (value * 16 + d) fuel (by omega)
    rw [List.map_cons, List.cons_append,
      codeDigits_cons (hexValue?_hexDigit d hd) (hexDigit_ne_brace d hd), hrest]
    rfl

theorem bracedCode_hexDigits (c : Char) (rest : List Char) :
    bracedCode ('\x7b' :: (hexDigits c.toNat ++ '\x7d' :: rest)) = some (c, rest) := by
  obtain ⟨ds, heq, hdigits, hvalue, hne, hlength⟩ := exists_hexDigits c
  obtain ⟨d, ds, rfl⟩ := List.exists_cons_of_ne_nil hne
  have hbrace := hexDigit_ne_brace d (hdigits d List.mem_cons_self)
  have hsees : Scan.sees (· == '\x7d') ((d :: ds).map Text.hexDigit ++ '\x7d' :: rest) =
      some (false, (d :: ds).map Text.hexDigit ++ '\x7d' :: rest) :=
    congrArg (fun b => some (b, _)) (beq_false_of_ne hbrace)
  have hcode := codeDigits_digits (d :: ds) hdigits 0 6 hlength rest
  rw [heq, bracedCode, bind_of_eq (char_cons _ _), bind_of_eq hsees, if_neg Bool.false_ne_true]
  refine (bind_of_eq hcode).trans ((bind_of_eq (char_cons _ _)).trans ?_)
  rw [hvalue, charOfCode?_toNat]
  rfl

/-! ## Quoted texts -/

section

variable {fuel : Nat} {c : Char} {cs rest : List Char}

theorem quotedFrom_escape (h : escape cs = some (c, rest)) : quotedFrom (fuel + 1) ('\\' :: cs) =
    (quotedFrom fuel rest).map fun x => (bytesOf c ++ x.1, x.2) := by
  rw [quotedFrom, bind_of_eq (next_cons _ _), Option.map_eq_bind]
  exact (bind_of_eq h).trans (bind_apply _ _ _)

theorem quotedFrom_cons (hquote : c ≠ '\"') (hslash : c ≠ '\\') : quotedFrom (fuel + 1) (c :: cs) =
    (quotedFrom fuel cs).map fun x => (c :: x.1, x.2) := by
  rw [quotedFrom, bind_of_eq (next_cons _ _)]
  split
  · contradiction
  · contradiction
  · rw [bind_apply, Option.map_eq_bind]
    rfl

theorem quotedFrom_append {bs : List Char} (h : ∀ b ∈ bs, b ≠ '\"' ∧ b ≠ '\\') :
    quotedFrom (bs.length + fuel) (bs ++ cs) =
      (quotedFrom fuel cs).map fun x => (bs ++ x.1, x.2) := by
  induction bs with
  | nil => simp
  | cons b bs ih =>
    obtain ⟨hquote, hslash⟩ := h b List.mem_cons_self
    rw [List.length_cons, Nat.add_right_comm, List.cons_append, quotedFrom_cons hquote hslash,
      ih fun d hd => h d (List.mem_cons_of_mem _ hd), Option.map_map]
    rfl

/-- What is written in a quoted text is read as the bytes of a character. How much fuel it takes is not said; it is
no more than it is long, and not none. -/
def ReadsAs (written : List Char) (c : Char) : Prop := ∃ taken, 0 < taken ∧ taken ≤ written.length ∧
  ∀ fuel cs, quotedFrom (taken + fuel) (written ++ cs) =
    (quotedFrom fuel cs).map fun x => (bytesOf c ++ x.1, x.2)

/-- An escape, once it is known what it is read as. -/
theorem readsAs_escape (ds : List Char) (hds : isAscii ds = true)
    (hread : ∀ cs, escape (ds ++ cs) = some (c, cs)) : ReadsAs (bytes ('\\' :: ds)) c := by
  have hascii : bytes ('\\' :: ds) = '\\' :: ds :=
    bytes_ascii (isAscii_iff.2 (List.forall_mem_cons.2 ⟨by decide, isAscii_iff.1 hds⟩))
  refine ⟨1, Nat.one_pos, by rw [hascii]; simp, fun fuel cs => ?_⟩
  rw [hascii, List.cons_append, Nat.add_comm, quotedFrom_escape (hread cs)]

theorem isAscii_bracedCode (c : Char) :
    isAscii ('u' :: '\x7b' :: hexDigits c.toNat ++ ['\x7d']) = true := by
  obtain ⟨ds, heq, hdigits, -⟩ := exists_hexDigits c
  have hdigit : ∀ n < 16, (Text.hexDigit n).toNat < 128 := by decide
  refine isAscii_iff.2 fun d hd => ?_
  rw [heq] at hd
  simp only [List.cons_append, List.mem_cons, List.mem_append, List.mem_map, List.not_mem_nil,
    or_false] at hd
  rcases hd with rfl | rfl | ⟨n, hn, rfl⟩ | rfl
  · decide
  · decide
  · exact hdigit n (hdigits n hn)
  · decide

/-- A character that stands for itself: neither a quote nor a backslash is among its bytes. -/
theorem readsAs_self (hquote : c ≠ '\"') (hslash : c ≠ '\\') : ReadsAs (bytes [c]) c := by
  have hbytes : bytes [c] = bytesOf c := List.flatMap_singleton bytesOf c
  have hplain : ∀ b ∈ bytesOf c, b ≠ '\"' ∧ b ≠ '\\' := by
    intro b hb
    rcases eq_or_le_of_mem_bytesOf hb with rfl | hle
    · exact ⟨hquote, hslash⟩
    · exact ⟨fun h => absurd hle (by rw [h]; decide), fun h => absurd hle (by rw [h]; decide)⟩
  refine ⟨(bytesOf c).length, ?_, Nat.le_of_eq (congrArg List.length hbytes.symm), fun fuel cs => ?_⟩
  · obtain ⟨b, bs, hcons, -⟩ := firstChar_charBytes c
    rw [bytesOf_eq, hcons]
    exact Nat.succ_pos _
  · rw [hbytes]
    exact quotedFrom_append hplain

theorem readsAs_escapeChar (c : Char) : ReadsAs (bytes (escapeChar c)) c := by
  unfold escapeChar
  split
  · rename_i hzero
    obtain rfl : c = Char.ofNat 0 := by rw [← hzero, Char.ofNat_toNat]
    exact readsAs_escape ['0'] (by decide) fun _ => rfl
  split
  · subst c
    exact readsAs_escape ['t'] (by decide) fun _ => rfl
  split
  · subst c
    exact readsAs_escape ['r'] (by decide) fun _ => rfl
  split
  · subst c
    exact readsAs_escape ['n'] (by decide) fun _ => rfl
  split
  · subst c
    exact readsAs_escape ['\\'] (by decide) fun _ => rfl
  split
  · subst c
    exact readsAs_escape ['\"'] (by decide) fun _ => rfl
  split
  · subst c
    exact readsAs_escape ['\''] (by decide) fun _ => rfl
  split
  · refine readsAs_escape ('u' :: '\x7b' :: hexDigits c.toNat ++ ['\x7d']) (isAscii_bracedCode c) fun cs => ?_
    rw [List.append_assoc, List.cons_append, List.cons_append]
    exact bracedCode_hexDigits c cs
  · exact readsAs_self ‹_› ‹_›

theorem quotedFrom_escapeAll (cs rest : List Char) (fuel : Nat)
    (hfuel : (bytes (escapeAll cs)).length < fuel) :
    quotedFrom fuel (bytes (escapeAll cs) ++ '\"' :: rest) = some (bytes cs, rest) := by
  induction cs generalizing fuel with
  | nil =>
    obtain ⟨fuel, rfl⟩ := Nat.exists_eq_succ_of_ne_zero (Nat.ne_of_gt hfuel)
    rfl
  | cons c cs ih =>
    obtain ⟨taken, hpos, hle, hread⟩ := readsAs_escapeChar c
    have hcons : bytes (escapeAll (c :: cs)) = bytes (escapeChar c) ++ bytes (escapeAll cs) := by
      rw [escapeAll, List.flatMap_cons, bytes_append, escapeAll]
    rw [hcons, List.length_append] at hfuel
    obtain ⟨fuel, rfl⟩ : ∃ n, fuel = taken + n := ⟨fuel - taken, by omega⟩
    rw [hcons, List.append_assoc, hread, ih fuel (by omega), bytes_cons]
    rfl

/-- A quoted text is read as the text. -/
theorem quoted_bytes (s : String) (rest : List Char) :
    quoted ('\"' :: (bytes (escapeAll s.toList) ++ '\"' :: rest)) = some (s, rest) := by
  have hopen : Scan.text? "\"" ('\"' :: (bytes (escapeAll s.toList) ++ '\"' :: rest)) =
      some (true, bytes (escapeAll s.toList) ++ '\"' :: rest) := rfl
  have hbody : Scan.bounded quotedFrom (bytes (escapeAll s.toList) ++ '\"' :: rest) =
      some (bytes s.toList, rest) :=
    quotedFrom_escapeAll s.toList rest _ (by rw [List.length_append]; omega)
  rw [quoted, bind_of_eq hopen, if_pos rfl, bind_of_eq hbody, decoded_bytes]

end

/-! ## Numbers -/

theorem exists_digit {c : Char} (h : c.isDigit = true) : ∃ n < 10, c = Char.ofNat (48 + n) := by
  obtain ⟨hlow, hhigh⟩ := Char.isDigit_iff_toNat.1 h
  have hzero : '0'.toNat = 48 := rfl
  have hnine : '9'.toNat = 57 := rfl
  refine ⟨c.toNat - 48, by omega, ?_⟩
  rw [Nat.add_sub_cancel' (by omega), Char.ofNat_toNat]

/-- What the readers of numbers ask about a digit. -/
theorem digit_spec {c : Char} (h : c.isDigit = true) :
    inWhole c = true ∧ inReal c = true ∧ hexValue? c = some (c.toNat - '0'.toNat) ∧
      c.toNat - '0'.toNat < 10 := by
  have hdigits : ∀ n < 10, inWhole (Char.ofNat (48 + n)) = true ∧ inReal (Char.ofNat (48 + n)) = true ∧
      hexValue? (Char.ofNat (48 + n)) = some ((Char.ofNat (48 + n)).toNat - '0'.toNat) ∧
        (Char.ofNat (48 + n)).toNat - '0'.toNat < 10 := by
    decide
  obtain ⟨n, hn, rfl⟩ := exists_digit h
  exact hdigits n hn

/-- A digit is no sign, does not separate digits and does not announce a base. -/
theorem digit_ne {c : Char} (h : c.isDigit = true) :
    c ≠ '_' ∧ c ≠ '+' ∧ c ≠ '-' ∧ c ≠ 'x' ∧ c ≠ 'b' ∧ c ≠ 'o' := by
  refine ⟨?_, ?_, ?_, ?_, ?_, ?_⟩ <;> exact fun heq => absurd h (by rw [heq]; decide)

theorem wholeValue_digits (ds : List Char) (h : ∀ d ∈ ds, d.isDigit = true) (value : Nat) :
    wholeValue 10 value ds = some (Nat.ofDigitChars 10 ds value) := by
  induction ds generalizing value with
  | nil => rw [Nat.ofDigitChars_nil, wholeValue]
  | cons d ds ih =>
    have hd := h d List.mem_cons_self
    obtain ⟨-, -, hvalue, hlt⟩ := digit_spec hd
    rw [wholeValue, if_neg (digit_ne hd).1, hvalue]
    dsimp only
    rw [if_pos hlt, ih fun e he => h e (List.mem_cons_of_mem _ he), Nat.ofDigitChars_cons, Nat.mul_comm]

section

variable {c d : Char} {ds rest : List Char}

/-- Two characters announce a base other than ten, the second of them a letter. -/
theorem base_ten (hx : d ≠ 'x') (hb : d ≠ 'b') (ho : d ≠ 'o') :
    base (c :: d :: rest) = some (10, c :: d :: rest) := by
  have hsecond : ∀ (s : String) (b : Char), s.toList = ['0', b] → d ≠ b →
      Scan.text? s (c :: d :: rest) = some (false, c :: d :: rest) := by
    intro s b hs hb
    unfold Scan.text?
    rw [hs]
    by_cases hc : '0' = c
    · subst hc
      simp [afterStart?, Ne.symm hb]
    · simp [afterStart?, hc]
  rw [base, bind_of_eq (hsecond _ 'x' rfl hx), if_neg Bool.false_ne_true,
    bind_of_eq (hsecond _ 'b' rfl hb), if_neg Bool.false_ne_true,
    bind_of_eq (hsecond _ 'o' rfl ho), if_neg Bool.false_ne_true]
  rfl

theorem takeWhile_append_cons (p : Char → Bool) (c : Char) (rest : List Char)
    (h : ∀ d ∈ ds, p d = true) (hc : p c = false) :
    (ds ++ c :: rest).takeWhile p = ds ∧ (ds ++ c :: rest).dropWhile p = c :: rest := by
  rw [List.takeWhile_append_of_pos h, List.dropWhile_append_of_pos h,
    List.takeWhile_cons_of_neg (by rw [hc]; decide), List.dropWhile_cons_of_neg (by rw [hc]; decide),
    List.append_nil]
  exact ⟨rfl, rfl⟩

/-- Decimal digits before a comma are read as the number. -/
theorem whole_digits (hne : ds ≠ []) (h : ∀ d ∈ ds, d.isDigit = true) :
    whole (ds ++ ',' :: rest) = some (Nat.ofDigitChars 10 ds 0, ',' :: rest) := by
  obtain ⟨d, ds, rfl⟩ := List.exists_cons_of_ne_nil hne
  have hbase : base (d :: ds ++ ',' :: rest) = some (10, d :: ds ++ ',' :: rest) := by
    cases ds with
    | nil => exact base_ten (by decide) (by decide) (by decide)
    | cons e es =>
      obtain ⟨-, -, -, hx, hb, ho⟩ := digit_ne (h e (List.mem_cons_of_mem _ List.mem_cons_self))
      exact base_ten hx hb ho
  obtain ⟨htake, hdrop⟩ := takeWhile_append_cons inWhole ',' rest
    (fun e he => (digit_spec (h e he)).1) rfl
  have hdigits : Scan.takeWhile inWhole (d :: ds ++ ',' :: rest) = some (d :: ds, ',' :: rest) := by
    rw [Scan.takeWhile, htake, hdrop]
  have hline : d ≠ '_' := (digit_ne (h d List.mem_cons_self)).1
  rw [whole, bind_of_eq hbase]
  refine (bind_of_eq hdigits).trans ?_
  generalize hall : d :: ds = all at *
  split
  · cases hall
  · exact absurd (List.cons.inj hall).1 hline
  · rw [wholeValue_digits all h]
    rfl

/-- Digits before a comma are no number with a point or an exponent. -/
theorem realFollows_digits (hne : ds ≠ []) (h : ∀ d ∈ ds, d.isDigit = true) :
    realFollows (ds ++ ',' :: rest) = false := by
  have hwhole : (ds ++ ',' :: rest).takeWhile inWhole = ds :=
    (takeWhile_append_cons _ _ _ (fun d hd => (digit_spec (h d hd)).1) rfl).1
  have hreal : (ds ++ ',' :: rest).takeWhile inReal = ds :=
    (takeWhile_append_cons _ _ _ (fun d hd => (digit_spec (h d hd)).2.1) rfl).1
  obtain ⟨d, ds, rfl⟩ := List.exists_cons_of_ne_nil hne
  obtain ⟨-, hplus, hminus, -⟩ := digit_ne (h d List.mem_cons_self)
  unfold realFollows
  split
  · exact absurd (List.cons.inj ‹_›).1 hplus
  · exact absurd (List.cons.inj ‹_›).1 hminus
  · dsimp only
    rw [hwhole, hreal]
    exact decide_eq_false (Nat.lt_irrefl _)

/-- Decimal digits that fit into a word are read as a number without sign. -/
theorem number_digits (hne : ds ≠ []) (h : ∀ d ∈ ds, d.isDigit = true)
    (hfits : fitsUnsigned (Nat.ofDigitChars 10 ds 0) = true) (rest : List Char) :
    number (ds ++ ',' :: rest) = some (.natural (Nat.ofDigitChars 10 ds 0), ',' :: rest) := by
  have hunsigned : unsigned (ds ++ ',' :: rest) =
      some (.natural (Nat.ofDigitChars 10 ds 0), ',' :: rest) := by
    rw [unsigned, bind_of_eq (whole_digits hne h), if_pos hfits]
    rfl
  have hattempt : Scan.attempt unsigned (ds ++ ',' :: rest) =
      some (some (.natural (Nat.ofDigitChars 10 ds 0)), ',' :: rest) := by
    rw [Scan.attempt, hunsigned]
  have hsees : Scan.sees (fun c => c == '+' || c == '-') (ds ++ ',' :: rest) =
      some (false, ds ++ ',' :: rest) := by
    obtain ⟨d, ds, rfl⟩ := List.exists_cons_of_ne_nil hne
    obtain ⟨-, hplus, hminus, -⟩ := digit_ne (h d List.mem_cons_self)
    simp [Scan.sees, hplus, hminus]
  have hrest : Scan.rest (ds ++ ',' :: rest) = some (ds ++ ',' :: rest, ds ++ ',' :: rest) := rfl
  rw [number, bind_of_eq hsees]
  refine (bind_of_eq hrest).trans ?_
  rw [realFollows_digits hne h, if_neg Bool.false_ne_true, if_neg Bool.false_ne_true,
    bind_of_eq hattempt]
  rfl

end

/-! ## Values -/

section

variable {s : String} {cs rest : List Char} {n : Nesting}

/-- A value that begins with a quote is a text. -/
theorem valueWith_quote (h : quoted ('\"' :: cs) = some (s, rest)) :
    valueWith n ('\"' :: cs) = some (.text s, rest) := by
  refine Eq.trans (b := (do return .text (← quoted) : Scan RonValue) ('\"' :: cs)) rfl ?_
  rw [bind_of_eq h]
  rfl

/-- A value that begins with a digit is a number. -/
theorem valueWith_digit {d : Char} (h : d.isDigit = true) :
    valueWith n (d :: cs) = number (d :: cs) := by
  obtain ⟨k, hk, rfl⟩ := exists_digit h
  match k, hk with
  | 0, _ | 1, _ | 2, _ | 3, _ | 4, _ | 5, _ | 6, _ | 7, _ | 8, _ | 9, _ => rfl
  | _ + 10, hk => omega

end

/-! ## Structs -/

section

variable {α : Type} {c : Char} {bs cs rest name : List Char} {fuel : Nat}

/-- A character that begins neither a blank nor a comment. -/
def Solid (c : Char) : Prop := isBlank c = false ∧ c ≠ '/'

theorem solid_of_isDigit (h : c.isDigit = true) : Solid c := by
  have hne : ∀ d, d.isDigit = false → c ≠ d := by
    rintro d hd rfl
    rw [hd] at h
    cases h
  refine ⟨?_, hne '/' rfl⟩
  simp [isBlank, hne ' ' rfl, hne '\t' rfl, hne '\n' rfl, hne '\r' rfl]

theorem blanks_append (hbs : ∀ b ∈ bs, isBlank b = true) (hc : Solid c) (cs : List Char) :
    blanks (bs ++ c :: cs) = some ((), c :: cs) := by
  have hskip : Scan.skipWhile isBlank (bs ++ c :: cs) = some ((), c :: cs) := by
    rw [Scan.skipWhile, List.dropWhile_append_of_pos hbs,
      List.dropWhile_cons_of_neg (by rw [hc.1]; decide)]
  have hstroke : Scan.text? "/" (c :: cs) = some (false, c :: cs) := by
    rw [text?_cons '/' _ _ rfl, if_neg (Ne.symm hc.2)]
  rw [blanks, Scan.bounded, blanksFrom, bind_of_eq hskip, bind_of_eq hstroke,
    if_neg Bool.false_ne_true]
  rfl

theorem blanks_solid (hc : Solid c) : blanks (c :: cs) = some ((), c :: cs) :=
  blanks_append (List.forall_mem_nil _) hc cs

/-- The characters are a plain identifier. A leading `r` might mean that it is raw. -/
def isName : List Char → Bool
  | [] => false
  | c :: r => beginsIdent c && c != 'r' && r.all continuesIdent

theorem ident_name (h : isName name = true) : ident (name ++ ':' :: rest) = some (name, ':' :: rest) := by
  cases name with
  | nil => cases h
  | cons c r =>
    simp only [isName, Bool.and_eq_true, bne_iff_ne] at h
    obtain ⟨⟨hc, hraw⟩, hr⟩ := h
    obtain ⟨htake, hdrop⟩ := takeWhile_append_cons continuesIdent ':' rest
      (List.all_eq_true.1 hr) rfl
    unfold ident
    rw [List.cons_append]
    split
    any_goals exact absurd (List.cons.inj ‹_›).1 hraw
    · obtain ⟨rfl, rfl⟩ := List.cons.inj ‹_›
      rw [if_pos hc, hdrop]
      dsimp only
      rw [htake]
      rfl
    · contradiction

/-- A name begins neither a blank nor a comment, and does not close a struct. -/
theorem solid_of_isName (h : isName (c :: cs) = true) : Solid c ∧ c ≠ ')' := by
  have hc : beginsIdent c = true := by
    simp only [isName, Bool.and_eq_true] at h
    exact h.1.1
  have hne : ∀ d, beginsIdent d = false → c ≠ d := by
    rintro d hd rfl
    rw [hd] at hc
    cases hc
  refine ⟨⟨?_, hne '/' rfl⟩, hne ')' rfl⟩
  simp [isBlank, hne ' ' rfl, hne '\t' rfl, hne '\n' rfl, hne '\r' rfl]

end

/-- A field on a line of its own. -/
structure Line where
  name : List Char
  /-- How the value is written. -/
  written : List Char
  value : RonValue

namespace Line

/-- The characters of the line. -/
def text (l : Line) : List Char :=
  [' ', ' ', ' ', ' '] ++ (l.name ++ ':' :: ' ' :: (l.written ++ [',', '\n']))

/-- The reader takes the line's value from what is written, before a comma. -/
structure ReadBy (p : Scan RonValue) (l : Line) : Prop where
  isName : isName l.name = true
  solid : ∀ c ∈ l.written.head?, Solid c
  notEmpty : l.written ≠ []
  reads : ∀ rest, p (l.written ++ ',' :: rest) = some (l.value, ',' :: rest)

variable {p : Scan RonValue} {l : Line} {bs rest : List Char} {fuel : Nat}

theorem ReadBy.exists_name (h : l.ReadBy p) :
    ∃ c r, l.name = c :: r ∧ Solid c ∧ c ≠ ')' := by
  have hname := h.isName
  obtain ⟨c, r, hcons⟩ : ∃ c r, l.name = c :: r := by
    refine List.exists_cons_of_ne_nil fun hnil => ?_
    rw [hnil] at hname
    cases hname
  rw [hcons] at hname
  exact ⟨c, r, hcons, solid_of_isName hname⟩

/-- A line is read as its field up to the comma. -/
theorem ReadBy.pair (h : l.ReadBy p) (rest : List Char) : RonValue.pair ident p
    (l.name ++ ':' :: ' ' :: (l.written ++ ',' :: rest)) = some ((l.name, l.value), ',' :: rest) := by
  obtain ⟨c, cs, hcons⟩ := List.exists_cons_of_ne_nil h.notEmpty
  have hsolid : Solid c := h.solid c (by rw [hcons]; rfl)
  have hspace : ∀ b ∈ [' '], isBlank b = true := List.forall_mem_singleton.2 (by decide)
  have hblank : blanks (' ' :: (l.written ++ ',' :: rest)) = some ((), l.written ++ ',' :: rest) := by
    rw [hcons]
    exact blanks_append hspace hsolid _
  rw [RonValue.pair, bind_of_eq (ident_name h.isName), bind_of_eq (blanks_solid ⟨rfl, by decide⟩),
    bind_of_eq (char_cons _ _), bind_of_eq hblank, bind_of_eq (h.reads rest)]
  rfl

end Line

/-- The characters of lines. -/
def lines (ls : List Line) : List Char := ls.flatMap Line.text

section

variable {p : Scan RonValue} {ls : List Line} {bs cs rest : List Char} {fuel : Nat}

/-- Elements begin with blanks, so it does not matter whether these have been skipped before. -/
theorem elementsFrom_congr {α : Type} {q : Scan α} {close : Char} {mayFollow : Bool} {cs' : List Char}
    (h : blanks cs = blanks cs') :
    elementsFrom close q mayFollow fuel cs = elementsFrom close q mayFollow fuel cs' := by
  cases fuel with
  | zero => rfl
  | succ fuel => rw [elementsFrom, bind_apply, bind_apply, h]

theorem lines_cons (l : Line) (ls : List Line) (rest : List Char) : lines (l :: ls) ++ rest =
    [' ', ' ', ' ', ' '] ++ (l.name ++ ':' :: ' ' :: (l.written ++ ',' :: '\n' :: (lines ls ++ rest))) := by
  simp [lines, Line.text]

theorem isBlank_indent (hbs : ∀ b ∈ bs, isBlank b = true) :
    ∀ b ∈ bs ++ [' ', ' ', ' ', ' '], isBlank b = true := by
  intro b hb
  rcases List.mem_append.1 hb with hb | hb
  · exact hbs b hb
  · rw [List.eq_of_mem_replicate (n := 4) hb]
    rfl

/-- Behind blanks, lines and a closing bracket begin with a name or the bracket. -/
theorem blanks_lines (hbs : ∀ b ∈ bs, isBlank b = true) (h : ∀ l ∈ ls, l.ReadBy p)
    (rest : List Char) :
    ∃ c cs, Solid c ∧ blanks (bs ++ (lines ls ++ ')' :: rest)) = some ((), c :: cs) := by
  cases ls with
  | nil => exact ⟨')', rest, ⟨rfl, by decide⟩, blanks_append hbs ⟨rfl, by decide⟩ rest⟩
  | cons l ls =>
    obtain ⟨c, r, hcons, hsolid, -⟩ := (h l List.mem_cons_self).exists_name
    rw [lines_cons, hcons, ← List.append_assoc]
    exact ⟨c, _, hsolid, blanks_append (isBlank_indent hbs) hsolid _⟩

/-- The fields on lines are read as elements up to the closing bracket. -/
theorem elementsFrom_lines (hbs : ∀ b ∈ bs, isBlank b = true) (h : ∀ l ∈ ls, l.ReadBy p)
    (hfuel : ls.length < fuel) :
    elementsFrom ')' (pair ident p) true fuel (bs ++ (lines ls ++ ')' :: rest)) =
      some (ls.map fun l => (l.name, l.value), rest) := by
  induction ls generalizing bs fuel with
  | nil =>
    obtain ⟨fuel, rfl⟩ := Nat.exists_eq_succ_of_ne_zero (Nat.ne_of_gt hfuel)
    have hblank : blanks (bs ++ (lines [] ++ ')' :: rest)) = some ((), ')' :: rest) :=
      blanks_append hbs ⟨rfl, by decide⟩ rest
    rw [elementsFrom, bind_of_eq hblank, bind_of_eq (peek?_cons _ _)]
    exact bind_of_eq (char_cons _ _)
  | cons l ls ih =>
    rw [List.length_cons] at hfuel
    obtain ⟨fuel, rfl⟩ : ∃ n, fuel = n + 1 := ⟨fuel - 1, by omega⟩
    have hl := h l List.mem_cons_self
    have hls : ∀ k ∈ ls, k.ReadBy p := fun k hk => h k (List.mem_cons_of_mem _ hk)
    have hbreak : ∀ b ∈ ['\n'], isBlank b = true := List.forall_mem_singleton.2 (by decide)
    obtain ⟨c, r, hcons, hsolid, hclose⟩ := hl.exists_name
    have hpair := hl.pair ('\n' :: (lines ls ++ ')' :: rest))
    rw [hcons] at hpair
    -- the comma takes the blanks before the next line with it
    obtain ⟨d, ds, hd, hnext⟩ := blanks_lines hbreak hls rest
    have hcomma : comma (',' :: '\n' :: (lines ls ++ ')' :: rest)) = some (true, d :: ds) := by
      rw [comma, bind_of_eq (blanks_solid ⟨rfl, by decide⟩), bind_of_eq (text?_cons ',' ',' "," rfl _)]
      exact bind_of_eq hnext
    have hrest : elementsFrom ')' (pair ident p) true fuel (d :: ds) =
        some (ls.map fun l => (l.name, l.value), rest) := by
      rw [← ih hbreak hls (Nat.lt_of_succ_lt_succ hfuel)]
      exact elementsFrom_congr ((blanks_solid hd).trans hnext.symm)
    have hblank := blanks_append (isBlank_indent hbs) hsolid
      (r ++ ':' :: ' ' :: (l.written ++ ',' :: '\n' :: (lines ls ++ ')' :: rest)))
    rw [lines_cons, ← List.append_assoc, List.map_cons, hcons, elementsFrom, List.cons_append,
      bind_of_eq hblank]
    refine (bind_of_eq (peek?_cons _ _)).trans ?_
    dsimp only
    rw [if_neg hclose, if_neg (by decide), ← List.cons_append, bind_of_eq hpair]
    refine (bind_of_eq hcomma).trans ?_
    rw [bind_of_eq hrest]
    rfl

end

theorem length_le_length_lines (ls : List Line) : ls.length ≤ (lines ls).length := by
  induction ls with
  | nil => exact Nat.zero_le _
  | cons l ls ih =>
    have hcons := congrArg List.length (lines_cons l ls [])
    simp only [List.append_nil, List.length_append, List.length_cons] at hcons ⊢
    omega

/-- A struct that is written with each field on a line of its own is read as its fields. -/
theorem struct_lines {name : String} {ls : List Line}
    (h : ∀ l ∈ ls, l.ReadBy (valueFrom false fieldSteps)) :
    Scan.whole? (struct name) ('(' :: '\n' :: (lines ls ++ [')'])) =
      some (ls.map fun l => (String.ofList l.name, l.value)) := by
  have hlength := length_le_length_lines ls
  have hfields : elements ')' (pair ident (valueFrom false fieldSteps)) ('\n' :: (lines ls ++ [')'])) =
      some (ls.map fun l => (l.name, l.value), []) := by
    have hbreak : ∀ b ∈ ['\n'], isBlank b = true := List.forall_mem_singleton.2 (by decide)
    refine elementsFrom_lines hbreak h ?_
    rw [List.length_cons, List.length_append]
    omega
  have hblank : blanks ('(' :: '\n' :: (lines ls ++ [')'])) =
      some ((), '(' :: '\n' :: (lines ls ++ [')'])) := blanks_solid ⟨rfl, by decide⟩
  have hattributes : Scan.bounded attributesFrom ('(' :: '\n' :: (lines ls ++ [')'])) =
      some ([], '(' :: '\n' :: (lines ls ++ [')'])) := rfl
  have hunnamed : Scan.sees continuesIdent ('(' :: '\n' :: (lines ls ++ [')'])) =
      some (false, '(' :: '\n' :: (lines ls ++ [')'])) := rfl
  have hend : blanks [] = some ((), []) := rfl
  have hstruct : struct name ('(' :: '\n' :: (lines ls ++ [')'])) =
      some (ls.map fun l => (String.ofList l.name, l.value), []) := by
    rw [struct, bind_of_eq hblank, bind_of_eq hattributes, bind_of_eq hunnamed,
      if_neg Bool.false_ne_true]
    refine (bind_of_eq hblank).trans ((bind_of_eq (char_cons _ _)).trans ?_)
    refine (bind_of_eq hfields).trans ((bind_of_eq hend).trans ?_)
    rw [List.map_map]
    rfl
  rw [Scan.whole?, hstruct]

end DisplayGen.Format.RonValue
