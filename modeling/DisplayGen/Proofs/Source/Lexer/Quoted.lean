import DisplayGen.Proofs.Source.Lexer.Word
import DisplayGen.Proofs.Text.Escape
import DisplayGen.Source.Literal

/-!
# Written literals

A text that is written as a string literal is lexed as one token, however it goes on behind it, as long as
no word does (`step?_quoteLiteral`). The token stands for the text (`value?_quoteLiteral`).

The body is followed through the automaton that reads it: `Quoted.Reads m cs out m'` says that the
characters `cs` lead from the mode `m` to the mode `m'` and give the text `out` on the way.
-/

namespace DisplayGen.Source

open Lexer Text

namespace Quoted

open Lexer.Quoted (Mode step close?)

variable {m m' m'' : Mode} {c : Char} {cs cs' out out' : List Char}

/-- Read in the one mode, the characters give the text and lead to the other mode. -/
structure Reads (m : Mode) (cs out : List Char) (m' : Mode) : Prop where
  close : ∀ rest, close? .text m (cs ++ rest) = close? .text m' rest
  value : ∀ rest, value? .text m (cs ++ rest) = (value? .text m' rest).map (out ++ ·)

namespace Reads

theorem nil (m : Mode) : Reads m [] [] m where
  close _ := rfl
  value rest := by simp

theorem append (h : Reads m cs out m') (h' : Reads m' cs' out' m'') :
    Reads m (cs ++ cs') (out ++ out') m'' where
  close rest := by rw [List.append_assoc, h.close, h'.close]
  value rest := by
    rw [List.append_assoc, h.value, h'.value, Option.map_map]
    congr 1
    funext r
    exact (List.append_assoc _ _ _).symm

/-- A character that leads into a mode other than the plain one gives nothing. -/
theorem silent (h : step .text m c = .goto m') (hm : m' ≠ .plain) : Reads m [c] [] m' where
  close rest := by
    rw [List.singleton_append, close?, h]
  value rest := by
    rw [List.singleton_append, value?, h]
    cases m' with
    | plain => exact absurd rfl hm
    | _ => simp

/-- A character that leads into the plain mode gives what it ends. -/
theorem plain (h : step .text m c = .goto .plain) : Reads m [c] (given m c) .plain where
  close rest := by
    rw [List.singleton_append, close?, h]
  value rest := by
    rw [List.singleton_append, value?, h]

theorem backslash : Reads .plain ['\\'] [] .escape := silent rfl (by decide)

end Reads

/-! ## Escapes by code point -/

/-- One more digit of a code point. -/
theorem step_code (count value : Nat) {n : Nat} (hcount : count < 6) (hn : n < 16) :
    step .text (.code count value) (hexDigit n) = .goto (.code (count + 1) (value * 16 + n)) := by
  have hdigits : ∀ n < 16, hexDigit n ≠ '_' ∧ hexDigit n ≠ '}' ∧ hexValue? (hexDigit n) = some n := by
    decide
  obtain ⟨hline, hbrace, hvalue⟩ := hdigits n hn
  unfold step
  simp only [hline, hbrace, decide_false, Bool.false_and, Bool.false_eq_true, if_false, hvalue, hcount,
    if_true]

/-- The digits of a code point, after so many of them. -/
theorem reads_digits (ds : List Nat) (hdigits : ∀ d ∈ ds, d < 16) (count value : Nat)
    (hcount : count + ds.length ≤ 6) : Reads (.code count value) (ds.map hexDigit) []
      (.code (count + ds.length) (digitsValue value ds)) := by
  induction ds generalizing count value with
  | nil => exact .nil _
  | cons d ds ih =>
    rw [List.length_cons] at hcount ⊢
    have hd : d < 16 := hdigits d List.mem_cons_self
    have hstep := step_code count value (by omega) hd
    have hrest := ih (fun e he => hdigits e (List.mem_cons_of_mem _ he)) (count + 1)
      (value * 16 + d) (by omega)
    rw [Nat.add_assoc, Nat.add_comm 1] at hrest
    exact (Reads.silent hstep (by simp)).append hrest

theorem reads_codeEscape (c : Char) : Reads .plain (codeEscape c) [c] .plain := by
  obtain ⟨ds, heq, hdigits, hvalue, hne, hlength⟩ := exists_hexDigits c
  have hreads := reads_digits ds hdigits 0 0 (by omega)
  rw [Nat.zero_add, hvalue] at hreads
  have hcount : 0 < ds.length := List.length_pos_iff.2 hne
  have hclose : step .text (.code ds.length c.toNat) '}' = .goto .plain := by
    have hline : ('}' = '_') = False := by decide
    unfold step
    simp only [hline, decide_false, Bool.false_eq_true, if_false, hcount, decide_true, Bool.and_true,
      if_true, Flavour.admitsCode, charOfCode?_toNat, Option.isSome_some]
  have hgiven : given (.code ds.length c.toNat) '}' = [c] := congrArg ([·]) (Char.ofNat_toNat c)
  have hletter : Reads .escape ['u'] [] .codeOpen := .silent rfl (by decide)
  have hbrace : Reads .codeOpen ['{'] [] (.code 0 0) := .silent rfl (by decide)
  have hopening : Reads .plain ['\\', 'u', '{'] [] (.code 0 0) :=
    Reads.backslash.append (hletter.append hbrace)
  have hend := Reads.plain hclose
  rw [hgiven] at hend
  unfold codeEscape
  rw [heq]
  exact (hopening.append hreads).append hend

/-! ## Bodies -/

/-- A character after a backslash. -/
theorem reads_short {d : Char} (h : step .text .escape d = .goto .plain) (hd : shortEscape d = c) :
    Reads .plain ['\\', d] [c] .plain := by
  have hgiven : given .escape d = [c] := congrArg ([·]) hd
  have hescape := Reads.plain h
  rw [hgiven] at hescape
  exact Reads.backslash.append hescape

theorem reads_self (hquote : c ≠ '\"') (hreturn : c ≠ '\r') (hslash : c ≠ '\\') :
    Reads .plain [c] [c] .plain := by
  have hstep : Lexer.Quoted.stepPlain .text c = .goto .plain := by
    unfold Lexer.Quoted.stepPlain
    rw [if_neg hquote, if_neg hreturn, if_neg hslash]
    rfl
  exact .plain hstep

theorem reads_escapeChar (hzero : c.toNat ≠ 0) (hsingle : c ≠ '\'') :
    Reads .plain (escapeChar c) [c] .plain := by
  unfold escapeChar
  rw [if_neg hzero]
  split
  · rename_i heq
    exact reads_short rfl heq.symm
  split
  · rename_i heq
    exact reads_short rfl heq.symm
  split
  · rename_i heq
    exact reads_short rfl heq.symm
  split
  · rename_i heq
    exact reads_short rfl heq.symm
  split
  · rename_i heq
    exact reads_short rfl heq.symm
  split
  · exact reads_codeEscape c
  · exact reads_self ‹_› ‹_› ‹_›

/-- A body that is written for a text is read as the text. -/
theorem reads_escapeLiteral (cs : List Char) : Reads .plain (escapeLiteral cs) cs .plain := by
  induction cs with
  | nil => exact .nil _
  | cons c cs ih =>
    have hhead : ∀ head, Reads .plain head [c] .plain →
        Reads .plain (head ++ escapeLiteral cs) (c :: cs) .plain := fun head h => h.append ih
    unfold escapeLiteral
    dsimp only
    refine hhead _ ?_
    by_cases hzero : c.toNat = 0
    · obtain rfl : c = Char.ofNat 0 := by rw [← hzero, Char.ofNat_toNat]
      have hshort : Reads .plain ['\\', '0'] [Char.ofNat 0] .plain := reads_short rfl rfl
      rw [if_pos hzero]
      split
      · split
        · -- two digits, so that the next one is not taken for a third
          have hletter : Reads .escape ['x'] [] .hexHigh := .silent rfl (by decide)
          have hdigit : Reads .hexHigh ['0'] [] (.hexLow 0) := .silent rfl (by decide)
          exact Reads.backslash.append (hletter.append (hdigit.append (.plain rfl)))
        · exact hshort
      · exact hshort
    · rw [if_neg hzero]
      split
      · rename_i heq
        subst heq
        exact reads_self (by decide) (by decide) (by decide)
      · exact reads_escapeChar hzero ‹_›

end Quoted

/-! ## Literals -/

/-- A literal that is written for a text stands for it. -/
theorem value?_quoteLiteral (cs : List Char) :
    Literal.value? ⟨.string, quoteLiteral cs⟩ = some cs := by
  have hvalue := (Quoted.reads_escapeLiteral cs).value ['\"']
  refine Eq.trans (b := Quoted.value? .text .plain (escapeLiteral cs ++ ['\"'])) rfl ?_
  rw [hvalue]
  exact congrArg some (List.append_nil cs)

namespace Lexer

/-- The rest of a text that no word begins. -/
theorem afterSuffix_of_not {rest : List Char} (h : ∀ c r, rest = c :: r → isIdentStart c = false) :
    afterSuffix rest = rest := by
  cases rest with
  | nil => rfl
  | cons c r => exact if_neg (by rw [h c r rfl]; decide)

theorem afterQuoted?_escapeLiteral (cs : List Char) {rest : List Char}
    (h : ∀ c r, rest = c :: r → isIdentStart c = false) :
    afterQuoted? .text (escapeLiteral cs ++ '\"' :: rest) = some rest := by
  unfold afterQuoted?
  rw [(Quoted.reads_escapeLiteral cs).close]
  exact congrArg some (afterSuffix_of_not h)

/-- A text that is written as a literal is lexed as one token. -/
theorem step?_quoteLiteral (cs : List Char) {rest : List Char}
    (h : ∀ c r, rest = c :: r → isIdentStart c = false) :
    step? (quoteLiteral cs ++ rest) = some ([.literal ⟨.string, quoteLiteral cs⟩], rest) := by
  have hquote : quoteLiteral cs ++ rest = '\"' :: (escapeLiteral cs ++ '\"' :: rest) := by
    unfold quoteLiteral
    rw [List.cons_append, List.cons_append, List.append_assoc]
    rfl
  have hliteral : literalEnd? ('\"' :: (escapeLiteral cs ++ '\"' :: rest)) = some (.string, rest) := by
    refine Eq.trans (b := (afterQuoted? .text (escapeLiteral cs ++ '\"' :: rest)).map fun r =>
      (LiteralKind.string, r)) rfl ?_
    rw [afterQuoted?_escapeLiteral cs h]
    rfl
  have hupTo : upTo (quoteLiteral cs ++ rest) rest = quoteLiteral cs := by
    unfold upTo
    rw [List.length_append, Nat.add_sub_cancel]
    exact List.take_left
  have htoken : token? (quoteLiteral cs ++ rest) =
      some (.literal ⟨.string, quoteLiteral cs⟩, rest) := by
    refine Eq.trans (b := leaf? (quoteLiteral cs ++ rest)) (by rw [hquote]; rfl) ?_
    unfold leaf?
    rw [hquote, hliteral]
    dsimp only
    rw [← hquote, hupTo]
  have htrivia : afterTrivia? (quoteLiteral cs ++ rest) = none := by rw [hquote]; rfl
  have hdoc : docComment? (quoteLiteral cs ++ rest) = none := by rw [hquote]; rfl
  unfold step?
  rw [htrivia, hdoc, htoken]

end Lexer

end DisplayGen.Source
