import DisplayGen.Format.Json
import DisplayGen.Proofs.Text.Escape
import DisplayGen.Proofs.Text.Scan

/-!
# JSON texts are read back

`Textual v`: the value is made of nulls, texts, arrays, and objects whose members are named by texts.
`read?_pretty` says that the text of such a value is read as the value. The readers count fuel; a
reader has enough if it has as much as the text that it is to take is long.
-/

namespace DisplayGen

open Text

namespace Format.JsonValue

open Scan (bind_apply pure_apply next_cons peek?_cons char_cons text?_cons)

/-! ## Strings -/

theorem hexDigit_cons {d : Char} {n : Nat} (h : hexValue? d = some n) (cs : List Char) :
    hexDigit (d :: cs) = some (n, cs) := by
  simp [hexDigit, bind_apply, next_cons, h, pure_apply]

theorem codeUnit_control {c : Char} (hc : c.toNat < 32) (cs : List Char) :
    codeUnit ('0' :: '0' :: Text.hexDigit (c.toNat / 16) :: Text.hexDigit (c.toNat % 16) :: cs) =
      some (c.toNat, cs) := by
  have hzero : hexValue? '0' = some 0 := by decide
  have hhigh := hexValue?_hexDigit (c.toNat / 16) (by omega)
  have hlow := hexValue?_hexDigit (c.toNat % 16) (by omega)
  simp only [codeUnit, bind_apply, pure_apply, hexDigit_cons hzero, hexDigit_cons hhigh,
    hexDigit_cons hlow, Option.bind_some, Option.some.injEq, Prod.mk.injEq, and_true]
  omega

theorem codesFrom_return (fuel n : Nat) (cs : List Char) :
    (do let ns ← codesFrom fuel; return n :: ns : Scan (List Nat)) cs =
      (codesFrom fuel cs).map fun x => (n :: x.1, x.2) := by
  rw [bind_apply, Option.map_eq_bind]
  rfl

theorem codesFrom_escape (fuel : Nat) {n : Nat} {ds cs : List Char}
    (h : escape ds = some (n, cs)) : codesFrom (fuel + 1) ('\\' :: ds) =
      (codesFrom fuel cs).map fun x => (n :: x.1, x.2) := by
  rw [codesFrom, bind_apply, next_cons]
  simp only [Option.bind_some]
  rw [bind_apply, h]
  exact codesFrom_return fuel n cs

/-- A character between quotes is read as its code point. -/
theorem codesFrom_escapeChar (fuel : Nat) (c : Char) (cs : List Char) :
    codesFrom (fuel + 1) (escapeChar c ++ cs) =
      (codesFrom fuel cs).map fun x => (c.toNat :: x.1, x.2) := by
  unfold escapeChar
  split
  · subst c
    exact codesFrom_escape fuel rfl
  split
  · subst c
    exact codesFrom_escape fuel rfl
  split
  · rename_i hc
    rw [hc]
    exact codesFrom_escape fuel rfl
  split
  · rename_i hc
    rw [hc]
    exact codesFrom_escape fuel rfl
  split
  · subst c
    exact codesFrom_escape fuel rfl
  split
  · subst c
    exact codesFrom_escape fuel rfl
  split
  · subst c
    exact codesFrom_escape fuel rfl
  split
  · rename_i hcontrol
    exact codesFrom_escape fuel (codeUnit_control hcontrol cs)
  · rename_i hcontrol
    rw [List.singleton_append, codesFrom, bind_apply, next_cons]
    simp only [Option.bind_some]
    rw [if_neg hcontrol]
    exact codesFrom_return fuel c.toNat cs

theorem escapeChar_pos (c : Char) : 0 < (escapeChar c).length := by
  unfold escapeChar controlEscape
  repeat' split
  all_goals simp

theorem codesFrom_quoted (fuel : Nat) (cs rest : List Char)
    (h : (cs.flatMap escapeChar).length < fuel) :
    codesFrom fuel (cs.flatMap escapeChar ++ '\"' :: rest) = some (cs.map Char.toNat, rest) := by
  induction cs generalizing fuel with
  | nil =>
    obtain ⟨fuel, rfl⟩ := Nat.exists_eq_succ_of_ne_zero (Nat.ne_of_gt h)
    rfl
  | cons c cs ih =>
    have hpos := escapeChar_pos c
    rw [List.flatMap_cons, List.length_append] at h
    obtain ⟨fuel, rfl⟩ : ∃ n, fuel = n + 1 := ⟨fuel - 1, by omega⟩
    rw [List.flatMap_cons, List.append_assoc, codesFrom_escapeChar, ih fuel (by omega)]
    rfl

theorem charsOfCodes_toNat (cs : List Char) : charsOfCodes (cs.map Char.toNat) = some cs := by
  induction cs with
  | nil => rfl
  | cons c cs ih =>
    -- The code point of a character is never half of a pair.
    have hhigh : isHigh c.toNat = false := by
      have hvalid : c.toNat.isValidChar := c.valid
      unfold Nat.isValidChar at hvalid
      simp only [isHigh, Bool.and_eq_false_iff, decide_eq_false_iff_not]
      omega
    cases cs with
    | nil => simp [charsOfCodes, charOfCode?_toNat]
    | cons d cs =>
      rw [List.map_cons] at ih
      simp [charsOfCodes, hhigh, charOfCode?_toNat, ih]

theorem stringRest_quoted (s : String) (rest : List Char) :
    stringRest (s.toList.flatMap escapeChar ++ '\"' :: rest) = some (some s, rest) := by
  have hcodes := codesFrom_quoted ((s.toList.flatMap escapeChar ++ '\"' :: rest).length + 1)
    s.toList rest (by rw [List.length_append]; omega)
  unfold stringRest
  rw [bind_apply, Scan.bounded, hcodes]
  simp [pure_apply, charsOfCodes_toNat]

/-! ## Blanks -/

/-- The text does not begin with a blank. -/
def Solid (cs : List Char) : Prop := ∀ c ∈ cs.head?, isBlank c = false

theorem blanks_solid {cs : List Char} (h : Solid cs) : blanks cs = some ((), cs) := by
  cases cs with
  | nil => rfl
  | cons c cs => simp [blanks, Scan.skipWhile, h c rfl]

theorem blanks_append {bs cs : List Char} (hb : ∀ c ∈ bs, isBlank c = true) (h : Solid cs) :
    blanks (bs ++ cs) = some ((), cs) := by
  have hrest := blanks_solid h
  unfold blanks Scan.skipWhile at hrest ⊢
  rw [List.dropWhile_append_of_pos hb]
  exact hrest

theorem isBlank_newLine (n : Nat) : ∀ c ∈ newLine n, isBlank c = true := by
  intro c hc
  obtain rfl | hc := List.mem_cons.1 hc
  · rfl
  · rw [List.eq_of_mem_replicate hc]
    rfl

theorem length_newLine (n : Nat) : (newLine n).length = n + 1 := by simp [newLine]

theorem solid_cons {c : Char} (h : isBlank c = false) (cs : List Char) : Solid (c :: cs) := by
  intro d hd
  cases hd
  exact h

/-! ## Values -/

mutual

/-- The value is made of nulls, texts, arrays, and objects whose members are named by texts. -/
def Textual : JsonValue → Prop
  | .null | .string (some _) => True
  | .array items => AllTextual items
  | .object members => MembersTextual members
  | _ => False

/-- The values are textual. -/
def AllTextual : List JsonValue → Prop
  | [] => True
  | v :: vs => Textual v ∧ AllTextual vs

/-- The members are textual, and named by texts. -/
def MembersTextual : List (Option String × JsonValue) → Prop
  | [] => True
  | (key, v) :: ms => key.isSome ∧ Textual v ∧ MembersTextual ms

end

theorem prettyAt_head {v : JsonValue} (h : v.Textual) (indent : Nat) :
    ∃ c cs, prettyAt indent v = c :: cs ∧ isBlank c = false ∧ c ≠ ']' := by
  cases v with
  | null => exact ⟨'n', _, rfl, rfl, by decide⟩
  | string s => exact ⟨'\"', _, rfl, rfl, by decide⟩
  | array items =>
    cases items with
    | nil => exact ⟨'[', _, rfl, rfl, by decide⟩
    | cons v vs => exact ⟨'[', _, rfl, rfl, by decide⟩
  | object members =>
    cases members with
    | nil => exact ⟨'\x7b', _, rfl, rfl, by decide⟩
    | cons m ms => exact ⟨'\x7b', _, rfl, rfl, by decide⟩
  | bool b => cases h
  | number ds => cases h

theorem solid_prettyAt {v : JsonValue} (h : v.Textual) (indent : Nat) (rest : List Char) :
    Solid (prettyAt indent v ++ rest) := by
  obtain ⟨c, cs, heq, hblank, -⟩ := prettyAt_head h indent
  rw [heq]
  exact solid_cons hblank _

/-! ### The readers' steps

What each reader does with the text that begins with what it is to take. -/

section

variable {fuel indent outer : Nat} {p cs rest : List Char} {v : JsonValue} {k : String}

theorem toList_closeBracket : "]".toList = [']'] := rfl

theorem toList_closeBrace : "\x7d".toList = ['\x7d'] := rfl

theorem valueFrom_string (s : String) :
    valueFrom (fuel + 1) (quote s ++ rest) = some (.string (some s), rest) := by
  rw [quote, List.cons_append, List.cons_append, List.append_assoc, List.singleton_append,
    valueFrom, bind_apply, peek?_cons]
  simp only [Option.bind_some]
  rw [bind_apply, char_cons]
  simp only [Option.bind_some]
  rw [bind_apply, stringRest_quoted]
  rfl

theorem solid_quote (k : String) (cs : List Char) : Solid (quote k ++ cs) := solid_cons rfl _

theorem valueFrom_array {c : Char} (hblank : isBlank c = false) (hc : c ≠ ']') :
    valueFrom (fuel + 1) ('[' :: (newLine indent ++ c :: cs)) =
      (itemsFrom fuel (c :: cs)).map fun x => (.array x.1, x.2) := by
  rw [valueFrom, bind_apply, peek?_cons]
  simp only [Option.bind_some]
  rw [bind_apply, char_cons]
  simp only [Option.bind_some]
  rw [bind_apply, blanks_append (isBlank_newLine _) (solid_cons hblank _)]
  simp only [Option.bind_some]
  rw [bind_apply, text?_cons _ _ _ toList_closeBracket, if_neg (Ne.symm hc)]
  simp only [Option.bind_some]
  rw [if_neg (by simp), bind_apply, Option.map_eq_bind]
  rfl

theorem valueFrom_object :
    valueFrom (fuel + 1) ('\x7b' :: (newLine indent ++ (quote k ++ cs))) =
      (membersFrom fuel (quote k ++ cs)).map fun x => (.object x.1, x.2) := by
  rw [valueFrom, bind_apply, peek?_cons]
  simp only [Option.bind_some]
  rw [bind_apply, char_cons]
  simp only [Option.bind_some]
  rw [bind_apply, blanks_append (isBlank_newLine _) (solid_quote k cs)]
  simp only [Option.bind_some]
  rw [quote, List.cons_append, List.cons_append, bind_apply,
    text?_cons _ _ _ toList_closeBrace, if_neg (by decide)]
  simp only [Option.bind_some]
  rw [if_neg (by simp), bind_apply, Option.map_eq_bind]
  rfl

/-- What follows the last item or member, on a line of its own: the bracket or brace. -/
theorem closed {α : Type} {close : String} {c : Char} (hclose : close.toList = [c])
    (hc : isBlank c = false) (a : α) (more : Scan α) :
    (do
      blanks
      if ← Scan.text? close then return a
      else more : Scan α) (newLine outer ++ c :: rest) = some (a, rest) := by
  rw [bind_apply, blanks_append (isBlank_newLine _) (solid_cons hc _)]
  simp only [Option.bind_some]
  rw [bind_apply, text?_cons _ _ _ hclose, if_pos rfl]
  rfl

/-- What follows the others: a comma, and the next one on its line. -/
theorem continued {α : Type} {close : String} {c : Char} (hclose : close.toList = [c]) (hc : c ≠ ',')
    (hcs : Solid cs) (a : α) (more : Scan α) :
    (do
      blanks
      if ← Scan.text? close then return a
      else
        Scan.char ','
        blanks
        more : Scan α) (',' :: (newLine indent ++ cs)) = more cs := by
  rw [bind_apply, blanks_solid (solid_cons rfl _)]
  simp only [Option.bind_some]
  rw [bind_apply, text?_cons _ _ _ hclose, if_neg hc]
  simp only [Option.bind_some]
  rw [if_neg (by simp), bind_apply, char_cons]
  simp only [Option.bind_some]
  rw [bind_apply, blanks_append (isBlank_newLine _) hcs]
  rfl

theorem itemsFrom_last (hv : valueFrom fuel (p ++ (newLine outer ++ ']' :: rest)) =
    some (v, newLine outer ++ ']' :: rest)) :
    itemsFrom (fuel + 1) (p ++ (newLine outer ++ ']' :: rest)) = some ([v], rest) := by
  rw [itemsFrom, bind_apply, hv]
  exact closed toList_closeBracket rfl [v] _

theorem itemsFrom_more (hv : valueFrom fuel (p ++ (',' :: (newLine indent ++ cs))) =
    some (v, ',' :: (newLine indent ++ cs))) (hcs : Solid cs) :
    itemsFrom (fuel + 1) (p ++ (',' :: (newLine indent ++ cs))) =
      (itemsFrom fuel cs).map fun x => (v :: x.1, x.2) := by
  rw [itemsFrom, bind_apply, hv]
  refine (continued toList_closeBracket (by decide) hcs [v] _).trans ?_
  rw [bind_apply, Option.map_eq_bind]
  rfl

/-- The name of a member and what stands between it and the value. -/
theorem membersFrom_key (hcs : Solid cs) :
    membersFrom (fuel + 1) (quote k ++ (':' :: ' ' :: cs)) =
      (do
        let v ← valueFrom fuel
        blanks
        if ← Scan.text? "\x7d" then return [(some k, v)]
        else
          Scan.char ','
          blanks
          let ms ← membersFrom fuel
          return (some k, v) :: ms : Scan (List (Option String × JsonValue))) cs := by
  have hspace : ∀ c ∈ [' '], isBlank c = true := List.forall_mem_singleton.2 rfl
  rw [quote, List.cons_append, List.cons_append, List.append_assoc, List.singleton_append,
    membersFrom, bind_apply, char_cons]
  simp only [Option.bind_some]
  rw [bind_apply, stringRest_quoted]
  simp only [Option.bind_some]
  rw [bind_apply, blanks_solid (solid_cons rfl _)]
  simp only [Option.bind_some]
  rw [bind_apply, char_cons]
  simp only [Option.bind_some]
  rw [bind_apply, ← List.singleton_append, blanks_append hspace hcs]
  rfl

theorem membersFrom_last (hp : Solid (p ++ (newLine outer ++ '\x7d' :: rest)))
    (hv : valueFrom fuel (p ++ (newLine outer ++ '\x7d' :: rest)) =
      some (v, newLine outer ++ '\x7d' :: rest)) :
    membersFrom (fuel + 1) (quote k ++ (':' :: ' ' :: (p ++ (newLine outer ++ '\x7d' :: rest)))) =
      some ([(some k, v)], rest) := by
  rw [membersFrom_key hp, bind_apply, hv]
  exact closed toList_closeBrace rfl [(some k, v)] _

theorem membersFrom_more (hp : Solid (p ++ (',' :: (newLine indent ++ cs))))
    (hv : valueFrom fuel (p ++ (',' :: (newLine indent ++ cs))) =
      some (v, ',' :: (newLine indent ++ cs))) (hcs : Solid cs) :
    membersFrom (fuel + 1) (quote k ++ (':' :: ' ' :: (p ++ (',' :: (newLine indent ++ cs))))) =
      (membersFrom fuel cs).map fun x => ((some k, v) :: x.1, x.2) := by
  rw [membersFrom_key hp, bind_apply, hv]
  refine (continued toList_closeBrace (by decide) hcs [(some k, v)] _).trans ?_
  rw [bind_apply, Option.map_eq_bind]
  rfl

end

/-! ### Whole values -/

mutual

theorem valueFrom_pretty : ∀ (v : JsonValue), v.Textual → ∀ (indent fuel : Nat) (rest : List Char),
    (prettyAt indent v).length ≤ fuel + 1 →
    valueFrom (fuel + 1) (prettyAt indent v ++ rest) = some (v, rest)
  | .null, _, _, _, _, _ => rfl
  | .string (some s), _, _, _, _, _ => valueFrom_string s
  | .array [], _, _, _, _, _ => rfl
  | .array (v :: vs), h, indent, fuel, rest, hfuel => by
    obtain ⟨c, cs, heq, hblank, hclose⟩ := prettyAt_head h.1 (indent + 2)
    simp only [prettyAt, List.length_append, List.length_cons, length_newLine] at hfuel
    have hitems := itemsFrom_pretty v vs h.1 h.2 (indent + 2) indent fuel rest (by omega)
    simp only [prettyAt, List.cons_append, List.append_assoc, List.nil_append]
    rw [heq, List.cons_append] at hitems ⊢
    rw [valueFrom_array hblank hclose, hitems]
    rfl
  | .object [], _, _, _, _, _ => rfl
  | .object ((some k, v) :: ms), h, indent, fuel, rest, hfuel => by
    simp only [prettyAt, List.length_append, List.length_cons, length_newLine] at hfuel
    have hmembers := membersFrom_pretty k v ms h.2.1 h.2.2 (indent + 2) indent fuel rest (by omega)
    simp only [prettyAt, Option.getD_some, List.cons_append, List.append_assoc, List.nil_append]
    rw [valueFrom_object, hmembers]
    rfl
termination_by v => sizeOf v

theorem itemsFrom_pretty : ∀ (v : JsonValue) (vs : List JsonValue), v.Textual → AllTextual vs →
    ∀ (indent outer fuel : Nat) (rest : List Char),
    (prettyAt indent v).length + (prettyItems indent vs).length + 2 ≤ fuel →
    itemsFrom fuel (prettyAt indent v ++ (prettyItems indent vs ++ (newLine outer ++ ']' :: rest))) =
      some (v :: vs, rest)
  | v, [], hv, _, indent, outer, fuel, rest, hfuel => by
    obtain ⟨fuel, rfl⟩ : ∃ n, fuel = n + 2 := ⟨fuel - 2, by omega⟩
    exact itemsFrom_last (valueFrom_pretty v hv indent fuel _ (by omega))
  | v, w :: ws, hv, hws, indent, outer, fuel, rest, hfuel => by
    obtain ⟨fuel, rfl⟩ : ∃ n, fuel = n + 2 := ⟨fuel - 2, by omega⟩
    simp only [prettyItems, List.length_append, List.length_cons] at hfuel
    have hitems := itemsFrom_pretty w ws hws.1 hws.2 indent outer (fuel + 1) rest (by omega)
    simp only [prettyItems, List.cons_append, List.append_assoc]
    rw [itemsFrom_more (valueFrom_pretty v hv indent fuel _ (by omega))
      (solid_prettyAt hws.1 indent _), hitems]
    rfl
termination_by v vs => sizeOf v + sizeOf vs

theorem membersFrom_pretty : ∀ (k : String) (v : JsonValue) (ms : List (Option String × JsonValue)),
    v.Textual → MembersTextual ms → ∀ (indent outer fuel : Nat) (rest : List Char),
    (prettyAt indent v).length + (prettyMembers indent ms).length + 2 ≤ fuel →
    membersFrom fuel (quote k ++ (':' :: ' ' :: (prettyAt indent v ++ (prettyMembers indent ms ++
      (newLine outer ++ '\x7d' :: rest))))) = some ((some k, v) :: ms, rest)
  | k, v, [], hv, _, indent, outer, fuel, rest, hfuel => by
    obtain ⟨fuel, rfl⟩ : ∃ n, fuel = n + 2 := ⟨fuel - 2, by omega⟩
    exact membersFrom_last (solid_prettyAt hv indent _)
      (valueFrom_pretty v hv indent fuel _ (by omega))
  | k, v, (some l, w) :: ms, hv, hms, indent, outer, fuel, rest, hfuel => by
    obtain ⟨fuel, rfl⟩ : ∃ n, fuel = n + 2 := ⟨fuel - 2, by omega⟩
    simp only [prettyMembers, List.length_append, List.length_cons] at hfuel
    have hmembers :=
      membersFrom_pretty l w ms hms.2.1 hms.2.2 indent outer (fuel + 1) rest (by omega)
    simp only [prettyMembers, Option.getD_some, List.cons_append, List.append_assoc,
      List.nil_append]
    rw [membersFrom_more (solid_prettyAt hv indent _) (valueFrom_pretty v hv indent fuel _ (by omega))
      (solid_quote l _), hmembers]
    rfl
termination_by _ v ms => sizeOf v + sizeOf ms

end

/-- The text of a textual value is read as the value. -/
theorem read?_pretty {v : JsonValue} (h : v.Textual) : read? v.pretty = some v := by
  have hvalue : valueFrom (2 * ((prettyAt 0 v).length + 1)) (prettyAt 0 v ++ []) = some (v, []) :=
    valueFrom_pretty v h 0 (2 * (prettyAt 0 v).length + 1) [] (by omega)
  have hsolid := solid_prettyAt h 0 []
  rw [List.append_nil] at hvalue hsolid
  unfold read? pretty Scan.whole? document
  rw [String.toList_ofList, bind_apply, blanks_solid hsolid]
  simp only [Option.bind_some]
  rw [bind_apply, Scan.bounded, hvalue]
  rfl

end Format.JsonValue

end DisplayGen
