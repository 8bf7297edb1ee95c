import DisplayGen.Proofs.Text.Escape
import DisplayGen.Text.Utf8

/-!
# UTF-8 is read back

The bytes of a text are those of its characters, one after another (`encode_ofList`). A character is read
from its bytes whatever follows them (`firstChar_charBytes`), so bytes of a text are read as the text
(`decode?_encode`).
-/

namespace DisplayGen.Text

/-! ## Bytes -/

/-- The loop that makes a list of bytes goes through them in order. -/
theorem toList_loop (bs : ByteArray) (i : Nat) (r : List UInt8) :
    ByteArray.toList.loop bs i r = r.reverse ++ bs.data.toList.drop i := by
  fun_induction ByteArray.toList.loop bs i r with
  | case1 i r h ih =>
    have hi : i < bs.data.size := h
    have hget : bs.get! i = bs.data.toList[i] := getElem!_pos bs.data i hi
    rw [ih, List.drop_eq_getElem_cons hi, hget, List.reverse_cons, List.append_assoc]
    rfl
  | case2 i r h =>
    have hi : bs.data.toList.length ≤ i := Nat.le_of_not_lt h
    rw [List.drop_eq_nil_of_le hi, List.append_nil]

/-- The bytes of a character. -/
def charBytes (c : Char) : List Nat := (String.utf8EncodeChar c).map UInt8.toNat

theorem encode_ofList (cs : List Char) : encode (String.ofList cs) = cs.flatMap charBytes := by
  unfold encode ByteArray.toList
  rw [String.toUTF8_eq_toByteArray, String.toByteArray_ofList, toList_loop, List.reverse_nil,
    List.nil_append, List.drop_zero, List.utf8Encode, List.toList_data_toByteArray, List.map_flatMap]
  rfl

/-! ## Characters -/

theorem leadByte?_two : ∀ k < 32, 2 ≤ k → leadByte? (k + 0xC0) = some ⟨1, k, 0x80, 0xBF⟩ := by
  decide

theorem leadByte?_three : ∀ k < 16, leadByte? (k + 0xE0) =
    some ⟨2, k, if k = 0 then 0xA0 else 0x80, if k = 0xD then 0x9F else 0xBF⟩ := by
  decide

theorem leadByte?_four : ∀ k < 5, leadByte? (k + 0xF0) =
    some ⟨3, k, if k = 0 then 0x90 else 0x80, if k = 4 then 0x8F else 0xBF⟩ := by
  decide

theorem followingBytes_cons {low high b : Nat} (hlow : low ≤ b) (hhigh : b ≤ high)
    (code taken count : Nat) (bs : List Nat) :
    followingBytes code low high taken (count + 1) (b :: bs) =
      followingBytes (code * 64 + (b - 0x80)) 0x80 0xBF (taken + 1) count bs := by
  rw [followingBytes, if_pos (by simp [hlow, hhigh])]

/-- A byte after the first that holds six bits, of any value. -/
theorem followingBytes_six (code taken count : Nat) {k : Nat} (hk : k < 64) (bs : List Nat) :
    followingBytes code 0x80 0xBF taken (count + 1) ((k + 0x80) :: bs) =
      followingBytes (code * 64 + k) 0x80 0xBF (taken + 1) count bs := by
  rw [followingBytes_cons (by omega) (by omega), Nat.add_sub_cancel]

/-- The bytes by the code point: six bits in each byte after the first. -/
theorem charBytes_eq (c : Char) : charBytes c =
    if c.toNat ≤ 0x7F then [c.toNat]
    else if c.toNat ≤ 0x7FF then [c.toNat / 64 + 0xC0, c.toNat % 64 + 0x80]
    else if c.toNat ≤ 0xFFFF then
      [c.toNat / 4096 + 0xE0, c.toNat / 64 % 64 + 0x80, c.toNat % 64 + 0x80]
    else
      [c.toNat / 262144 + 0xF0, c.toNat / 4096 % 64 + 0x80, c.toNat / 64 % 64 + 0x80,
        c.toNat % 64 + 0x80] := by
  have hvalid : c.toNat.isValidChar := c.valid
  have hval : c.val.toNat = c.toNat := rfl
  unfold Nat.isValidChar at hvalid
  unfold charBytes String.utf8EncodeChar
  dsimp only
  rw [hval]
  generalize c.toNat = v at hvalid
  repeat' split
  all_goals
    simp only [List.map_cons, List.map_nil, UInt8.toNat_ofNat', List.cons.injEq, and_true]
    omega

/-- A character is read from its bytes, whatever follows them. -/
theorem firstChar_charBytes (c : Char) : ∃ b bs, charBytes c = b :: bs ∧
    ∀ rest, firstChar b (bs ++ rest) = (some c, bs.length + 1) := by
  have hvalid : c.toNat.isValidChar := c.valid
  have hchar := charOfCode?_toNat c
  unfold Nat.isValidChar at hvalid
  rw [charBytes_eq]
  unfold firstChar
  generalize c.toNat = v at hvalid hchar
  have hlast : v % 64 < 64 := Nat.mod_lt _ (by decide)
  have hthird : v / 64 % 64 < 64 := Nat.mod_lt _ (by decide)
  split
  · refine ⟨_, _, rfl, fun rest => ?_⟩
    have hlead : leadByte? v = some ⟨0, v, 0x80, 0xBF⟩ := if_pos (by omega)
    rw [hlead]
    exact congrArg (·, 1) hchar
  split
  · refine ⟨_, _, rfl, fun rest => ?_⟩
    have hcode : v / 64 * 64 + v % 64 = v := Nat.div_add_mod' v 64
    rw [leadByte?_two _ (by omega) (by omega)]
    dsimp only
    rw [List.singleton_append, followingBytes_six _ _ _ hlast, hcode]
    exact congrArg (·, 2) hchar
  split
  · refine ⟨_, _, rfl, fun rest => ?_⟩
    have hlow : (if v / 4096 = 0 then 0xA0 else 0x80) ≤ v / 64 % 64 + 0x80 := by split <;> omega
    have hhigh : v / 64 % 64 + 0x80 ≤ if v / 4096 = 0xD then 0x9F else 0xBF := by split <;> omega
    have hcode : (v / 4096 * 64 + v / 64 % 64) * 64 + v % 64 = v := by omega
    rw [leadByte?_three _ (by omega)]
    dsimp only
    rw [List.cons_append, List.singleton_append, followingBytes_cons hlow hhigh, Nat.add_sub_cancel,
      followingBytes_six _ _ _ hlast, hcode]
    exact congrArg (·, 3) hchar
  · refine ⟨_, _, rfl, fun rest => ?_⟩
    have hlow : (if v / 262144 = 0 then 0x90 else 0x80) ≤ v / 4096 % 64 + 0x80 := by split <;> omega
    have hhigh : v / 4096 % 64 + 0x80 ≤ if v / 262144 = 4 then 0x8F else 0xBF := by split <;> omega
    have hcode : ((v / 262144 * 64 + v / 4096 % 64) * 64 + v / 64 % 64) * 64 + v % 64 = v := by omega
    rw [leadByte?_four _ (by omega)]
    dsimp only
    rw [List.cons_append, List.cons_append, List.singleton_append, followingBytes_cons hlow hhigh,
      Nat.add_sub_cancel, followingBytes_six _ _ _ hthird, followingBytes_six _ _ _ hlast, hcode]
    exact congrArg (·, 4) hchar

/-! ## Texts -/

theorem decodeFrom_flatMap (cs : List Char) (fuel : Nat) (h : (cs.flatMap charBytes).length ≤ fuel) :
    decodeFrom fuel (cs.flatMap charBytes) = cs.map some := by
  induction cs generalizing fuel with
  | nil => cases fuel <;> rfl
  | cons c cs ih =>
    obtain ⟨b, bs, hbytes, hfirst⟩ := firstChar_charBytes c
    rw [List.flatMap_cons, hbytes, List.cons_append, List.length_cons, List.length_append] at h
    obtain ⟨fuel, rfl⟩ : ∃ n, fuel = n + 1 := ⟨fuel - 1, by omega⟩
    rw [List.flatMap_cons, hbytes, List.cons_append, decodeFrom, hfirst]
    dsimp only
    rw [Nat.add_sub_cancel, List.drop_left, ih fuel (by omega), List.map_cons]

/-- The bytes of a text are read as the text. -/
theorem decode?_encode (s : String) : decode? (encode s) = some s := by
  rw [← String.ofList_toList (s := s), encode_ofList]
  generalize s.toList = cs
  have hmap : (cs.map some).mapM id = some cs := by
    rw [List.mapM_map]
    exact (List.mapM_pure (m := Option) (f := id)).trans (congrArg some (List.map_id cs))
  rw [decode?, decodeFrom_flatMap cs _ (Nat.le_refl _), hmap]
  rfl

end DisplayGen.Text
