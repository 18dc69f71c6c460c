import Mathlib.Data.Option.Basic
import ShopRelay.Text.Base64

/-!
Bytes are read back from their Base64 form, and from no other text.
-/

namespace ShopRelay.Text.Base64

theorem value_digit : ∀ n, n < 64 → value? (digit n) = some n := by decide

theorem digit_ne_padding : ∀ n, n < 64 → digit n ≠ '=' := by decide

variable {w x y z : Nat}

theorem decode_two (hw : w < 64) (hx : x < 64) (unused : x % 16 = 0) :
    decodeChars? [digit w, digit x, '=', '='] = some [join (w * 4) (x / 16)] := by
  have hguard : (guard (x % 16 = 0) : Option Unit) = some () := if_pos unused
  rw [decodeChars?, value_digit w hw, value_digit x hx]
  exact congrArg (· >>= fun _ => some [join (w * 4) (x / 16)]) hguard

theorem decode_three (hw : w < 64) (hx : x < 64) (hy : y < 64) (unused : y % 4 = 0) :
    decodeChars? [digit w, digit x, digit y, '='] =
      some [join (w * 4) (x / 16), join (x % 16 * 16) (y / 4)] := by
  have hguard : (guard (y % 4 = 0) : Option Unit) = some () := if_pos unused
  rw [decodeChars?, value_digit w hw, value_digit x hx, value_digit y hy]
  · exact congrArg
      (· >>= fun _ => some [join (w * 4) (x / 16), join (x % 16 * 16) (y / 4)]) hguard
  · exact digit_ne_padding y hy

theorem decode_four (hw : w < 64) (hx : x < 64) (hy : y < 64) (hz : z < 64) (cs : List Char) :
    decodeChars? (digit w :: digit x :: digit y :: digit z :: cs) =
      (decodeChars? cs).map fun bs =>
        join (w * 4) (x / 16) :: join (x % 16 * 16) (y / 4) :: join (y % 4 * 64) z :: bs := by
  rw [decodeChars?]
  · simp only [value_digit w hw, value_digit x hx, value_digit y hy, value_digit z hz]
    cases decodeChars? cs with
    | none => rfl
    | some bs => rfl
  · intro _ h
    exact absurd h (digit_ne_padding z hz)
  · intro h
    exact absurd h (digit_ne_padding z hz)

/-- The bits of two digits make up the byte that was divided among them. -/
theorem join_eq {b : UInt8} {high low : Nat} (h : high + low = b.toNat) : join high low = b := by
  rw [join, h, UInt8.ofNat_toNat]

theorem decodeChars_encodeChars (bs : Bytes) : decodeChars? (encodeChars bs) = some bs := by
  have bounded : ∀ b : UInt8, b.toNat < 256 := UInt8.toNat_lt
  fun_induction encodeChars bs with
  | case1 => rfl
  | case2 a =>
    have ha := bounded a
    rw [decode_two (by omega) (by omega) (by omega), join_eq (b := a) (by omega)]
  | case3 a b =>
    have ha := bounded a
    have hb := bounded b
    rw [decode_three (by omega) (by omega) (by omega) (by omega), join_eq (b := a) (by omega),
      join_eq (b := b) (by omega)]
  | case4 a b c rest ih =>
    have ha := bounded a
    have hb := bounded b
    have hc := bounded c
    rw [decode_four (by omega) (by omega) (by omega) (by omega), ih, Option.map_some,
      join_eq (b := a) (by omega), join_eq (b := b) (by omega), join_eq (b := c) (by omega)]

/-- Bytes are what their Base64 form is read as. -/
theorem decode_encode (bs : Bytes) : decode? (encode bs) = some bs := by
  rw [decode?, encode, String.toList_ofList, decodeChars_encodeChars]

/-- Only a digit has a value, and it is the digit of its value. -/
theorem digit_of_value {c : Char} {n : Nat} (h : value? c = some n) : n < 64 ∧ digit n = c := by
  unfold value? at h
  split at h
  · next hrange =>
    have hlow : 65 ≤ c.toNat := hrange.1
    have hhigh : c.toNat ≤ 90 := hrange.2
    cases h
    refine ⟨by omega, ?_⟩
    rw [digit, if_pos (by omega), Nat.add_sub_cancel' hlow, Char.ofNat_toNat]
  split at h
  · next hrange =>
    have hlow : 97 ≤ c.toNat := hrange.1
    have hhigh : c.toNat ≤ 122 := hrange.2
    cases h
    refine ⟨by omega, ?_⟩
    rw [digit, if_neg (by omega), if_pos (by omega), Nat.add_sub_cancel' (by omega),
      Char.ofNat_toNat]
  split at h
  · next hrange =>
    have hlow : 48 ≤ c.toNat := hrange.1
    have hhigh : c.toNat ≤ 57 := hrange.2
    cases h
    refine ⟨by omega, ?_⟩
    rw [digit, if_neg (by omega), if_neg (by omega), if_pos (by omega), Nat.add_sub_cancel,
      Char.ofNat_toNat]
  split at h
  · next hplus =>
    cases h
    exact ⟨by decide, (eq_of_beq hplus).symm⟩
  split at h
  · next hslash =>
    cases h
    exact ⟨by decide, (eq_of_beq hslash).symm⟩
  · cases h

theorem toNat_join {high low : Nat} (h : high + low < 256) : (join high low).toNat = high + low :=
  UInt8.toNat_ofNat_of_lt h

theorem encode_two (hw : w < 64) (hx : x < 64) (unused : x % 16 = 0) :
    encodeChars [join (w * 4) (x / 16)] = [digit w, digit x, '=', '='] := by
  have ha : (join (w * 4) (x / 16)).toNat = w * 4 + x / 16 := toNat_join (by omega)
  have hfirst : (w * 4 + x / 16) / 4 = w := by omega
  have hsecond : (w * 4 + x / 16) % 4 * 16 = x := by omega
  rw [encodeChars, ha, hfirst, hsecond]

theorem encode_three (hw : w < 64) (hx : x < 64) (hy : y < 64) (unused : y % 4 = 0) :
    encodeChars [join (w * 4) (x / 16), join (x % 16 * 16) (y / 4)] =
      [digit w, digit x, digit y, '='] := by
  have ha : (join (w * 4) (x / 16)).toNat = w * 4 + x / 16 := toNat_join (by omega)
  have hb : (join (x % 16 * 16) (y / 4)).toNat = x % 16 * 16 + y / 4 := toNat_join (by omega)
  have hfirst : (w * 4 + x / 16) / 4 = w := by omega
  have hsecond : (w * 4 + x / 16) % 4 * 16 + (x % 16 * 16 + y / 4) / 16 = x := by omega
  have hthird : (x % 16 * 16 + y / 4) % 16 * 4 = y := by omega
  rw [encodeChars, ha, hb, hfirst, hsecond, hthird]

theorem encode_four (hw : w < 64) (hx : x < 64) (hy : y < 64) (hz : z < 64) (bs : Bytes) :
    encodeChars (join (w * 4) (x / 16) :: join (x % 16 * 16) (y / 4) :: join (y % 4 * 64) z :: bs) =
      digit w :: digit x :: digit y :: digit z :: encodeChars bs := by
  have ha : (join (w * 4) (x / 16)).toNat = w * 4 + x / 16 := toNat_join (by omega)
  have hb : (join (x % 16 * 16) (y / 4)).toNat = x % 16 * 16 + y / 4 := toNat_join (by omega)
  have hc : (join (y % 4 * 64) z).toNat = y % 4 * 64 + z := toNat_join (by omega)
  have hfirst : (w * 4 + x / 16) / 4 = w := by omega
  have hsecond : (w * 4 + x / 16) % 4 * 16 + (x % 16 * 16 + y / 4) / 16 = x := by omega
  have hthird : (x % 16 * 16 + y / 4) % 16 * 4 + (y % 4 * 64 + z) / 64 = y := by omega
  have hfourth : (y % 4 * 64 + z) % 64 = z := by omega
  rw [encodeChars, ha, hb, hc, hfirst, hsecond, hthird, hfourth]

theorem encodeChars_of_decodeChars {cs : List Char} {bs : Bytes} (h : decodeChars? cs = some bs) :
    encodeChars bs = cs := by
  fun_induction decodeChars? cs generalizing bs with
  | case1 =>
    cases h
    rfl
  | case2 =>
    simp only [Option.bind_eq_bind, Option.bind_eq_some_iff, Option.guard_eq_some'] at h
    obtain ⟨w, hw, x, hx, -, hunused, hbytes⟩ := h
    obtain ⟨hwlt, rfl⟩ := digit_of_value hw
    obtain ⟨hxlt, rfl⟩ := digit_of_value hx
    cases hbytes
    exact encode_two hwlt hxlt hunused
  | case3 =>
    simp only [Option.bind_eq_bind, Option.bind_eq_some_iff, Option.guard_eq_some'] at h
    obtain ⟨w, hw, x, hx, y, hy, -, hunused, hbytes⟩ := h
    obtain ⟨hwlt, rfl⟩ := digit_of_value hw
    obtain ⟨hxlt, rfl⟩ := digit_of_value hx
    obtain ⟨hylt, rfl⟩ := digit_of_value hy
    cases hbytes
    exact encode_three hwlt hxlt hylt hunused
  | case4 =>
    rename_i ih
    simp only [Option.bind_eq_bind, Option.bind_eq_some_iff] at h
    obtain ⟨w, hw, x, hx, y, hy, z, hz, rest, hrest, hbytes⟩ := h
    obtain ⟨hwlt, rfl⟩ := digit_of_value hw
    obtain ⟨hxlt, rfl⟩ := digit_of_value hx
    obtain ⟨hylt, rfl⟩ := digit_of_value hy
    obtain ⟨hzlt, rfl⟩ := digit_of_value hz
    cases hbytes
    rw [encode_four hwlt hxlt hylt hzlt, ih hrest]
  | case5 => cases h

/-- Bytes are read from their Base64 form alone. -/
theorem decode_eq_some_iff {s : String} {bs : Bytes} : decode? s = some bs ↔ s = encode bs := by
  constructor
  · intro h
    rw [encode, encodeChars_of_decodeChars h, String.ofList_toList]
  · rintro rfl
    exact decode_encode bs

end ShopRelay.Text.Base64
