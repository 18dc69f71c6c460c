import Mathlib.Tactic.IntervalCases
import ShopRelay.Text.Utf8

/-!
A text is read back from its UTF-8 bytes, and from no others.
-/

namespace ShopRelay.Text

theorem opening_ascii {n : Nat} (h : n < 128) : opening (.ofNat n) = .char (Char.ofNat n) := by
  have hbyte : (UInt8.ofNat n).toNat = n := by simp; omega
  have hlow : UInt8.ofNat n < 0x80 := by simpa [UInt8.lt_iff_toNat_lt, hbyte] using h
  rw [opening, if_pos hlow, hbyte]

theorem opening_two {k : Nat} (low : 2 ≤ k) (high : k < 32) :
    opening (.ofNat (k + 192)) = .begun ⟨1, k, 0x80, 0xBF⟩ := by
  interval_cases k <;> rfl

/-- The second byte rules out overlong forms and surrogates. -/
theorem opening_three {k : Nat} (high : k < 16) : opening (.ofNat (k + 224)) =
    .begun ⟨2, k, if k = 0 then 0xA0 else 0x80, if k = 13 then 0x9F else 0xBF⟩ := by
  interval_cases k <;> rfl

/-- The second byte rules out overlong forms and numbers past U+10FFFF. -/
theorem opening_four {k : Nat} (high : k < 5) : opening (.ofNat (k + 240)) =
    .begun ⟨3, k, if k = 0 then 0x90 else 0x80, if k = 4 then 0x8F else 0xBF⟩ := by
  interval_cases k <;> rfl

variable {bits d : Nat} {low high : UInt8} {rest : Bytes}

theorem toNat_follower (hd : d < 64) : (UInt8.ofNat (d + 128)).toNat = d + 128 := by
  simp
  omega

theorem follower_fits (hd : d < 64) (hlow : low.toNat ≤ d + 128) (hhigh : d + 128 ≤ high.toNat) :
    low ≤ UInt8.ofNat (d + 128) ∧ UInt8.ofNat (d + 128) ≤ high := by
  rw [UInt8.le_iff_toNat_le, UInt8.le_iff_toNat_le, toNat_follower hd]
  exact ⟨hlow, hhigh⟩

theorem scan_next (left : Nat) (hd : d < 64) (hlow : low.toNat ≤ d + 128)
    (hhigh : d + 128 ≤ high.toNat) :
    scanUtf8 (some ⟨left + 2, bits, low, high⟩) (.ofNat (d + 128) :: rest) =
      scanUtf8 (some ⟨left + 1, bits * 64 + d, 0x80, 0xBF⟩) rest := by
  rw [scanUtf8, if_pos (follower_fits hd hlow hhigh), toNat_follower hd]
  simp

theorem scan_last (hd : d < 64) (hlow : low.toNat ≤ d + 128) (hhigh : d + 128 ≤ high.toNat) :
    scanUtf8 (some ⟨1, bits, low, high⟩) (.ofNat (d + 128) :: rest) =
      some (Char.ofNat (bits * 64 + d)) :: scanUtf8 none rest := by
  rw [scanUtf8, if_pos (follower_fits hd hlow hhigh), toNat_follower hd]
  simp

theorem scan_opened {b : UInt8} {s : Begun} (h : opening b = .begun s) :
    scanUtf8 none (b :: rest) = scanUtf8 (some s) rest := by
  rw [scanUtf8, h]

variable {n : Nat}

theorem scan_one (high : n < 128) :
    scanUtf8 none (.ofNat n :: rest) = some (Char.ofNat n) :: scanUtf8 none rest := by
  rw [scanUtf8, opening_ascii high]

theorem scan_two (low : 128 ≤ n) (high : n < 2048) :
    scanUtf8 none (.ofNat (n / 64 + 192) :: .ofNat (n % 64 + 128) :: rest) =
      some (Char.ofNat n) :: scanUtf8 none rest := by
  have hlast : n % 64 < 64 := Nat.mod_lt n (by decide)
  have hbits : n / 64 * 64 + n % 64 = n := by omega
  have hleast : (0x80 : UInt8).toNat = 128 := rfl
  have hgreatest : (0xBF : UInt8).toNat = 191 := rfl
  rw [scan_opened (opening_two (by omega) (by omega)), scan_last hlast (by omega) (by omega), hbits]

theorem scan_three (low : 2048 ≤ n) (high : n < 65536) (valid : n < 0xD800 ∨ 0xDFFF < n) :
    scanUtf8 none (.ofNat (n / 4096 + 224) :: .ofNat (n / 64 % 64 + 128) ::
      .ofNat (n % 64 + 128) :: rest) = some (Char.ofNat n) :: scanUtf8 none rest := by
  have hsecond : n / 64 % 64 < 64 := Nat.mod_lt _ (by decide)
  have hlast : n % 64 < 64 := Nat.mod_lt n (by decide)
  have hbits : (n / 4096 * 64 + n / 64 % 64) * 64 + n % 64 = n := by omega
  have hleast : (0x80 : UInt8).toNat = 128 := rfl
  have hgreatest : (0xBF : UInt8).toNat = 191 := rfl
  have hoverlong : (if n / 4096 = 0 then 0xA0 else 0x80 : UInt8).toNat ≤ n / 64 % 64 + 128 := by
    split
    · change 160 ≤ _
      omega
    · omega
  have hsurrogate : n / 64 % 64 + 128 ≤ (if n / 4096 = 13 then 0x9F else 0xBF : UInt8).toNat := by
    split
    · change _ ≤ 159
      omega
    · omega
  rw [scan_opened (opening_three (by omega)), scan_next 0 hsecond hoverlong hsurrogate,
    scan_last hlast (by omega) (by omega), hbits]

theorem scan_four (low : 65536 ≤ n) (high : n < 0x110000) :
    scanUtf8 none (.ofNat (n / 262144 + 240) :: .ofNat (n / 4096 % 64 + 128) ::
      .ofNat (n / 64 % 64 + 128) :: .ofNat (n % 64 + 128) :: rest) =
        some (Char.ofNat n) :: scanUtf8 none rest := by
  have hsecond : n / 4096 % 64 < 64 := Nat.mod_lt _ (by decide)
  have hthird : n / 64 % 64 < 64 := Nat.mod_lt _ (by decide)
  have hlast : n % 64 < 64 := Nat.mod_lt n (by decide)
  have hbits : ((n / 262144 * 64 + n / 4096 % 64) * 64 + n / 64 % 64) * 64 + n % 64 = n := by omega
  have hleast : (0x80 : UInt8).toNat = 128 := rfl
  have hgreatest : (0xBF : UInt8).toNat = 191 := rfl
  have hoverlong : (if n / 262144 = 0 then 0x90 else 0x80 : UInt8).toNat ≤ n / 4096 % 64 + 128 := by
    split
    · change 144 ≤ _
      omega
    · omega
  have hrange : n / 4096 % 64 + 128 ≤ (if n / 262144 = 4 then 0x8F else 0xBF : UInt8).toNat := by
    split
    · change _ ≤ 143
      omega
    · omega
  rw [scan_opened (opening_four (by omega)), scan_next 1 hsecond hoverlong hrange,
    scan_next 0 hthird (by omega) (by omega), scan_last hlast (by omega) (by omega), hbits]

/-- A character is read back from its bytes, whatever follows them. -/
theorem scan_char (c : Char) (rest : Bytes) :
    scanUtf8 none (String.utf8EncodeChar c ++ rest) = some c :: scanUtf8 none rest := by
  have hvalid : c.val.toNat < 0xD800 ∨ 0xDFFF < c.val.toNat ∧ c.val.toNat < 0x110000 := c.valid
  have hchar : Char.ofNat c.val.toNat = c := Char.ofNat_toNat c
  unfold String.utf8EncodeChar
  generalize c.val.toNat = n at hvalid hchar
  subst hchar
  dsimp only
  split
  · exact scan_one (by omega)
  split
  · rw [Nat.mod_eq_of_lt (by omega : n / 64 < 32)]
    exact scan_two (by omega) (by omega)
  split
  · rw [Nat.mod_eq_of_lt (by omega : n / 4096 < 16)]
    exact scan_three (by omega) (by omega) (by omega)
  · rw [Nat.mod_eq_of_lt (by omega : n / 262144 < 8)]
    exact scan_four (by omega) (by omega)

theorem scan_chars (cs : List Char) :
    scanUtf8 none (cs.flatMap String.utf8EncodeChar) = cs.map some := by
  induction cs with
  | nil => rfl
  | cons c cs ih => rw [List.flatMap_cons, scan_char, ih, List.map_cons]

/-- The bytes of a text are read as that text. -/
theorem decodeUtf8_encodeUtf8 (s : String) : decodeUtf8? (encodeUtf8 s) = some s := by
  have hall : (s.toList.map some).mapM id = some s.toList := by
    rw [List.mapM_map]
    exact (List.mapM_pure (f := id)).trans (congrArg some (List.map_id _))
  unfold decodeUtf8? encodeUtf8
  rw [scan_chars, hall, Option.map_some, String.ofList_toList]

variable {k e f : Nat} {b : UInt8} {s : Begun}

theorem toNat_char (valid : n.isValidChar) : (Char.ofNat n).val.toNat = n := by
  rw [Char.ofNat, dif_pos valid]
  rfl

theorem encode_one (h : n < 128) : String.utf8EncodeChar (Char.ofNat n) = [.ofNat n] := by
  have hvalid : n.isValidChar := .inl (by omega)
  have hascii : n ≤ 127 := by omega
  simp only [String.utf8EncodeChar, toNat_char hvalid, if_pos hascii]

theorem encode_two (low : 2 ≤ k) (high : k < 32) (hd : d < 64) :
    String.utf8EncodeChar (Char.ofNat (k * 64 + d)) = [.ofNat (k + 192), .ofNat (d + 128)] := by
  have hvalid : (k * 64 + d).isValidChar := .inl (by omega)
  have hnumber := toNat_char hvalid
  have hfirst : (k * 64 + d) / 64 % 32 = k := by omega
  have hlast : (k * 64 + d) % 64 = d := by omega
  simp only [String.utf8EncodeChar, hnumber, hfirst, hlast]
  rw [if_neg (by omega), if_pos (by omega)]

theorem encode_three (high : k < 16) (hd : d < 64) (he : e < 64)
    (hoverlong : k = 0 → 32 ≤ d) (hsurrogate : k = 13 → d < 32) :
    String.utf8EncodeChar (Char.ofNat ((k * 64 + d) * 64 + e)) =
      [.ofNat (k + 224), .ofNat (d + 128), .ofNat (e + 128)] := by
  have hvalid : ((k * 64 + d) * 64 + e).isValidChar := by
    unfold Nat.isValidChar
    omega
  have hnumber := toNat_char hvalid
  have hfirst : ((k * 64 + d) * 64 + e) / 4096 % 16 = k := by omega
  have hsecond : ((k * 64 + d) * 64 + e) / 64 % 64 = d := by omega
  have hlast : ((k * 64 + d) * 64 + e) % 64 = e := by omega
  simp only [String.utf8EncodeChar, hnumber, hfirst, hsecond, hlast]
  rw [if_neg (by omega), if_neg (by omega), if_pos (by omega)]

theorem encode_four (high : k < 5) (hd : d < 64) (he : e < 64) (hf : f < 64)
    (hoverlong : k = 0 → 16 ≤ d) (hrange : k = 4 → d < 16) :
    String.utf8EncodeChar (Char.ofNat (((k * 64 + d) * 64 + e) * 64 + f)) =
      [.ofNat (k + 240), .ofNat (d + 128), .ofNat (e + 128), .ofNat (f + 128)] := by
  have hvalid : (((k * 64 + d) * 64 + e) * 64 + f).isValidChar := by
    unfold Nat.isValidChar
    omega
  have hnumber := toNat_char hvalid
  have hfirst : (((k * 64 + d) * 64 + e) * 64 + f) / 262144 % 8 = k := by omega
  have hsecond : (((k * 64 + d) * 64 + e) * 64 + f) / 4096 % 64 = d := by omega
  have hthird : (((k * 64 + d) * 64 + e) * 64 + f) / 64 % 64 = e := by omega
  have hlast : (((k * 64 + d) * 64 + e) * 64 + f) % 64 = f := by omega
  simp only [String.utf8EncodeChar, hnumber, hfirst, hsecond, hthird, hlast]
  rw [if_neg (by omega), if_neg (by omega), if_neg (by omega)]

/-- Bytes that only follow others, and bytes that stand in no text. -/
theorem opening_gap (h : 128 ≤ b.toNat ∧ b.toNat < 194 ∨ 245 ≤ b.toNat) : opening b = .gap := by
  have hlt : ∀ m : UInt8, b < m ↔ b.toNat < m.toNat := fun _ => UInt8.lt_iff_toNat_lt
  have heq : ∀ m : UInt8, b = m ↔ b.toNat = m.toNat := fun _ => UInt8.toNat_inj.symm
  simp only [opening, beq_iff_eq, hlt, heq, UInt8.reduceToNat]
  rw [if_neg (by omega)]
  rcases h with ⟨_, hfollower⟩ | hout
  · rw [if_pos hfollower]
  · repeat rw [if_neg (by omega)]

theorem opening_cases (b : UInt8) :
    (∃ n < 128, b = .ofNat n) ∨ (∃ k, 2 ≤ k ∧ k < 32 ∧ b = .ofNat (k + 192)) ∨
      (∃ k < 16, b = .ofNat (k + 224)) ∨ (∃ k < 5, b = .ofNat (k + 240)) ∨ opening b = .gap := by
  have above : ∀ m ≤ b.toNat, b = .ofNat (b.toNat - m + m) := by
    intro m hm
    rw [Nat.sub_add_cancel hm, UInt8.ofNat_toNat]
  by_cases h₁ : b.toNat < 128
  · exact .inl ⟨b.toNat, h₁, UInt8.ofNat_toNat.symm⟩
  by_cases h₂ : b.toNat < 194
  · exact .inr (.inr (.inr (.inr (opening_gap (.inl ⟨by omega, h₂⟩)))))
  by_cases h₃ : b.toNat < 224
  · exact .inr (.inl ⟨b.toNat - 192, by omega, by omega, above 192 (by omega)⟩)
  by_cases h₄ : b.toNat < 240
  · exact .inr (.inr (.inl ⟨b.toNat - 224, by omega, above 224 (by omega)⟩))
  by_cases h₅ : b.toNat < 245
  · exact .inr (.inr (.inr (.inl ⟨b.toNat - 240, by omega, above 240 (by omega)⟩)))
  · exact .inr (.inr (.inr (.inr (opening_gap (.inr (by omega))))))

/-- A character that was begun goes on with a byte between its bounds. -/
theorem exists_follower {bs : Bytes} (h : none ∉ scanUtf8 (some s) bs) (hlow : 128 ≤ s.low.toNat)
    (hhigh : s.high.toNat < 192) : ∃ d rest, bs = .ofNat (d + 128) :: rest ∧ d < 64 ∧
      s.low.toNat ≤ d + 128 ∧ d + 128 ≤ s.high.toNat := by
  cases bs with
  | nil => simp [scanUtf8] at h
  | cons b rest =>
    by_cases hfits : s.low ≤ b ∧ b ≤ s.high
    · rw [UInt8.le_iff_toNat_le, UInt8.le_iff_toNat_le] at hfits
      refine ⟨b.toNat - 128, rest, ?_, by omega, by omega, by omega⟩
      rw [Nat.sub_add_cancel (by omega), UInt8.ofNat_toNat]
    · rw [scanUtf8, if_neg hfits] at h
      split at h
      · simp at h
      · simp at h
      · simp at h

theorem exists_char_two (low : 2 ≤ k) (high : k < 32)
    (h : none ∉ scanUtf8 none (.ofNat (k + 192) :: rest)) :
    ∃ c rest', .ofNat (k + 192) :: rest = String.utf8EncodeChar c ++ rest' := by
  rw [scan_opened (opening_two low high)] at h
  obtain ⟨d, rest, rfl, hd, -⟩ := exists_follower h (Nat.le_refl 128) (Nat.le_refl 192)
  exact ⟨Char.ofNat (k * 64 + d), rest, by rw [encode_two low high hd]; rfl⟩

theorem exists_char_three (high : k < 16)
    (h : none ∉ scanUtf8 none (.ofNat (k + 224) :: rest)) :
    ∃ c rest', .ofNat (k + 224) :: rest = String.utf8EncodeChar c ++ rest' := by
  rw [scan_opened (opening_three high)] at h
  obtain ⟨d, rest, rfl, hd, hlow, hhigh⟩ :=
    exists_follower h (by dsimp only; split <;> decide) (by dsimp only; split <;> decide)
  rw [scan_next 0 hd hlow hhigh] at h
  obtain ⟨e, rest, rfl, he, -⟩ := exists_follower h (Nat.le_refl 128) (Nat.le_refl 192)
  have hoverlong : k = 0 → 32 ≤ d := by
    intro hk
    have hlow : 160 ≤ d + 128 := by simpa [hk] using hlow
    omega
  have hsurrogate : k = 13 → d < 32 := by
    intro hk
    have hhigh : d + 128 ≤ 159 := by simpa [hk] using hhigh
    omega
  refine ⟨Char.ofNat ((k * 64 + d) * 64 + e), rest, ?_⟩
  rw [encode_three high hd he hoverlong hsurrogate]
  rfl

theorem exists_char_four (high : k < 5)
    (h : none ∉ scanUtf8 none (.ofNat (k + 240) :: rest)) :
    ∃ c rest', .ofNat (k + 240) :: rest = String.utf8EncodeChar c ++ rest' := by
  rw [scan_opened (opening_four high)] at h
  obtain ⟨d, rest, rfl, hd, hlow, hhigh⟩ :=
    exists_follower h (by dsimp only; split <;> decide) (by dsimp only; split <;> decide)
  rw [scan_next 1 hd hlow hhigh] at h
  obtain ⟨e, rest, rfl, he, hlow', hhigh'⟩ :=
    exists_follower h (Nat.le_refl 128) (Nat.le_refl 192)
  rw [scan_next 0 he hlow' hhigh'] at h
  obtain ⟨f, rest, rfl, hf, -⟩ := exists_follower h (Nat.le_refl 128) (Nat.le_refl 192)
  have hoverlong : k = 0 → 16 ≤ d := by
    intro hk
    have hlow : 144 ≤ d + 128 := by simpa [hk] using hlow
    omega
  have hrange : k = 4 → d < 16 := by
    intro hk
    have hhigh : d + 128 ≤ 143 := by simpa [hk] using hhigh
    omega
  refine ⟨Char.ofNat (((k * 64 + d) * 64 + e) * 64 + f), rest, ?_⟩
  rw [encode_four high hd he hf hoverlong hrange]
  rfl

/-- What is read without a gap begins with the bytes of a character. -/
theorem exists_char (h : none ∉ scanUtf8 none (b :: rest)) :
    ∃ c rest', b :: rest = String.utf8EncodeChar c ++ rest' := by
  obtain ⟨n, hn, rfl⟩ | ⟨k, hlow, hhigh, rfl⟩ | ⟨k, hhigh, rfl⟩ | ⟨k, hhigh, rfl⟩ | hgap :=
    opening_cases b
  · exact ⟨Char.ofNat n, rest, by rw [encode_one hn]; rfl⟩
  · exact exists_char_two hlow hhigh h
  · exact exists_char_three hhigh h
  · exact exists_char_four hhigh h
  · simp [scanUtf8, hgap] at h

theorem exists_chars {bs : Bytes} (h : none ∉ scanUtf8 none bs) :
    ∃ cs : List Char, bs = cs.flatMap String.utf8EncodeChar := by
  induction hlength : bs.length using Nat.strong_induction_on generalizing bs with
  | _ m ih =>
    cases bs with
    | nil => exact ⟨[], rfl⟩
    | cons b rest =>
      obtain ⟨c, rest', hbytes⟩ := exists_char h
      rw [hbytes] at h hlength ⊢
      rw [scan_char, List.mem_cons, not_or] at h
      have hfilled : 0 < (String.utf8EncodeChar c).length := by
        rw [String.length_utf8EncodeChar]
        exact c.utf8Size_pos
      rw [List.length_append] at hlength
      obtain ⟨cs, rfl⟩ := ih rest'.length (by omega) h.2 rfl
      exact ⟨c :: cs, rfl⟩

theorem eq_map_some_of_mapM_id {α : Type} {l : List (Option α)} {l' : List α}
    (h : l.mapM id = some l') : l = l'.map some := by
  induction l generalizing l' with
  | nil =>
    cases h
    rfl
  | cons x l ih =>
    simp only [List.mapM_cons, Option.bind_eq_bind, Option.bind_eq_some_iff] at h
    obtain ⟨a, rfl, rest, hrest, hcons⟩ := h
    cases hcons
    rw [ih hrest]
    rfl

/-- A text is read from its bytes alone. -/
theorem decodeUtf8_eq_some_iff {bs : Bytes} {s : String} :
    decodeUtf8? bs = some s ↔ bs = encodeUtf8 s := by
  constructor
  · intro h
    obtain ⟨cs, hmapM, rfl⟩ := Option.map_eq_some_iff.mp h
    have hscan : scanUtf8 none bs = cs.map some := eq_map_some_of_mapM_id hmapM
    obtain ⟨cs', rfl⟩ := exists_chars (by simp [hscan] : none ∉ scanUtf8 none bs)
    rw [scan_chars] at hscan
    have hcs : cs' = cs := (List.map_inj_right fun _ _ => Option.some.inj).mp hscan
    rw [encodeUtf8, String.toList_ofList, hcs]
  · rintro rfl
    exact decodeUtf8_encodeUtf8 s

end ShopRelay.Text
