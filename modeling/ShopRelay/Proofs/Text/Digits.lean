import Mathlib.Data.List.Basic
import Mathlib.Data.List.Induction
import ShopRelay.Text.Digits

/-!
Written numbers read back: with a sign, and in a fixed number of digits. A number with a sign is
read from all texts in which it is written, and printed in the one that is canonical.
-/

namespace ShopRelay.Text

variable {n : Nat} {c : Char}

theorem digits_ne_nil (n : Nat) : digits n ≠ [] := Nat.toDigits_ne_nil

theorem digits_zero : digits 0 = ['0'] := by decide

/-- The digits of a number other than zero do not begin with a zero. -/
theorem head_digits (n : Nat) (hn : n ≠ 0) :
    ∃ c cs, digits n = c :: cs ∧ c ≠ '0' ∧ c.isDigit = true := by
  induction n using Nat.strongRecOn with
  | _ n ih =>
    unfold digits at ih ⊢
    by_cases hlt : n < 10
    · have hchar : ∀ k, k < 10 → k ≠ 0 → k.digitChar ≠ '0' ∧ k.digitChar.isDigit = true := by decide
      rw [Nat.toDigits_of_lt_base hlt]
      exact ⟨_, [], rfl, hchar n hlt hn⟩
    · obtain ⟨c, cs, hcs, hc⟩ := ih (n / 10) (by omega) (by omega)
      rw [Nat.toDigits_of_base_le (by decide) (Nat.le_of_not_lt hlt), hcs]
      exact ⟨c, _, rfl, hc⟩

theorem digits_cons (n : Nat) : ∃ c cs, digits n = c :: cs ∧ c.isDigit = true := by
  by_cases hn : n = 0
  · subst hn
    exact ⟨'0', [], digits_zero, rfl⟩
  · obtain ⟨c, cs, hcs, -, hdigit⟩ := head_digits n hn
    exact ⟨c, cs, hcs, hdigit⟩

theorem toNat_of_isDigit (hc : c.isDigit = true) :
    c.toNat = 48 + digitValue c ∧ digitValue c < 10 := by
  obtain ⟨hlow, hhigh⟩ := Char.isDigit_iff_toNat.mp hc
  change 48 ≤ c.toNat at hlow
  change c.toNat ≤ 57 at hhigh
  unfold digitValue
  omega

theorem digits_digitValue (hc : c.isDigit = true) : digits (digitValue c) = [c] := by
  obtain ⟨hnumber, hlt⟩ := toNat_of_isDigit hc
  have hchar : (digitValue c).digitChar = c := by
    rw [← Char.toNat_inj, Nat.toNat_digitChar_of_lt_ten hlt, hnumber]
  rw [digits, Nat.toDigits_of_lt_base hlt, hchar]

theorem ofDigitChars_cons (c : Char) (ds : List Char) (m : Nat) :
    Nat.ofDigitChars 10 (c :: ds) m = Nat.ofDigitChars 10 ds (m * 10 + digitValue c) := by
  rw [Nat.ofDigitChars_cons, Nat.mul_comm 10 m]
  rfl

theorem le_ofDigitChars (ds : List Char) (m : Nat) : m ≤ Nat.ofDigitChars 10 ds m := by
  induction ds generalizing m with
  | nil => exact Nat.le_refl m
  | cons c ds ih =>
    rw [ofDigitChars_cons]
    exact Nat.le_trans (by omega) (ih (m * 10 + digitValue c))

/-- A number is not zero when it begins with another digit. -/
theorem ofDigits_pos (hc : c.isDigit = true) (hne : c ≠ '0') (ds : List Char) :
    0 < ofDigits (c :: ds) := by
  obtain ⟨hnumber, -⟩ := toNat_of_isDigit hc
  have hvalue : digitValue c ≠ 0 := by
    intro hzero
    rw [hzero] at hnumber
    exact hne (Char.toNat_inj.mp hnumber)
  have hle := le_ofDigitChars ds (0 * 10 + digitValue c)
  rw [ofDigits, ofDigitChars_cons]
  omega

theorem addDigits_digits {limit : Nat} {ds : List Char} (hds : ∀ c ∈ ds, c.isDigit = true)
    (hfits : Nat.ofDigitChars 10 ds n < limit) :
    addDigits limit n ds = .ok (Nat.ofDigitChars 10 ds n) := by
  induction ds generalizing n with
  | nil => rfl
  | cons c ds ih =>
    rw [ofDigitChars_cons] at hfits ⊢
    have hc : c.isDigit = true := hds c List.mem_cons_self
    have hroom : n * 10 + digitValue c < limit :=
      Nat.lt_of_le_of_lt (le_ofDigitChars ds _) hfits
    rw [addDigits, if_neg (by simp [hc]), if_pos hroom,
      ih (fun d hd => hds d (List.mem_cons_of_mem c hd)) hfits]

/-- Digits are read as their number, also with a plus sign in front. -/
theorem readNatural_digits {limit : Nat} {ds : List Char} (hne : ds ≠ [])
    (hds : ∀ c ∈ ds, c.isDigit = true) (hfits : ofDigits ds < limit) :
    readNatural limit (String.ofList ds) = .ok (ofDigits ds) ∧
      readNatural limit (String.ofList ('+' :: ds)) = .ok (ofDigits ds) := by
  have hread : addDigits limit 0 ds = .ok (ofDigits ds) := addDigits_digits hds hfits
  obtain ⟨c, cs, rfl⟩ := List.exists_cons_of_ne_nil hne
  have hc : c.isDigit = true := hds c List.mem_cons_self
  constructor
  · rw [readNatural, String.toList_ofList]
    split
    · next heq => cases heq
    · next heq =>
      cases heq
      cases hc
    · next heq =>
      cases heq
      cases hc
    · exact hread
  · rw [readNatural, String.toList_ofList]
    exact hread

theorem mem_intDigits {m : Int} (h : c ∈ intDigits m) : c = '-' ∨ c.isDigit = true := by
  unfold intDigits at h
  split at h
  · exact (List.mem_cons.mp h).imp_right isDigit_of_mem_digits
  · exact .inr (isDigit_of_mem_digits h)

theorem digits_inj {m n : Nat} (h : digits m = digits n) : m = n := by
  rw [← ofDigits_digits m, h, ofDigits_digits]

/-- The sign is not a digit, so numbers that are written alike are equal. -/
theorem intDigits_inj {m n : Int} (h : intDigits m = intDigits n) : m = n := by
  have unsigned : ∀ k : Nat, '-' ∉ digits k := fun k hk => by cases isDigit_of_mem_digits hk
  unfold intDigits at h
  split at h
  · split at h
    · have := digits_inj (List.cons.inj h).2
      omega
    · exact absurd (h ▸ List.mem_cons_self) (unsigned n.natAbs)
  · split at h
    · exact absurd (h ▸ List.mem_cons_self) (unsigned m.natAbs)
    · have := digits_inj h
      omega

/-- Digits with an optional sign, and the number that they stand for. -/
inductive Signed : List Char → Int → Prop where
  | plain {ds : List Char} (filled : ds ≠ []) (digits : ∀ c ∈ ds, c.isDigit = true) :
      Signed ds (ofDigits ds)
  | plus {ds : List Char} (filled : ds ≠ []) (digits : ∀ c ∈ ds, c.isDigit = true) :
      Signed ('+' :: ds) (ofDigits ds)
  | minus {ds : List Char} (filled : ds ≠ []) (digits : ∀ c ∈ ds, c.isDigit = true) :
      Signed ('-' :: ds) (-ofDigits ds)

theorem signed_plus {ds : List Char} {m : Int} :
    Signed ('+' :: ds) m ↔ ds ≠ [] ∧ (∀ c ∈ ds, c.isDigit = true) ∧ m = ofDigits ds := by
  constructor
  · intro h
    cases h with
    | plain _ digits => cases digits '+' List.mem_cons_self
    | plus filled digits => exact ⟨filled, digits, rfl⟩
  · rintro ⟨filled, digits, rfl⟩
    exact .plus filled digits

theorem signed_minus {ds : List Char} {m : Int} :
    Signed ('-' :: ds) m ↔ ds ≠ [] ∧ (∀ c ∈ ds, c.isDigit = true) ∧ m = -ofDigits ds := by
  constructor
  · intro h
    cases h with
    | plain _ digits => cases digits '-' List.mem_cons_self
    | minus filled digits => exact ⟨filled, digits, rfl⟩
  · rintro ⟨filled, digits, rfl⟩
    exact .minus filled digits

theorem signed_unsigned {ds : List Char} {m : Int} (hplus : ∀ rest, ds ≠ '+' :: rest)
    (hminus : ∀ rest, ds ≠ '-' :: rest) :
    Signed ds m ↔ ds ≠ [] ∧ (∀ c ∈ ds, c.isDigit = true) ∧ m = ofDigits ds := by
  constructor
  · intro h
    cases h with
    | plain filled digits => exact ⟨filled, digits, rfl⟩
    | plus => exact absurd rfl (hplus _)
    | minus => exact absurd rfl (hminus _)
  · rintro ⟨filled, digits, rfl⟩
    exact .plain filled digits

theorem Signed.mem {cs : List Char} {m : Int} (h : Signed cs m) (hc : c ∈ cs) :
    c = '+' ∨ c = '-' ∨ c.isDigit = true := by
  cases h with
  | plain _ digits => exact .inr (.inr (digits c hc))
  | plus _ digits => exact (List.mem_cons.mp hc).imp_right fun hc => .inr (digits c hc)
  | minus _ digits => exact .inr ((List.mem_cons.mp hc).imp_right (digits c))

/-- What is read of the digits after a sign. -/
theorem signedValue_eq_some_iff {sign m : Int} {ds : List Char} :
    (if ds.isEmpty || !ds.all Char.isDigit then none
      else if isInt64 (sign * ofDigits ds) then some (sign * ofDigits ds : Int) else none) =
        some m ↔
    (ds ≠ [] ∧ (∀ c ∈ ds, c.isDigit = true) ∧ m = sign * ofDigits ds) ∧ isInt64 m = true := by
  constructor
  · intro h
    split at h
    · cases h
    · next hds =>
      split at h
      · next hrange =>
        cases h
        simp only [Bool.or_eq_true, List.isEmpty_iff, Bool.not_eq_true', not_or,
          Bool.not_eq_false, List.all_eq_true] at hds
        exact ⟨⟨hds.1, hds.2, rfl⟩, hrange⟩
      · cases h
  · rintro ⟨⟨filled, digits, rfl⟩, hrange⟩
    rw [if_neg (by simpa [filled] using digits), if_pos hrange]

/-- A number is read from the texts in which it is written, if it is in range. -/
theorem readInt64_eq_some_iff {s : String} {m : Int} :
    readInt64? s = some m ↔ Signed s.toList m ∧ isInt64 m = true := by
  unfold readInt64?
  split
  rename_i sign ds hsplit
  dsimp only
  rw [signedValue_eq_some_iff]
  split at hsplit
  · next heq =>
    cases hsplit
    rw [heq, signed_minus]
    simp
  · next heq =>
    cases hsplit
    rw [heq, signed_plus]
    simp
  · next hminus hplus =>
    cases hsplit
    rw [signed_unsigned hplus hminus]
    simp

theorem signed_intDigits (m : Int) : Signed (intDigits m) m := by
  have hdigits : ∀ c ∈ digits m.natAbs, c.isDigit = true := fun _ => isDigit_of_mem_digits
  have hsigned := Signed.plain (digits_ne_nil m.natAbs) hdigits
  have hnegated := Signed.minus (digits_ne_nil m.natAbs) hdigits
  rw [ofDigits_digits] at hsigned hnegated
  unfold intDigits
  split
  · next hneg => rwa [Int.ofNat_natAbs_of_nonpos (by omega), Int.neg_neg] at hnegated
  · next hneg => rwa [Int.natAbs_of_nonneg (by omega)] at hsigned

theorem readInt64_intDigits {m : Int} (h : isInt64 m = true) :
    readInt64? (String.ofList (intDigits m)) = some m := by
  rw [readInt64_eq_some_iff, String.toList_ofList]
  exact ⟨signed_intDigits m, h⟩

theorem ofDigits_append (ds : List Char) (c : Char) :
    ofDigits (ds ++ [c]) = 10 * ofDigits ds + digitValue c := by
  unfold ofDigits
  rw [Nat.ofDigitChars_append, Nat.ofDigitChars_cons]
  rfl

/-- Digits without a zero in front are the digits of their number. -/
theorem digits_ofDigits {ds : List Char} (hc : c ≠ '0') (hds : ∀ d ∈ c :: ds, d.isDigit = true) :
    digits (ofDigits (c :: ds)) = c :: ds := by
  -- the last digit is the remainder, and what stands before it is not zero
  induction ds using List.reverseRecOn with
  | nil =>
    have hvalue : ofDigits [c] = digitValue c := by simpa [ofDigits] using ofDigits_append [] c
    rw [hvalue, digits_digitValue (hds c List.mem_cons_self)]
  | append_singleton init d ih =>
    have hd : d.isDigit = true := hds d (by simp)
    have hinit : digits (ofDigits (c :: init)) = c :: init :=
      ih fun e he => hds e (List.mem_append_left [d] he)
    have hpos := ofDigits_pos (hds c List.mem_cons_self) hc init
    have hlt : digitValue d < 10 := (toNat_of_isDigit hd).2
    have happend := Nat.toDigits_append_toDigits (b := 10) (by decide) hpos hlt
    change digits _ ++ digits _ = digits _ at happend
    rw [← List.cons_append, ofDigits_append, ← happend, hinit, digits_digitValue hd]

/-- No plus sign, no zeros in front and no minus sign before zero. -/
structure Canonical (cs : List Char) : Prop where
  unsigned : ∀ rest, cs ≠ '+' :: rest
  unpadded : ∀ rest, cs = '0' :: rest → rest = []
  unpadded_minus : ∀ rest, cs ≠ '-' :: '0' :: rest

theorem canonical_intDigits (m : Int) : Canonical (intDigits m) where
  unsigned rest heq := by
    have hmem : '+' ∈ intDigits m := heq ▸ List.mem_cons_self
    rcases mem_intDigits hmem with h | h
    · cases h
    · cases h
  unpadded rest heq := by
    unfold intDigits at heq
    split at heq
    · cases heq
    · by_cases hzero : m.natAbs = 0
      · rw [hzero, digits_zero] at heq
        exact (List.cons.inj heq).2.symm
      · obtain ⟨c, cs, hcs, hc, -⟩ := head_digits m.natAbs hzero
        rw [hcs] at heq
        exact absurd (List.cons.inj heq).1 hc
  unpadded_minus rest heq := by
    unfold intDigits at heq
    split at heq
    · next hneg =>
      obtain ⟨c, cs, hcs, hc, -⟩ := head_digits m.natAbs (by omega)
      rw [hcs] at heq
      exact absurd (List.cons.inj (List.cons.inj heq).2).1 hc
    · have hmem : '-' ∈ digits m.natAbs := heq ▸ List.mem_cons_self
      cases isDigit_of_mem_digits hmem

/-- A number is written as it is printed exactly when it is written in its canonical form. -/
theorem intDigits_eq_iff {cs : List Char} {m : Int} (h : Signed cs m) :
    intDigits m = cs ↔ Canonical cs := by
  constructor
  · rintro rfl
    exact canonical_intDigits m
  · intro hcs
    cases h with
    | plus => exact absurd rfl (hcs.unsigned _)
    | plain filled hdigits =>
      obtain ⟨c, ds, rfl⟩ := List.exists_cons_of_ne_nil filled
      by_cases hc : c = '0'
      · rw [hc, hcs.unpadded ds (hc ▸ rfl)]
        decide
      · rw [intDigits, if_neg (by omega), Int.natAbs_natCast, digits_ofDigits hc hdigits]
    | minus filled hdigits =>
      obtain ⟨c, ds, rfl⟩ := List.exists_cons_of_ne_nil filled
      have hc : c ≠ '0' := fun hc => hcs.unpadded_minus ds (hc ▸ rfl)
      have hds := digits_ofDigits hc hdigits
      have hpos := ofDigits_pos (hdigits c List.mem_cons_self) hc ds
      rw [intDigits, if_pos (by omega), Int.natAbs_neg, Int.natAbs_natCast, hds]

variable {width : Nat}

theorem isDigit_of_mem_paddedDigits (h : c ∈ paddedDigits width n) : c.isDigit = true := by
  rcases List.mem_append.mp h with h | h
  · rw [List.eq_of_mem_replicate h]
    rfl
  · exact isDigit_of_mem_digits h

theorem not_mem_paddedDigits (hc : c.isDigit = false) : c ∉ paddedDigits width n := by
  intro h
  rw [isDigit_of_mem_paddedDigits h] at hc
  cases hc

theorem paddedDigits_length (hwidth : 0 < width) (h : n < Nat.pow 10 width) :
    (paddedDigits width n).length = width := by
  have hfits : (digits n).length ≤ width := (Nat.length_toDigits_le_iff (by decide) hwidth).mpr h
  simp [paddedDigits, hfits]

theorem le_paddedDigits_length : width ≤ (paddedDigits width n).length := by
  rw [paddedDigits, List.length_append, List.length_replicate]
  omega

theorem paddedDigits_ne_nil : paddedDigits width n ≠ [] :=
  List.append_ne_nil_of_right_ne_nil _ (digits_ne_nil n)

theorem ofDigits_paddedDigits : ofDigits (paddedDigits width n) = n := by
  unfold ofDigits paddedDigits
  rw [Nat.ofDigitChars_append, Nat.ofDigitChars_replicate_zero, Nat.mul_zero]
  exact ofDigits_digits n

end ShopRelay.Text
