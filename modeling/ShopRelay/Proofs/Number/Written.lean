import Mathlib.Algebra.Order.Field.Basic
import Mathlib.Algebra.Order.Ring.Rat
import Mathlib.Data.List.TakeWhile
import Mathlib.Tactic.Positivity
import ShopRelay.Proofs.Number.Decimal

/-!
The rational number that an amount stands for, and the one that is written. Where the number fits,
reading loses nothing of it.
-/

namespace ShopRelay.Number.Decimal

open Text (ofDigits)

/-- The number with the given sign and digits, the last ones after the point. -/
def amount (negative : Bool) (mantissa scale : ℕ) : ℚ :=
  (if negative then -1 else 1) * mantissa / 10 ^ scale

def value (d : Decimal) : ℚ := amount d.negative d.mantissa d.scale

theorem abs_amount (negative : Bool) (mantissa scale : ℕ) :
    |amount negative mantissa scale| = mantissa / 10 ^ scale := by
  have hnonneg : (0 : ℚ) ≤ mantissa / 10 ^ scale := by positivity
  cases negative with
  | false => simp only [amount, Bool.false_eq_true, if_false, one_mul, abs_of_nonneg hnonneg]
  | true => simp only [amount, if_true, neg_one_mul, neg_div, abs_neg, abs_of_nonneg hnonneg]

theorem amount_places (negative : Bool) (mantissa scale n : ℕ) :
    amount negative mantissa (scale + n) * 10 ^ n = amount negative mantissa scale := by
  rw [amount, amount, pow_add, ← div_div, div_mul_cancel₀ _ (by positivity)]

theorem amount_times (negative : Bool) (mantissa scale n : ℕ) :
    amount negative (mantissa * 10 ^ n) scale = amount negative mantissa scale * 10 ^ n := by
  rw [amount, amount, Nat.cast_mul, Nat.cast_pow, Nat.cast_ofNat, ← mul_assoc, div_mul_eq_mul_div]

theorem exists_ofParts (negative : Bool) {mantissa scale : ℕ} (hfits : mantissa < limit)
    (hscale : scale ≤ 28) : ∃ d, ofParts? negative mantissa scale = some d ∧
      d.value = amount negative mantissa scale ∧ d.scale = scale := by
  refine ⟨_, dif_pos ⟨hfits, hscale⟩, ?_, rfl⟩
  by_cases hzero : mantissa = 0
  · simp [value, amount, hzero]
  · have hsign : (mantissa != 0 && negative) = negative := by simp [hzero]
    exact congrArg (amount · mantissa scale) hsign

/-- Moving the point to the left divides exactly where there is room for the places. -/
theorem exists_moveLeft {d : Decimal} {n : ℕ} (hroom : d.scale + n ≤ 28) :
    ∃ d', moveLeft? d n = some d' ∧ d'.value = d.value / 10 ^ n := by
  obtain ⟨d', hparts, hvalue, -⟩ := exists_ofParts d.negative d.mantissa_lt hroom
  have hn : ¬28 < n := by omega
  refine ⟨d', by rw [moveLeft?, if_neg hn, if_pos hroom, hparts], ?_⟩
  rw [hvalue, eq_div_iff (by positivity), amount_places]
  rfl

/-- Moving the point to the right multiplies exactly where the number fits. -/
theorem exists_moveRight {d : Decimal} {n : ℕ} (hn : n ≤ 28) (hfits : |d.value * 10 ^ n| < limit) :
    ∃ d', moveRight? d n = some d' ∧ d'.value = d.value * 10 ^ n := by
  by_cases hplaces : n ≤ d.scale
  · have hscale : d.scale - n ≤ 28 := Nat.le_trans (Nat.sub_le d.scale n) d.scale_le
    obtain ⟨d', hparts, hvalue, -⟩ := exists_ofParts d.negative d.mantissa_lt hscale
    refine ⟨d', by rw [moveRight?, if_pos hplaces, hparts], ?_⟩
    rw [hvalue, ← amount_places d.negative d.mantissa (d.scale - n) n, Nat.sub_add_cancel hplaces]
    rfl
  · have hless : d.scale ≤ n := by omega
    have hvalue : amount d.negative (d.mantissa * 10 ^ (n - d.scale)) 0 = d.value * 10 ^ n := calc
      _ = amount d.negative d.mantissa 0 * 10 ^ (n - d.scale) := amount_times _ _ _ _
      _ = d.value * 10 ^ d.scale * 10 ^ (n - d.scale) := by
        rw [← amount_places d.negative d.mantissa 0 d.scale, Nat.zero_add]
        rfl
      _ = d.value * 10 ^ n := by rw [mul_assoc, ← pow_add, Nat.add_sub_cancel' hless]
    have hmantissa : d.mantissa * 10 ^ (n - d.scale) < limit := by
      rw [← hvalue, abs_amount, pow_zero, div_one] at hfits
      exact mod_cast hfits
    obtain ⟨d', hparts, hd', -⟩ := exists_ofParts d.negative hmantissa (Nat.zero_le 28)
    refine ⟨d', ?_, hd'.trans hvalue⟩
    rw [moveRight?, if_neg hplaces, if_neg (by omega)]
    exact hparts

/-- The exponent of a number: `e` or `E`, an optional sign and some digits. -/
structure Exponent where
  capital : Bool
  sign : Sign
  digits : List Char
  filled : digits ≠ []
  decimal : ∀ c ∈ digits, c.isDigit = true

namespace Exponent

def mark (x : Exponent) : Char := if x.capital then 'E' else 'e'

def chars (x : Exponent) : List Char := x.mark :: (x.sign.chars ++ x.digits)

def size (x : Exponent) : ℕ := ofDigits x.digits

/-- The places that a negative exponent adds. -/
def places (x : Exponent) : ℕ := if x.sign.negative then x.size else 0

/-- The power of ten. -/
def factor (x : Exponent) : ℚ := if x.sign.negative then 1 / 10 ^ x.size else 10 ^ x.size

theorem mark_cases (x : Exponent) : x.mark = 'e' ∨ x.mark = 'E' := by
  cases h : x.capital <;> simp [mark, h]

theorem mark_stray (x : Exponent) : Stray x.mark := by
  rcases x.mark_cases with h | h
  · rw [h]
    exact ⟨rfl, by decide⟩
  · rw [h]
    exact ⟨rfl, by decide⟩

end Exponent

/-- A number as it may be written, with an exponent or without. -/
structure Written extends Plain where
  exponent? : Option Exponent

namespace Written

def chars (w : Written) : List Char := w.toPlain.chars ++ w.exponent?.elim [] Exponent.chars

/-- The number that is written. -/
def value (w : Written) : ℚ :=
  amount w.sign.negative w.mantissa w.places.length * w.exponent?.elim 1 Exponent.factor

/-- A written number fits when its digits, its places and its magnitude do. -/
structure Fits (w : Written) : Prop where
  exponent : ∀ x ∈ w.exponent?, x.size ≤ 28
  digits : w.mantissa < limit
  places : w.places.length + w.exponent?.elim 0 Exponent.places ≤ 28
  magnitude : |w.value| < limit

end Written

theorem Plain.exists_readPlain (n : Plain) (hscale : n.places.length ≤ 28)
    (hfits : n.mantissa < limit) : ∃ d, readPlain? n.chars = some d ∧
      d.value = amount n.sign.negative n.mantissa n.places.length ∧ d.scale = n.places.length := by
  rw [n.readPlain_chars hscale hfits]
  exact exists_ofParts n.sign.negative hfits hscale

/-- What has an exponent is not in plain notation. -/
theorem readPlain_marked (n : Plain) (x : Exponent) : readPlain? (n.chars ++ x.chars) = none :=
  x.mark_stray.readPlain_eq (List.mem_append_right _ List.mem_cons_self)

theorem readExponent_digits (x : Exponent) (hsize : x.size ≤ 28) :
    readExponent? x.digits = some x.size ∧ readExponent? ('+' :: x.digits) = some x.size := by
  have hfits : ofDigits x.digits < UInt32.size := Nat.lt_of_le_of_lt hsize (by decide)
  obtain ⟨hbare, hplus⟩ := Text.readNatural_digits x.filled x.decimal hfits
  exact ⟨by rw [readExponent?, hbare]; rfl, by rw [readExponent?, hplus]; rfl⟩

/-- The first mark stands at the exponent. -/
theorem divide_chars (n : Plain) (x : Exponent) :
    (n.chars ++ x.chars).takeWhile (fun c => !(c == 'e' || c == 'E')) = n.chars ∧
      (n.chars ++ x.chars).dropWhile (fun c => !(c == 'e' || c == 'E')) = x.chars := by
  have hbefore : ∀ c ∈ n.chars, (!(c == 'e' || c == 'E')) = true := n.chars_unmarked
  rw [List.takeWhile_append_of_pos hbefore, List.dropWhile_append_of_pos hbefore]
  rcases x.mark_cases with hmark | hmark <;> simp [Exponent.chars, hmark]

/-- An exponent moves the point of the number before it. -/
theorem readScientific_chars (n : Plain) (x : Exponent) (hsize : x.size ≤ 28) :
    readScientific? (n.chars ++ x.chars) = (readPlain? n.chars).bind fun d =>
      if x.sign.negative then moveLeft? d x.size else moveRight? d x.size := by
  obtain ⟨hbefore, hafter⟩ := divide_chars n x
  obtain ⟨hbare, hplus⟩ := readExponent_digits x hsize
  rw [readScientific?, hbefore, hafter, Exponent.chars]
  cases hsign : x.sign with
  | none =>
    obtain ⟨c, cs, hcs⟩ := List.exists_cons_of_ne_nil x.filled
    have hc : c ≠ '-' := by
      rintro rfl
      have hdigit := x.decimal '-' (hcs ▸ List.mem_cons_self)
      cases hdigit
    rw [hcs] at hbare ⊢
    simp [Sign.chars, Sign.negative, hbare, hc]
  | plus => simp [Sign.chars, Sign.negative, hplus]
  | minus => simp [Sign.chars, Sign.negative, hbare]

theorem exists_readScientific (n : Plain) (x : Exponent) (h : Written.Fits ⟨n, some x⟩) :
    ∃ d, readScientific? (n.chars ++ x.chars) = some d ∧ d.value = Written.value ⟨n, some x⟩ := by
  have hsize : x.size ≤ 28 := h.exponent x rfl
  obtain ⟨d, hplain, hvalue, hscale⟩ :=
    n.exists_readPlain (Nat.le_trans (Nat.le_add_right _ _) h.places) h.digits
  rw [readScientific_chars n x hsize, hplain, Option.bind_some]
  have hwritten : Written.value ⟨n, some x⟩ = d.value * x.factor := by
    rw [hvalue]
    rfl
  rw [hwritten]
  cases hsign : x.sign.negative with
  | true =>
    have hroom : d.scale + x.size ≤ 28 := by
      have hplaces : n.places.length + (if x.sign.negative then x.size else 0) ≤ 28 := h.places
      rwa [hsign, if_pos rfl, ← hscale] at hplaces
    have hfactor : x.factor = 1 / 10 ^ x.size := by rw [Exponent.factor, hsign, if_pos rfl]
    obtain ⟨d', hmove, hd'⟩ := exists_moveLeft hroom
    exact ⟨d', hmove, by rw [hd', hfactor, mul_one_div]⟩
  | false =>
    have hfactor : x.factor = 10 ^ x.size := by rw [Exponent.factor, hsign, if_neg nofun]
    have hfits : |d.value * 10 ^ x.size| < limit := by
      rw [← hfactor, ← hwritten]
      exact h.magnitude
    obtain ⟨d', hmove, hd'⟩ := exists_moveRight hsize hfits
    exact ⟨d', hmove, by rw [hd', hfactor]⟩

/-- A written number that fits is read as exactly this number; in plain notation also with as many
places as are written. -/
theorem exists_read {w : Written} (h : w.Fits) : ∃ d, readChars? w.chars = some d ∧
    d.value = w.value ∧ (w.exponent? = none → d.scale = w.places.length) := by
  obtain ⟨n, exponent?⟩ := w
  cases exponent? with
  | none =>
    obtain ⟨d, hread, hvalue, hscale⟩ := n.exists_readPlain h.places h.digits
    refine ⟨d, ?_, hvalue.trans (mul_one _).symm, fun _ => hscale⟩
    have hchars : Written.chars ⟨n, none⟩ = n.chars := List.append_nil _
    rw [hchars, readChars?, hread]
    rfl
  | some x =>
    obtain ⟨d, hread, hvalue⟩ := exists_readScientific n x h
    refine ⟨d, ?_, hvalue, fun hplain => absurd hplain (Option.some_ne_none x)⟩
    have hchars : Written.chars ⟨n, some x⟩ = n.chars ++ x.chars := rfl
    rw [hchars, readChars?, readPlain_marked, hread]
    rfl

/-- A whole part that does not fit is not read at all. -/
theorem readChars_overflow (n : Plain) (hover : limit ≤ ofDigits n.whole) :
    readChars? n.chars = none := by
  have hunmarked : ∀ c ∈ n.chars, (!(c == 'e' || c == 'E')) = true := n.chars_unmarked
  have hplain : readPlain? n.chars = none := n.readPlain_overflow hover
  have hscientific : readScientific? n.chars = none := by
    rw [readScientific?, List.takeWhile_eq_self_iff.mpr hunmarked, hplain]
    rfl
  rw [readChars?, hplain, hscientific]
  rfl

end ShopRelay.Number.Decimal
