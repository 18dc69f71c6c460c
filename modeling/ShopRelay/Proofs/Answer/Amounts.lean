import Mathlib.Tactic.NormNum
import ShopRelay.Answer.Coercion
import ShopRelay.Proofs.Number.Written

/-!
Amounts in an app's answer are exactly what is written there, or there is no amount.
-/

namespace ShopRelay.Answer

open Json Number Decimal
open Text (digits intDigits minInt64 maxUInt64 ofDigits)

/-- What is read as an amount: the JSON text of a number, or a string without the blanks around
it. -/
def written? : Value → Option String
  | .str s => some (Text.trim s)
  | .int n => some (Value.int n).print
  | .float x => some (Value.float x).print
  | _ => none

theorem toDecimal_written {v : Value} {s : String} (h : written? v = some s) :
    toDecimal? v = readChars? s.toList := by
  cases v <;> cases h <;> rfl

/-- A whole number as it is written. -/
def wholeNumber (n : Int) : Written where
  sign := if n < 0 then .minus else .none
  whole := digits n.natAbs
  places? := none
  filled := by simpa using Text.digits_ne_nil n.natAbs
  decimal c hc := Text.isDigit_of_mem_digits (by simpa using hc)
  exponent? := none

theorem wholeNumber_chars (n : Int) : (wholeNumber n).chars = intDigits n := by
  by_cases h : n < 0 <;>
    simp [Written.chars, Plain.chars, Plain.unsigned, wholeNumber, Sign.chars, intDigits, h]

theorem wholeNumber_mantissa (n : Int) : (wholeNumber n).mantissa = n.natAbs := by
  rw [Plain.mantissa, wholeNumber, Plain.places, Option.getD_none, List.append_nil,
    Text.ofDigits_digits]

theorem wholeNumber_value (n : Int) : (wholeNumber n).value = n := by
  have hplaces : (wholeNumber n).places.length = 0 := rfl
  have hexponent : (wholeNumber n).exponent? = none := rfl
  rw [Written.value, wholeNumber_mantissa, hplaces, hexponent, Option.elim_none, mul_one, amount,
    pow_zero, div_one, Nat.cast_natAbs]
  by_cases h : n < 0
  · simp [wholeNumber, Sign.negative, h, abs_of_neg h]
  · simp [wholeNumber, Sign.negative, h, abs_of_nonneg (not_lt.mp h)]

theorem wholeNumber_fits {n : Int} (hmin : minInt64 ≤ n) (hmax : n ≤ maxUInt64) :
    (wholeNumber n).Fits := by
  have hbound : |n| < (limit : Int) := by
    simp only [minInt64, maxUInt64, limit] at hmin hmax ⊢
    rw [abs_lt]
    omega
  refine ⟨nofun, ?_, Nat.zero_le 28, ?_⟩
  · rw [wholeNumber_mantissa]
    rw [← Int.natCast_natAbs] at hbound
    exact mod_cast hbound
  · rw [wholeNumber_value]
    exact mod_cast hbound

/-- A whole number of 64 bits and whatever else is written and fits is read as exactly this number,
in plain notation with as many places as are written. A whole part that does not fit gives no
amount. -/
theorem amounts_exact :
    (∀ n : Int, minInt64 ≤ n → n ≤ maxUInt64 →
      ∃ d, toDecimal? (.int n) = some d ∧ d.value = n ∧ d.scale = 0) ∧
    (∀ (v : Value) (s : String) (w : Written), written? v = some s → s.toList = w.chars → w.Fits →
      ∃ d, toDecimal? v = some d ∧ d.value = w.value ∧
        (w.exponent? = none → d.scale = w.places.length)) ∧
    ∀ (v : Value) (s : String) (n : Plain), written? v = some s → s.toList = n.chars →
      limit ≤ ofDigits n.whole → toDecimal? v = none := by
  refine ⟨?_, ?_, ?_⟩
  · intro n hmin hmax
    obtain ⟨d, hread, hvalue, hscale⟩ := exists_read (wholeNumber_fits hmin hmax)
    refine ⟨d, ?_, hvalue.trans (wholeNumber_value n), hscale rfl⟩
    have hprint : (Value.int n).print.toList = intDigits n := String.toList_ofList
    rw [toDecimal_written rfl, hprint, ← wholeNumber_chars, hread]
  · intro v s w hv hs hfits
    rw [toDecimal_written hv, hs]
    exact exists_read hfits
  · intro v s n hv hs hover
    rw [toDecimal_written hv, hs]
    exact readChars_overflow n hover

/-- Twelve and a half, in thousandths, below zero. -/
def thousandths : Written where
  sign := .minus
  whole := ['1', '2']
  places? := some ['5', '0']
  exponent? := some ⟨false, .minus, ['0', '3'], List.cons_ne_nil _ _, List.all_eq_true.mp rfl⟩
  filled := List.cons_ne_nil _ _
  decimal := List.all_eq_true.mp rfl

theorem thousandths_value : thousandths.value = -1 / 80 := by
  have hmantissa : thousandths.mantissa = 1250 := by decide
  have hfactor : thousandths.exponent?.elim 1 Exponent.factor = 1 / 10 ^ 3 := rfl
  rw [Written.value, hmantissa, hfactor]
  norm_num [amount, thousandths, Sign.negative, Plain.places]

theorem thousandths_fits : thousandths.Fits where
  exponent x hx := by
    cases hx
    decide
  digits := by decide
  places := by decide
  magnitude := by
    rw [thousandths_value, abs_lt]
    norm_num [limit]

/-- A whole part of two to the 96th. -/
def outsized : Plain where
  sign := .plus
  whole := digits limit
  places? := some []
  filled := by simpa using Text.digits_ne_nil limit
  decimal c hc := Text.isDigit_of_mem_digits (by simpa using hc)

theorem amounts_exact_kinds :
    (∃ d, toDecimal? (.int maxUInt64) = some d ∧ d.value = (maxUInt64 : ℚ) ∧ d.scale = 0) ∧
    (∃ d, toDecimal? (.str " -12.50e-03\n") = some d ∧ d.value = -1 / 80) ∧
    toDecimal? (.str "+79228162514264337593543950336.") = none := by
  obtain ⟨hint, hwritten, houtsized⟩ := amounts_exact
  refine ⟨hint maxUInt64 (by decide) (Int.le_refl _), ?_, ?_⟩
  · have hchars : (Text.trim " -12.50e-03\n").toList = thousandths.chars := by decide +kernel
    obtain ⟨d, hread, hvalue, -⟩ := hwritten (.str _) _ thousandths rfl hchars thousandths_fits
    exact ⟨d, hread, hvalue.trans thousandths_value⟩
  · have hchars : (Text.trim "+79228162514264337593543950336.").toList = outsized.chars := by
      decide +kernel
    exact houtsized (.str _) _ outsized rfl hchars (Nat.le_of_eq (Text.ofDigits_digits limit).symm)

end ShopRelay.Answer
