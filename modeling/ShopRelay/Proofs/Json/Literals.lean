import Mathlib.Data.List.TakeDrop
import Mathlib.Data.Option.Basic
import ShopRelay.Json.Printer
import ShopRelay.Json.Reader
import ShopRelay.Proofs.Text.Digits

/-!
Strings and whole numbers are read back from their text, whatever follows it.
-/

namespace ShopRelay.Json

namespace Reader

theorem hexNumber_hexByte {n : Nat} (h : n < 256) :
    Text.hexNumber? ('0' :: '0' :: Text.hexByte (UInt8.ofNat n)) = some n := by
  have hbyte : (UInt8.ofNat n).toNat = n := by simp; omega
  have hhigh := Text.hexValue_hexDigit (n / 16) (by omega)
  have hlow := Text.hexValue_hexDigit (n % 16) (by omega)
  have hzero : Text.hexValue? '0' = some 0 := by decide
  simp only [Text.hexByte, hbyte, Text.hexNumber?, List.foldl_cons, List.foldl_nil, hzero, hhigh,
    hlow, Option.pure_def, Option.bind_eq_bind, Option.bind_some, Option.some.injEq]
  omega

variable {cs rest : List Char} {codes : List Nat}

theorem codes_short {e : Char} {code : Nat} (he : simpleEscape? e = some code)
    (h : codes? cs = some (codes, rest)) :
    codes? ('\\' :: e :: cs) = some (code :: codes, rest) := by
  have hu : e ≠ 'u' := by
    rintro rfl
    cases he
  rw [codes?]
  · simp [he, h]
  · rintro a b c d r rfl -
    exact hu rfl

theorem codes_plain {c : Char} (hquote : c ≠ '"') (hslash : c ≠ '\\') (hblank : ' ' ≤ c)
    (h : codes? cs = some (codes, rest)) : codes? (c :: cs) = some (c.toNat :: codes, rest) := by
  have hguard : guard (' ' ≤ c ∧ c ≠ '\\') = some () := if_pos ⟨hblank, hslash⟩
  rw [codes?]
  · rw [hguard, h]
    rfl
  · exact hquote
  · intro a b d e r hc
    exact absurd hc hslash
  · intro e r hc
    exact absurd hc hslash

/-- A character is read back from its escaped form. -/
theorem codes_escape (c : Char) (h : codes? cs = some (codes, rest)) :
    codes? (Printer.escape c ++ cs) = some (c.toNat :: codes, rest) := by
  unfold Printer.escape
  by_cases hquote : c = '"'
  · subst hquote
    exact codes_short rfl h
  by_cases hslash : c = '\\'
  · subst hslash
    exact codes_short rfl h
  by_cases hbackspace : c = '\x08'
  · subst hbackspace
    exact codes_short rfl h
  by_cases hfeed : c = '\x0c'
  · subst hfeed
    exact codes_short rfl h
  by_cases hline : c = '\n'
  · subst hline
    exact codes_short rfl h
  by_cases hreturn : c = '\r'
  · subst hreturn
    exact codes_short rfl h
  by_cases htab : c = '\t'
  · subst htab
    exact codes_short rfl h
  simp only [beq_iff_eq, hquote, hslash, hbackspace, hfeed, hline, hreturn, htab, if_false]
  split
  · rename_i hlow
    have hcode : Text.hexNumber? ('0' :: '0' :: Text.hexByte (UInt8.ofNat c.toNat)) = some c.toNat :=
      hexNumber_hexByte (Nat.lt_trans hlow (by decide))
    change codes? ('\\' :: 'u' :: '0' :: '0' :: Text.hexDigit _ :: Text.hexDigit _ :: cs) = _
    rw [codes?]
    simp only [Text.hexByte] at hcode
    rw [hcode, h]
    rfl
  · rename_i hlow
    exact codes_plain hquote hslash (Char.not_lt.mp hlow) h

theorem codes_string (s : List Char) (rest : List Char) :
    codes? (s.flatMap Printer.escape ++ '"' :: rest) = some (s.map Char.toNat, rest) := by
  induction s with
  | nil => rw [List.flatMap_nil, List.nil_append, codes?, List.map_nil]
  | cons c s ih =>
    rw [List.flatMap_cons, List.append_assoc, List.map_cons]
    exact codes_escape c ih

/-- No character is half of a surrogate pair. -/
theorem not_surrogate (c : Char) : isHigh c.toNat = false ∧ isLow c.toNat = false := by
  have hvalid : c.toNat < 0xD800 ∨ 0xDFFF < c.toNat ∧ c.toNat < 0x110000 := c.valid
  simp only [isHigh, isLow, Bool.and_eq_false_iff, decide_eq_false_iff_not]
  omega

theorem joinPairs_chars (s : List Char) : joinPairs? (s.map Char.toNat) = some s := by
  induction s with
  | nil => rfl
  | cons c s ih =>
    obtain ⟨hhigh, hlow⟩ := not_surrogate c
    cases s with
    | nil => simp [joinPairs?, hhigh, hlow]
    | cons d s =>
      rw [List.map_cons] at ih
      simp [joinPairs?, hhigh, hlow, ih]

theorem string_print (s : String) (rest : List Char) :
    string? (s.toList.flatMap Printer.escape ++ '"' :: rest) = some (some s, rest) := by
  unfold string?
  rw [codes_string]
  simp [joinPairs_chars]

/-- What may follow a number: nothing that would go on with it. -/
def EndsNumber (rest : List Char) : Prop :=
  ∀ c ∈ rest.head?, c.isDigit = false ∧ c ≠ '.' ∧ c ≠ 'e' ∧ c ≠ 'E'

theorem takeDigits_append {ds : List Char} (digits : ∀ c ∈ ds, c.isDigit = true)
    (h : EndsNumber rest) : takeDigits (ds ++ rest) = (ds, rest) := by
  unfold takeDigits
  rw [List.span_eq_takeWhile_dropWhile, List.takeWhile_append_of_pos digits,
    List.dropWhile_append_of_pos digits]
  cases rest with
  | nil => simp
  | cons c rest =>
    have hc := (h c rfl).1
    simp [hc]

theorem takeMinus_intDigits (n : Int) (rest : List Char) :
    takeMinus (Text.intDigits n ++ rest) = (decide (n < 0), Text.digits n.natAbs ++ rest) := by
  unfold Text.intDigits
  by_cases hn : n < 0
  · simp [hn, takeMinus]
  · obtain ⟨c, cs, hcs, hdigit⟩ := Text.digits_cons n.natAbs
    rw [if_neg hn, hcs, List.cons_append, takeMinus]
    · simp [hn]
    · rintro r hr
      rw [(List.cons.inj hr).1] at hdigit
      cases hdigit

theorem takeWhole_digits (n : Nat) (h : EndsNumber rest) :
    takeWhole? (Text.digits n ++ rest) = some (Text.digits n, rest) := by
  by_cases hn : n = 0
  · subst hn
    rw [Text.digits_zero]
    rfl
  · have hd : takeDigits (Text.digits n ++ rest) = (Text.digits n, rest) :=
      takeDigits_append (fun _ => Text.isDigit_of_mem_digits) h
    obtain ⟨c, cs, hcs, hc, -⟩ := Text.head_digits n hn
    rw [hcs] at hd ⊢
    rw [List.cons_append] at hd ⊢
    rw [takeWhole?, takeDigits?, hd]
    intro r hr
    exact hc (List.cons.inj hr).1

theorem takeFraction_ended (h : EndsNumber rest) : takeFraction? rest = some ([], rest) := by
  rw [takeFraction?]
  rintro r rfl
  exact (h '.' rfl).2.1 rfl

theorem startsExponent_ended (h : EndsNumber rest) : startsExponent rest = false := by
  cases rest with
  | nil => rfl
  | cons c rest =>
    obtain ⟨-, -, he, hE⟩ := h c rfl
    simp [startsExponent, he, hE]

/-- A whole number is read up to its end. -/
theorem numeral_intDigits (n : Int) (h : EndsNumber rest) :
    numeral? (Text.intDigits n ++ rest) =
      some (⟨decide (n < 0), Text.digits n.natAbs, [], false, [], true⟩, rest) := by
  unfold numeral?
  rw [takeMinus_intDigits]
  simp [takeWhole_digits _ h, takeFraction_ended h, startsExponent_ended h]

/-- Minus zero is written with a point, and read up to its end. -/
theorem numeral_minusZero (h : EndsNumber rest) :
    numeral? ('-' :: '0' :: '.' :: '0' :: rest) =
      some (⟨true, ['0'], ['0'], false, [], false⟩, rest) := by
  have hzero : ∀ c ∈ ['0'], c.isDigit = true := List.forall_mem_singleton.mpr rfl
  have hplaces : takeDigits ('0' :: rest) = (['0'], rest) := takeDigits_append hzero h
  simp [numeral?, takeMinus, takeWhole?, takeFraction?, takeDigits?, hplaces,
    startsExponent_ended h]

end Reader

/-- The floating-point number that `-0` is read as. -/
def minusZero : Number.Binary := Number.Binary.zero.neg

theorem Numeral.toTree_minusZero :
    toTree ⟨true, ['0'], ['0'], false, [], false⟩ = .float minusZero := by
  have hvalue : toFloat? ⟨true, ['0'], ['0'], false, [], false⟩ = some minusZero := by decide
  simp [toTree, hvalue]

theorem Numeral.toTree_whole {n : Int} (low : Text.minInt64 ≤ n) (high : n ≤ Text.maxUInt64) :
    toTree ⟨decide (n < 0), Text.digits n.natAbs, [], false, [], true⟩ = .int n := by
  unfold toTree
  by_cases hn : n < 0
  · have hvalue : -(n.natAbs : Int) = n := by omega
    have hzero : (n != 0) = true := bne_iff_ne.mpr (by omega)
    simp only [Text.ofDigits_digits, hn, hvalue, hzero, low, decide_true, Bool.and_self, if_true]
  · have hvalue : (n.natAbs : Int) = n := by omega
    simp only [Text.ofDigits_digits, hn, hvalue, high, decide_false, decide_true, Bool.false_eq_true,
      if_false, Bool.and_self, if_true]

end ShopRelay.Json
