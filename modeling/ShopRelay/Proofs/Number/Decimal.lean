import ShopRelay.Number.Decimal
import ShopRelay.Proofs.Text.Digits

/-!
Plain notation and what is read from it, as long as the number fits. So an amount reads back from
its text, with the number of its places.
-/

namespace ShopRelay.Number.Decimal

open Text (digitValue ofDigits paddedDigits)

variable {ds rest : List Char} {m scale : Nat} {started : Bool}

theorem ne_underscore {c : Char} (h : c.isDigit = true) : (c == '_') = false := by
  rw [beq_eq_false_iff_ne]
  rintro rfl
  cases h

/-- Before the point a digit is taken in as long as the number fits. -/
theorem readDigits_whole (hds : ∀ c ∈ ds, c.isDigit = true)
    (hfits : Nat.ofDigitChars 10 ds m < limit) :
    readDigits? ⟨m, 0, false, started⟩ (ds ++ rest) =
      readDigits? ⟨Nat.ofDigitChars 10 ds m, 0, false, started || !ds.isEmpty⟩ rest := by
  induction ds generalizing m started with
  | nil => simp
  | cons c ds ih =>
    have hc : c.isDigit = true := hds c List.mem_cons_self
    rw [Text.ofDigitChars_cons] at hfits ⊢
    have hroom : m * 10 + digitValue c < limit :=
      Nat.lt_of_le_of_lt (Text.le_ofDigitChars ds _) hfits
    have hread : readDigits? ⟨m, 0, false, started⟩ (c :: ds ++ rest) =
        readDigits? ⟨m * 10 + digitValue c, 0, false, true⟩ (ds ++ rest) := by
      simp [readDigits?, ne_underscore hc, hc, hroom]
    rw [hread, ih (fun e he => hds e (List.mem_cons_of_mem c he)) hfits]
    simp

/-- A whole part that does not fit is no amount, whatever follows. -/
theorem readDigits_overflow (hds : ∀ c ∈ ds, c.isDigit = true) (hm : m < limit)
    (hover : limit ≤ Nat.ofDigitChars 10 ds m) :
    readDigits? ⟨m, 0, false, started⟩ (ds ++ rest) = none := by
  induction ds generalizing m started with
  | nil => exact absurd hm (Nat.not_lt.mpr hover)
  | cons c ds ih =>
    have hc : c.isDigit = true := hds c List.mem_cons_self
    rw [Text.ofDigitChars_cons] at hover
    by_cases hroom : m * 10 + digitValue c < limit
    · have hmore : ∀ e ∈ ds, e.isDigit = true := fun e he => hds e (List.mem_cons_of_mem c he)
      have hrest : readDigits? ⟨m * 10 + digitValue c, 0, false, true⟩ (ds ++ rest) = none :=
        ih hmore hroom hover
      simp [readDigits?, ne_underscore hc, hc, hroom, hrest]
    · simp [readDigits?, ne_underscore hc, hc, hroom]

theorem readDigits_point :
    readDigits? ⟨m, 0, false, started⟩ ('.' :: rest) = readDigits? ⟨m, 0, true, started⟩ rest := by
  rw [readDigits?]
  simp

/-- After the point each digit adds a place, and there is room for 28. -/
theorem readDigits_places (hds : ∀ c ∈ ds, c.isDigit = true) (hscale : scale + ds.length ≤ 28)
    (hfits : Nat.ofDigitChars 10 ds m < limit) (hstarted : started = true ∨ ds ≠ []) :
    readDigits? ⟨m, scale, true, started⟩ ds =
      some (Nat.ofDigitChars 10 ds m, scale + ds.length) := by
  induction ds generalizing m scale started with
  | nil =>
    have hread : started = true := hstarted.resolve_right (absurd rfl)
    simp [readDigits?, hread]
  | cons c ds ih =>
    have hc : c.isDigit = true := hds c List.mem_cons_self
    rw [List.length_cons] at hscale
    rw [Text.ofDigitChars_cons] at hfits ⊢
    have hroom : m * 10 + digitValue c < limit :=
      Nat.lt_of_le_of_lt (Text.le_ofDigitChars ds _) hfits
    have hplace : ¬28 ≤ scale := by omega
    have hmore : scale + 1 + ds.length ≤ 28 := by omega
    have hrest := ih (fun e he => hds e (List.mem_cons_of_mem c he)) hmore hfits (.inl rfl)
    simp [readDigits?, ne_underscore hc, hc, hroom, hplace, hrest]
    omega

/-- A character that stands in no plain number. -/
structure Stray (c : Char) : Prop where
  not_digit : c.isDigit = false
  other : c ≠ '.' ∧ c ≠ '_' ∧ c ≠ '-' ∧ c ≠ '+'

namespace Stray

variable {c : Char} {cs : List Char}

theorem droppable_eq (h : Stray c) (hc : c ∈ cs) : droppable cs = false :=
  List.all_eq_false.mpr ⟨c, hc, by simp [h.not_digit, h.other]⟩

/-- It spoils what is read, also among the places that are left out. -/
theorem readDigits_eq (h : Stray c) (hc : c ∈ cs) (p : Progress) : readDigits? p cs = none := by
  induction cs generalizing p with
  | nil => cases hc
  | cons d cs ih =>
    have hlater (hd : d.isDigit = true ∨ d = '.' ∨ d = '_') : c ∈ cs := by
      refine (List.mem_cons.mp hc).resolve_left ?_
      rintro rfl
      simp [h.not_digit, h.other] at hd
    unfold readDigits?
    dsimp only
    split
    · rw [h.droppable_eq hc]
      rfl
    split
    · next hd =>
      have hcs : c ∈ cs := hlater (.inl hd)
      rw [h.droppable_eq hcs, ih hcs]
      simp
    split
    · next hd =>
      have hpoint : d = '.' := by simp_all
      exact ih (hlater (.inr (.inl hpoint))) _
    split
    · next hd =>
      have hunderscore : d = '_' := by simp_all
      exact ih (hlater (.inr (.inr hunderscore))) _
    · rfl

theorem mem_splitSign (h : Stray c) (hc : c ∈ cs) : c ∈ (splitSign cs).2 := by
  obtain ⟨-, -, hminus, hplus⟩ := h.other
  unfold splitSign
  split
  · exact (List.mem_cons.mp hc).resolve_left hminus
  · exact (List.mem_cons.mp hc).resolve_left hplus
  · exact hc

theorem readPlain_eq (h : Stray c) (hc : c ∈ cs) : readPlain? cs = none := by
  simp [readPlain?, h.readDigits_eq (h.mem_splitSign hc)]

end Stray

/-- A sign that may be left out. -/
inductive Sign where
  | none
  | plus
  | minus

namespace Sign

def chars : Sign → List Char
  | .none => []
  | .plus => ['+']
  | .minus => ['-']

def negative : Sign → Bool
  | .minus => true
  | .none | .plus => false

end Sign

/-- A number in plain notation: an optional sign, and digits with at most one point, which may also
stand before the first digit or after the last one. -/
structure Plain where
  sign : Sign
  whole : List Char
  /-- What stands after the point, if there is one. -/
  places? : Option (List Char)
  filled : whole ++ places?.getD [] ≠ []
  decimal : ∀ c ∈ whole ++ places?.getD [], c.isDigit = true

namespace Plain

variable (n : Plain)

def places : List Char := n.places?.getD []

/-- The number that the digits form without the point. -/
def mantissa : Nat := ofDigits (n.whole ++ n.places)

def unsigned : List Char :=
  n.whole ++ match n.places? with
    | none => []
    | some places => '.' :: places

def chars : List Char := n.sign.chars ++ n.unsigned

theorem whole_digits : ∀ c ∈ n.whole, c.isDigit = true :=
  fun c hc => n.decimal c (List.mem_append_left _ hc)

theorem places_digits : ∀ c ∈ n.places, c.isDigit = true :=
  fun c hc => n.decimal c (List.mem_append_right _ hc)

theorem mem_unsigned {c : Char} (h : c ∈ n.unsigned) : c.isDigit = true ∨ c = '.' := by
  obtain ⟨sign, whole, places?, filled, decimal⟩ := n
  cases places? with
  | none => exact .inl (decimal c h)
  | some places =>
    rcases List.mem_append.mp h with hwhole | hpoint
    · exact .inl (decimal c (List.mem_append_left _ hwhole))
    · rcases List.mem_cons.mp hpoint with rfl | hplaces
      · exact .inr rfl
      · exact .inl (decimal c (List.mem_append_right whole hplaces))

theorem splitSign_chars : splitSign n.chars = (n.sign.negative, n.unsigned) := by
  have hhead : ∀ c rest, n.unsigned = c :: rest → c ≠ '-' ∧ c ≠ '+' := by
    intro c rest hc
    have hmem := n.mem_unsigned (hc ▸ List.mem_cons_self)
    constructor <;> rintro rfl <;> simp at hmem
  unfold chars
  cases n.sign with
  | plus => rfl
  | minus => rfl
  | none =>
    change splitSign n.unsigned = (false, n.unsigned)
    unfold splitSign
    split
    · next heq => exact absurd rfl (hhead _ _ heq).1
    · next heq => exact absurd rfl (hhead _ _ heq).2
    · rfl

theorem readDigits_unsigned (hscale : n.places.length ≤ 28) (hfits : n.mantissa < limit) :
    readDigits? ⟨0, 0, false, false⟩ n.unsigned = some (n.mantissa, n.places.length) := by
  have hvalue : n.mantissa = Nat.ofDigitChars 10 n.places (Nat.ofDigitChars 10 n.whole 0) :=
    Nat.ofDigitChars_append 0
  have hfilled := n.filled
  rw [hvalue] at hfits ⊢
  rw [unsigned, readDigits_whole n.whole_digits
    (Nat.lt_of_le_of_lt (Text.le_ofDigitChars _ _) hfits)]
  cases hpoint : n.places? with
  | none =>
    have hplaces : n.places = [] := by rw [places, hpoint, Option.getD_none]
    have hwhole : n.whole ≠ [] := by simpa [hpoint] using hfilled
    simp [hplaces, readDigits?, hwhole]
  | some places =>
    have hplaces : places = n.places := by rw [Plain.places, hpoint, Option.getD_some]
    subst hplaces
    have hstarted : (false || !n.whole.isEmpty) = true ∨ n.places ≠ [] := by
      cases hwhole : n.whole with
      | nil => exact .inr (by simpa [hpoint, hwhole] using hfilled)
      | cons c whole => exact .inl rfl
    have hroom : 0 + n.places.length ≤ 28 := by omega
    rw [readDigits_point, readDigits_places n.places_digits hroom hfits hstarted, Nat.zero_add]

/-- What is written in plain notation is read digit by digit, with the number of its places. -/
theorem readPlain_chars (hscale : n.places.length ≤ 28) (hfits : n.mantissa < limit) :
    readPlain? n.chars = ofParts? n.sign.negative n.mantissa n.places.length := by
  rw [readPlain?, splitSign_chars]
  simp [n.readDigits_unsigned hscale hfits]

/-- There is no mark of an exponent in plain notation. -/
theorem chars_unmarked : ∀ c ∈ n.chars, (!(c == 'e' || c == 'E')) = true := by
  intro c hc
  have hmark : c ≠ 'e' ∧ c ≠ 'E' := by
    rcases List.mem_append.mp hc with hsign | hunsigned
    · cases hchars : n.sign <;> rw [hchars] at hsign <;> simp_all [Sign.chars]
    · have hmem := n.mem_unsigned hunsigned
      constructor <;> rintro rfl <;> simp at hmem
  simp [hmark]

/-- A whole part that does not fit is no amount, whatever its places. -/
theorem readPlain_overflow (hover : limit ≤ ofDigits n.whole) : readPlain? n.chars = none := by
  rw [readPlain?, splitSign_chars]
  simp [unsigned, readDigits_overflow n.whole_digits (by decide) hover]

end Plain

theorem ofParts_self (d : Decimal) : ofParts? d.negative d.mantissa d.scale = some d := by
  obtain ⟨negative, mantissa, scale, hlt, hle, hzero⟩ := d
  have hsign : (mantissa != 0 && negative) = negative := by
    by_cases h : mantissa = 0
    · simp [h, hzero h]
    · simp [h]
  simp [ofParts?, hlt, hle, hsign]

/-- An amount is written in plain notation. -/
theorem exists_plain (d : Decimal) : ∃ n : Plain, n.chars = d.chars ∧
    n.sign.negative = d.negative ∧ n.mantissa = d.mantissa ∧ n.places.length = d.scale := by
  have hdigits : ∀ c ∈ paddedDigits (d.scale + 1) d.mantissa, c.isDigit = true :=
    fun _ => Text.isDigit_of_mem_paddedDigits
  have hvalue : ofDigits (paddedDigits (d.scale + 1) d.mantissa) = d.mantissa :=
    Text.ofDigits_paddedDigits
  have hlength : d.scale + 1 ≤ (paddedDigits (d.scale + 1) d.mantissa).length :=
    Text.le_paddedDigits_length
  unfold chars
  dsimp only
  generalize paddedDigits (d.scale + 1) d.mantissa = ds at hdigits hvalue hlength
  have hplaces : (ds.drop (ds.length - d.scale)).length = d.scale := by
    rw [List.length_drop]
    omega
  have hpoint : (if d.scale = 0 then none else some (ds.drop (ds.length - d.scale))).getD [] =
      ds.drop (ds.length - d.scale) := by
    split
    · next hzero => exact (List.length_eq_zero_iff.mp (hplaces.trans hzero)).symm
    · rfl
  have hall : ds.take (ds.length - d.scale) ++
      (if d.scale = 0 then none else some (ds.drop (ds.length - d.scale))).getD [] = ds := by
    rw [hpoint, List.take_append_drop]
  have hfilled : ds ≠ [] := List.ne_nil_of_length_pos (by omega)
  refine ⟨⟨if d.negative then .minus else .none, ds.take (ds.length - d.scale),
    if d.scale = 0 then none else some (ds.drop (ds.length - d.scale)),
    hall.symm ▸ hfilled, hall.symm ▸ hdigits⟩, ?_, ?_, ?_, ?_⟩
  · have hsign : (if d.negative then Sign.minus else .none).chars =
        if d.negative then ['-'] else [] := by
      cases d.negative <;> rfl
    by_cases hzero : d.scale = 0 <;> simp [Plain.chars, Plain.unsigned, hsign, hzero]
  · cases d.negative <;> rfl
  · exact (congrArg ofDigits hall).trans hvalue
  · exact (congrArg List.length hpoint).trans hplaces

/-- An amount is what its text is read as. -/
theorem read_text (d : Decimal) : read? d.text = some d := by
  obtain ⟨n, hchars, hsign, hmantissa, hscale⟩ := exists_plain d
  have hplain : readPlain? d.chars = some d := by
    rw [← hchars, n.readPlain_chars (hscale ▸ d.scale_le) (hmantissa ▸ d.mantissa_lt), hsign,
      hmantissa, hscale, ofParts_self]
  rw [read?, text, String.toList_ofList, readChars?, hplain]
  rfl

end ShopRelay.Number.Decimal
