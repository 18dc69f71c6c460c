import ShopRelay.Proofs.Answer.Entries

/-!
Members that an answer may leave out. What such a member is read as is given by a relation between
values and readings: without a value that has a reading, a fallback takes its place.
-/

namespace ShopRelay.Answer

open Json
open Number (Binary)

/-- A text as it is, a number by its JSON text. -/
inductive Spells : Value → String → Prop where
  | str (s : String) : Spells (.str s) s
  | int (n : Int) : Spells (.int n) (Value.int n).print
  | float (x : Binary) : Spells (.float x) (Value.float x).print

/-- Null, false, zero and whatever is empty. -/
inductive Falsy : Value → Prop where
  | null : Falsy .null
  | false : Falsy (.bool false)
  | zero : Falsy (.int 0)
  | zeroFloat (negative : Bool) (exponent : Int) : Falsy (.float ⟨negative, 0, exponent⟩)
  | text : Falsy (.str "")
  | items : Falsy (.arr [])
  | members : Falsy (.obj [])

variable {α : Type}

/-- A member is there, and its value has the reading. -/
def Holds (R : Value → α → Prop) (d : Dict Value) (key : String) (x : α) : Prop :=
  ∃ v, d.get? key = some v ∧ R v x

/-- The reading of a member, or the fallback when the member has none. -/
inductive HoldsOr (R : Value → α → Prop) (d : Dict Value) (key : String) (fallback : α) : α → Prop
  where
  | held {x : α} (h : Holds R d key x) : HoldsOr R d key fallback x
  | fallback (h : ∀ x, ¬Holds R d key x) : HoldsOr R d key fallback fallback

/-- A member is absent or falsy. -/
def Denied (d : Dict Value) (key : String) : Prop := ∀ v, d.get? key = some v → Falsy v

variable {d e : Dict Value} {key s : String} {v : Value}

theorem toText_eq_some : toText? v = some s ↔ Spells v s := by
  constructor
  · intro h
    cases v with
    | str t =>
      obtain rfl := Option.some.inj h
      exact .str t
    | int n =>
      obtain rfl := Option.some.inj h
      exact .int n
    | float x =>
      obtain rfl := Option.some.inj h
      exact .float x
    | _ => cases h
  · rintro (s | n | x) <;> rfl

theorem isTrue_eq_false : isTrue v = false ↔ Falsy v := by
  constructor
  · intro h
    cases v with
    | null => exact .null
    | bool b =>
      obtain rfl : b = false := h
      exact .false
    | int n =>
      obtain rfl : n = 0 := by simpa [isTrue] using h
      exact .zero
    | float x =>
      obtain ⟨negative, significand, exponent⟩ := x
      obtain rfl : significand = 0 := by simpa [isTrue, Binary.isZero] using h
      exact .zeroFloat negative exponent
    | str s =>
      obtain rfl : s = "" := by simpa [isTrue] using h
      exact .text
    | arr items =>
      obtain rfl : items = [] := by simpa [isTrue] using h
      exact .items
    | obj members =>
      obtain rfl : members = [] := by simpa [isTrue] using h
      exact .members
  · intro h
    cases h <;> rfl

theorem Spells.unique {t : String} (hs : Spells v s) (ht : Spells v t) : s = t :=
  Option.some.inj ((toText_eq_some.mpr hs).symm.trans (toText_eq_some.mpr ht))

theorem Holds.unique {R : Value → α → Prop} (hR : ∀ v x y, R v x → R v y → x = y) {x y : α}
    (hx : Holds R d key x) (hy : Holds R d key y) : x = y := by
  obtain ⟨v, hv, hvx⟩ := hx
  obtain ⟨w, hw, hwy⟩ := hy
  obtain rfl := Option.some.inj (hv.symm.trans hw)
  exact hR v x y hvx hwy

theorem HoldsOr.unique {R : Value → α → Prop} (hR : ∀ v x y, R v x → R v y → x = y)
    {fallback x y : α} (hx : HoldsOr R d key fallback x) (hy : HoldsOr R d key fallback y) :
    x = y := by
  cases hx with
  | held hx =>
    cases hy with
    | held hy => exact hx.unique hR hy
    | fallback hnone => exact absurd hx (hnone x)
  | fallback hnone =>
    cases hy with
    | held hy => exact absurd hy (hnone y)
    | fallback => rfl

/-- What a conversion makes of a member. -/
theorem bind_eq_some {convert : Value → Option α} {R : Value → α → Prop}
    (h : ∀ v x, convert v = some x ↔ R v x) {x : α} :
    (d.get? key).bind convert = some x ↔ Holds R d key x := by
  simp only [Option.bind_eq_some_iff, h, Holds]

theorem getD_eq_iff {r : Option α} {R : Value → α → Prop} (h : ∀ x, r = some x ↔ Holds R d key x)
    {fallback x : α} : r.getD fallback = x ↔ HoldsOr R d key fallback x := by
  constructor
  · rintro rfl
    cases hr : r with
    | none =>
      refine .fallback fun x hx => ?_
      rw [(h x).mpr hx] at hr
      cases hr
    | some y => exact .held ((h y).mp hr)
  · rintro (hx | hnone)
    · rw [(h x).mpr hx, Option.getD_some]
    · cases hr : r with
      | none => rfl
      | some y => exact absurd ((h y).mp hr) (hnone y)

theorem optionalText_eq_some : optionalText d key = some s ↔ Holds Spells d key s :=
  bind_eq_some fun _ _ => toText_eq_some

theorem flag_eq_true : flag d key = true ↔ ¬Denied d key := by
  unfold flag Denied
  cases d.get? key with
  | none => simp
  | some v => simp [← isTrue_eq_false]

theorem filter_isTrue_eq_none : (d.get? key).filter isTrue = none ↔ Denied d key := by
  unfold Denied
  cases d.get? key with
  | none => simp
  | some v => simp [← isTrue_eq_false, Option.filter_eq_none_iff]

end ShopRelay.Answer
