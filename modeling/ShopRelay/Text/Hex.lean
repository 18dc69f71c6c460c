import ShopRelay.Text.Utf8

/-!
Hexadecimal digits: bytes and numbers are written in lower case, and either case is read.
-/

namespace ShopRelay.Text

def hexDigit (n : Nat) : Char :=
  if n < 10 then Char.ofNat (48 + n) else Char.ofNat (87 + n)

def hexValue? (c : Char) : Option Nat :=
  if '0' ≤ c ∧ c ≤ '9' then some (c.toNat - 48)
  else if 'a' ≤ c ∧ c ≤ 'f' then some (c.toNat - 87)
  else if 'A' ≤ c ∧ c ≤ 'F' then some (c.toNat - 55)
  else none

def hexByte (b : UInt8) : List Char := [hexDigit (b.toNat / 16), hexDigit (b.toNat % 16)]

def hexBytes (bs : Bytes) : String := String.ofList (bs.flatMap hexByte)

/-- The number written by some hexadecimal digits. -/
def hexNumber? : List Char → Option Nat :=
  List.foldl (fun n c => do return (← n) * 16 + (← hexValue? c)) (some 0)

theorem hexValue_hexDigit : ∀ n, n < 16 → hexValue? (hexDigit n) = some n := by decide

theorem hexDigit_mem : ∀ n, n < 16 → hexDigit n ∈ "0123456789abcdef".toList := by decide

theorem hexNumber_hexByte (b : UInt8) : hexNumber? (hexByte b) = some b.toNat := by
  have hb : b.toNat < 256 := b.toNat_lt
  have hhigh := hexValue_hexDigit (b.toNat / 16) (by omega)
  have hlow := hexValue_hexDigit (b.toNat % 16) (by omega)
  have hvalue : b.toNat / 16 * 16 + b.toNat % 16 = b.toNat := by omega
  simp [hexNumber?, hexByte, hhigh, hlow, hvalue]

theorem toList_hexBytes (bs : Bytes) : (hexBytes bs).toList = bs.flatMap hexByte :=
  String.toList_ofList

theorem length_hexBytes (bs : Bytes) : (hexBytes bs).length = 2 * bs.length := by
  rw [← String.length_toList, toList_hexBytes]
  induction bs with
  | nil => rfl
  | cons b bs ih =>
    rw [List.flatMap_cons, List.length_append, ih, List.length_cons, Nat.mul_add, Nat.add_comm]
    rfl

theorem mem_hexBytes {bs : Bytes} {c : Char} (h : c ∈ (hexBytes bs).toList) :
    c ∈ "0123456789abcdef".toList := by
  rw [toList_hexBytes] at h
  obtain ⟨b, -, hc⟩ := List.mem_flatMap.mp h
  have hb : b.toNat < 256 := b.toNat_lt
  simp only [hexByte, List.mem_cons, List.not_mem_nil, or_false] at hc
  rcases hc with rfl | rfl
  · exact hexDigit_mem _ (by omega)
  · exact hexDigit_mem _ (by omega)

/-- The two digits at each even place are those of the byte at half of it. -/
theorem hexNumber_hexBytes {bs : Bytes} {i : Nat} {b : UInt8} (h : bs[i]? = some b) :
    hexNumber? (((hexBytes bs).toList.drop (2 * i)).take 2) = some b.toNat := by
  rw [toList_hexBytes]
  induction bs generalizing i with
  | nil => simp at h
  | cons a bs ih =>
    cases i with
    | zero =>
      obtain rfl : a = b := by simpa using h
      exact hexNumber_hexByte a
    | succ i => exact ih h

end ShopRelay.Text
