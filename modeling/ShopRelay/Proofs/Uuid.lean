import ShopRelay.Uuid

/-!
A written identifier reads back.
-/

namespace ShopRelay.Uuid

open Text (hexDigit hexNumber? hexValue?)

/-- So many of the last hexadecimal digits of a number, most significant first. -/
def lastDigits (count n : Nat) : List Char :=
  (List.range count).map fun i => hexDigit (n / Nat.pow 16 (count - 1 - i) % 16)

theorem hexDigits_eq (u : Uuid) : u.hexDigits = lastDigits 32 u.bits.toNat := rfl

theorem lastDigits_succ (count n : Nat) :
    lastDigits (count + 1) n = lastDigits count (n / 16) ++ [hexDigit (n % 16)] := by
  rw [lastDigits, List.range_succ, List.map_append]
  congr 1
  · refine List.map_congr_left fun i hi => ?_
    have hi : i < count := List.mem_range.mp hi
    have hplace : count + 1 - 1 - i = count - 1 - i + 1 := by omega
    have hpower : Nat.pow 16 (count - 1 - i + 1) = 16 * Nat.pow 16 (count - 1 - i) := Nat.pow_succ'
    rw [Nat.div_div_eq_div_mul, hplace, hpower]
  · simp

theorem lastDigits_length (count n : Nat) : (lastDigits count n).length = count := by
  simp [lastDigits]

theorem hexNumber_append (ds : List Char) (c : Char) :
    hexNumber? (ds ++ [c]) = do return (← hexNumber? ds) * 16 + (← hexValue? c) := by
  simp [hexNumber?, List.foldl_append]

theorem hexNumber_lastDigits (count n : Nat) :
    hexNumber? (lastDigits count n) = some (n % Nat.pow 16 count) := by
  induction count generalizing n with
  | zero => simp [lastDigits, hexNumber?, Nat.mod_one]
  | succ count ih =>
    rw [lastDigits_succ, hexNumber_append, ih, Text.hexValue_hexDigit _ (Nat.mod_lt n (by decide))]
    have hpower : Nat.pow 16 (count + 1) = 16 * Nat.pow 16 count := Nat.pow_succ'
    change some (n / 16 % Nat.pow 16 count * 16 + n % 16) = some (n % Nat.pow 16 (count + 1))
    rw [hpower, Nat.mod_mul, Nat.mul_comm, Nat.add_comm]

theorem hexDigit_plain : ∀ n, n < 16 →
    hexDigit n ≠ '-' ∧ hexDigit n ≠ '\x7b' ∧ (hexDigit n).toLower ≠ 'u' := by decide

theorem lastDigits_plain {count n : Nat} {c : Char} (h : c ∈ lastDigits count n) :
    c ≠ '-' ∧ c ≠ '\x7b' ∧ c.toLower ≠ 'u' := by
  obtain ⟨i, -, rfl⟩ := List.mem_map.mp h
  exact hexDigit_plain _ (Nat.mod_lt _ (by decide))

theorem filter_hyphenate {ds : List Char} (h : ∀ c ∈ ds, c ≠ '-') :
    (hyphenate ds).filter (· ≠ '-') = ds := by
  have keeps : ∀ cs : List Char, (∀ c ∈ cs, c ∈ ds) → cs.filter (· ≠ '-') = cs := by
    intro cs hcs
    rw [List.filter_eq_self]
    intro c hc
    simpa using h c (hcs c hc)
  have taken : ∀ m n, ((ds.drop m).take n).filter (· ≠ '-') = (ds.drop m).take n :=
    fun m n => keeps _ fun c hc => List.mem_of_mem_drop (List.mem_of_mem_take hc)
  have joined : ∀ m n, (ds.drop m).take n ++ ds.drop (m + n) = ds.drop m := by
    intro m n
    rw [← List.drop_drop, List.take_append_drop]
  have hfirst := keeps (ds.take 8) fun c => List.mem_of_mem_take
  have hlast := keeps (ds.drop 20) fun c => List.mem_of_mem_drop
  have hall : (hyphenate ds).filter (· ≠ '-') =
      ds.take 8 ++ ((ds.drop 8).take 4 ++ ((ds.drop 12).take 4 ++
        ((ds.drop 16).take 4 ++ ds.drop 20))) := by
    rw [hyphenate]
    simp only [List.append_assoc, List.cons_append, List.filter_append, List.filter_cons, hfirst,
      hlast, taken]
    simp
  rw [hall, joined 16 4, joined 12 4, joined 8 4, List.take_append_drop]

theorem hexDigits_length (u : Uuid) : u.hexDigits.length = 32 := lastDigits_length 32 u.bits.toNat

theorem hexDigits_plain {u : Uuid} {c : Char} (h : c ∈ u.hexDigits) :
    c ≠ '-' ∧ c ≠ '\x7b' ∧ c.toLower ≠ 'u' := by
  rw [hexDigits_eq] at h
  exact lastDigits_plain h

theorem guard_of {p : Prop} [Decidable p] (h : p) : (guard p : Option Unit) = some () := if_pos h

theorem hyphenated_hexDigits (u : Uuid) : hyphenated? (hyphenate u.hexDigits) = some u := by
  have hdigits : (hyphenate u.hexDigits).filter (· ≠ '-') = u.hexDigits :=
    filter_hyphenate fun c hc => (hexDigits_plain hc).1
  have hbits : u.bits.toNat < Nat.pow 16 32 := Nat.lt_of_lt_of_eq u.bits.isLt (by decide)
  have hnumber : hexNumber? u.hexDigits = some u.bits.toNat := by
    rw [hexDigits_eq, hexNumber_lastDigits, Nat.mod_eq_of_lt hbits]
  calc hyphenated? (hyphenate u.hexDigits)
      = ofHex? u.hexDigits := by
        unfold hyphenated?
        dsimp only
        rw [hdigits, guard_of ⟨hexDigits_length u, rfl⟩]
        rfl
    _ = some u := by
        rw [ofHex?, guard_of (hexDigits_length u), hnumber]
        change some (ofNat u.bits.toNat) = some u
        simp [ofNat]

theorem read_text (u : Uuid) : read? u.text = some u := by
  obtain ⟨c, cs, hcons⟩ : ∃ c cs, u.hexDigits = c :: cs :=
    List.exists_cons_of_length_pos (by rw [hexDigits_length]; decide)
  obtain ⟨-, hbrace, hurn⟩ := hexDigits_plain (hcons ▸ List.mem_cons_self : c ∈ u.hexDigits)
  obtain ⟨rest, hrest⟩ : ∃ rest, hyphenate u.hexDigits = c :: rest := ⟨_, by rw [hcons]; rfl⟩
  have hlength : (hyphenate u.hexDigits).length ≠ 32 := by
    simp [hyphenate, hexDigits_length]
  have hread := hyphenated_hexDigits u
  rw [read?, text, String.toList_ofList]
  rw [hrest] at hlength hread ⊢
  -- Neither a brace nor the `u` of a name's prefix comes first, and the hyphens make it too long.
  have hprefix : ((c :: rest).take urn.length).map Char.toLower ≠ urn := by
    intro h
    exact hurn (List.cons.inj h).1
  unfold readChars?
  split
  · next heq => exact absurd (List.cons.inj heq).1 hbrace
  · rw [if_neg hlength, if_neg hprefix, hread]

end ShopRelay.Uuid
