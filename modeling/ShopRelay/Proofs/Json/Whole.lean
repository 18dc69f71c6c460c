import ShopRelay.Proofs.Json.Literals
import ShopRelay.Proofs.Text.Digits

/-!
Texts whose numbers are whole, and what they are read as: trees that are nested no deeper than the
reader goes, with numbers of 64 bits.
-/

namespace ShopRelay.Json

open Number

namespace Tree

mutual

/-- There is no number but whole ones; `-0` is one of them, though it is read as a floating-point
number. What is unreadable holds no number. -/
def wholeNumbers : Tree → Bool
  | .float x => x = minusZero
  | .single _ => false
  | .arr items => wholeItems items
  | .obj members => wholeMembers members
  | _ => true

def wholeItems : List Tree → Bool
  | [] => true
  | t :: rest => t.wholeNumbers && wholeItems rest

def wholeMembers : List (String × Tree) → Bool
  | [] => true
  | (_, t) :: rest => t.wholeNumbers && wholeMembers rest

end

/-- Trees nested in at most `room` containers, with whole numbers of 64 bits only. -/
inductive Whole : Nat → Tree → Prop where
  | null {room : Nat} : Whole room .null
  | bool {room : Nat} (b : Bool) : Whole room (.bool b)
  | int {room : Nat} {n : Int} (low : Text.minInt64 ≤ n) (high : n ≤ Text.maxUInt64) :
    Whole room (.int n)
  | minusZero {room : Nat} : Whole room (.float minusZero)
  | str {room : Nat} (s : String) : Whole room (.str s)
  | arr {room : Nat} {items : List Tree} (h : ∀ t ∈ items, Whole room t) :
    Whole (room + 1) (.arr items)
  | obj {room : Nat} {members : List (String × Tree)} (h : ∀ m ∈ members, Whole room m.2) :
    Whole (room + 1) (.obj members)
  | unreadable {room : Nat} : Whole room .unreadable

end Tree

theorem Numeral.toTree_cases (n : Numeral) :
    (∃ m : Int, n.toTree = .int m ∧ Text.minInt64 ≤ m ∧ m ≤ Text.maxUInt64) ∨
      (∃ x, n.toTree = .float x) ∨ n.toTree = .unreadable := by
  have hmin : Text.minInt64 ≤ 0 := by decide
  have hmax : 0 ≤ Text.maxUInt64 := by decide
  unfold toTree
  by_cases hneg : n.negative = true
  · simp only [hneg, if_true]
    split
    · next h =>
      simp only [Bool.and_eq_true, decide_eq_true_eq] at h
      exact .inl ⟨_, rfl, h.2.2, by omega⟩
    · cases n.toFloat? with
      | some x => exact .inr (.inl ⟨x, rfl⟩)
      | none => exact .inr (.inr rfl)
  · simp only [if_neg hneg]
    split
    · next h =>
      simp only [Bool.and_eq_true, decide_eq_true_eq] at h
      exact .inl ⟨_, rfl, by omega, h.2⟩
    · cases n.toFloat? with
      | some x => exact .inr (.inl ⟨x, rfl⟩)
      | none => exact .inr (.inr rfl)

namespace Reader

variable {depth : Nat} {t : Tree}

theorem whole_toTree {room : Nat} (n : Numeral) (whole : n.toTree.wholeNumbers = true) :
    n.toTree.Whole room := by
  rcases n.toTree_cases with ⟨m, hm, low, high⟩ | ⟨x, hx⟩ | h
  · rw [hm]
    exact .int low high
  · rw [hx] at whole ⊢
    obtain rfl : x = minusZero := by simpa [Tree.wholeNumbers] using whole
    exact .minusZero
  · rw [h]
    exact .unreadable

/-- A container has the room of its items and one more, unless it is out of reach. -/
theorem whole_atDepth (h : depth < maxDepth → t.Whole (maxDepth - (depth + 1) + 1)) :
    (atDepth depth t).Whole (maxDepth - depth) := by
  unfold atDepth
  split
  · next hdepth =>
    have hroom : maxDepth - (depth + 1) + 1 = maxDepth - depth := by omega
    exact hroom ▸ h hdepth
  · exact .unreadable

def WholeValues (fuel : Nat) : Prop :=
  ∀ depth cs t rest, value? fuel depth cs = some (t, rest) → t.wholeNumbers = true →
    t.Whole (maxDepth - depth)

def WholeItems (fuel : Nat) : Prop :=
  ∀ depth cs ts rest, items? fuel depth cs = some (ts, rest) → Tree.wholeItems ts = true →
    ∀ t ∈ ts, t.Whole (maxDepth - depth)

def WholeMembers (fuel : Nat) : Prop :=
  ∀ depth cs ms rest, members? fuel depth cs = some (some ms, rest) →
    Tree.wholeMembers ms = true → ∀ m ∈ ms, m.2.Whole (maxDepth - depth)

theorem wholeValues_succ {fuel : Nat} (hitems : WholeItems fuel) (hmembers : WholeMembers fuel) :
    WholeValues (fuel + 1) := by
  intro depth cs t rest h whole
  rw [value?] at h
  split at h
  · cases h
    exact .null
  · cases h
    exact .bool true
  · cases h
    exact .bool false
  · obtain ⟨⟨text, after⟩, -, hread⟩ := Option.bind_eq_some_iff.mp h
    cases text with
    | some s =>
      cases hread
      exact .str s
    | none =>
      cases hread
      exact .unreadable
  · split at h
    · cases h
      exact whole_atDepth fun _ => .arr (by simp)
    · obtain ⟨⟨ts, after⟩, hread, hts⟩ := Option.bind_eq_some_iff.mp h
      cases hts
      refine whole_atDepth fun hdepth => .arr (hitems _ _ _ _ hread ?_)
      rwa [atDepth, if_pos hdepth, Tree.wholeNumbers] at whole
  · split at h
    · cases h
      exact whole_atDepth fun _ => .obj (by simp)
    · obtain ⟨⟨ms, after⟩, hread, hms⟩ := Option.bind_eq_some_iff.mp h
      cases hms
      refine whole_atDepth fun hdepth => ?_
      rw [atDepth, if_pos hdepth] at whole
      cases ms with
      | none => exact .unreadable
      | some ms =>
        dsimp only at whole ⊢
        rw [Tree.wholeNumbers] at whole
        exact .obj (hmembers _ _ _ _ hread whole)
  · obtain ⟨⟨n, after⟩, -, hread⟩ := Option.bind_eq_some_iff.mp h
    cases hread
    exact whole_toTree n whole

theorem wholeItems_succ {fuel : Nat} (hvalue : WholeValues fuel) (hitems : WholeItems fuel) :
    WholeItems (fuel + 1) := by
  intro depth cs ts rest h whole
  rw [items?] at h
  obtain ⟨⟨first, after⟩, hfirst, h⟩ := Option.bind_eq_some_iff.mp h
  dsimp only at h
  split at h
  · obtain ⟨⟨others, after⟩, hothers, hts⟩ := Option.bind_eq_some_iff.mp h
    cases hts
    rw [Tree.wholeItems, Bool.and_eq_true] at whole
    rw [List.forall_mem_cons]
    exact ⟨hvalue _ _ _ _ hfirst whole.1, hitems _ _ _ _ hothers whole.2⟩
  · cases h
    rw [Tree.wholeItems, Bool.and_eq_true] at whole
    rw [List.forall_mem_singleton]
    exact hvalue _ _ _ _ hfirst whole.1
  · cases h

theorem wholeMembers_succ {fuel : Nat} (hvalue : WholeValues fuel)
    (hmembers : WholeMembers fuel) : WholeMembers (fuel + 1) := by
  intro depth cs ms rest h whole
  rw [members?] at h
  split at h
  · obtain ⟨⟨key, after⟩, -, h⟩ := Option.bind_eq_some_iff.mp h
    dsimp only at h
    split at h
    · obtain ⟨⟨first, after⟩, hfirst, h⟩ := Option.bind_eq_some_iff.mp h
      dsimp only at h
      split at h
      · obtain ⟨⟨others, after⟩, hothers, hms⟩ := Option.bind_eq_some_iff.mp h
        obtain ⟨key, rfl⟩ : ∃ k, key = some k := by
          cases key with
          | none => cases hms
          | some key => exact ⟨key, rfl⟩
        obtain ⟨others, rfl⟩ : ∃ ns, others = some ns := by
          cases others with
          | none => cases hms
          | some others => exact ⟨others, rfl⟩
        cases hms
        rw [Tree.wholeMembers, Bool.and_eq_true] at whole
        rw [List.forall_mem_cons]
        exact ⟨hvalue _ _ _ _ hfirst whole.1, hmembers _ _ _ _ hothers whole.2⟩
      · cases key with
        | none => cases h
        | some key =>
          cases h
          rw [Tree.wholeMembers, Bool.and_eq_true] at whole
          rw [List.forall_mem_singleton]
          exact hvalue _ _ _ _ hfirst whole.1
      · cases h
    · cases h
  · cases h

theorem whole_of_read (fuel : Nat) : WholeValues fuel ∧ WholeItems fuel ∧ WholeMembers fuel := by
  induction fuel with
  | zero =>
    refine ⟨fun depth cs t rest h => ?_, fun depth cs ts rest h => ?_, fun depth cs ms rest h => ?_⟩
    · cases h
    · cases h
    · cases h
  | succ fuel ih =>
    obtain ⟨hvalue, hitems, hmembers⟩ := ih
    exact ⟨wholeValues_succ hitems hmembers, wholeItems_succ hvalue hitems,
      wholeMembers_succ hvalue hmembers⟩

end Reader

/-- A text of whole numbers is read as a whole tree. -/
theorem Tree.whole_of_parse {s : String} {t : Tree} (h : Tree.parse? s = some t)
    (whole : t.wholeNumbers = true) : t.Whole maxDepth := by
  unfold Tree.parse? Tree.parseChars? at h
  obtain ⟨⟨u, rest⟩, hread, hrest⟩ := Option.bind_eq_some_iff.mp h
  dsimp only at hrest
  split at hrest
  · cases hrest
    exact (Reader.whole_of_read _).1 0 _ _ _ hread whole
  · cases hrest

end ShopRelay.Json
