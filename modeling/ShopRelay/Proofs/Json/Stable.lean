import ShopRelay.Json.Record
import ShopRelay.Proofs.Json.RoundTrip
import ShopRelay.Proofs.Json.Whole
import ShopRelay.Proofs.Number.Decimal
import ShopRelay.Proofs.Time.Timestamp
import ShopRelay.Proofs.Uuid

/-!
Stable codecs: what is read from a text of whole numbers is written so that it is read back, and
the text that is written says all there is. The codecs of a type's parts make its own stable.
-/

namespace ShopRelay.Json

variable {α β : Type} {room : Nat} {t : Tree}

theorem exists_mem_of_mapM {f : α → Option β} {xs : List α} {ys : List β}
    (h : xs.mapM f = some ys) {y : β} (hy : y ∈ ys) : ∃ x ∈ xs, f x = some y := by
  induction xs generalizing ys with
  | nil =>
    obtain rfl : [] = ys := Option.some.inj h
    cases hy
  | cons x xs ih =>
    rw [List.mapM_cons] at h
    obtain ⟨first, hfirst, h⟩ := Option.bind_eq_some_iff.mp h
    obtain ⟨others, hothers, h⟩ := Option.bind_eq_some_iff.mp h
    obtain rfl := Option.some.inj h
    rcases List.mem_cons.mp hy with rfl | hy
    · exact ⟨x, List.mem_cons_self, hfirst⟩
    · obtain ⟨z, hz, hzy⟩ := ih hothers hy
      exact ⟨z, List.mem_cons_of_mem x hz, hzy⟩

theorem mapM_map {f : β → Option α} {g : α → β} {xs : List α}
    (h : ∀ x ∈ xs, f (g x) = some x) : (xs.map g).mapM f = some xs := by
  induction xs with
  | nil => rfl
  | cons x xs ih =>
    have hx := h x List.mem_cons_self
    have hrest := ih fun y hy => h y (List.mem_cons_of_mem x hy)
    simp [List.mapM_cons, hx, hrest]

/-- Whatever a codec reads from a whole tree it writes as a tree that needs no more room and is read
back. Null is written only for what was null, so that an option can tell it from nothing. -/
class Codec.Stable (c : Codec α) : Prop where
  plain {room : Nat} {t : Tree} {x : α} :
    t.Whole room → c.read t = some x → (c.write x).Plain room
  read_write {room : Nat} {t : Tree} {x : α} :
    t.Whole room → c.read t = some x → c.read (c.write x) = some x
  null {room : Nat} {t : Tree} {x : α} :
    t.Whole room → c.read t = some x → c.write x = .null → t = .null

namespace Codec

/-- What is written as a plain tree, and read back as a tree, is read back as a text. -/
theorem parse_print_plain {c : Codec α} {x : α} (plain : (c.write x).Plain maxDepth)
    (h : c.read (c.write x) = some x) : c.parse? (c.print x) = some x := by
  rw [parse?, print, Tree.parse_print plain]
  exact h

/-- A stable codec reads back what it wrote, as a text. -/
theorem parse_print (c : Codec α) [c.Stable] {s : String} {x : α}
    (whole : (Tree.parse? s).all Tree.wholeNumbers = true) (h : c.parse? s = some x) :
    c.parse? (c.print x) = some x := by
  obtain ⟨t, ht, hx⟩ := Option.bind_eq_some_iff.mp h
  have htree : t.Whole maxDepth := by
    rw [ht, Option.all_some] at whole
    exact Tree.whole_of_parse ht whole
  exact parse_print_plain (Stable.plain htree hx) (Stable.read_write htree hx)

instance : bool.Stable where
  plain _ _ := .bool _
  read_write _ _ := rfl
  null _ _ h := nomatch h

instance : text.Stable where
  plain _ _ := .str _
  read_write _ _ := rfl
  null _ _ h := nomatch h

theorem stable_ofText {write : α → String} {read? : String → Option α}
    (h : ∀ x, read? (write x) = some x) : (ofText write read?).Stable where
  plain _ _ := .str _
  read_write _ _ := h _
  null _ _ h := nomatch h

instance : uuid.Stable := stable_ofText Uuid.read_text

instance : timestamp.Stable := stable_ofText Time.Timestamp.read_text

theorem stable_choice {write : α → String} {read? : String → Option α}
    (h : ∀ x, read? (write x) = some x) : (choice write read?).Stable where
  plain _ _ := .str _
  read_write _ _ := h _
  null _ _ h := nomatch h

instance : decimal.Stable where
  plain _ _ := .str _
  read_write _ _ := Number.Decimal.read_text _
  null _ _ h := nomatch h

theorem int64_read {t : Tree} {n : Int} (h : int64.read t = some n) :
    Text.minInt64 ≤ n ∧ n ≤ Text.maxInt64 := by
  unfold int64 intRange at h
  dsimp only at h
  split at h
  · next m =>
    split at h
    · next hrange =>
      obtain rfl := Option.some.inj h
      exact hrange
    · cases h
  · cases h

instance : int64.Stable where
  plain {_ _ n} _ h := by
    obtain ⟨low, high⟩ := int64_read h
    exact .int low (Int.le_trans high (by decide))
  read_write {_ _ n} _ h := if_pos (int64_read h)
  null _ _ h := nomatch h

end Codec

namespace Tree

theorem toItems_eq_mapM (ts : List Tree) : toItems? ts = ts.mapM toValue? := by
  induction ts with
  | nil => rfl
  | cons t ts ih => rw [toItems?, List.mapM_cons, ih]

theorem toMembers_eq_mapM (ms : List (String × Tree)) :
    toMembers? ms = ms.mapM fun m => do return (m.1, ← toValue? m.2) := by
  induction ms with
  | nil => rfl
  | cons m ms ih =>
    rw [toMembers?, List.mapM_cons, ih]
    simp [Option.bind_assoc]

/-- The value of a whole tree is written as a plain tree, and is the value of that. -/
theorem toValue_stable {v : Value} (h : t.Whole room) (hv : toValue? t = some v) :
    (ofValue v).Plain room ∧ toValue? (ofValue v) = some v := by
  induction h generalizing v with
  | null =>
    obtain rfl := Option.some.inj hv
    exact ⟨.null, rfl⟩
  | bool b =>
    obtain rfl := Option.some.inj hv
    exact ⟨.bool b, rfl⟩
  | int low high =>
    obtain rfl := Option.some.inj hv
    exact ⟨.int low high, rfl⟩
  | minusZero =>
    obtain rfl := Option.some.inj hv
    exact ⟨.minusZero, rfl⟩
  | str s =>
    obtain rfl := Option.some.inj hv
    exact ⟨.str s, rfl⟩
  | @arr room items _ ih =>
    obtain ⟨vs, hvs, hv⟩ := Option.bind_eq_some_iff.mp hv
    obtain rfl := Option.some.inj hv
    have hitems : ∀ w ∈ vs, (ofValue w).Plain room ∧ toValue? (ofValue w) = some w := by
      intro w hw
      obtain ⟨u, hu, huw⟩ := exists_mem_of_mapM (toItems_eq_mapM items ▸ hvs) hw
      exact ih u hu huw
    constructor
    · rw [ofValue, ofItems_eq_map]
      refine .arr fun u hu => ?_
      obtain ⟨w, hw, rfl⟩ := List.mem_map.mp hu
      exact (hitems w hw).1
    · simp [ofValue, toValue?, toItems_ofItems fun w hw => (hitems w hw).2]
  | @obj room members _ ih =>
    obtain ⟨ns, hns, hv⟩ := Option.bind_eq_some_iff.mp hv
    obtain rfl := Option.some.inj hv
    have hmembers : ∀ n ∈ Dict.ofList ns,
        (ofValue n.2).Plain room ∧ toValue? (ofValue n.2) = some n.2 := by
      intro n hn
      obtain ⟨m, hm, h⟩ := exists_mem_of_mapM (toMembers_eq_mapM members ▸ hns) (Dict.mem_ofList hn)
      obtain ⟨v, hv, h⟩ := Option.bind_eq_some_iff.mp h
      obtain rfl := Option.some.inj h
      exact ih m hm hv
    constructor
    · rw [Value.ofMembers, ofValue, ofMembers_eq_map]
      refine .obj fun m hm => ?_
      obtain ⟨n, hn, rfl⟩ := List.mem_map.mp hm
      exact (hmembers n hn).1
    · simp [Value.ofMembers, ofValue, toValue?, toMembers_ofMembers fun n hn => (hmembers n hn).2,
        Dict.ofList_sorted (Dict.sorted_ofList ns)]
  | unreadable => cases hv

theorem ofValue_eq_null {v : Value} (h : ofValue v = .null) : v = .null := by
  cases v with
  | null => rfl
  | _ => cases h

theorem eq_null_of_toValue (h : t.Whole room) (hv : toValue? t = some .null) : t = .null := by
  cases h with
  | null => rfl
  | @arr _ items _ =>
    obtain ⟨vs, -, hv⟩ := Option.bind_eq_some_iff.mp hv
    cases hv
  | @obj _ members _ =>
    obtain ⟨ns, -, hv⟩ := Option.bind_eq_some_iff.mp hv
    cases hv
  | _ => cases hv

end Tree

instance : Codec.value.Stable where
  plain whole h := (Tree.toValue_stable whole h).1
  read_write whole h := (Tree.toValue_stable whole h).2
  null whole h hnull := Tree.eq_null_of_toValue whole (Tree.ofValue_eq_null hnull ▸ h)

namespace Codec

variable {c : Codec α}

theorem option_read_null : c.option.read .null = some none := rfl

theorem option_read_of_ne (h : t ≠ .null) : c.option.read t = (c.read t).map some := by
  cases t with
  | null => exact absurd rfl h
  | _ => rfl

/-- Null is nothing, and all else is something. -/
theorem option_read {x : Option α} (h : c.option.read t = some x) :
    (t = .null ∧ x = none) ∨ (t ≠ .null ∧ ∃ y, c.read t = some y ∧ x = some y) := by
  by_cases hnull : t = .null
  · subst hnull
    exact .inl ⟨rfl, (Option.some.inj h).symm⟩
  · rw [option_read_of_ne hnull] at h
    obtain ⟨y, hy, rfl⟩ := Option.map_eq_some_iff.mp h
    exact .inr ⟨hnull, y, hy, rfl⟩

theorem list_read {xs : List α} (h : c.list.read t = some xs) :
    ∃ ts, t = .arr ts ∧ ∀ x ∈ xs, ∃ u ∈ ts, c.read u = some x := by
  cases t with
  | arr ts => exact ⟨ts, rfl, fun x hx => exists_mem_of_mapM h hx⟩
  | _ => cases h

instance [c.Stable] : c.option.Stable where
  plain whole h := by
    obtain ⟨rfl, rfl⟩ | ⟨-, y, hy, rfl⟩ := option_read h
    · exact .null
    · change (c.write y).Plain _
      exact Stable.plain whole hy
  read_write {_ t _} whole h := by
    obtain ⟨rfl, rfl⟩ | ⟨hne, y, hy, rfl⟩ := option_read h
    · rfl
    · have hwritten : c.write y ≠ .null := fun hnull => hne (Stable.null whole hy hnull)
      have hread : c.read (c.write y) = some y := Stable.read_write whole hy
      change c.option.read (c.write y) = some (some y)
      rw [option_read_of_ne hwritten, hread, Option.map_some]
  null whole h hnull := by
    obtain ⟨rfl, rfl⟩ | ⟨-, y, hy, rfl⟩ := option_read h
    · rfl
    · exact Stable.null whole hy hnull

instance [c.Stable] : c.list.Stable where
  plain whole h := by
    obtain ⟨ts, rfl, hread⟩ := list_read h
    cases whole with
    | arr whole =>
      refine .arr fun u hu => ?_
      obtain ⟨x, hx, rfl⟩ := List.mem_map.mp hu
      obtain ⟨v, hv, hvx⟩ := hread x hx
      exact Stable.plain (whole v hv) hvx
  read_write whole h := by
    obtain ⟨ts, rfl, hread⟩ := list_read h
    cases whole with
    | arr whole =>
      refine mapM_map fun x hx => ?_
      obtain ⟨v, hv, hvx⟩ := hread x hx
      exact Stable.read_write (whole v hv) hvx
  null _ _ h := nomatch h

end Codec

end ShopRelay.Json
