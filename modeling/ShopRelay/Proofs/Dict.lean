import ShopRelay.Dict

/-!
A dictionary stands in the order of its keys, and entries in that order are a dictionary as they
are. Replacing or erasing the entry of a key does nothing to the entries of other keys.
-/

namespace ShopRelay.Dict

variable {α : Type}

/-- The keys ascend, so no key occurs twice. -/
def Sorted (d : Dict α) : Prop := (d.map Prod.fst).Pairwise (· < ·)

theorem insert_last {d : Dict α} {key : String} (h : ∀ e ∈ d, e.1 < key) (value : α) :
    insert key value d = d ++ [(key, value)] := by
  induction d with
  | nil => rfl
  | cons e rest ih =>
    have he : e.1 < key := h e List.mem_cons_self
    have hless : ¬ key < e.1 := String.lt_asymm he
    have hne : key ≠ e.1 := fun heq => String.lt_irrefl _ (heq ▸ he)
    rw [insert, if_neg hless, if_neg hne, ih fun f hf => h f (List.mem_cons_of_mem _ hf),
      List.cons_append]

theorem ofList_append (d : Dict α) (entries : List (String × α)) (h : Sorted (d ++ entries)) :
    entries.foldl (fun d e => insert e.1 e.2 d) d = d ++ entries := by
  induction entries generalizing d with
  | nil => rw [List.foldl_nil, List.append_nil]
  | cons e entries ih =>
    have hlast : ∀ f ∈ d, f.1 < e.1 := by
      intro f hf
      unfold Sorted at h
      rw [List.map_append, List.pairwise_append] at h
      exact h.2.2 f.1 (List.mem_map_of_mem hf) e.1 (by simp)
    rw [List.foldl_cons, insert_last hlast, ih, List.append_assoc, List.singleton_append]
    rwa [List.append_assoc, List.singleton_append]

theorem ofList_sorted {d : Dict α} (h : Sorted d) : ofList d = d := ofList_append [] d h

theorem mem_insert {d : Dict α} {key : String} {value : α} {e : String × α}
    (h : e ∈ insert key value d) : e = (key, value) ∨ e ∈ d := by
  induction d with
  | nil => exact .inl (List.mem_singleton.mp h)
  | cons f rest ih =>
    rw [insert] at h
    split at h
    · exact List.mem_cons.mp h
    · split at h
      · exact (List.mem_cons.mp h).imp_right (List.mem_cons_of_mem f)
      · rcases List.mem_cons.mp h with rfl | h
        · exact .inr List.mem_cons_self
        · exact (ih h).imp_right (List.mem_cons_of_mem f)

theorem sorted_insert {d : Dict α} (h : Sorted d) (key : String) (value : α) :
    Sorted (insert key value d) := by
  induction d with
  | nil => exact List.pairwise_singleton _ _
  | cons e rest ih =>
    unfold Sorted at h ih
    rw [List.map_cons, List.pairwise_cons] at h
    obtain ⟨hfirst, hrest⟩ := h
    unfold Sorted
    rw [insert]
    split
    · next hless =>
      simp only [List.map_cons, List.pairwise_cons, List.forall_mem_cons]
      exact ⟨⟨hless, fun k hk => String.lt_trans hless (hfirst k hk)⟩, hfirst, hrest⟩
    · next hnotless =>
      split
      · next heq =>
        subst heq
        exact List.pairwise_cons.mpr ⟨hfirst, hrest⟩
      · next hne =>
        rw [List.map_cons, List.pairwise_cons]
        refine ⟨fun k hk => ?_, ih hrest⟩
        obtain ⟨f, hf, rfl⟩ := List.mem_map.mp hk
        rcases mem_insert hf with rfl | hf
        · exact Decidable.byContradiction fun hle =>
            hne (String.le_antisymm (String.not_lt.mp hle) (String.not_lt.mp hnotless))
        · exact hfirst _ (List.mem_map_of_mem hf)

theorem sorted_ofList (entries : List (String × α)) : Sorted (ofList entries) := by
  suffices h : ∀ d : Dict α, Sorted d → Sorted (entries.foldl (fun d e => insert e.1 e.2 d) d) from
    h [] List.Pairwise.nil
  induction entries with
  | nil => exact fun d hd => hd
  | cons e entries ih => exact fun d hd => ih _ (sorted_insert hd e.1 e.2)

theorem mem_ofList {entries : List (String × α)} {e : String × α} (h : e ∈ ofList entries) :
    e ∈ entries := by
  suffices hfold : ∀ d : Dict α, e ∈ entries.foldl (fun d e => insert e.1 e.2 d) d →
      e ∈ d ∨ e ∈ entries from (hfold [] h).resolve_left (List.not_mem_nil)
  clear h
  induction entries with
  | nil => exact fun d hd => .inl hd
  | cons f entries ih =>
    intro d hd
    rcases ih _ hd with hd | he
    · rcases mem_insert hd with rfl | hd
      · exact .inr List.mem_cons_self
      · exact .inl hd
    · exact .inr (List.mem_cons_of_mem f he)

/-- The dictionary without a key. -/
def erase (d : Dict α) (key : String) : Dict α := d.filter (·.1 ≠ key)

theorem get_cons (e : String × α) (d : Dict α) (key : String) :
    get? (e :: d) key = if key = e.1 then some e.2 else get? d key := by
  obtain ⟨k, v⟩ := e
  by_cases h : key = k
  · simp [get?, h]
  · have hne : (key == k) = false := by simpa using h
    simp [get?, h, List.lookup_cons, hne]

theorem get_erase_self (d : Dict α) (key : String) : get? (erase d key) key = none := by
  unfold get? erase
  rw [List.lookup_eq_none_iff]
  intro e he
  have hne : e.1 ≠ key := by simpa using (List.mem_filter.mp he).2
  simpa using hne.symm

theorem get_erase_other {key other : String} (h : other ≠ key) (d : Dict α) :
    get? (erase d key) other = get? d other := by
  induction d with
  | nil => rfl
  | cons e d ih =>
    unfold erase at ih ⊢
    by_cases he : e.1 = key
    · have hother : other ≠ e.1 := he ▸ h
      rw [List.filter_cons_of_neg (by simpa using he), ih, get_cons, if_neg hother]
    · rw [List.filter_cons_of_pos (by simpa using he), get_cons, get_cons, ih]

theorem get_insert (d : Dict α) (key other : String) (value : α) :
    get? (insert key value d) other = if other = key then some value else get? d other := by
  induction d with
  | nil => exact get_cons (key, value) [] other
  | cons e d ih =>
    rw [insert]
    split
    · exact get_cons (key, value) (e :: d) other
    · split
      · next heq =>
        subst heq
        rw [get_cons, get_cons]
        split <;> rfl
      · next hne =>
        rw [get_cons, get_cons, ih]
        by_cases hkey : other = key
        · have hother : other ≠ e.1 := hkey ▸ hne
          rw [if_neg hother, if_pos hkey, if_pos hkey]
        · rw [if_neg hkey, if_neg hkey]

theorem get_eq_none {d : Dict α} {key : String} : get? d key = none ↔ key ∉ d.map Prod.fst := by
  unfold get?
  simp only [List.lookup_eq_none_iff, List.mem_map, not_exists, not_and, bne_iff_ne, ne_comm]

/-- The last entry with a key is found. -/
theorem get_ofList (entries : List (String × α)) (key : String) :
    get? (ofList entries) key = entries.reverse.lookup key := by
  suffices h : ∀ d : Dict α, get? (entries.foldl (fun d e => insert e.1 e.2 d) d) key =
      (entries.reverse.lookup key).or (get? d key) from
    (h []).trans Option.or_none
  induction entries with
  | nil => exact fun d => rfl
  | cons e entries ih =>
    intro d
    have hlast : [e].lookup key = if key = e.1 then some e.2 else none := get_cons e [] key
    rw [List.foldl_cons, ih, get_insert, List.reverse_cons, List.lookup_append, hlast,
      Option.or_assoc]
    split <;> rfl

theorem mem_keys_ofList {entries : List (String × α)} {key : String} :
    key ∈ (ofList entries).map Prod.fst ↔ key ∈ entries.map Prod.fst := by
  have hreverse : get? entries.reverse key = none ↔ key ∉ entries.map Prod.fst := by
    rw [get_eq_none, List.map_reverse, List.mem_reverse]
  rw [← Decidable.not_iff_not, ← get_eq_none, get_ofList]
  exact hreverse

theorem get_ofList_append (xs ys : List (String × α)) (key : String) :
    get? (ofList (xs ++ ys)) key = (get? (ofList ys) key).or (get? (ofList xs) key) := by
  simp only [get_ofList, List.reverse_append, List.lookup_append]

theorem get_ofList_eq_some {entries : List (String × α)} {key : String} {value : α} :
    get? (ofList entries) key = some value ↔ ∃ before after,
      entries = before ++ (key, value) :: after ∧ ∀ e ∈ after, e.1 ≠ key := by
  rw [get_ofList, List.lookup_eq_some_iff]
  constructor
  · rintro ⟨after, before, heq, hafter⟩
    refine ⟨before.reverse, after.reverse, ?_, fun e he => ?_⟩
    · rw [← List.reverse_reverse entries, heq, List.reverse_append, List.reverse_cons,
        List.append_assoc, List.singleton_append]
    · simpa using (bne_iff_ne.mp (hafter e (List.mem_reverse.mp he))).symm
  · rintro ⟨before, after, rfl, hafter⟩
    refine ⟨after.reverse, before.reverse, by simp, fun e he => ?_⟩
    exact bne_iff_ne.mpr (hafter e (List.mem_reverse.mp he)).symm

/-- Of entries with distinct keys each is found. -/
theorem get_eq_some {d : Dict α} (h : Sorted d) {key : String} {value : α} :
    get? d key = some value ↔ (key, value) ∈ d := by
  induction d with
  | nil => exact ⟨nofun, nofun⟩
  | cons e d ih =>
    unfold Sorted at h ih
    rw [List.map_cons, List.pairwise_cons] at h
    obtain ⟨hfirst, hrest⟩ := h
    rw [get_cons, List.mem_cons]
    by_cases heq : key = e.1
    · have habsent : (key, value) ∉ d := fun hmem =>
        String.lt_irrefl _ (heq ▸ hfirst key (List.mem_map_of_mem hmem))
      rw [if_pos heq, Option.some.injEq, or_iff_left habsent, heq]
      exact ⟨fun hvalue => hvalue ▸ rfl, fun hentry => (congrArg Prod.snd hentry).symm⟩
    · have hne : (key, value) ≠ e := fun hentry => heq (congrArg Prod.fst hentry)
      rw [if_neg heq, or_iff_right hne, ih hrest]

/-- A dictionary is known by what is found in it. -/
theorem ext_of_sorted {d e : Dict α} (hd : Sorted d) (he : Sorted e)
    (h : ∀ key, get? d key = get? e key) : d = e := by
  have hpairs {d : Dict α} (hd : Sorted d) : d.Pairwise (·.1 < ·.1) := List.pairwise_map.mp hd
  have hnodup {d : Dict α} (hd : Sorted d) : d.Nodup := (hpairs hd).imp fun {f g} hlt heq => by
    rw [heq] at hlt
    exact String.lt_irrefl _ hlt
  have hperm : d.Perm e := (List.perm_ext_iff_of_nodup (hnodup hd) (hnodup he)).mpr fun f => by
    rw [← get_eq_some hd, ← get_eq_some he, h]
  exact hperm.eq_of_pairwise (fun f g _ _ hlt hgt => absurd hgt (String.lt_asymm hlt)) (hpairs hd)
    (hpairs he)

end ShopRelay.Dict
