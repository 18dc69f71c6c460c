import ShopRelay.Proofs.Json.Stable

/-!
Records of stable members are stable: whatever the shape they are read from, they are written as
objects with all their members, and these are read back by name.
-/

namespace ShopRelay.Json

variable {α β : Type} {room : Nat}

theorem lookup_eq_none {name : String} {ms : List (String × Tree)} (h : name ∉ ms.map Prod.fst) :
    List.lookup name ms = none := by
  rw [List.lookup_eq_none_iff]
  intro m hm
  rw [bne_iff_ne]
  rintro rfl
  exact h (List.mem_map_of_mem hm)

theorem lookup_append_of_mem {name : String} {ms : List (String × Tree)}
    (h : name ∈ ms.map Prod.fst) (ns : List (String × Tree)) :
    List.lookup name (ms ++ ns) = List.lookup name ms := by
  have hsome : (List.lookup name ms).isSome = true := by
    obtain ⟨m, hm, rfl⟩ := List.mem_map.mp h
    rw [List.lookup_isSome_iff]
    exact ⟨m, hm, beq_self_eq_true m.1⟩
  rw [List.lookup_append, Option.or_of_isSome hsome]

theorem lookup_append_of_not_mem {name : String} {ms : List (String × Tree)}
    (h : name ∉ ms.map Prod.fst) (ns : List (String × Tree)) :
    List.lookup name (ms ++ ns) = List.lookup name ns := by
  rw [List.lookup_append, lookup_eq_none h, Option.none_or]

theorem mem_of_lookup {name : String} {t : Tree} {ms : List (String × Tree)}
    (h : List.lookup name ms = some t) : (name, t) ∈ ms := by
  obtain ⟨before, after, rfl, -⟩ := List.lookup_eq_some_iff.mp h
  simp

/-- Whatever a part of a record reads from whole members it writes as plain members, one for each of
its names, and reads back from any members among which these are. -/
class Record.Stable (r : Record α) : Prop where
  names_write (x : α) : (r.write x).map Prod.fst = r.names
  plain {room : Nat} {ms : List (String × Tree)} {x : α} : (∀ m ∈ ms, m.2.Whole room) →
    r.read ms = some x → ∀ m ∈ r.write x, m.2.Plain room
  read_write {room : Nat} {ms ns : List (String × Tree)} {x : α} : r.names.Nodup →
    (∀ m ∈ ms, m.2.Whole room) → r.read ms = some x →
    (∀ name ∈ r.names, List.lookup name ns = List.lookup name (r.write x)) → r.read ns = some x

namespace Record

variable {name : String} {c : Codec α} {ms ns : List (String × Tree)}

theorem lookup_single {t : Tree} (h : ∀ n ∈ [name], List.lookup n ns = List.lookup n [(name, t)]) :
    List.lookup name ns = some t := by
  rw [h name List.mem_cons_self, List.lookup_cons_self]

instance [c.Stable] : (member name c).Stable where
  names_write _ := rfl
  plain whole h := by
    obtain ⟨t, ht, hx⟩ := Option.bind_eq_some_iff.mp h
    rw [member, List.forall_mem_singleton]
    exact Codec.Stable.plain (whole _ (mem_of_lookup ht)) hx
  read_write _ whole h hns := by
    obtain ⟨t, ht, hx⟩ := Option.bind_eq_some_iff.mp h
    rw [member] at hns ⊢
    dsimp only at hns ⊢
    rw [lookup_single hns]
    exact Codec.Stable.read_write (whole _ (mem_of_lookup ht)) hx

/-- Null stands for the standard content, as a member left out does. -/
theorem stable_standard [c.Stable] {content : α} (hnull : c.read .null = some content) :
    (standard name c content).Stable := by
  have hread {room : Nat} {ms : List (String × Tree)} {x : α} (whole : ∀ m ∈ ms, m.2.Whole room)
      (h : (standard name c content).read ms = some x) :
      ∃ t : Tree, t.Whole room ∧ c.read t = some x := by
    unfold standard at h
    dsimp only at h
    split at h
    · next t ht => exact ⟨t, whole _ (mem_of_lookup ht), h⟩
    · obtain rfl := Option.some.inj h
      exact ⟨.null, .null, hnull⟩
  refine ⟨fun _ => rfl, fun whole h => ?_, fun _ whole h hns => ?_⟩
  · obtain ⟨t, ht, hx⟩ := hread whole h
    rw [standard, List.forall_mem_singleton]
    exact Codec.Stable.plain ht hx
  · obtain ⟨t, ht, hx⟩ := hread whole h
    rw [standard] at hns ⊢
    dsimp only at hns ⊢
    rw [lookup_single hns]
    exact Codec.Stable.read_write ht hx

/-- An optional member is one with nothing for its standard content. -/
instance [c.Stable] : (optional name c).Stable :=
  have h : (standard name c.option none).Stable := stable_standard Codec.option_read_null
  ⟨h.names_write, h.plain, h.read_write⟩

instance {r : Record α} {s : Record β} [r.Stable] [s.Stable] : (r.and s).Stable where
  names_write p := by
    rw [Record.and, List.map_append, Stable.names_write, Stable.names_write]
  plain whole h := by
    obtain ⟨x, hx, h⟩ := Option.bind_eq_some_iff.mp h
    obtain ⟨y, hy, h⟩ := Option.bind_eq_some_iff.mp h
    obtain rfl := Option.some.inj h
    intro m hm
    rcases List.mem_append.mp hm with hm | hm
    · exact Stable.plain whole hx m hm
    · exact Stable.plain whole hy m hm
  read_write {_ ms ns _} distinct whole h hns := by
    obtain ⟨x, hx, h⟩ := Option.bind_eq_some_iff.mp h
    obtain ⟨y, hy, h⟩ := Option.bind_eq_some_iff.mp h
    obtain rfl := Option.some.inj h
    obtain ⟨hr, hs, hdisjoint⟩ := List.nodup_append.mp distinct
    have hfirst : r.read ns = some x := by
      refine Stable.read_write hr whole hx fun name hname => ?_
      rw [hns name (List.mem_append_left _ hname)]
      exact lookup_append_of_mem (by rwa [Stable.names_write x]) _
    -- no name of the second part is one of the first, so its members are found behind these
    have hsecond : s.read ns = some y := by
      refine Stable.read_write hs whole hy fun name hname => ?_
      rw [hns name (List.mem_append_right _ hname)]
      refine lookup_append_of_not_mem (fun hmem => ?_) _
      rw [Stable.names_write x] at hmem
      exact hdisjoint name hmem name hname rfl
    simp [Record.and, hfirst, hsecond]

theorem stable_as {r : Record α} [r.Stable] {build : α → β} {parts : β → α}
    (h : ∀ a, parts (build a) = a) : (r.as build parts).Stable where
  names_write x := Stable.names_write (parts x)
  plain whole hread := by
    obtain ⟨x, hx, rfl⟩ := Option.map_eq_some_iff.mp hread
    rw [as]
    dsimp only
    rw [h]
    exact Stable.plain whole hx
  read_write distinct whole hread hns := by
    obtain ⟨x, hx, rfl⟩ := Option.map_eq_some_iff.mp hread
    rw [as] at hns ⊢
    dsimp only at hns ⊢
    rw [h] at hns
    have hwritten : r.read _ = some x := Stable.read_write distinct whole hx hns
    rw [hwritten, Option.map_some]

/-- The members that a whole tree gives to some names are whole, in a container less. -/
theorem whole_membersOf {names : List String} {required : Nat} {t : Tree}
    (whole : t.Whole room) (h : membersOf? names required t = some ms) :
    ∃ inner, room = inner + 1 ∧ ∀ m ∈ ms, m.2.Whole inner := by
  cases whole with
  | @arr inner items whole =>
    unfold membersOf? at h
    dsimp only at h
    split at h
    · obtain rfl := Option.some.inj h
      exact ⟨inner, rfl, fun m hm => whole _ (List.of_mem_zip hm).2⟩
    · cases h
  | @obj inner members whole =>
    unfold membersOf? at h
    dsimp only at h
    split at h
    · obtain rfl := Option.some.inj h
      exact ⟨inner, rfl, fun m hm => whole _ (List.mem_filter.mp hm).1⟩
    · cases h
  | _ => cases h

/-- What a record writes is read back, also from among members of other names. -/
theorem read_codec {r : Record α} [r.Stable] (distinct : r.names.Nodup) {t : Tree} {x : α}
    (whole : t.Whole room) (h : r.codec.read t = some x) {others : List (String × Tree)}
    (hothers : ∀ m ∈ others, m.1 ∉ r.names) :
    r.codec.read (.obj (others ++ r.write x)) = some x := by
  obtain ⟨ms, hms, hx⟩ := Option.bind_eq_some_iff.mp h
  obtain ⟨inner, rfl, hinner⟩ := whole_membersOf whole hms
  have hskipped : others.filter (fun m => r.names.contains m.1) = [] := by
    rw [List.filter_eq_nil_iff]
    exact fun m hm => by simpa using hothers m hm
  have hknown : (r.write x).filter (fun m => r.names.contains m.1) = r.write x := by
    rw [List.filter_eq_self]
    intro m hm
    rw [List.contains_iff_mem, ← Stable.names_write x]
    exact List.mem_map_of_mem hm
  have hnames : ((r.write x).map Prod.fst).Nodup := by rwa [Stable.names_write x]
  have hmembers : membersOf? r.names r.required (.obj (others ++ r.write x)) =
      some (r.write x) := by
    rw [membersOf?, List.filter_append, hskipped, hknown, List.nil_append]
    exact if_pos hnames
  have hread : r.read (r.write x) = some x :=
    Stable.read_write distinct hinner hx fun _ _ => rfl
  rw [codec]
  dsimp only
  rw [hmembers, Option.bind_some, hread]

theorem plain_write {r : Record α} [r.Stable] {t : Tree} {x : α} (whole : t.Whole room)
    (h : r.codec.read t = some x) :
    ∃ inner, room = inner + 1 ∧ ∀ m ∈ r.write x, m.2.Plain inner := by
  obtain ⟨ms, hms, hx⟩ := Option.bind_eq_some_iff.mp h
  obtain ⟨inner, rfl, hinner⟩ := whole_membersOf whole hms
  exact ⟨inner, rfl, Stable.plain hinner hx⟩

theorem stable_codec {r : Record α} (_ : r.Stable) (distinct : r.names.Nodup) : r.codec.Stable where
  plain whole h := by
    obtain ⟨inner, rfl, hinner⟩ := plain_write whole h
    exact .obj hinner
  read_write whole h := read_codec distinct whole h (List.forall_mem_nil _)
  null _ _ h := nomatch h

/-- The tag is one more member, which the reader passes over. -/
theorem stable_tagged {r : Record α} (_ : r.Stable) {key tag : String}
    (distinct : (key :: r.names).Nodup) : (r.tagged key tag).Stable where
  plain whole h := by
    obtain ⟨inner, rfl, hinner⟩ := plain_write whole h
    exact .obj (List.forall_mem_cons.mpr ⟨.str tag, hinner⟩)
  read_write whole h := by
    obtain ⟨hkey, hnames⟩ := List.nodup_cons.mp distinct
    exact read_codec hnames whole h (List.forall_mem_singleton.mpr hkey)
  null _ _ h := nomatch h

end Record

end ShopRelay.Json
