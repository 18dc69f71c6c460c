import Mathlib.Data.List.Nodup
import ShopRelay.Proofs.Program
import ShopRelay.Search.Indexing

/-!
Reindexing, with any store: what is asked of it and where a fault ends the run. A batch of products
leaves the same entries as its products one by one, when the store keeps what it is given.
-/

namespace ShopRelay.Search

/-- The entry of a product is computed from the product alone, and goes under its id. -/
def saved (p : Product) : indexStore.Exchange :=
  ⟨.save ⟨p.id, productDocument p, productVector p⟩, .ok ()⟩

def unsaved (p : Product) (e : Fault) : indexStore.Exchange :=
  ⟨.save ⟨p.id, productDocument p, productVector p⟩, .error e⟩

def loaded (ids : List Uuid) (products : List Product) : indexStore.Exchange :=
  ⟨.load ids, .ok products⟩

def unloaded (ids : List Uuid) (e : Fault) : indexStore.Exchange := ⟨.load ids, .error e⟩

/-- How the reindexing of some products can go. -/
inductive Reindexes : List Uuid → List indexStore.Exchange → Except Fault Nat → Prop where
  | nothing : Reindexes [] [] (.ok 0)
  | unloaded {ids : List Uuid} (asked : ids ≠ []) (e : Fault) :
    Reindexes ids [unloaded ids e] (.error e)
  | whole {ids : List Uuid} (asked : ids ≠ []) (products : List Product) :
    Reindexes ids (loaded ids products :: products.map saved) (.ok products.length)
  | halted {ids : List Uuid} (asked : ids ≠ []) (before : List Product) (p : Product)
      (after : List Product) (e : Fault) :
    Reindexes ids (loaded ids (before ++ p :: after) :: before.map saved ++ [unsaved p e])
      (.error e)

variable {es : List indexStore.Exchange} {ids : List Uuid}

theorem passes_saveAll {products : List Product} {y : Except Fault Nat}
    (h : (saveAll products).Passes es y) :
    (es = products.map saved ∧ y = .ok products.length) ∨
      ∃ before p after e, products = before ++ p :: after ∧
        es = before.map saved ++ [unsaved p e] ∧ y = .error e := by
  induction products generalizing es y with
  | nil => exact .inl (Task.passes_done h)
  | cons p products ih =>
    obtain ⟨first, rest, r, rfl, hsave, hrest⟩ := Task.passes_bind h
    obtain rfl := Program.passes_ask hsave
    cases r with
    | error e =>
      obtain ⟨rfl, rfl⟩ := hrest
      exact .inr ⟨[], p, products, e, rfl, rfl, rfl⟩
    | ok =>
      obtain ⟨r, hothers, rfl⟩ := Task.passes_map hrest
      obtain ⟨rfl, rfl⟩ | ⟨before, q, after, e, rfl, rfl, rfl⟩ := ih hothers
      · exact .inl ⟨rfl, rfl⟩
      · exact .inr ⟨p :: before, q, after, e, rfl, rfl, rfl⟩

theorem passes_reindex {y : Except Fault Nat} (h : (reindex ids).Passes es y) :
    Reindexes ids es y := by
  by_cases hasked : ids = []
  · subst hasked
    obtain ⟨rfl, rfl⟩ := Task.passes_done h
    exact .nothing
  · rw [reindex, if_neg (by simpa using hasked)] at h
    obtain ⟨first, rest, r, rfl, hload, hrest⟩ := Task.passes_bind h
    obtain rfl := Program.passes_ask hload
    cases r with
    | error e =>
      obtain ⟨rfl, rfl⟩ := hrest
      exact .unloaded hasked e
    | ok products =>
      obtain ⟨rfl, rfl⟩ | ⟨before, p, after, e, rfl, rfl, rfl⟩ := passes_saveAll hrest
      · exact .whole hasked products
      · exact .halted hasked before p after e

/-- A store that, in its sound states, finds each known product that is asked for once, and saves
entries without a change of what is known. -/
structure Keeps {σ : Type} (reply : (c : indexStore.Call) → σ → indexStore.Reply c × σ)
    (known : σ → List Product) (entry : σ → Uuid → Option IndexEntry) (sound : σ → Prop) :
    Prop where
  distinct : ∀ s, sound s → ((known s).map (·.id)).Nodup
  load : ∀ s ids, sound s → ∃ products s', reply (.load ids) s = (.ok products, s') ∧
    products.Perm ((known s).filter (ids.contains ·.id)) ∧
    sound s' ∧ known s' = known s ∧ entry s' = entry s
  save : ∀ s e, sound s → ∃ s', reply (.save e) s = (.ok (), s') ∧
    sound s' ∧ known s' = known s ∧
    ∀ id, entry s' id = if id = e.productId then some e else entry s id

/-- The entries after some products were indexed. -/
def indexed (products : List Product) (before : Uuid → Option IndexEntry) (id : Uuid) :
    Option IndexEntry :=
  ((products.find? (·.id = id)).map indexEntry).or (before id)

/-- What is asked for of what is known. -/
def asked (known : List Product) (ids : List Uuid) : List Product :=
  known.filter (ids.contains ·.id)

theorem indexed_cons {p : Product} {products : List Product} (h : p.id ∉ products.map (·.id))
    {before after : Uuid → Option IndexEntry}
    (hafter : ∀ id, after id = if id = p.id then some (indexEntry p) else before id) (id : Uuid) :
    indexed products after id = indexed (p :: products) before id := by
  unfold indexed
  rw [hafter]
  by_cases hid : p.id = id
  · have hnone : products.find? (·.id = id) = none := by
      rw [List.find?_eq_none]
      intro q hq heq
      exact h (List.mem_map.mpr ⟨q, hq, by simpa [hid] using heq⟩)
    rw [hnone, if_pos hid.symm, List.find?_cons_of_pos (by simpa using hid)]
    rfl
  · rw [if_neg (Ne.symm hid), List.find?_cons_of_neg (by simpa using hid)]

theorem find_perm {products others : List Product} (h : products.Perm others)
    (distinct : (products.map (·.id)).Nodup) (id : Uuid) :
    products.find? (·.id = id) = others.find? (·.id = id) := by
  induction h with
  | nil => rfl
  | cons p _ ih => rw [List.find?_cons, List.find?_cons, ih (List.nodup_cons.mp distinct).2]
  | swap p q products =>
    have hne : p.id ≠ q.id := by
      simp only [List.map_cons, List.nodup_cons, List.mem_cons, not_or] at distinct
      exact Ne.symm distinct.1.1
    by_cases hp : p.id = id
    · have hq : q.id ≠ id := fun hq => hne (hp.trans hq.symm)
      simp [hp, hq]
    · simp [List.find?_cons, hp]
  | trans hfirst _ ih ih' => exact (ih distinct).trans (ih' ((hfirst.map _).nodup_iff.mp distinct))

/-- Which products were indexed counts, and not in what order. -/
theorem indexed_perm {products others : List Product} (h : products.Perm others)
    (distinct : (products.map (·.id)).Nodup) (before : Uuid → Option IndexEntry) :
    indexed products before = indexed others before := by
  funext id
  unfold indexed
  rw [find_perm h distinct]

theorem find_asked (known : List Product) (ids : List Uuid) (id : Uuid) :
    (asked known ids).find? (·.id = id) =
      if id ∈ ids then known.find? (·.id = id) else none := by
  unfold asked
  rw [List.find?_filter]
  split
  · next hid =>
    congr 1
    funext p
    by_cases hp : p.id = id
    · simp [hp, hid]
    · simp [hp]
  · next hid =>
    rw [List.find?_eq_none]
    intro p _
    by_cases hp : p.id = id
    · simp [hp, hid]
    · simp [hp]

/-- Products indexed in two turns are as if indexed in one. -/
theorem indexed_append (known : List Product) (ids ids' : List Uuid)
    (before : Uuid → Option IndexEntry) :
    indexed (asked known ids') (indexed (asked known ids) before) =
      indexed (asked known (ids ++ ids')) before := by
  funext id
  unfold indexed
  rw [find_asked, find_asked, find_asked]
  by_cases hid : id ∈ ids
  · by_cases hid' : id ∈ ids'
    · cases known.find? (·.id = id) <;> simp [hid, hid']
    · simp [hid, hid']
  · simp [hid]

theorem indexed_asked_nil (known : List Product) (before : Uuid → Option IndexEntry) :
    indexed (asked known []) before = before := by
  funext id
  rw [indexed, find_asked, if_neg List.not_mem_nil]
  rfl

section
variable {σ : Type} {reply : (c : indexStore.Call) → σ → indexStore.Reply c × σ}
  {known : σ → List Product} {entry : σ → Uuid → Option IndexEntry} {sound : σ → Prop} {s : σ}

theorem run_saveAll (keeps : Keeps reply known entry sound) (hs : sound s)
    {products : List Product} (distinct : (products.map (·.id)).Nodup) :
    ∃ s', (saveAll products).run reply s = (.ok products.length, s') ∧
      sound s' ∧ known s' = known s ∧ entry s' = indexed products (entry s) := by
  induction products generalizing s with
  | nil => exact ⟨s, rfl, hs, rfl, rfl⟩
  | cons p products ih =>
    rw [List.map_cons, List.nodup_cons] at distinct
    obtain ⟨hp, hproducts⟩ := distinct
    obtain ⟨s₁, hsave, hs₁, hknown₁, hentry₁⟩ := keeps.save s (indexEntry p) hs
    obtain ⟨s₂, hrun, hs₂, hknown₂, hentry₂⟩ := ih hs₁ hproducts
    refine ⟨s₂, ?_, hs₂, hknown₂.trans hknown₁, ?_⟩
    · have hfirst : (askIndex (.save (indexEntry p))).run reply s = (.ok (), s₁) := hsave
      exact (Task.run_bind hfirst).trans (Task.run_bind hrun)
    · rw [hentry₂]
      exact funext (indexed_cons hp hentry₁)

theorem run_reindex (keeps : Keeps reply known entry sound) (hs : sound s) (ids : List Uuid) :
    ∃ s', (reindex ids).run reply s = (.ok (asked (known s) ids).length, s') ∧
      sound s' ∧ known s' = known s ∧ entry s' = indexed (asked (known s) ids) (entry s) := by
  by_cases hids : ids = []
  · subst hids
    have hnone : asked (known s) [] = [] := List.filter_eq_nil_iff.mpr fun _ _ => by simp
    rw [hnone]
    exact ⟨s, rfl, hs, rfl, rfl⟩
  · obtain ⟨products, s₁, hload, hperm, hs₁, hknown₁, hentry₁⟩ := keeps.load s ids hs
    have distinct : (products.map (·.id)).Nodup := by
      rw [(hperm.map _).nodup_iff]
      exact (List.filter_sublist.map _).nodup (keeps.distinct s hs)
    obtain ⟨s₂, hrun, hs₂, hknown₂, hentry₂⟩ := run_saveAll keeps hs₁ distinct
    refine ⟨s₂, ?_, hs₂, hknown₂.trans hknown₁, ?_⟩
    · have hfirst : (askIndex (.load ids)).run reply s = (.ok products, s₁) := hload
      rw [reindex, if_neg (by simpa using hids), asked, ← hperm.length_eq]
      exact (Task.run_bind hfirst).trans hrun
    · rw [hentry₂, hentry₁, indexed_perm hperm distinct, asked]

/-- The products one after the other; the result says which of them were found. -/
def reindexEach : List Uuid → Task indexStore (List Bool)
  | [] => .done []
  | id :: rest => do
    let found ← reindexOne id
    let others ← reindexEach rest
    return found :: others

theorem run_reindexOne (keeps : Keeps reply known entry sound) (hs : sound s) (id : Uuid) :
    ∃ s', (reindexOne id).run reply s = (.ok ((known s).any (·.id = id)), s') ∧
      sound s' ∧ known s' = known s ∧ entry s' = indexed (asked (known s) [id]) (entry s) := by
  obtain ⟨s', hrun, hleft⟩ := run_reindex keeps hs [id]
  have hfound : decide (0 < (asked (known s) [id]).length) = (known s).any (·.id = id) := by
    rw [Bool.eq_iff_iff, decide_eq_true_eq, List.length_pos_iff_exists_mem, List.any_eq_true]
    simp [asked]
  refine ⟨s', (Task.run_bind hrun).trans ?_, hleft⟩
  rw [← hfound]
  rfl

theorem run_reindexEach (keeps : Keeps reply known entry sound) (hs : sound s) (ids : List Uuid) :
    ∃ s', (reindexEach ids).run reply s =
        (.ok (ids.map fun id => (known s).any (·.id = id)), s') ∧
      sound s' ∧ known s' = known s ∧ entry s' = indexed (asked (known s) ids) (entry s) := by
  induction ids generalizing s with
  | nil => exact ⟨s, rfl, hs, rfl, (indexed_asked_nil (known s) (entry s)).symm⟩
  | cons id ids ih =>
    obtain ⟨s₁, hfirst, hs₁, hknown₁, hentry₁⟩ := run_reindexOne keeps hs id
    obtain ⟨s₂, hrun, hs₂, hknown₂, hentry₂⟩ := ih hs₁
    rw [hknown₁] at hrun hknown₂ hentry₂
    refine ⟨s₂, (Task.run_bind hfirst).trans (Task.run_bind hrun), hs₂, hknown₂, ?_⟩
    rw [hentry₂, hentry₁, indexed_append, List.singleton_append]

end

namespace MemoryIndex

/-- The entry saved last for a product. -/
def latest (index : MemoryIndex) (id : Uuid) : Option IndexEntry :=
  index.entries.reverse.find? (·.productId = id)

/-- It refuses nothing, and no two of its products have one id. -/
structure Willing (index : MemoryIndex) : Prop where
  loads : index.refusesLoad = false
  saves : index.refusesSaveOf = none
  distinct : (index.products.map (·.id)).Nodup

theorem keeps : Keeps reply MemoryIndex.products latest Willing where
  distinct _ willing := willing.distinct
  load index ids willing := by
    refine ⟨asked index.products ids, index, if_neg ?_, .refl _, willing, rfl, rfl⟩
    simp [willing.loads]
  save index e willing := by
    refine ⟨{ index with entries := index.entries ++ [e] }, if_neg ?_, ⟨willing.loads,
      willing.saves, willing.distinct⟩, rfl, fun id => ?_⟩
    · simp [willing.saves]
    · unfold latest
      rw [List.reverse_append, List.reverse_singleton, List.singleton_append, List.find?_cons]
      by_cases hid : e.productId = id
      · simp [hid]
      · simp [hid, Ne.symm hid]

end MemoryIndex

/-- Whatever the store does, products are loaded once and saved in turn, up to the first fault. A
store that keeps what it is given is left with the entries of the known ones among them, whether
they were reindexed together or one by one, in any order. -/
theorem reindexed_in_turn {σ : Type} (reply : (c : indexStore.Call) → σ → indexStore.Reply c × σ) :
    (∀ s ids, Reindexes ids ((reindex ids).attempt.log reply s) ((reindex ids).run reply s).1) ∧
    (∀ s id, ∃ r, Reindexes [id] ((reindexOne id).attempt.log reply s) r ∧
      ((reindexOne id).run reply s).1 = r.map fun n => decide (0 < n)) ∧
    ∀ (known : σ → List Product) (entry : σ → Uuid → Option IndexEntry) (sound : σ → Prop),
      Keeps reply known entry sound → ∀ s, sound s → ∀ ids order : List Uuid,
        (∀ p ∈ known s, p.id ∈ order ↔ p.id ∈ ids) →
        ((reindex ids).run reply s).1 = .ok ((known s).countP (ids.contains ·.id)) ∧
        ((reindexEach order).run reply s).1 =
          .ok (order.map fun id => (known s).any (·.id = id)) ∧
        entry ((reindex ids).run reply s).2 = entry ((reindexEach order).run reply s).2 ∧
        ∀ id, entry ((reindex ids).run reply s).2 id =
          if id ∈ ids then (((known s).find? (·.id = id)).map indexEntry).or (entry s id)
          else entry s id := by
  refine ⟨fun s ids => passes_reindex (Program.passes_run reply (reindex ids).attempt s),
    fun s id => ?one, fun known entry sound keeps s hs ids order same => ?each⟩
  case one =>
    obtain ⟨r, hr, hresult⟩ :=
      Task.passes_map (Program.passes_run reply (reindexOne id).attempt s)
    exact ⟨r, passes_reindex hr, hresult⟩
  case each =>
    obtain ⟨s₁, hbatch, -, -, hentry₁⟩ := run_reindex keeps hs ids
    obtain ⟨s₂, heach, -, -, hentry₂⟩ := run_reindexEach keeps hs order
    have hasked : asked (known s) order = asked (known s) ids := by
      refine List.filter_congr fun p hp => ?_
      rw [Bool.eq_iff_iff, List.contains_iff_mem, List.contains_iff_mem]
      exact same p hp
    rw [hbatch, heach]
    refine ⟨?_, rfl, ?_, fun id => ?_⟩
    · rw [List.countP_eq_length_filter, asked]
    · rw [hentry₁, hentry₂, hasked]
    · rw [hentry₁, indexed, find_asked]
      split
      · rfl
      · rfl

namespace Sample

def tea : Product := ⟨.ofNat 1, "Tea", none, "Green", [], []⟩

def mug : Product := ⟨.ofNat 2, "Mug", none, "", [], [⟨.ofNat 3, some "M-1", "Large", []⟩]⟩

/-- An index that has an entry for one of its two products. -/
def shelf : MemoryIndex := ⟨[tea, mug], [⟨mug.id, "old", ⟨[]⟩⟩], false, none⟩

end Sample

open Sample

theorem reindexed_in_turn_shelf :
    let batch := (reindex [mug.id, .ofNat 9, tea.id]).run MemoryIndex.reply shelf
    let each := (reindexEach [tea.id, mug.id]).run MemoryIndex.reply shelf
    shelf.Willing ∧ batch.1 = .ok 2 ∧ each.1 = .ok [true, true] ∧
      batch.2.latest = each.2.latest ∧ batch.2.latest mug.id = some (indexEntry mug) := by
  have willing : shelf.Willing := ⟨rfl, rfl, by decide⟩
  have same : ∀ p ∈ shelf.products,
      p.id ∈ [tea.id, mug.id] ↔ p.id ∈ [mug.id, .ofNat 9, tea.id] := by
    decide
  obtain ⟨hbatch, heach, halike, hentry⟩ := (reindexed_in_turn MemoryIndex.reply).2.2 _ _ _
    MemoryIndex.keeps shelf willing [mug.id, .ofNat 9, tea.id] [tea.id, mug.id] same
  exact ⟨willing, hbatch, heach, halike, hentry mug.id⟩

end ShopRelay.Search
