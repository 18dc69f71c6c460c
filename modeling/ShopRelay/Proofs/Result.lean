import Mathlib.Data.List.Forall2

/-!
Results that may be errors, taken apart into what they were made of.
-/

namespace ShopRelay.Result

variable {ε α β : Type}

theorem bind_ok {x : Except ε α} {f : α → Except ε β} {b : β} (h : x >>= f = .ok b) :
    ∃ a, x = .ok a ∧ f a = .ok b := by
  cases x with
  | error e => cases h
  | ok a => exact ⟨a, rfl, h⟩

theorem ok_bind {x : Except ε α} {a : α} (h : x = .ok a) (f : α → Except ε β) :
    x >>= f = f a := by
  rw [h]
  rfl

theorem bind_error {x : Except ε α} {f : α → Except ε β} {e : ε} (h : x >>= f = .error e) :
    x = .error e ∨ ∃ a, x = .ok a ∧ f a = .error e := by
  cases x with
  | error e' =>
    cases h
    exact .inl rfl
  | ok a => exact .inr ⟨a, rfl, h⟩

/-- A list that is read with success is read member by member. -/
theorem forall₂_of_mapM {read : α → Except ε β} {xs : List α} {ys : List β}
    (h : xs.mapM read = .ok ys) : List.Forall₂ (fun x y => read x = .ok y) xs ys := by
  induction xs generalizing ys with
  | nil =>
    cases h
    exact .nil
  | cons x xs ih =>
    rw [List.mapM_cons] at h
    obtain ⟨y, hy, hrest⟩ := bind_ok h
    obtain ⟨ys', hys, hys'⟩ := bind_ok hrest
    cases hys'
    exact .cons hy (ih hys)

theorem mapM_eq_ok {read : α → Except ε β} {xs : List α} {ys : List β} :
    xs.mapM read = .ok ys ↔ List.Forall₂ (fun x y => read x = .ok y) xs ys := by
  refine ⟨forall₂_of_mapM, fun h => ?_⟩
  induction h with
  | nil => rfl
  | cons hfirst _ ih =>
    rw [List.mapM_cons, hfirst, ih]
    rfl

/-- A list is not read for the first member that is not. -/
theorem mapM_eq_error {read : α → Except ε β} {xs : List α} {e : ε} :
    xs.mapM read = .error e ↔ ∃ before x after, xs = before ++ x :: after ∧
      (∃ ys, before.mapM read = .ok ys) ∧ read x = .error e := by
  constructor
  · intro h
    induction xs with
    | nil => cases h
    | cons x xs ih =>
      rw [List.mapM_cons] at h
      rcases bind_error h with hx | ⟨y, hy, hrest⟩
      · exact ⟨[], x, xs, rfl, ⟨[], rfl⟩, hx⟩
      · rcases bind_error hrest with hxs | ⟨ys, -, hys⟩
        · obtain ⟨before, z, after, rfl, ⟨ys, hys⟩, hz⟩ := ih hxs
          refine ⟨x :: before, z, after, rfl, ⟨y :: ys, ?_⟩, hz⟩
          rw [List.mapM_cons, hy, hys]
          rfl
        · cases hys
  · rintro ⟨before, x, after, rfl, ⟨ys, hys⟩, hx⟩
    rw [List.mapM_append, hys, List.mapM_cons, hx]
    rfl

theorem mapM_append_ok {read : α → Except ε β} {xs xs' : List α} {ys : List β} :
    (xs ++ xs').mapM read = .ok ys ↔ ∃ firsts lasts, xs.mapM read = .ok firsts ∧
      xs'.mapM read = .ok lasts ∧ ys = firsts ++ lasts := by
  rw [List.mapM_append]
  constructor
  · intro h
    obtain ⟨firsts, hfirsts, hrest⟩ := bind_ok h
    obtain ⟨lasts, hlasts, hsum⟩ := bind_ok hrest
    exact ⟨firsts, lasts, hfirsts, hlasts, (Except.ok.inj hsum).symm⟩
  · rintro ⟨firsts, lasts, hfirsts, hlasts, rfl⟩
    rw [hfirsts, hlasts]
    rfl

/-- A place in the second of two related lists is one in the first. -/
theorem forall₂_split {R : α → β → Prop} {xs : List α} {before after : List β} {y : β}
    (h : List.Forall₂ R xs (before ++ y :: after)) : ∃ firsts x lasts, xs = firsts ++ x :: lasts ∧
      List.Forall₂ R firsts before ∧ R x y ∧ List.Forall₂ R lasts after := by
  have hfirsts := List.forall₂_take_append xs before (y :: after) h
  have hrest := List.forall₂_drop_append xs before (y :: after) h
  obtain ⟨x, lasts, hxy, hlasts, hdrop⟩ := List.forall₂_cons_right_iff.mp hrest
  refine ⟨xs.take before.length, x, lasts, ?_, hfirsts, hxy, hlasts⟩
  rw [← hdrop, List.take_append_drop]

theorem exists_of_mem_right {R : α → β → Prop} {xs : List α} {ys : List β}
    (h : List.Forall₂ R xs ys) {y : β} (hy : y ∈ ys) : ∃ x ∈ xs, R x y := by
  obtain ⟨before, after, rfl⟩ := List.append_of_mem hy
  obtain ⟨firsts, x, lasts, rfl, -, hxy, -⟩ := forall₂_split h
  exact ⟨x, by simp, hxy⟩

theorem exists_mapM_ok {read : α → Except ε β} {xs : List α} :
    (∃ ys, xs.mapM read = .ok ys) ↔ ∀ x ∈ xs, ∃ y, read x = .ok y := by
  constructor
  · rintro ⟨ys, h⟩ x hx
    obtain ⟨y, -, hxy⟩ := exists_of_mem_right (mapM_eq_ok.mp h).flip hx
    exact ⟨y, hxy⟩
  · intro h
    induction xs with
    | nil => exact ⟨[], rfl⟩
    | cons x xs ih =>
      obtain ⟨y, hy⟩ := h x List.mem_cons_self
      obtain ⟨ys, hys⟩ := ih fun z hz => h z (List.mem_cons_of_mem x hz)
      refine ⟨y :: ys, ?_⟩
      rw [List.mapM_cons, hy, hys]
      rfl

/-- What each member and what it is read as agree on is the same all along the lists. -/
theorem map_eq_of_mapM {γ : Type} {read : α → Except ε β} {f : α → γ} {g : β → γ}
    (agree : ∀ x y, read x = .ok y → f x = g y) {xs : List α} {ys : List β}
    (h : xs.mapM read = .ok ys) : xs.map f = ys.map g := by
  have hread := forall₂_of_mapM h
  clear h
  induction hread with
  | nil => rfl
  | cons hfirst _ ih => rw [List.map_cons, List.map_cons, agree _ _ hfirst, ih]

theorem any_eq_of_mapM {read : α → Except ε β} {p : α → Bool} {q : β → Bool}
    (agree : ∀ x y, read x = .ok y → p x = q y) {xs : List α} {ys : List β}
    (h : xs.mapM read = .ok ys) : xs.any p = ys.any q := by
  have hmap := congrArg (List.any · id) (map_eq_of_mapM agree h)
  rwa [List.any_map, List.any_map] at hmap

/-- Some members of a list are read as the same ones of what the list is read as. -/
theorem mapM_filter {read : α → Except ε β} {p : α → Bool} {q : β → Bool}
    (agree : ∀ x y, read x = .ok y → p x = q y) {xs : List α} {ys : List β}
    (h : xs.mapM read = .ok ys) : (xs.filter p).mapM read = .ok (ys.filter q) := by
  have hread := forall₂_of_mapM h
  clear h
  induction hread with
  | nil => rfl
  | @cons x y xs ys hfirst _ ih =>
    rw [List.filter_cons, List.filter_cons, agree x y hfirst]
    split
    · rw [List.mapM_cons, hfirst, ih]
      rfl
    · exact ih

/-- What reads back what is written reads back lists of it. -/
theorem mapM_map {read : β → Except ε α} {write : α → β} (h : ∀ x, read (write x) = .ok x)
    (xs : List α) : (xs.map write).mapM read = .ok xs := by
  induction xs with
  | nil => rfl
  | cons x xs ih =>
    rw [List.map_cons, List.mapM_cons, h x, ih]
    rfl

end ShopRelay.Result
