import Mathlib.Data.List.Basic
import ShopRelay.Text.Split

/-!
The segments of a text that was joined by a mark, and the text that some segments are cut from.
-/

namespace ShopRelay.Text

variable {mark : Char} {s rest : List Char}

theorem split_unmarked (h : mark ∉ s) : split mark s = [s] := by
  induction s with
  | nil => rfl
  | cons c s ih =>
    simp only [List.mem_cons, not_or] at h
    obtain ⟨hc, hs⟩ := h
    rw [split, if_neg (by simpa using Ne.symm hc), ih hs]

theorem split_append (h : mark ∉ s) :
    split mark (s ++ mark :: rest) = s :: split mark rest := by
  induction s with
  | nil => simp [split]
  | cons c s ih =>
    simp only [List.mem_cons, not_or] at h
    obtain ⟨hc, hs⟩ := h
    rw [List.cons_append, split, if_neg (by simpa using Ne.symm hc), ih hs]

theorem split_ne_nil (mark : Char) (s : List Char) : split mark s ≠ [] := by
  cases s with
  | nil => exact List.cons_ne_nil _ _
  | cons c s =>
    unfold split
    split
    · exact List.cons_ne_nil _ _
    · split
      · exact List.cons_ne_nil _ _
      · exact List.cons_ne_nil _ _

/-- A mark divides a text in two at least. -/
theorem split_marked (h : mark ∈ s) : ∃ first second others,
    split mark s = first :: second :: others := by
  obtain ⟨before, after, rfl, hbefore⟩ := List.eq_append_cons_of_mem h
  obtain ⟨second, others, hsplit⟩ := List.exists_cons_of_ne_nil (split_ne_nil mark after)
  exact ⟨before, second, others, by rw [split_append hbefore, hsplit]⟩

theorem not_mem_of_mem_split {segment : List Char} (h : segment ∈ split mark s) :
    mark ∉ segment := by
  induction s generalizing segment with
  | nil =>
    rw [split, List.mem_singleton] at h
    simp [h]
  | cons c s ih =>
    unfold split at h
    split at h
    · rcases List.mem_cons.mp h with rfl | h
      · exact List.not_mem_nil
      · exact ih h
    · next hc =>
      have hne : mark ≠ c := fun h => hc (beq_iff_eq.mpr h.symm)
      split at h
      · next hnil => exact absurd hnil (split_ne_nil mark s)
      · next first segments hsplit =>
        rw [hsplit] at ih
        rcases List.mem_cons.mp h with rfl | h
        · simp [hne, ih List.mem_cons_self]
        · exact ih (List.mem_cons_of_mem first h)

theorem intercalate_split (mark : Char) (s : List Char) : [mark].intercalate (split mark s) = s := by
  induction s with
  | nil => rfl
  | cons c s ih =>
    unfold split
    split
    · next hc =>
      rw [List.intercalate_cons_of_ne_nil (split_ne_nil mark s), ih, eq_of_beq hc]
      rfl
    · split
      · next hnil => exact absurd hnil (split_ne_nil mark s)
      · next first segments hsplit =>
        rw [hsplit] at ih
        rw [← ih]
        cases segments with
        | nil => simp
        | cons second segments => simp

/-- A text is cut into the segments without the mark that the mark joins to this text. -/
theorem split_eq_iff {segments : List (List Char)} :
    split mark s = segments ↔
      segments ≠ [] ∧ (∀ segment ∈ segments, mark ∉ segment) ∧
        [mark].intercalate segments = s := by
  constructor
  · rintro rfl
    exact ⟨split_ne_nil mark s, fun _ => not_mem_of_mem_split, intercalate_split mark s⟩
  · rintro ⟨hne, hunmarked, rfl⟩
    induction segments with
    | nil => exact absurd rfl hne
    | cons first segments ih =>
      have hfirst : mark ∉ first := hunmarked first List.mem_cons_self
      cases segments with
      | nil => rw [List.intercalate_singleton, split_unmarked hfirst]
      | cons second segments =>
        have hrest := ih (List.cons_ne_nil second segments)
          fun segment h => hunmarked segment (List.mem_cons_of_mem first h)
        rw [List.intercalate_cons_cons, List.append_assoc, List.singleton_append,
          split_append hfirst, hrest]

end ShopRelay.Text
