import Mathlib.Data.List.Basic
import ShopRelay.Search.EditorText

/-!
What is left of a text without its tags: a tag runs from the first `<` that is left to the nearest
`>` behind it, whatever stands between them. Nothing that is left could be taken for a tag.
-/

namespace ShopRelay.Search

variable {s before inside rest out : List Char}

/-- No `<` is followed by a `>`, at any distance. -/
def Untagged (s : List Char) : Prop := ¬ ['<', '>'].Sublist s

/-- The second text is the first one without its tags. -/
inductive Strips : List Char → List Char → Prop where
  | untagged {s : List Char} (h : Untagged s) : Strips s s
  | tag {before inside rest out : List Char} (first : '<' ∉ before) (nearest : '>' ∉ inside)
      (h : Strips rest out) : Strips (before ++ '<' :: (inside ++ '>' :: rest)) (before ++ out)

theorem untagged_open : Untagged ('<' :: s) ↔ '>' ∉ s := by
  simp [Untagged]

theorem untagged_append (h : '<' ∉ before) : Untagged (before ++ s) ↔ Untagged s := by
  induction before with
  | nil => simp
  | cons c before ih =>
    simp only [List.mem_cons, not_or] at h
    obtain ⟨hc, hbefore⟩ := h
    rw [← ih hbefore, Untagged, Untagged, List.cons_append, List.sublist_cons_iff]
    simp [hc]

/-- A text is cut at its first tag, if it has one. -/
theorem untagged_or_tag (s : List Char) :
    Untagged s ∨ ∃ before inside rest, s = before ++ '<' :: (inside ++ '>' :: rest) ∧
      '<' ∉ before ∧ '>' ∉ inside := by
  by_cases hopen : '<' ∈ s
  · obtain ⟨before, behind, rfl, hbefore⟩ := List.eq_append_cons_of_mem hopen
    by_cases hclose : '>' ∈ behind
    · obtain ⟨inside, rest, rfl, hinside⟩ := List.eq_append_cons_of_mem hclose
      exact .inr ⟨before, inside, rest, rfl, hbefore, hinside⟩
    · exact .inl ((untagged_append hbefore).mpr (untagged_open.mpr hclose))
  · exact .inl fun hsub => hopen (hsub.subset List.mem_cons_self)

theorem removeTags_append_unopened (h : '<' ∉ before) :
    removeTags (before ++ s) = before ++ removeTags s := by
  induction before with
  | nil => rfl
  | cons c before ih =>
    simp only [List.mem_cons, not_or] at h
    obtain ⟨hc, hbefore⟩ := h
    have hstep : removeTags (c :: (before ++ s)) = c :: removeTags (before ++ s) := by
      simp [removeTags, removeTagsFrom, Ne.symm hc]
    rw [List.cons_append, hstep, ih hbefore, List.cons_append]

theorem removeTags_unopened (h : '<' ∉ s) : removeTags s = s := by
  simpa [removeTags, removeTagsFrom] using removeTags_append_unopened (s := []) h

/-- What is held of a tag is dropped where the tag ends. -/
theorem removeTagsFrom_closed (held : List Char) (h : '>' ∉ inside) :
    removeTagsFrom (some held) (inside ++ '>' :: rest) = removeTags rest := by
  induction inside generalizing held with
  | nil => simp [removeTagsFrom, removeTags]
  | cons c inside ih =>
    simp only [List.mem_cons, not_or] at h
    obtain ⟨hc, hinside⟩ := h
    simp [removeTagsFrom, Ne.symm hc, ih (c :: held) hinside]

/-- It comes back where the tag never ends. -/
theorem removeTagsFrom_unclosed (held : List Char) (h : '>' ∉ s) :
    removeTagsFrom (some held) s = held.reverse ++ s := by
  induction s generalizing held with
  | nil => simp [removeTagsFrom]
  | cons c s ih =>
    simp only [List.mem_cons, not_or] at h
    obtain ⟨hc, hs⟩ := h
    simp [removeTagsFrom, Ne.symm hc, ih (c :: held) hs]

theorem removeTags_tag (first : '<' ∉ before) (nearest : '>' ∉ inside) :
    removeTags (before ++ '<' :: (inside ++ '>' :: rest)) = before ++ removeTags rest := by
  have hbehind : removeTags ('<' :: (inside ++ '>' :: rest)) = removeTags rest :=
    removeTagsFrom_closed ['<'] nearest
  rw [removeTags_append_unopened first, hbehind]

theorem removeTags_untagged (h : Untagged s) : removeTags s = s := by
  by_cases hopen : '<' ∈ s
  · obtain ⟨before, behind, rfl, hbefore⟩ := List.eq_append_cons_of_mem hopen
    have hclose : '>' ∉ behind := untagged_open.mp ((untagged_append hbefore).mp h)
    have hbehind : removeTags ('<' :: behind) = '<' :: behind := removeTagsFrom_unclosed ['<'] hclose
    rw [removeTags_append_unopened hbefore, hbehind]
  · exact removeTags_unopened hopen

theorem strips_removeTags (s : List Char) : Strips s (removeTags s) := by
  rcases untagged_or_tag s with h | ⟨before, inside, rest, hs, hbefore, hinside⟩
  · rw [removeTags_untagged h]
    exact .untagged h
  · have hshorter : rest.length < s.length := by
      simp only [hs, List.length_append, List.length_cons]
      omega
    rw [hs, removeTags_tag hbefore hinside]
    exact .tag hbefore hinside (strips_removeTags rest)
termination_by s.length

theorem Strips.removeTags_eq (h : Strips s out) : removeTags s = out := by
  induction h with
  | untagged h => exact removeTags_untagged h
  | tag first nearest _ ih => rw [removeTags_tag first nearest, ih]

/-- Text from before and behind a tag does not join to a new one. -/
theorem Strips.untagged_out (h : Strips s out) : Untagged out := by
  induction h with
  | untagged h => exact h
  | tag first _ _ ih => exact (untagged_append first).mpr ih

/-- Where no tag is left open, what follows is stripped on its own. -/
theorem Strips.removeTags_append (h : Strips s out) (closed : '<' ∉ out) (t : List Char) :
    removeTags (s ++ t) = out ++ removeTags t := by
  induction h with
  | untagged _ => exact removeTags_append_unopened closed
  | @tag before inside rest out first nearest _ ih =>
    simp only [List.mem_append, not_or] at closed
    have hcut : before ++ '<' :: (inside ++ '>' :: rest) ++ t =
        before ++ '<' :: (inside ++ '>' :: (rest ++ t)) := by simp
    rw [hcut, removeTags_tag first nearest, ih closed.2, List.append_assoc]

/-- Exactly the tags are removed, so there is none left to remove, and a text without an open tag
does not matter to what follows it. -/
theorem tags_removed :
    (∀ s out, removeTags s = out ↔ Strips s out) ∧
    (∀ s, Untagged (removeTags s)) ∧
    (∀ s, removeTags (removeTags s) = removeTags s) ∧
    ∀ a b, '<' ∉ removeTags a → removeTags (a ++ b) = removeTags a ++ removeTags b := by
  refine ⟨fun s out => ⟨?_, Strips.removeTags_eq⟩, ?_, ?_, ?_⟩
  · rintro rfl
    exact strips_removeTags s
  · intro s
    exact (strips_removeTags s).untagged_out
  · intro s
    exact removeTags_untagged (strips_removeTags s).untagged_out
  · intro a b closed
    exact (strips_removeTags a).removeTags_append closed b

/-- A tag with a `<` and a line break inside is closed; behind it stands one that never is. -/
theorem tags_removed_joined :
    '<' ∉ removeTags "a<b <\n>c".toList ∧
      removeTags ("a<b <\n>c".toList ++ ">d<e".toList) = "ac>d<e".toList := by
  have hclosed : '<' ∉ removeTags "a<b <\n>c".toList := by decide
  refine ⟨hclosed, ?_⟩
  rw [tags_removed.2.2.2 _ _ hclosed]
  decide

end ShopRelay.Search
