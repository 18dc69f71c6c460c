import Mathlib.Data.List.Infix
import ShopRelay.Proofs.Search.Tags

/-!
Entities decoded kind by kind are decoded as by one pass from left to right: no entity begins or
ends inside of another one, and no decoded character takes part in an entity. So text that was
escaped comes back as it was.
-/

namespace ShopRelay.Search

variable {pattern name cs rest t : List Char} {char c : Char}

theorem replaceFrom_skipped (k : Nat) (cs : List Char) :
    replaceFrom pattern char k cs = replaceAll pattern char (cs.drop k) := by
  induction cs generalizing k with
  | nil => cases k <;> rfl
  | cons c cs ih =>
    cases k with
    | zero => rfl
    | succ k => exact ih k

theorem replaceAll_hit :
    replaceAll (c :: name) char (c :: name ++ rest) = char :: replaceAll (c :: name) char rest := by
  have hfront : (c :: name).isPrefixOf (c :: name ++ rest) = true := by simp
  rw [List.cons_append] at hfront ⊢
  rw [replaceAll, replaceFrom, if_pos hfront, replaceFrom_skipped]
  simp

theorem replaceAll_miss (h : ¬ pattern <+: c :: rest) :
    replaceAll pattern char (c :: rest) = c :: replaceAll pattern char rest := by
  rw [replaceAll, replaceFrom, if_neg (by simpa using h)]
  rfl

/-- Only where its first character stands can a pattern begin. -/
theorem replaceAll_unmarked (h : c ∉ t) :
    replaceAll (c :: name) char (t ++ rest) = t ++ replaceAll (c :: name) char rest := by
  induction t with
  | nil => rfl
  | cons d t ih =>
    simp only [List.mem_cons, not_or] at h
    obtain ⟨hd, ht⟩ := h
    rw [List.cons_append, replaceAll_miss (by simp [hd]), ih ht, List.cons_append]

/-- A text without the new character that stands in front was there before. -/
theorem prefix_of_replaceAll (h : char ∉ t) (hfront : t <+: replaceAll pattern char cs) :
    t <+: cs := by
  induction t generalizing cs with
  | nil => exact List.nil_prefix
  | cons d t ih =>
    simp only [List.mem_cons, not_or] at h
    obtain ⟨hd, ht⟩ := h
    cases cs with
    | nil => exact hfront
    | cons c cs =>
      by_cases hhit : pattern <+: c :: cs
      · rw [replaceAll, replaceFrom, if_pos (by simpa using hhit)] at hfront
        exact absurd (List.cons_prefix_cons.mp hfront).1.symm hd
      · rw [replaceAll_miss hhit] at hfront
        obtain ⟨rfl, hrest⟩ := List.cons_prefix_cons.mp hfront
        exact List.cons_prefix_cons.mpr ⟨rfl, ih ht hrest⟩

/-- Entities with the characters that they stand for. -/
abbrev Table := List (String × Char)

variable {table : Table} {e : String × Char}

def Table.decode (table : Table) (cs : List Char) : List Char :=
  table.foldl (fun cs e => replaceAll e.1.toList e.2 cs) cs

/-- Whether no entity can interfere with another one that is decoded before or after it. -/
structure Table.Separate (table : Table) : Prop where
  /-- An entity begins with an ampersand, and has no other. -/
  marked : ∀ e ∈ table, e.1.toList.head? = some '&' ∧ '&' ∉ e.1.toList.tail
  apart : ∀ e ∈ table, ∀ e' ∈ table, e.1.toList <+: e'.1.toList → e = e'
  foreign : ∀ e ∈ table, ∀ e' ∈ table, e.2 ∉ e'.1.toList.tail
  /-- Only the last one may stand for an ampersand. -/
  last : table.Pairwise fun e _ => e.2 ≠ '&'

namespace Table

theorem Separate.tail (h : Separate (e :: table)) : Separate table where
  marked e' he' := h.marked e' (List.mem_cons_of_mem e he')
  apart e' he' e'' he'' := h.apart e' (List.mem_cons_of_mem e he') e'' (List.mem_cons_of_mem e he'')
  foreign e' he' e'' he'' :=
    h.foreign e' (List.mem_cons_of_mem e he') e'' (List.mem_cons_of_mem e he'')
  last := h.last.tail

theorem Separate.spelled (h : Separate table) (he : e ∈ table) :
    ∃ name, e.1.toList = '&' :: name ∧ '&' ∉ name ∧ ∀ e' ∈ table, e'.2 ∉ name := by
  obtain ⟨hhead, htail⟩ := h.marked e he
  obtain ⟨name, hname⟩ := List.head?_eq_some_iff.mp hhead
  rw [hname] at htail
  refine ⟨name, hname, htail, ?_⟩
  intro e' he' hmem
  apply h.foreign e' he' e he
  simpa [hname] using hmem

theorem Separate.ampersand (h : Separate table) (he : e ∈ table)
    (hfront : e.1.toList <+: c :: rest) : c = '&' := by
  obtain ⟨name, hname, -⟩ := h.spelled he
  rw [hname] at hfront
  exact (List.cons_prefix_cons.mp hfront).1.symm

/-- At most one entity stands at the front of a text. -/
theorem Separate.front (h : Separate table) {e' : String × Char} (he : e ∈ table) (he' : e' ∈ table)
    (hfront : e.1.toList <+: e'.1.toList ++ rest) : e = e' := by
  rcases List.prefix_or_prefix_of_prefix hfront (List.prefix_append _ rest) with hpre | hpre
  · exact h.apart e he e' he' hpre
  · exact (h.apart e' he' e he hpre).symm

theorem decode_other (h : Separate table) (hno : ∀ e ∈ table, ¬ e.1.toList <+: c :: rest) :
    table.decode (c :: rest) = c :: table.decode rest := by
  induction table generalizing rest with
  | nil => rfl
  | cons e table ih =>
    have hmiss : replaceAll e.1.toList e.2 (c :: rest) = c :: replaceAll e.1.toList e.2 rest :=
      replaceAll_miss (hno e List.mem_cons_self)
    -- The text behind is another one now, but an entity that it completes was complete before.
    have hstill : ∀ e' ∈ table, ¬ e'.1.toList <+: c :: replaceAll e.1.toList e.2 rest := by
      intro e' he' hfront
      have hmem := List.mem_cons_of_mem e he'
      obtain ⟨name, hname, -, hforeign⟩ := h.spelled hmem
      rw [hname] at hfront
      obtain ⟨rfl, hbehind⟩ := List.cons_prefix_cons.mp hfront
      apply hno e' hmem
      rw [hname]
      exact List.cons_prefix_cons.mpr
        ⟨rfl, prefix_of_replaceAll (hforeign e List.mem_cons_self) hbehind⟩
    simp only [decode, List.foldl_cons, hmiss]
    exact ih h.tail hstill

theorem decode_unmarked (h : Separate table) (hc : c ≠ '&') :
    table.decode (c :: rest) = c :: table.decode rest := by
  apply decode_other h
  intro e he hfront
  exact hc (h.ampersand he hfront)

theorem decode_entity (h : Separate table) (he : e ∈ table) :
    table.decode (e.1.toList ++ rest) = e.2 :: table.decode rest := by
  induction table generalizing rest with
  | nil => cases he
  | cons first table ih =>
    obtain ⟨name, hname, hunmarked, -⟩ := h.spelled he
    by_cases hfirst : e = first
    · subst hfirst
      have hhit : replaceAll e.1.toList e.2 (e.1.toList ++ rest) =
          e.2 :: replaceAll e.1.toList e.2 rest := by
        rw [hname]
        exact replaceAll_hit
      simp only [decode, List.foldl_cons, hhit]
      apply decode_other h.tail
      intro e' he' hfront
      have hchar : e.2 = '&' := h.ampersand (List.mem_cons_of_mem e he') hfront
      exact List.rel_of_pairwise_cons h.last he' hchar
    · have hrest : e ∈ table := (List.mem_cons.mp he).resolve_left hfirst
      obtain ⟨name', hname', -⟩ := h.spelled List.mem_cons_self
      have hmiss : ¬ first.1.toList <+: e.1.toList ++ rest := fun hfront =>
        hfirst (h.front List.mem_cons_self he hfront).symm
      have hkept : replaceAll first.1.toList first.2 (e.1.toList ++ rest) =
          e.1.toList ++ replaceAll first.1.toList first.2 rest := by
        rw [hname, List.cons_append] at hmiss ⊢
        rw [replaceAll_miss hmiss, hname', replaceAll_unmarked hunmarked, List.cons_append]
      simp only [decode, List.foldl_cons, hkept]
      exact ih h.tail hrest

end Table

/-- How the characters of markup and the space that does not break are written. -/
def writtenAs : Table :=
  [("&amp;", '&'), ("&lt;", '<'), ("&gt;", '>'), ("&quot;", '"'), ("&#39;", '\''), ("&nbsp;", ' ')]

/-- The entity at the front of a text. -/
def entityAt? (cs : List Char) : Option (String × Char) :=
  writtenAs.find? fun e => e.1.toList.isPrefixOf cs

/-- One pass from left to right: an entity is replaced by its character, everything else is copied,
and nothing is looked at again. -/
def decodePass : List Char → List Char
  | [] => []
  | c :: rest =>
    match entityAt? (c :: rest) with
    | some e => e.2 :: decodePass (rest.drop (e.1.toList.length - 1))
    | none => c :: decodePass rest
termination_by cs => cs.length
decreasing_by
  · simp only [List.length_drop, List.length_cons]
    omega
  · simp

/-- They are decoded in another order, the ampersand last. -/
theorem mem_writtenAs : e ∈ writtenAs ↔ e ∈ entities :=
  List.Perm.mem_iff (by decide)

theorem entities_separate : Table.Separate entities where
  marked := by decide +kernel
  apart := by decide +kernel
  foreign := by decide +kernel
  last := by decide +kernel

theorem decodeEntities_entity (he : e ∈ entities) :
    decodeEntities (e.1.toList ++ rest) = e.2 :: decodeEntities rest :=
  Table.decode_entity entities_separate he

theorem decodeEntities_unmarked (hc : c ≠ '&') :
    decodeEntities (c :: rest) = c :: decodeEntities rest :=
  Table.decode_unmarked entities_separate hc

theorem decodeEntities_other (h : ∀ e ∈ entities, ¬ e.1.toList <+: c :: rest) :
    decodeEntities (c :: rest) = c :: decodeEntities rest :=
  Table.decode_other entities_separate h

theorem entityAt_some (h : entityAt? (c :: rest) = some e) :
    e ∈ entities ∧ c :: rest = e.1.toList ++ rest.drop (e.1.toList.length - 1) := by
  have he : e ∈ entities := mem_writtenAs.mp (List.mem_of_find?_eq_some h)
  have hfront : e.1.toList <+: c :: rest := by simpa using List.find?_some h
  obtain ⟨name, hname, -⟩ := entities_separate.spelled he
  obtain ⟨behind, hbehind⟩ := hfront
  refine ⟨he, ?_⟩
  rw [hname, List.cons_append] at hbehind ⊢
  obtain ⟨rfl, rfl⟩ := List.cons.inj hbehind
  simp

theorem entityAt_none (h : entityAt? (c :: rest) = none) :
    ∀ e ∈ entities, ¬ e.1.toList <+: c :: rest := by
  intro e he hfront
  exact List.find?_eq_none.mp h e (mem_writtenAs.mpr he) (by simpa using hfront)

theorem decodeEntities_eq_decodePass (cs : List Char) : decodeEntities cs = decodePass cs := by
  induction cs using decodePass.induct with
  | case1 =>
    rw [decodePass]
    rfl
  | case2 c rest e hat ih =>
    obtain ⟨he, hcut⟩ := entityAt_some hat
    rw [decodePass, hat, hcut, decodeEntities_entity he, ih]
  | case3 c rest hat ih =>
    rw [decodePass, hat, decodeEntities_other (entityAt_none hat), ih]

theorem prefix_of_prefix_append_cons (hc : c ∉ t) (h : t <+: cs ++ c :: rest) : t <+: cs := by
  rcases List.prefix_or_prefix_of_prefix h (List.prefix_append cs _) with hpre | ⟨behind, rfl⟩
  · exact hpre
  · cases behind with
    | nil => simp
    | cons d behind =>
      have hfront : d :: behind <+: c :: rest := (List.prefix_append_right_inj cs).mp h
      obtain ⟨rfl, -⟩ := List.cons_prefix_cons.mp hfront
      simp at hc

/-- What stands before an ampersand is decoded on its own. -/
theorem decodeEntities_append (cs rest : List Char) :
    decodeEntities (cs ++ '&' :: rest) = decodeEntities cs ++ decodeEntities ('&' :: rest) := by
  induction cs using decodePass.induct with
  | case1 => rfl
  | case2 c cs e hat ih =>
    obtain ⟨he, hcut⟩ := entityAt_some hat
    rw [hcut, List.append_assoc, decodeEntities_entity he, decodeEntities_entity he, ih,
      List.cons_append]
  | case3 c cs hat ih =>
    have hnone := entityAt_none hat
    have hstill : ∀ e ∈ entities, ¬ e.1.toList <+: c :: (cs ++ '&' :: rest) := by
      intro e he hfront
      obtain ⟨name, hname, hunmarked, -⟩ := entities_separate.spelled he
      apply hnone e he
      rw [hname] at hfront ⊢
      obtain ⟨rfl, hbehind⟩ := List.cons_prefix_cons.mp hfront
      exact List.cons_prefix_cons.mpr ⟨rfl, prefix_of_prefix_append_cons hunmarked hbehind⟩
    rw [List.cons_append, decodeEntities_other hstill, decodeEntities_other hnone, ih,
      List.cons_append]

/-- How a character is written in markup. -/
def escapeChar : Char → String
  | '&' => "&amp;"
  | '<' => "&lt;"
  | '>' => "&gt;"
  | '"' => "&quot;"
  | '\'' => "&#39;"
  | c => c.toString

def escape (s : String) : String := String.join (s.toList.map escapeChar)

theorem escapeChar_cases (c : Char) :
    (escapeChar c, c) ∈ entities ∨ escapeChar c = c.toString ∧ c ≠ '&' ∧ c ≠ '<' := by
  unfold escapeChar
  split
  · decide
  · decide
  · decide
  · decide
  · decide
  · exact .inr ⟨rfl, by assumption, by assumption⟩

theorem escape_toList (s : String) :
    (escape s).toList = s.toList.flatMap fun c => (escapeChar c).toList := by
  simp [escape, List.flatMap, Function.comp_def]

theorem escape_unopened (s : String) : '<' ∉ (escape s).toList := by
  have hentities : ∀ e ∈ entities, '<' ∉ e.1.toList := by decide +kernel
  rw [escape_toList, List.mem_flatMap]
  rintro ⟨c, -, hopen⟩
  rcases escapeChar_cases c with he | ⟨hplain, -, hc⟩
  · exact hentities _ he hopen
  · rw [hplain] at hopen
    simp [Ne.symm hc] at hopen

theorem decodeEntities_escape (s : String) : decodeEntities (escape s).toList = s.toList := by
  rw [escape_toList]
  induction s.toList with
  | nil => rfl
  | cons c cs ih =>
    rw [List.flatMap_cons]
    rcases escapeChar_cases c with he | ⟨hplain, hc, -⟩
    · rw [decodeEntities_entity he, ih]
    · rw [hplain]
      simp [decodeEntities_unmarked hc, ih]

/-- The entities are decoded as by one pass, each of them apart from what stands around it. So a
text that was escaped is what its plain text is. -/
theorem entities_decoded_once :
    (∀ cs, decodeEntities cs = decodePass cs) ∧
    (∀ e ∈ writtenAs, ∀ before after, decodeEntities (before ++ e.1.toList ++ after) =
      decodeEntities before ++ e.2 :: decodeEntities after) ∧
    ∀ s, stripTags (escape s) = s := by
  refine ⟨decodeEntities_eq_decodePass, ?_, ?_⟩
  · intro e he before after
    rw [mem_writtenAs] at he
    obtain ⟨name, hname, -⟩ := entities_separate.spelled he
    have hentity : decodeEntities (e.1.toList ++ after) = e.2 :: decodeEntities after :=
      decodeEntities_entity he
    rw [hname] at hentity ⊢
    rw [List.append_assoc, List.cons_append, decodeEntities_append, ← List.cons_append, hentity]
  · intro s
    rw [stripTags, removeTags_unopened (escape_unopened s), decodeEntities_escape,
      String.ofList_toList]

/-- What is decoded around an entity does not make up a new one with it. -/
theorem entities_decoded_once_nested :
    ("&lt;", '<') ∈ writtenAs ∧
      decodeEntities ("&amp;am".toList ++ "&lt;".toList ++ "p;lt;&amp;gt;&nbsp;".toList) =
        "&am<p;lt;&gt; ".toList := by
  have he : ("&lt;", '<') ∈ writtenAs := by decide
  refine ⟨he, ?_⟩
  rw [entities_decoded_once.2.1 ("&lt;", '<') he]
  decide +kernel

end ShopRelay.Search
