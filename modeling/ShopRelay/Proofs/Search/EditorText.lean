import Mathlib.Data.List.Basic
import ShopRelay.Search.EditorText

/-!
The text of a document made of blocks is put together from the texts that stand in it, in the order
of their places. So documents can be joined, and blocks without a text do not matter.
-/

namespace ShopRelay.Search

open Json

variable {document block : Value} {blocks first second : List Value} {s : String}

/-- The text at some position of a block: an item of a list, or the one text of any other block.
Empty texts do not count. -/
inductive Holds (block : Value) : Nat → String → Prop where
  | item {data : Dict Value} {items : List Value} {i : Nat} {s : String}
      (data_eq : block.get? "data" = some (.obj data))
      (list : block.get? "type" = some (.str "list"))
      (items_eq : data.get? "items" = some (.arr items))
      (item_eq : items[i]? = some (.str s)) (filled : s ≠ "") : Holds block i s
  | text {data : Dict Value} {s : String}
      (data_eq : block.get? "data" = some (.obj data))
      (other : block.get? "type" ≠ some (.str "list"))
      (text_eq : data.get? "text" = some (.str s)) (filled : s ≠ "") : Holds block 0 s

/-- A text with its place: the position of its block, and its own one in the block. -/
structure Found where
  block : Nat
  item : Nat
  text : String

def Found.Before (f g : Found) : Prop :=
  f.block < g.block ∨ f.block = g.block ∧ f.item < g.item

def HasBlocks (document : Value) (blocks : List Value) : Prop :=
  document.get? "blocks" = some (.arr blocks)

def StandsIn (document : Value) (f : Found) : Prop :=
  ∃ blocks block, HasBlocks document blocks ∧ blocks[f.block]? = some block ∧
    Holds block f.item f.text

/-- No text stands in a block. -/
def Silent (block : Value) : Prop := ∀ i s, ¬ Holds block i s

/-- The second list is the first one with blocks inserted in which no text stands. -/
inductive Inserted : List Value → List Value → Prop where
  | nil : Inserted [] []
  | keep (block : Value) {before after : List Value} (h : Inserted before after) :
      Inserted (block :: before) (block :: after)
  | insert {block : Value} {before after : List Value} (silent : Silent block)
      (h : Inserted before after) : Inserted before (block :: after)

theorem asObj_eq {v : Option Value} {data : Dict Value} :
    v.bind Value.asObj? = some data ↔ v = some (.obj data) := by
  rcases v with _ | v
  · simp
  · cases v <;> simp [Value.asObj?]

theorem asArr_eq {v : Option Value} {items : List Value} :
    v.bind Value.asArr? = some items ↔ v = some (.arr items) := by
  rcases v with _ | v
  · simp
  · cases v <;> simp [Value.asArr?]

theorem asStr_eq {v : Option Value} : v.bind Value.asStr? = some s ↔ v = some (.str s) := by
  rcases v with _ | v
  · simp
  · cases v <;> simp [Value.asStr?]

/-- The values of a block that are its texts, if they are texts and not empty. -/
def candidates (block : Value) : List Value :=
  match (block.get? "data").bind Value.asObj? with
  | none => []
  | some data =>
    if (block.get? "type").bind Value.asStr? = some "list" then
      ((data.get? "items").bind Value.asArr?).getD []
    else (data.get? "text").toList

def filled? (v : Value) : Option String := v.asStr?.filter (!·.isEmpty)

theorem filled_eq {v : Value} : filled? v = some s ↔ v = .str s ∧ s ≠ "" := by
  cases v with
  | str t => simp [filled?, Value.asStr?, Option.filter_eq_some_iff]
  | _ => simp [filled?, Value.asStr?]

theorem blockTexts_eq (block : Value) : blockTexts block = (candidates block).filterMap filled? := by
  unfold blockTexts candidates
  cases (block.get? "data").bind Value.asObj? with
  | none => rfl
  | some data => exact List.filter_filterMap

theorem holds_iff {i : Nat} :
    Holds block i s ↔ (candidates block)[i]? = some (.str s) ∧ s ≠ "" := by
  constructor
  · intro h
    cases h with
    | item hdata hlist hitems hitem hfilled =>
      exact ⟨by simp [candidates, hdata, hlist, hitems, hitem, Value.asObj?, Value.asStr?,
        Value.asArr?], hfilled⟩
    | text hdata hother htext hfilled =>
      rw [Ne, ← asStr_eq] at hother
      exact ⟨by simp [candidates, hdata, hother, htext, Value.asObj?], hfilled⟩
  · rintro ⟨hmem, hfilled⟩
    unfold candidates at hmem
    split at hmem
    · simp at hmem
    · next data hdata =>
      rw [asObj_eq] at hdata
      split at hmem
      · next hlist =>
        rw [asStr_eq] at hlist
        cases hitems : (data.get? "items").bind Value.asArr? with
        | none => simp [hitems] at hmem
        | some items =>
          rw [hitems] at hmem
          exact .item hdata hlist (asArr_eq.mp hitems) hmem hfilled
      · next hother =>
        rw [asStr_eq] at hother
        cases htext : data.get? "text" with
        | none => simp [htext] at hmem
        | some v =>
          rw [htext] at hmem
          cases i with
          | zero =>
            obtain rfl : v = .str s := by simpa using hmem
            exact .text hdata hother htext hfilled
          | succ i => simp at hmem

theorem zipIdx_ascending {α : Type} (xs : List α) : xs.zipIdx.Pairwise fun x y => x.2 < y.2 := by
  refine List.pairwise_map.mp ?_
  rw [List.zipIdx_map_snd]
  exact List.pairwise_lt_range' 1

/-- The texts of the block at some position. -/
def foundIn (block : Value) (i : Nat) : List Found :=
  (candidates block).zipIdx.filterMap fun v => (filled? v.1).map (Found.mk i v.2)

def foundTexts (blocks : List Value) : List Found :=
  blocks.zipIdx.flatMap fun b => foundIn b.1 b.2

theorem mem_foundIn {i : Nat} {f : Found} :
    f ∈ foundIn block i ↔ f.block = i ∧ Holds block f.item f.text := by
  obtain ⟨b, j, t⟩ := f
  rw [holds_iff, foundIn, List.mem_filterMap]
  constructor
  · rintro ⟨⟨v, k⟩, hv, hf⟩
    obtain ⟨s, hs, hmk⟩ := Option.map_eq_some_iff.mp hf
    cases hmk
    obtain ⟨rfl, hfilled⟩ := filled_eq.mp hs
    exact ⟨rfl, List.mk_mem_zipIdx_iff_getElem?.mp hv, hfilled⟩
  · rintro ⟨rfl, hv, hfilled⟩
    refine ⟨(.str t, j), List.mk_mem_zipIdx_iff_getElem?.mpr hv, ?_⟩
    rw [filled_eq.mpr ⟨rfl, hfilled⟩]
    rfl

theorem mem_foundTexts {f : Found} : f ∈ foundTexts blocks ↔
    ∃ block, blocks[f.block]? = some block ∧ Holds block f.item f.text := by
  rw [foundTexts, List.mem_flatMap]
  constructor
  · rintro ⟨⟨block, i⟩, hblock, hf⟩
    obtain ⟨rfl, hholds⟩ := mem_foundIn.mp hf
    exact ⟨block, List.mk_mem_zipIdx_iff_getElem?.mp hblock, hholds⟩
  · rintro ⟨block, hblock, hholds⟩
    exact ⟨(block, f.block), List.mk_mem_zipIdx_iff_getElem?.mpr hblock,
      mem_foundIn.mpr ⟨rfl, hholds⟩⟩

theorem foundTexts_ordered (blocks : List Value) : (foundTexts blocks).Pairwise Found.Before := by
  refine List.pairwise_flatMap.mpr ⟨?_, ?_⟩
  · intro b _
    refine List.pairwise_filterMap.mpr ((zipIdx_ascending _).imp ?_)
    intro v w hlt f hf g hg
    obtain ⟨_, -, rfl⟩ := Option.map_eq_some_iff.mp hf
    obtain ⟨_, -, rfl⟩ := Option.map_eq_some_iff.mp hg
    exact .inr ⟨rfl, hlt⟩
  · refine (zipIdx_ascending _).imp ?_
    intro b c hlt f hf g hg
    left
    rw [(mem_foundIn.mp hf).1, (mem_foundIn.mp hg).1]
    exact hlt

theorem foundIn_texts (block : Value) (i : Nat) :
    (foundIn block i).map Found.text = blockTexts block := by
  have hforget : (candidates block).zipIdx.map Prod.fst = candidates block :=
    List.zipIdx_map_fst 0 _
  rw [foundIn, List.map_filterMap, blockTexts_eq, ← hforget, List.filterMap_map]
  simp [Function.comp_def]

theorem foundTexts_texts (blocks : List Value) :
    (foundTexts blocks).map Found.text = blocks.flatMap blockTexts := by
  have hforget : blocks.zipIdx.map Prod.fst = blocks := List.zipIdx_map_fst 0 blocks
  rw [foundTexts, List.map_flatMap]
  simp only [foundIn_texts]
  rw [← List.flatMap_map Prod.fst blockTexts, hforget]

theorem blockTexts_eq_nil : blockTexts block = [] ↔ Silent block := by
  rw [← foundIn_texts block 0, List.map_eq_nil_iff, List.eq_nil_iff_forall_not_mem]
  constructor
  · intro h i s hholds
    exact h ⟨0, i, s⟩ (mem_foundIn.mpr ⟨rfl, hholds⟩)
  · intro h f hf
    exact h f.item f.text (mem_foundIn.mp hf).2

theorem Inserted.texts {before after : List Value} (h : Inserted before after) :
    after.flatMap blockTexts = before.flatMap blockTexts := by
  induction h with
  | nil => rfl
  | keep block _ ih => rw [List.flatMap_cons, List.flatMap_cons, ih]
  | insert silent _ ih => rw [List.flatMap_cons, blockTexts_eq_nil.mpr silent, ih, List.nil_append]

theorem editorText_eq (h : HasBlocks document blocks) :
    editorText document = " ".intercalate ((blocks.flatMap blockTexts).map stripTags) := by
  rw [editorText, asArr_eq.mpr h]
  rfl

theorem editorText_unread (h : ∀ blocks, ¬ HasBlocks document blocks) :
    editorText document = "" := by
  have hnone : (document.get? "blocks").bind Value.asArr? = none := by
    rw [Option.eq_none_iff_forall_ne_some]
    intro blocks hblocks
    exact h blocks (asArr_eq.mp hblocks)
  rw [editorText, hnone]
  rfl

theorem HasBlocks.unique (h : HasBlocks document first) (h' : HasBlocks document second) :
    first = second := by
  rw [HasBlocks, h] at h'
  cases h'
  rfl

theorem standsIn_iff (h : HasBlocks document blocks) {f : Found} :
    StandsIn document f ↔ f ∈ foundTexts blocks := by
  rw [mem_foundTexts]
  constructor
  · rintro ⟨blocks', block, hblocks, hblock, hholds⟩
    rw [hblocks.unique h] at hblock
    exact ⟨block, hblock, hholds⟩
  · rintro ⟨block, hblock, hholds⟩
    exact ⟨blocks, block, h, hblock, hholds⟩

/-- Whether any text stands in a document. -/
theorem exists_standsIn (h : HasBlocks document blocks) :
    (∃ f, StandsIn document f) ↔ blocks.flatMap blockTexts ≠ [] := by
  rw [← foundTexts_texts, Ne, List.map_eq_nil_iff, List.eq_nil_iff_forall_not_mem, not_forall]
  simp only [standsIn_iff h, not_not]

theorem exists_found (document : Value) : ∃ found : List Found,
    found.Pairwise Found.Before ∧ (∀ f, f ∈ found ↔ StandsIn document f) ∧
    editorText document = " ".intercalate (found.map fun f => stripTags f.text) := by
  by_cases h : ∃ blocks, HasBlocks document blocks
  · obtain ⟨blocks, hblocks⟩ := h
    refine ⟨foundTexts blocks, foundTexts_ordered blocks, ?_, ?_⟩
    · intro f
      exact (standsIn_iff hblocks).symm
    · rw [editorText_eq hblocks, ← foundTexts_texts, List.map_map]
      rfl
  · have hnone : ∀ blocks, ¬ HasBlocks document blocks := fun blocks hblocks => h ⟨blocks, hblocks⟩
    refine ⟨[], .nil, ?_, ?_⟩
    · intro f
      simp only [List.not_mem_nil, false_iff]
      rintro ⟨blocks, -, hblocks, -⟩
      exact hnone blocks hblocks
    · rw [editorText_unread hnone]
      rfl

/-- The text of a document is that of all the texts in it, in order and with blanks between them.
Documents are joined by a blank if either has a text, and blocks without a text do not matter. -/
theorem text_of_places :
    (∀ document, ∃ found : List Found, found.Pairwise Found.Before ∧
      (∀ f, f ∈ found ↔ StandsIn document f) ∧
      editorText document = " ".intercalate (found.map fun f => stripTags f.text)) ∧
    (∀ a b joined first second, HasBlocks a first → HasBlocks b second →
      HasBlocks joined (first ++ second) →
      ((∃ f, StandsIn a f) → (∃ f, StandsIn b f) →
        editorText joined = editorText a ++ " " ++ editorText b) ∧
      ((¬ ∃ f, StandsIn a f) → editorText joined = editorText b) ∧
      ((¬ ∃ f, StandsIn b f) → editorText joined = editorText a)) ∧
    ∀ document extended before after, HasBlocks document before → HasBlocks extended after →
      Inserted before after → editorText extended = editorText document := by
  refine ⟨exists_found, ?_, ?_⟩
  · intro a b joined first second ha hb hjoined
    rw [exists_standsIn ha, exists_standsIn hb, editorText_eq ha, editorText_eq hb,
      editorText_eq hjoined, List.flatMap_append, List.map_append]
    refine ⟨?_, ?_, ?_⟩
    · intro hfirst hsecond
      exact String.intercalate_append_of_ne_nil (by simpa using hfirst) (by simpa using hsecond)
    · intro hfirst
      rw [not_not.mp hfirst]
      rfl
    · intro hsecond
      rw [not_not.mp hsecond, List.map_nil, List.append_nil]
  · intro document extended before after hbefore hafter hinserted
    rw [editorText_eq hbefore, editorText_eq hafter, hinserted.texts]

def paragraph (text : String) : Value :=
  .obj [("data", .obj [("text", .str text)]), ("type", .str "paragraph")]

theorem paragraph_type (text : String) :
    (paragraph text).get? "type" = some (.str "paragraph") := rfl

def listOf (items : List Value) : Value :=
  .obj [("data", .obj [("items", .arr items)]), ("type", .str "list")]

def documentOf (blocks : List Value) : Value := .obj [("blocks", .arr blocks)]

/-- A text of which nothing is left still has its blank; a block that holds no text has none. -/
theorem text_of_places_emptied :
    let a := documentOf [paragraph "<br>"]
    let b := documentOf [listOf [.str "", .null, .str "M"]]
    let joined := documentOf [paragraph "<br>", listOf [.str "", .null, .str "M"]]
    let extended := documentOf [paragraph "<br>", paragraph "", listOf [.str "", .null, .str "M"]]
    StandsIn a ⟨0, 0, "<br>"⟩ ∧ StandsIn b ⟨0, 2, "M"⟩ ∧ editorText joined = " M" ∧
      Silent (paragraph "") ∧ editorText extended = " M" := by
  intro a b joined extended
  have ha : StandsIn a ⟨0, 0, "<br>"⟩ :=
    ⟨_, _, rfl, rfl, .text rfl (by simp [paragraph_type]) rfl (by decide)⟩
  have hb : StandsIn b ⟨0, 2, "M"⟩ := ⟨_, _, rfl, rfl, .item rfl rfl rfl rfl (by decide)⟩
  have hsilent : Silent (paragraph "") := blockTexts_eq_nil.mp rfl
  have hjoined : editorText joined = " M" := by
    rw [(text_of_places.2.1 a b joined _ _ rfl rfl rfl).1 ⟨_, ha⟩ ⟨_, hb⟩]
    decide +kernel
  refine ⟨ha, hb, hjoined, hsilent, ?_⟩
  rw [text_of_places.2.2 joined extended _ _ rfl rfl
    (.keep _ (.insert hsilent (.keep _ .nil))), hjoined]

end ShopRelay.Search
