import ShopRelay.Database.Products
import ShopRelay.Proofs.Database.Placeholders
import ShopRelay.Proofs.Database.Transaction

/-!
The statement that saves the search index of a product: a placeholder for each value and a value
for each placeholder, and a text that depends on nothing but the weights of the terms.
-/

namespace ShopRelay.Database

open Search (IndexEntry Term Vector Weight)

variable {config : String}

def placeholder (n : Nat) : String := "$" ++ toString n

/-- The letter that the database knows a weight by. -/
def weightLetter : Weight → Char
  | .a => 'A'
  | .b => 'B'
  | .c => 'C'
  | .d => 'D'

/-- A weighted term whose text search configuration is the parameter with the given number, and
whose text is the next one. -/
def weightedText (n : Nat) (w : Weight) : String :=
  "setweight(to_tsvector(" ++ placeholder n ++ "::regconfig, " ++ placeholder (n + 1) ++ "), '" ++
    String.singleton (weightLetter w) ++ "')"

/-- The expression for terms with the given weights, whose parameters are counted from a number. -/
def vectorText (n : Nat) (ws : List Weight) : String :=
  if ws.isEmpty then "''::tsvector"
  else " || ".intercalate (ws.mapIdx fun k w => weightedText (n + 2 * k) w)

/-- The statement for terms with the given weights. -/
def indexText (ws : List Weight) : String :=
  "UPDATE product SET search_document = " ++ placeholder 1 ++ ", search_vector = " ++
    vectorText 2 ws ++ ", updated_at = NOW() WHERE id = " ++ placeholder (2 + 2 * ws.length)

/-- The values of a term. -/
def termCells (config : String) (t : Term) : List Cell := [.text config, .text t.text]

theorem vectorPieces_single (t : Term) :
    vectorPieces config ⟨[t]⟩ = termPieces config t := rfl

theorem vectorPieces_cons (t u : Term) (ts : List Term) : vectorPieces config ⟨t :: u :: ts⟩ =
    termPieces config t ++ .sql " || " :: vectorPieces config ⟨u :: ts⟩ := by
  simp [vectorPieces, Vector.isEmpty]

theorem name_eq_letter (w : Weight) : w.name = String.singleton (weightLetter w) := by
  cases w <;> decide

theorem numberedText_termPieces (n : Nat) (t : Term) :
    numberedText n (termPieces config t) = weightedText n t.weight := by
  unfold weightedText placeholder
  simp only [termPieces, numberedText, name_eq_letter, String.append_assoc, String.append_empty]

theorem vectorText_cons (n : Nat) (w w' : Weight) (ws : List Weight) :
    vectorText n (w :: w' :: ws) = weightedText n w ++ " || " ++ vectorText (n + 2) (w' :: ws) := by
  have hshift (k : Nat) : n + 2 * (k + 1) = n + 2 + 2 * k := by omega
  unfold vectorText
  simp only [List.isEmpty_cons, Bool.false_eq_true, if_false, List.mapIdx_cons,
    String.intercalate_cons_cons, hshift, Nat.mul_zero, Nat.add_zero]

theorem numberedText_vectorPieces (n : Nat) (v : Vector) :
    numberedText n (vectorPieces config v) = vectorText n (v.terms.map (·.weight)) := by
  obtain ⟨ts⟩ := v
  induction ts generalizing n with
  | nil => rfl
  | cons t ts ih =>
    cases ts with
    | nil =>
      rw [vectorPieces_single, numberedText_termPieces]
      rfl
    | cons u ts =>
      have hcells : (cells (termPieces config t)).length = 2 := rfl
      rw [vectorPieces_cons, numberedText_append, numberedText_termPieces, hcells, numberedText,
        ih (n + 2)]
      simp only [List.map_cons]
      rw [vectorText_cons, String.append_assoc]

theorem cells_vectorPieces (v : Vector) :
    cells (vectorPieces config v) = v.terms.flatMap (termCells config) := by
  obtain ⟨ts⟩ := v
  induction ts with
  | nil => rfl
  | cons t ts ih =>
    cases ts with
    | nil => rfl
    | cons u ts =>
      rw [vectorPieces_cons, cells_append, cells_sql, ih, List.flatMap_cons]
      rfl

theorem termPieces_plain (t : Term) : ∀ p ∈ termPieces config t, p.isPlain = true := by
  intro p hp
  simp only [termPieces, List.mem_cons, List.not_mem_nil, or_false] at hp
  rcases hp with rfl | rfl | rfl | rfl | rfl
  · decide +kernel
  · rfl
  · decide +kernel
  · rfl
  · cases t.weight <;> decide +kernel

theorem vectorPieces_plain (v : Vector) : ∀ p ∈ vectorPieces config v, p.isPlain = true := by
  obtain ⟨ts⟩ := v
  induction ts with
  | nil =>
    intro p hp
    obtain rfl := List.mem_singleton.mp hp
    decide +kernel
  | cons t ts ih =>
    cases ts with
    | nil => exact termPieces_plain t
    | cons u ts =>
      intro p hp
      rw [vectorPieces_cons] at hp
      rcases List.mem_append.mp hp with hterm | hrest
      · exact termPieces_plain t p hterm
      · rcases List.mem_cons.mp hrest with rfl | hrest
        · decide +kernel
        · exact ih p hrest

/-- The parts of the statement that saves an index. -/
def indexPieces (config : String) (entry : IndexEntry) : List Piece :=
  [.sql "UPDATE product SET search_document = ", .parameter (.text entry.document),
      .sql ", search_vector = "] ++ vectorPieces config entry.vector ++
    [.sql ", updated_at = NOW() WHERE id = ", .parameter (.uuid entry.productId)]

theorem updateSearchIndex_eq (entry : IndexEntry) :
    updateSearchIndex config entry = .ofPieces (indexPieces config entry) := rfl

theorem indexPieces_plain (entry : IndexEntry) :
    ∀ p ∈ indexPieces config entry, p.isPlain = true := by
  intro p hp
  simp only [indexPieces, List.mem_append, List.mem_cons, List.not_mem_nil, or_false] at hp
  rcases hp with ((rfl | rfl | rfl) | hvector) | (rfl | rfl)
  · decide +kernel
  · rfl
  · decide +kernel
  · exact vectorPieces_plain entry.vector p hvector
  · decide +kernel
  · rfl

theorem updateSearchIndex_parameters (entry : IndexEntry) :
    (updateSearchIndex config entry).parameters = .text entry.document ::
      entry.vector.terms.flatMap (termCells config) ++ [.uuid entry.productId] := by
  change cells (indexPieces config entry) = _
  rw [indexPieces, cells_append, cells_append, cells_vectorPieces]
  rfl

theorem termCells_length (ts : List Term) :
    (ts.flatMap (termCells config)).length = 2 * ts.length := by
  induction ts with
  | nil => rfl
  | cons t ts ih =>
    rw [List.flatMap_cons, List.length_append, ih, List.length_cons]
    simp only [termCells, List.length_cons, List.length_nil]
    omega

theorem termCells_get (config : String) {ts : List Term} {k : Nat} {t : Term}
    (h : ts[k]? = some t) : (ts.flatMap (termCells config))[2 * k]? = some (.text config) ∧
      (ts.flatMap (termCells config))[2 * k + 1]? = some (.text t.text) := by
  induction ts generalizing k with
  | nil => simp at h
  | cons u ts ih =>
    cases k with
    | zero =>
      obtain rfl : u = t := by simpa using h
      exact ⟨rfl, rfl⟩
    | succ k => exact ih h

theorem updateSearchIndex_text (entry : IndexEntry) :
    (updateSearchIndex config entry).text = indexText (entry.vector.terms.map (·.weight)) := by
  have hcount : 1 + (cells ([.sql "UPDATE product SET search_document = ",
      .parameter (.text entry.document), .sql ", search_vector = "] ++
        vectorPieces config entry.vector)).length = 2 + 2 * entry.vector.terms.length := by
    rw [cells_append, List.length_append, cells_vectorPieces, termCells_length]
    simp only [cells_sql, cells_parameter, List.length_cons]
    rw [← Nat.add_assoc]
    rfl
  change numberedText 1 (indexPieces config entry) = _
  unfold indexText placeholder
  rw [indexPieces, numberedText_append, hcount, numberedText_append, numberedText_vectorPieces,
    List.length_map]
  simp only [numberedText, String.append_assoc, String.append_empty, cells_sql, cells_parameter]
  rfl

theorem bound_term {entry : IndexEntry} {k : Nat} {t : Term} (h : entry.vector.terms[k]? = some t) :
    (updateSearchIndex config entry).bound? (2 + 2 * k) = some (.text config) ∧
      (updateSearchIndex config entry).bound? (3 + 2 * k) = some (.text t.text) := by
  obtain ⟨hconfig, htext⟩ := termCells_get config h
  have hroom : 2 * k + 1 < (entry.vector.terms.flatMap (termCells config)).length :=
    (List.getElem?_eq_some_iff.mp htext).1
  have hfirst : 2 + 2 * k = 2 * k + 1 + 1 := by omega
  have hsecond : 3 + 2 * k = 2 * k + 1 + 1 + 1 := by omega
  rw [hfirst, hsecond, Statement.bound?, Statement.bound?, updateSearchIndex_parameters,
    List.cons_append, List.getElem?_cons_succ, List.getElem?_cons_succ,
    List.getElem?_append_left hroom, List.getElem?_append_left (Nat.lt_of_succ_lt hroom)]
  exact ⟨hconfig, htext⟩

/-- Saving an index sends this one statement, whatever the session replies. -/
theorem save_calls {σ : Type} (reply : (c : session.Call) → σ → session.Reply c × σ) (state : σ)
    (entry : IndexEntry) : ((indexCall config (.save entry)).attempt.log reply state).map (·.call) =
      [.execute (updateSearchIndex config entry)] := by
  have hpasses := Program.passes_run reply (indexCall config (.save entry)).attempt state
  obtain ⟨r, hexecute, -⟩ := Task.passes_map hpasses
  obtain ⟨r', hlog, -⟩ := passes_perform hexecute
  rw [hlog]
  rfl

/-- Saving an index sends one statement. Its placeholders are numbered from one without a gap, and
its values are the document, then the configuration and the text of each term, then the product.
Each term is written with its own weight and the placeholders of its own two values. No text,
configuration or id is part of the text of the statement: it is the same for the same weights. -/
theorem index_statement (config : String) (entry : IndexEntry) :
    (∀ {σ : Type} (reply : (c : session.Call) → σ → session.Reply c × σ) (state : σ),
      ((indexCall config (.save entry)).attempt.log reply state).map (·.call) =
        [.execute (updateSearchIndex config entry)]) ∧
    placeholders (updateSearchIndex config entry).text.toList =
      List.range' 1 (2 + 2 * entry.vector.terms.length) ∧
    (updateSearchIndex config entry).parameters = .text entry.document ::
      entry.vector.terms.flatMap (termCells config) ++ [.uuid entry.productId] ∧
    (updateSearchIndex config entry).text = indexText (entry.vector.terms.map (·.weight)) ∧
    (∀ k t, entry.vector.terms[k]? = some t →
      (updateSearchIndex config entry).bound? (2 + 2 * k) = some (.text config) ∧
      (updateSearchIndex config entry).bound? (3 + 2 * k) = some (.text t.text)) ∧
    ∀ (config' : String) (entry' : IndexEntry),
      entry'.vector.terms.map (·.weight) = entry.vector.terms.map (·.weight) →
        (updateSearchIndex config' entry').text = (updateSearchIndex config entry).text := by
  have hparameters : (updateSearchIndex config entry).parameters = _ :=
    updateSearchIndex_parameters entry
  have hcount : (updateSearchIndex config entry).parameters.length =
      2 + 2 * entry.vector.terms.length := by
    rw [hparameters, List.length_append, List.length_cons, termCells_length, List.length_singleton]
    omega
  refine ⟨fun reply state => save_calls reply state entry, ?placeholders, hparameters,
    updateSearchIndex_text entry, fun _ _ h => bound_term h, ?sameText⟩
  case placeholders =>
    rw [← hcount, updateSearchIndex_eq]
    exact placeholders_ofPieces (indexPieces_plain entry)
  case sameText =>
    intro config' entry' hweights
    rw [updateSearchIndex_text, updateSearchIndex_text, hweights]

/-- The index of a product with the given words, of which the first weighs more. -/
def twoWords (product : Nat) (first second : String) : IndexEntry :=
  ⟨.ofNat product, first ++ " " ++ second, ⟨[⟨first, .a⟩, ⟨second, .b⟩]⟩⟩

theorem index_statement_quoted :
    (updateSearchIndex "simple" (twoWords 1 "'); $9 --" "tea")).text =
      "UPDATE product SET search_document = $1, search_vector = " ++
        "setweight(to_tsvector($2::regconfig, $3), 'A') || " ++
        "setweight(to_tsvector($4::regconfig, $5), 'B'), updated_at = NOW() WHERE id = $6" ∧
    placeholders (updateSearchIndex "simple" (twoWords 1 "'); $9 --" "tea")).text.toList =
      [1, 2, 3, 4, 5, 6] ∧
    (updateSearchIndex "simple" (twoWords 1 "'); $9 --" "tea")).bound? 3 =
      some (.text "'); $9 --") ∧
    (updateSearchIndex "english" (twoWords 2 "mug" "cup")).text =
      (updateSearchIndex "simple" (twoWords 1 "'); $9 --" "tea")).text := by
  obtain ⟨-, hplaceholders, -, htext, hbound, hsame⟩ :=
    index_statement "simple" (twoWords 1 "'); $9 --" "tea")
  have hspelled : indexText [.a, .b] = "UPDATE product SET search_document = $1, " ++
      "search_vector = setweight(to_tsvector($2::regconfig, $3), 'A') || " ++
      "setweight(to_tsvector($4::regconfig, $5), 'B'), updated_at = NOW() WHERE id = $6" := by
    decide +kernel
  have hfirst := (hbound 0 ⟨"'); $9 --", .a⟩ rfl).2
  exact ⟨htext.trans hspelled, hplaceholders, hfirst, hsame "english" (twoWords 2 "mug" "cup") rfl⟩

end ShopRelay.Database
