import Mathlib.Data.List.Basic
import ShopRelay.Database.Statement
import ShopRelay.Text.Digits

/-!
The placeholders in the text of a statement. When a statement is put together of pieces whose own
text holds none, they count the parameters from one on.
-/

namespace ShopRelay.Database

variable {s rest : List Char} {pieces : List Piece}

/-- The numbers behind the dollar signs of a text, from left to right; zero if there is none. -/
def placeholders : List Char → List Nat
  | [] => []
  | c :: rest =>
    if c = '$' then Text.ofDigits (rest.takeWhile Char.isDigit) :: placeholders rest
    else placeholders rest

/-- The value that takes the place of a placeholder. -/
def Statement.bound? (s : Statement) : Nat → Option Cell
  | 0 => none
  | n + 1 => s.parameters[n]?

/-- The values of some pieces, in their order. -/
def cells (pieces : List Piece) : List Cell := pieces.filterMap Piece.cell?

/-- Whether a piece has no dollar sign, nor a digit that a placeholder in front could take in. -/
def Piece.isPlain : Piece → Bool
  | .sql text => text.toList.head?.any (!·.isDigit) && !text.toList.contains '$'
  | .parameter _ => true

theorem Piece.plain_sql {text : String} (h : (Piece.sql text).isPlain = true) :
    '$' ∉ text.toList ∧ ∃ c cs, text.toList = c :: cs ∧ c.isDigit = false := by
  unfold isPlain at h
  cases htext : text.toList with
  | nil => simp [htext] at h
  | cons c cs =>
    simp only [htext, List.head?_cons, Option.any_some, Bool.and_eq_true, Bool.not_eq_true',
      List.contains_eq_mem, decide_eq_false_iff_not] at h
    exact ⟨h.2, c, cs, rfl, h.1⟩

@[simp] theorem cells_sql (text : String) (pieces : List Piece) :
    cells (.sql text :: pieces) = cells pieces := rfl

@[simp] theorem cells_parameter (cell : Cell) (pieces : List Piece) :
    cells (.parameter cell :: pieces) = cell :: cells pieces := rfl

theorem cells_append (xs ys : List Piece) : cells (xs ++ ys) = cells xs ++ cells ys :=
  List.filterMap_append

theorem numberedText_append (n : Nat) (xs ys : List Piece) :
    numberedText n (xs ++ ys) = numberedText n xs ++ numberedText (n + (cells xs).length) ys := by
  induction xs generalizing n with
  | nil => simp [numberedText, cells]
  | cons x xs ih =>
    cases x with
    | sql text => simp [numberedText, ih, String.append_assoc]
    | parameter cell =>
      have hnext : n + 1 + (cells xs).length = n + ((cells xs).length + 1) := by omega
      simp [numberedText, ih, hnext, String.append_assoc]

theorem placeholders_unmarked (h : '$' ∉ s) : placeholders (s ++ rest) = placeholders rest := by
  induction s with
  | nil => rfl
  | cons c s ih =>
    simp only [List.mem_cons, not_or] at h
    rw [List.cons_append, placeholders, if_neg (Ne.symm h.1), ih h.2]

theorem placeholders_parameter (n : Nat) (h : rest.takeWhile Char.isDigit = []) :
    placeholders ('$' :: (Text.digits n ++ rest)) = n :: placeholders rest := by
  have hdigits : ∀ c ∈ Text.digits n, c.isDigit = true := fun _ => Text.isDigit_of_mem_digits
  have hunmarked : '$' ∉ Text.digits n := by
    intro hmem
    cases hdigits '$' hmem
  rw [placeholders, if_pos rfl, List.takeWhile_append_of_pos hdigits, h, List.append_nil,
    Text.ofDigits_digits, placeholders_unmarked hunmarked]

/-- Plain pieces do not begin with a digit. -/
theorem numberedText_undigited (n : Nat) (h : ∀ p ∈ pieces, p.isPlain = true) :
    (numberedText n pieces).toList.takeWhile Char.isDigit = [] := by
  cases pieces with
  | nil => rfl
  | cons p pieces =>
    cases p with
    | sql text =>
      obtain ⟨-, c, cs, htext, hc⟩ := Piece.plain_sql (h (.sql text) List.mem_cons_self)
      simp [numberedText, htext, hc]
    | parameter cell => simp [numberedText]

/-- Each parameter has its own placeholder, numbered in their order. -/
theorem placeholders_numberedText (n : Nat) (h : ∀ p ∈ pieces, p.isPlain = true) :
    placeholders (numberedText n pieces).toList = List.range' n (cells pieces).length := by
  induction pieces generalizing n with
  | nil => rfl
  | cons p pieces ih =>
    have hrest : ∀ q ∈ pieces, q.isPlain = true := fun q hq => h q (List.mem_cons_of_mem p hq)
    cases p with
    | sql text =>
      have hunmarked := (Piece.plain_sql (h (.sql text) List.mem_cons_self)).1
      rw [numberedText, String.toList_append, placeholders_unmarked hunmarked, ih n hrest,
        cells_sql]
    | parameter cell =>
      have hstart : (numberedText n (.parameter cell :: pieces)).toList =
          '$' :: (Text.digits n ++ (numberedText (n + 1) pieces).toList) := by
        simp [numberedText, Text.digits]
      rw [hstart, placeholders_parameter n (numberedText_undigited (n + 1) hrest),
        ih (n + 1) hrest, cells_parameter, List.length_cons, List.range'_succ]

theorem placeholders_ofPieces (h : ∀ p ∈ pieces, p.isPlain = true) :
    placeholders (Statement.ofPieces pieces).text.toList =
      List.range' 1 (Statement.ofPieces pieces).parameters.length :=
  placeholders_numberedText 1 h

end ShopRelay.Database
