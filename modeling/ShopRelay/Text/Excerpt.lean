/-!
A text that may have been cut down to a number of characters. It is cut at a byte, the one that the
first character left out begins at.
-/

namespace ShopRelay

namespace Text

/-- The byte that the character after `n` others begins at, when the first begins at `start`. -/
def beginning? (start : String.Pos.Raw) : List Char → Nat → Option String.Pos.Raw
  | [], _ => none
  | _ :: _, 0 => some start
  | c :: cs, n + 1 => beginning? (start + c) cs n

/-- The text before a byte, unless a character would be cut apart there. -/
def before? (text : String) (cut : String.Pos.Raw) : Option String :=
  if h : cut.IsValid text then some (text.sliceTo (text.pos cut h)).copy else none

variable {start cut : String.Pos.Raw} {cs : List Char} {text : String} {n : Nat}

theorem beginning?_past (h : cs.length ≤ n) : beginning? start cs n = none := by
  induction cs generalizing start n with
  | nil => rfl
  | cons c cs ih =>
    cases n with
    | zero => cases h
    | succ n => exact ih (Nat.le_of_succ_le_succ h)

/-- A character begins where the text of those before it ends. -/
theorem beginning?_within (h : n < cs.length) :
    beginning? start cs n = some (start + String.ofList (cs.take n)) := by
  -- The start stays general, as each character that is passed moves it on.
  induction cs generalizing start n with
  | nil => cases h
  | cons c cs ih =>
    cases n with
    | zero => simp [beginning?, String.Pos.Raw.ext_iff]
    | succ n =>
      rw [beginning?, ih (Nat.lt_of_succ_lt_succ h), List.take_succ_cons, String.ofList_cons]
      simp [String.Pos.Raw.ext_iff, Nat.add_assoc]

theorem before?_append (kept dropped : String) :
    before? (kept ++ dropped) kept.rawEndPos = some kept := by
  have valid : kept.rawEndPos.IsValid (kept ++ dropped) :=
    String.Pos.Raw.isValid_rawEndPos.append_right dropped
  have splits : ((kept ++ dropped).pos kept.rawEndPos valid).Splits kept dropped :=
    ⟨rfl, String.offset_pos⟩
  rw [before?, dif_pos valid, String.copy_sliceTo_eq_iff_exists_splits.mpr ⟨dropped, splits⟩]

theorem ofList_take_append_drop (text : String) (n : Nat) :
    String.ofList (text.toList.take n) ++ String.ofList (text.toList.drop n) = text := by
  rw [← String.ofList_append, List.take_append_drop, String.ofList_toList]

theorem beginning?_text (h : n < text.length) :
    beginning? 0 text.toList n = some (String.ofList (text.toList.take n)).rawEndPos := by
  have sum (s : String) : (0 : String.Pos.Raw) + s = s.rawEndPos :=
    String.Pos.Raw.ext (String.Pos.Raw.byteIdx_zero_add_string s)
  rw [beginning?_within (String.length_toList.symm ▸ h), sum]

theorem before?_text (text : String) (n : Nat) :
    before? text (String.ofList (text.toList.take n)).rawEndPos =
      some (String.ofList (text.toList.take n)) := by
  have kept := before?_append (String.ofList (text.toList.take n))
    (String.ofList (text.toList.drop n))
  rwa [ofList_take_append_drop] at kept

end Text

structure Excerpt where
  text : String
  truncated : Bool
deriving DecidableEq, Repr

namespace Excerpt

/-- Keeps at most `limit` characters, unless one would be cut apart. -/
def ofText? (text : String) (limit : Nat) : Option Excerpt :=
  match Text.beginning? 0 text.toList limit with
  | some cut => (Text.before? text cut).map (⟨·, true⟩)
  | none => some ⟨text, false⟩

theorem ofText?_eq (text : String) (limit : Nat) : ofText? text limit =
    some ⟨String.ofList (text.toList.take limit), decide (limit < text.length)⟩ := by
  by_cases h : limit < text.length
  · simp only [ofText?, Text.beginning?_text h, Text.before?_text, Option.map_some, decide_eq_true h]
  · have hle : text.toList.length ≤ limit := String.length_toList.symm ▸ Nat.le_of_not_lt h
    simp only [ofText?, Text.beginning?_past hle, List.take_of_length_le hle, String.ofList_toList,
      decide_eq_false h]

theorem isSome_ofText? (text : String) (limit : Nat) : (ofText? text limit).isSome := by
  rw [ofText?_eq]
  rfl

/-- Keeps at most `limit` characters; none is ever cut apart. -/
def ofText (text : String) (limit : Nat) : Excerpt :=
  (ofText? text limit).get (isSome_ofText? text limit)

theorem ofText_eq (text : String) (limit : Nat) :
    ofText text limit =
      ⟨String.ofList (text.toList.take limit), decide (limit < text.length)⟩ :=
  Option.get_of_eq_some _ (ofText?_eq text limit)

end Excerpt

end ShopRelay
