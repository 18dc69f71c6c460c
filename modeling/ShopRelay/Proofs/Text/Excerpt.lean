import ShopRelay.Text.Excerpt
import ShopRelay.Text.Utf8

/-!
How an excerpt divides a text: between two characters, so that the bytes on either side of the cut
are those of a text.
-/

namespace ShopRelay.Excerpt

/-- The byte that a text is cut at, which is its end where no character is left out. -/
def cut (text : String) (limit : Nat) : String.Pos.Raw :=
  (Text.beginning? 0 text.toList limit).getD text.rawEndPos

/-- What an excerpt keeps of a text and what it drops. -/
structure Divides (e : Excerpt) (text : String) (limit : Nat) (dropped : String) : Prop where
  kept : e.text.toList = text.toList.take (min limit text.length)
  joined : e.text ++ dropped = text
  truncated : e.truncated = true ↔ limit < text.length
  boundary : (cut text limit).IsValid text
  front : Text.encodeUtf8 e.text = (Text.encodeUtf8 text).take (cut text limit).byteIdx
  back : Text.encodeUtf8 dropped = (Text.encodeUtf8 text).drop (cut text limit).byteIdx

theorem text_ofText (text : String) (limit : Nat) :
    (ofText text limit).text = String.ofList (text.toList.take limit) := by
  rw [ofText_eq]

/-- The cut is where the text that is kept ends. -/
theorem cut_eq (text : String) (limit : Nat) :
    cut text limit = (ofText text limit).text.rawEndPos := by
  rw [cut, text_ofText]
  by_cases h : limit < text.length
  · rw [Text.beginning?_text h, Option.getD_some]
  · have hle : text.toList.length ≤ limit := String.length_toList.symm ▸ Nat.le_of_not_lt h
    rw [Text.beginning?_past hle, Option.getD_none, List.take_of_length_le hle, String.ofList_toList]

theorem divides_ofText (text : String) (limit : Nat) :
    (ofText text limit).Divides text limit (String.ofList (text.toList.drop limit)) := by
  have joined : (ofText text limit).text ++ String.ofList (text.toList.drop limit) = text := by
    rw [text_ofText, Text.ofList_take_append_drop]
  have bytes : Text.encodeUtf8 (ofText text limit).text ++
      Text.encodeUtf8 (String.ofList (text.toList.drop limit)) = Text.encodeUtf8 text := by
    rw [← Text.encodeUtf8_append, joined]
  have length : (Text.encodeUtf8 (ofText text limit).text).length =
      (cut text limit).byteIdx := by
    rw [Text.length_encodeUtf8, cut_eq, String.byteIdx_rawEndPos]
  refine ⟨?kept, joined, ?truncated, ?boundary, ?front, ?back⟩
  case kept =>
    rw [text_ofText, String.toList_ofList, ← String.length_toList, List.take_eq_take_min]
  case truncated =>
    rw [ofText_eq, decide_eq_true_iff]
  case boundary =>
    have valid : (ofText text limit).text.rawEndPos.IsValid
        ((ofText text limit).text ++ String.ofList (text.toList.drop limit)) :=
      String.Pos.Raw.isValid_rawEndPos.append_right _
    rwa [joined, ← cut_eq] at valid
  case front => rw [← bytes, List.take_left' length]
  case back => rw [← bytes, List.drop_left' length]

theorem ofText_again (text : String) (limit again : Nat) :
    (ofText (ofText text limit).text again).text = (ofText text (min limit again)).text := by
  rw [text_ofText, text_ofText, text_ofText, String.toList_ofList, List.take_take, Nat.min_comm]

/-- Cutting a text down never fails, as the cut is between two characters, and doing it twice comes
to doing it once with the lower limit. -/
theorem cut_between_characters (text : String) (limit : Nat) :
    ofText? text limit = some (ofText text limit) ∧
      (∃ dropped, (ofText text limit).Divides text limit dropped) ∧
      ∀ again, (ofText (ofText text limit).text again).text =
        (ofText text (min limit again)).text := by
  have excerpt : ofText? text limit = some (ofText text limit) := by
    rw [ofText_eq, ofText?_eq]
  exact ⟨excerpt, ⟨_, divides_ofText text limit⟩, ofText_again text limit⟩

end ShopRelay.Excerpt
