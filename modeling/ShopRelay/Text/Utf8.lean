/-!
Texts as UTF-8 bytes. The reader walks the bytes once and yields a character or a gap where the
bytes break the encoding; a strict reading takes no gaps, a lenient one puts U+FFFD in their place.
-/

namespace ShopRelay.Text

abbrev Bytes := List UInt8

/-- A character of one byte. -/
def isAscii (c : Char) : Bool := c.toNat < 0x80

def encodeUtf8 (s : String) : Bytes := s.toList.flatMap String.utf8EncodeChar

theorem encodeUtf8_append (s t : String) :
    encodeUtf8 (s ++ t) = encodeUtf8 s ++ encodeUtf8 t := by
  rw [encodeUtf8, String.toList_append, List.flatMap_append]
  rfl

theorem length_flatMap_utf8EncodeChar (cs : List Char) :
    (cs.flatMap String.utf8EncodeChar).length = (String.ofList cs).utf8ByteSize := by
  induction cs with
  | nil => rfl
  | cons c cs ih =>
    rw [List.flatMap_cons, List.length_append, ih, String.length_utf8EncodeChar, String.ofList_cons,
      String.utf8ByteSize_append, String.utf8ByteSize_singleton]

theorem length_encodeUtf8 (s : String) : (encodeUtf8 s).length = s.utf8ByteSize := by
  rw [encodeUtf8, length_flatMap_utf8EncodeChar, String.ofList_toList]

/-- A character begun: how many bytes are still to come, the bits so far, and the least and
greatest byte that may follow. -/
structure Begun where
  left : Nat
  bits : Nat
  low : UInt8
  high : UInt8

/-- What a byte opens when no character is begun. -/
inductive Opening where
  | char (c : Char)
  | begun (b : Begun)
  | gap

/-- Overlong forms, surrogates and numbers past U+10FFFF are cut off at the second byte. -/
def opening (b : UInt8) : Opening :=
  if b < 0x80 then .char (Char.ofNat b.toNat)
  else if b < 0xC2 then .gap
  else if b < 0xE0 then .begun ⟨1, b.toNat - 0xC0, 0x80, 0xBF⟩
  else if b == 0xE0 then .begun ⟨2, 0, 0xA0, 0xBF⟩
  else if b == 0xED then .begun ⟨2, 0xD, 0x80, 0x9F⟩
  else if b < 0xF0 then .begun ⟨2, b.toNat - 0xE0, 0x80, 0xBF⟩
  else if b == 0xF0 then .begun ⟨3, 0, 0x90, 0xBF⟩
  else if b < 0xF4 then .begun ⟨3, b.toNat - 0xF0, 0x80, 0xBF⟩
  else if b == 0xF4 then .begun ⟨3, 4, 0x80, 0x8F⟩
  else .gap

/-- The characters of some bytes; a gap for each longest stretch that cannot be continued to one. -/
def scanUtf8 : Option Begun → Bytes → List (Option Char)
  | none, [] => []
  | some _, [] => [none]
  | none, b :: rest =>
    match opening b with
    | .char c => some c :: scanUtf8 none rest
    | .begun s => scanUtf8 (some s) rest
    | .gap => none :: scanUtf8 none rest
  | some s, b :: rest =>
    if s.low ≤ b ∧ b ≤ s.high then
      let bits := s.bits * 64 + (b.toNat - 0x80)
      if s.left == 1 then some (Char.ofNat bits) :: scanUtf8 none rest
      else scanUtf8 (some ⟨s.left - 1, bits, 0x80, 0xBF⟩) rest
    else
      match opening b with
      | .char c => none :: some c :: scanUtf8 none rest
      | .begun t => none :: scanUtf8 (some t) rest
      | .gap => none :: none :: scanUtf8 none rest

def decodeUtf8? (bs : Bytes) : Option String :=
  ((scanUtf8 none bs).mapM id).map String.ofList

def decodeUtf8Lossy (bs : Bytes) : String :=
  String.ofList ((scanUtf8 none bs).map (·.getD '\uFFFD'))

end ShopRelay.Text
