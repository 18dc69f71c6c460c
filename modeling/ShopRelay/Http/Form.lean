import ShopRelay.Http.Percent
import ShopRelay.Text.Split

/-!
The query of an address as a form: pairs of names and values.
-/

namespace ShopRelay.Http

/-- A plus stands for a space, escapes for bytes, and bytes that are no UTF-8 for U+FFFD. -/
def decodeFormText (cs : List Char) : String :=
  let spaced := cs.map fun c => if c == '+' then ' ' else c
  Text.decodeUtf8Lossy (unescape (Text.encodeUtf8 (String.ofList spaced)))

/-- The pairs between the ampersands; a pair without `=` is a name with an empty value. -/
def readForm (query : String) : List (String × String) :=
  let pieces := (Text.split '&' query.toList).filter (!·.isEmpty)
  pieces.map fun piece =>
    let (name, value) := (Text.splitFirst? '=' piece).getD (piece, [])
    (decodeFormText name, decodeFormText value)

end ShopRelay.Http
