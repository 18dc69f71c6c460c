/-!
Cutting a text at a mark.
-/

namespace ShopRelay.Text

/-- The segments between the marks; one more than there are marks. -/
def split (mark : Char) : List Char → List (List Char)
  | [] => [[]]
  | c :: rest =>
    if c == mark then [] :: split mark rest
    else match split mark rest with
      | [] => [[c]]
      | segment :: segments => (c :: segment) :: segments

/-- The texts on either side of the first mark. -/
def splitFirst? (mark : Char) : List Char → Option (List Char × List Char)
  | [] => none
  | c :: rest =>
    if c == mark then some ([], rest) else (splitFirst? mark rest).map fun (a, b) => (c :: a, b)

end ShopRelay.Text
