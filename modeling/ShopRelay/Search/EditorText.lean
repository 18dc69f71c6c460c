import ShopRelay.Json.Value

/-!
The plain text of a document made of blocks: the texts of its paragraphs and list items, without
tags and with the common entities decoded, joined by single spaces.
-/

namespace ShopRelay.Search

open Json

/-- Drops each segment from a `<` to the nearest following `>`. The characters of a segment that is
open so far are held, the last one first, and kept when it never closes. -/
def removeTagsFrom : Option (List Char) → List Char → List Char
  | none, [] => []
  | some held, [] => held.reverse
  | none, c :: rest =>
    if c == '<' then removeTagsFrom (some [c]) rest else c :: removeTagsFrom none rest
  | some held, c :: rest =>
    if c == '>' then removeTagsFrom none rest else removeTagsFrom (some (c :: held)) rest

def removeTags (cs : List Char) : List Char := removeTagsFrom none cs

/-- Replaces each occurrence of a pattern, from left to right; the first characters are skipped. -/
def replaceFrom (pattern : List Char) (char : Char) : Nat → List Char → List Char
  | _, [] => []
  | skip + 1, _ :: rest => replaceFrom pattern char skip rest
  | 0, c :: rest =>
    if pattern.isPrefixOf (c :: rest) then
      char :: replaceFrom pattern char (pattern.length - 1) rest
    else c :: replaceFrom pattern char 0 rest

def replaceAll (pattern : List Char) (char : Char) (cs : List Char) : List Char :=
  replaceFrom pattern char 0 cs

/-- The entities in the order in which they are decoded, the ampersand last. -/
def entities : List (String × Char) := [
  ("&nbsp;", ' '), ("&lt;", '<'), ("&gt;", '>'), ("&quot;", '"'), ("&#39;", '\''), ("&amp;", '&')]

def decodeEntities (cs : List Char) : List Char :=
  entities.foldl (fun cs e => replaceAll e.1.toList e.2 cs) cs

def stripTags (s : String) : String := String.ofList (decodeEntities (removeTags s.toList))

/-- The texts of a block with markup: the items of a list, or the one text of any other block. -/
def blockTexts (block : Value) : List String :=
  match (block.get? "data").bind Value.asObj? with
  | none => []
  | some data =>
    let texts :=
      if (block.get? "type").bind Value.asStr? = some "list" then
        ((data.get? "items").bind Value.asArr?).getD []
      else (data.get? "text").toList
    (texts.filterMap Value.asStr?).filter (!·.isEmpty)

def editorText (document : Value) : String :=
  let blocks := ((document.get? "blocks").bind Value.asArr?).getD []
  " ".intercalate ((blocks.flatMap blockTexts).map stripTags)

end ShopRelay.Search
