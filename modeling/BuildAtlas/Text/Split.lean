/-! # Cutting text at separators

Words are the non-empty stretches between the characters that a predicate picks out. Fields
between blanks and the segments of a path are both words.
-/
namespace BuildAtlas.Text

def words (isSep : Char → Bool) (cs : List Char) : List (List Char) :=
  (cs.splitOnP isSep).filter fun w => !w.isEmpty

/-- The text before and after the first occurrence of a character. -/
def cutAt (sep : Char) (cs : List Char) : Option (List Char × List Char) :=
  match cs.span (· != sep) with
  | (_, []) => none
  | (before, _ :: after) => some (before, after)

/-- Whether one text stands somewhere inside another. -/
def occursIn (part : List Char) : List Char → Bool
  | [] => part.isEmpty
  | c :: cs => part.isPrefixOf (c :: cs) || occursIn part cs

end BuildAtlas.Text
