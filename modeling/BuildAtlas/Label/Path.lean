import BuildAtlas.Text.Split

/-! # Package paths

A package is addressed by the names on the way down from the root. Written out, the names are
joined by slashes; read back, extra slashes anywhere are ignored, so that the empty text, one
slash and two slashes all mean the root.
-/
namespace BuildAtlas

abbrev PackagePath := List String

namespace PackagePath

/-- The names in a path written in any of its spellings. -/
def read (text : String) : PackagePath :=
  (Text.words (· == '/') text.toList).map String.ofList

def joined (path : PackagePath) : String := "/".intercalate path

/-- The absolute spelling, with two slashes in front. -/
def render (path : PackagePath) : String := "//" ++ path.joined

/-- A path segment with a dot in it is taken for a file name. -/
def looksLikeFile (segment : String) : Bool := segment.toList.contains '.'

end BuildAtlas.PackagePath
