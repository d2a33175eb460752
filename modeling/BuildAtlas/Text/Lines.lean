/-! # Lines

A line ends at a line feed, and one carriage return just before that line feed belongs to the
line end. What follows the last line feed is a line only when it is not empty, and there a
final carriage return is text.
-/
namespace BuildAtlas.Text

def dropReturn (line : List Char) : List Char :=
  if line.getLast? = some '\r' then line.dropLast else line

/-- The lines among the stretches between line feeds. -/
def linesOfStretches (ws : List (List Char)) : List (List Char) :=
  ws.dropLast.map dropReturn ++ (ws.getLast?.toList.filter fun w => !w.isEmpty)

def lines (s : String) : List String :=
  (linesOfStretches (s.toList.splitOn '\n')).map String.ofList

end BuildAtlas.Text
