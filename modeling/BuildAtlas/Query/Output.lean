import BuildAtlas.Text.Blank
import BuildAtlas.Text.Lines

/-! # Command output

What a finished command printed, and how it exited. When a query fails, the line that says why
starts with a marker once colour sequences are taken out of it.
-/
namespace BuildAtlas

/-- The exit code is -1 when a signal ended the command. -/
structure Output where
  stdout : String
  stderr : String
  exitCode : Int
  deriving DecidableEq, Repr

namespace Output

def stdoutLines (o : Output) : List String := Text.lines o.stdout

def stderrLines (o : Output) : List String := Text.lines o.stderr

def succeeded (o : Output) : Bool := o.exitCode == 0

/-- A command that printed this and succeeded. -/
def success (stdout : String) : Output := ⟨stdout, "", 0⟩

def failure (exitCode : Int) (stderr : String) : Output := ⟨"", stderr, exitCode⟩

end Output

namespace Text

def isColourParameter (c : Char) : Bool := c.isDigit || c = ';' || c = '?'

/-- What follows a colour sequence, given what follows its `ESC [`. -/
def afterColour (cs : List Char) : Option (List Char) :=
  match cs.dropWhile isColourParameter with
  | c :: rest => if c.isAlpha then some rest else none
  | [] => none

theorem length_afterColour {cs rest : List Char} (h : afterColour cs = some rest) :
    rest.length < cs.length := by
  have hle := (List.dropWhile_sublist isColourParameter (l := cs)).length_le
  unfold afterColour at h
  split at h
  · rename_i c tail hdrop
    rw [hdrop, List.length_cons] at hle
    split at h
    · obtain rfl := Option.some.inj h
      omega
    · simp at h
  · simp at h

/-- A text without its colour sequences. -/
def uncoloured : List Char → List Char
  | [] => []
  | '\x1b' :: '[' :: cs =>
    match _h : afterColour cs with
    | some rest => uncoloured rest
    | none => '\x1b' :: uncoloured ('[' :: cs)
  | c :: cs => c :: uncoloured cs
termination_by cs => cs.length
decreasing_by
  · have := length_afterColour ‹_›
    simp
    omega
  · simp
  · simp

end Text

namespace Output

def unknownError : String := "Unknown build tool error"

def startsWithMarker (marker line : List Char) : Bool :=
  marker.isPrefixOf (Text.trimStart line)

/-- The first line that starts with the marker, trimmed and without colours. -/
def errorLine (marker : String) (lines : List String) : String :=
  let plain := lines.map fun line => Text.uncoloured line.toList
  match plain.find? (startsWithMarker marker.toList) with
  | some line => String.ofList (Text.trim line)
  | none => unknownError

end BuildAtlas.Output
