import BuildAtlas.Completion

/-! # Editor items

Completions as a language server hands them to an editor: every item replaces the range of
text already typed.
-/
namespace BuildAtlas.Editor

structure Position where
  line : Nat
  character : Nat
  deriving DecidableEq, Repr

structure Range where
  start : Position
  stop : Position
  deriving DecidableEq, Repr

inductive ItemKind where
  | value
  | folder
  deriving DecidableEq, Repr

/-- The number of the kind in the protocol. -/
def ItemKind.code : ItemKind → Nat
  | value => 12
  | folder => 19

structure TextEdit where
  range : Range
  newText : String
  deriving DecidableEq, Repr

structure Item where
  label : String
  kind : ItemKind
  detail : Option String
  filterText : String
  edit : TextEdit
  deriving DecidableEq, Repr

def typedRange (c : Completion) : Range := ⟨⟨c.line, c.start⟩, ⟨c.line, c.stop⟩⟩

def Item.ofCandidate (range : Range) (c : Candidate) : Item where
  label := c.label
  kind :=
    match c.kind with
    | .package => .folder
    | .target _ => .value
  detail :=
    match c.kind with
    | .package | .target "" => none
    | .target kind => some kind
  filterText := c.insertText
  edit := { range, newText := c.insertText }

def items (c : Completion) : List Item := c.candidates.map (.ofCandidate (typedRange c))

/-- Apply an edit that lies on one line: the units before its start and from its end stay. -/
def TextEdit.applyTo (edit : TextEdit) (line : List Char) : List Char :=
  let before := Text.takeUnits edit.range.start.character line
  let replaced := Text.takeUnits edit.range.stop.character line
  before ++ edit.newText.toList ++ line.drop replaced.length

end BuildAtlas.Editor
