import BuildAtlas.Posix.Shell.Arithmetic
import BuildAtlas.Posix.Shell.Expansion.Glob

/-! # Expanding words

A tilde stands for a home directory, a dollar sign for a parameter, the output of commands or the
value of an expression. How what comes out is treated depends on where the word stands.
-/
namespace BuildAtlas.Posix.Shell

open Act

/-- How a word is expanded. -/
structure Manner where
  /-- Whether it is split into fields and its patterns are replaced. -/
  full : Bool := false
  /-- Whether it is a pattern. -/
  pattern : Bool := false
  /-- Whether a tilde at its beginning counts. -/
  tilde : Bool := false
  /-- Whether it gives a value to a variable, so that tildes count after colons too. -/
  assigns : Bool := false
  /-- Whether it is a word within an expansion, whose own text is split as well. -/
  nested : Bool := false
  /-- Whether it stands within quotes. -/
  quoted : Bool := false
  deriving DecidableEq, Repr

namespace Manner

def keepsQuotes (m : Manner) : Bool := m.full || m.pattern

def splitsText (m : Manner) : Bool := m.nested && !m.quoted

end Manner

/-- What runs the commands of a substitution and yields their output. -/
abbrev Substitution := Option Tree → Act String

/-! ## Parameters -/

def Options.letters (o : Options) : List Char :=
  [('u', o.nounset), ('b', o.notify), ('a', o.allexport), ('C', o.noclobber), ('E', o.emacs),
    ('V', o.vi), ('v', o.verbose), ('x', o.xtrace), ('s', o.stdin), ('n', o.noexec),
    ('m', o.monitor), ('i', o.interactive), ('I', o.ignoreeof), ('f', o.noglob),
    ('e', o.errexit)].filterMap fun (c, on) => if on then some c else none

/-- The arguments as one text, with what stands between them. -/
def joinArguments (between : List Char) (arguments : List String) : List Char :=
  between.intercalate (arguments.map String.toList)

/-- What stands between the arguments in a list of all. -/
def argumentSeparator (st : State) (m : Manner) (quoted apart : Bool) : List Char :=
  if apart && quoted && m.full then [Piece.gap]
  else
    match st.value? "IFS" with
    | none => [' ']
    | some ifs => if m.full && !quoted then [Piece.gap] else ifs.toList.take 1

/-- The value of a parameter. -/
def parameterText (st : State) (m : Manner) (quoted : Bool) (name : String) :
    Option (List Char) :=
  match name with
  | "$" => some (toString st.rootId).toList
  | "?" => some (toString st.status).toList
  | "#" => some (toString st.arguments.length).toList
  | "!" => st.lastBackground.map fun n => (toString n).toList
  | "-" => some st.options.letters
  | "@" => some (joinArguments (argumentSeparator st m quoted true) st.arguments)
  | "*" => some (joinArguments (argumentSeparator st m quoted false) st.arguments)
  | name =>
    match name.toList with
    | c :: _ =>
      if isDigit c then
        let n := (Number.digits 10 0 name.toList).1
        if n = 0 then some st.name.toList else (st.arguments[n - 1]?).map String.toList
      else (st.value? name).map String.toList
    | [] => none

/-- Add a text that comes from an expansion. -/
def addText (m : Manner) (quoted : Bool) (text : List Char) (x : Expanded) : Expanded :=
  x.append (text.map (Piece.ofChar m.keepsQuotes quoted))

/-- Record what a parameter has added, as it is split. -/
def recordParameter (st : State) (quoted : Bool) (name : String) (start : Nat) (x : Expanded) :
    Expanded :=
  if !quoted then x.record start false
  else if name = "@" && !st.arguments.isEmpty then x.record start true
  else x

def unsetMessage (name : String) : String := name ++ ": parameter not set"

/-! ## Cutting values -/

/-- A text up to the first gap in it. -/
def upToGap (cs : List Char) : List Char := cs.takeWhile (· != Piece.gap)

/-- How much of the beginning of a text matches, trying lengths in an order. -/
def matchingPrefix (pattern text : List Char) (sizes : List Nat) : Option Nat :=
  sizes.find? fun n => Pattern.accepts pattern (upToGap (text.take n))

/-- Where an end of a text begins that matches. -/
def matchingSuffix (pattern text : List Char) (starts : List Nat) : Option Nat :=
  starts.find? fun n => Pattern.accepts pattern (upToGap (text.drop n))

def cut (op : Operator) (pattern : List Char) (value : List Piece) : List Piece :=
  let text := value.filterMap Piece.char?
  let upTo := List.range ((upToGap text).length + 1)
  let all := List.range (text.length + 1)
  match op with
  | .dropPrefix =>
    match matchingPrefix pattern text upTo with
    | some n => value.drop n
    | none => value
  | .dropLongestPrefix =>
    match matchingPrefix pattern text all.reverse with
    | some n => value.drop n
    | none => value
  | .dropSuffix =>
    match matchingSuffix pattern text all.reverse with
    | some n => value.take n
    | none => value
  | .dropLongestSuffix =>
    match matchingSuffix pattern text upTo with
    | some n => value.take n
    | none => value
  | _ => value

/-! ## Tildes -/

def homes : List (List Char × String) :=
  [("root".toList, "/root"), ("daemon".toList, "/usr/sbin"), ("bin".toList, "/bin"),
    ("sys".toList, "/dev"), ("nobody".toList, "/nonexistent"), ("mail".toList, "/var/mail"),
    ("www-data".toList, "/var/www")]

/-- The name after a tilde, unless something in it cannot be part of a name. -/
def tildeName (endsAtColon : Bool) : List Part → Option (List Char)
  | [] => some []
  | .plain c :: rest =>
    if c = '/' || (endsAtColon && c = ':') then some []
    else (tildeName endsAtColon rest).map (c :: ·)
  | _ => none

def homeOf (st : State) (name : List Char) : Option String :=
  if name.isEmpty then st.value? "HOME" else homes.lookup name

/-! ## Words -/

/-- Where the expansion of a word has come to. -/
structure Progress where
  inQuotes : Bool := false
  /-- Whether a tilde counts here. -/
  tilde : Bool := false
  /-- Whether the equals sign of an assignment has been passed. -/
  assigned : Bool := false
  /-- Characters that a tilde has used up. -/
  skip : Nat := 0
  /-- Where the present run of plain text begins. -/
  run : Nat := 0

/-- The run of plain text ends here. -/
def endRun (m : Manner) (p : Progress) (x : Expanded) : Expanded :=
  if m.splitsText && !p.inQuotes && p.run < x.size then x.record p.run false else x

/-- Whether a tilde counts after a character. -/
def afterCharacter (m : Manner) (p : Progress) (c : Char) : Progress :=
  if m.assigns && c = '=' && !p.assigned then { p with assigned := true, tilde := true }
  else if m.assigns && c = ':' then { p with tilde := true }
  else { p with tilde := false }

def crash {α : Type} : Act α := do
  let (pid, _) ← call .identity
  let _ ← call (.kill pid 8)
  quit 136

/-- The value of an expression, as digits. -/
def arithmeticText (text : String) : Act (List Char) := do
  match Arithmetic.evaluate (← state) text with
  | .ok (n, st) =>
    modify fun _ => st
    return (toString n).toList
  | .error .overflow => crash
  | .error d => fail (d.message text)

def dropNewlines (cs : List Char) : List Char := (cs.reverse.dropWhile (· = '\n')).reverse

mutual

/-- Expand the parts of a word one after the other. A value with nothing but a colon after it
ends the word with what stands in its braces. -/
def expandParts (sub : Substitution) (m : Manner) : Progress → List Part → Expanded → Act Expanded
  | p, [], x => pure (endRun m p x)
  | p, .plain c :: rest, x =>
    if p.skip > 0 then
      expandParts sub m { p with skip := p.skip - 1, run := x.size } rest x
    else if c = '~' && p.tilde then fun st k =>
      match (tildeName m.assigns rest).bind fun name =>
          (homeOf st name).map fun home => (name.length, home) with
      | some (skip, home) =>
        let x := addText m true home.toList x
        expandParts sub m { p with tilde := false, skip, run := x.size } rest x st k
      | none => expandParts sub m { p with tilde := false } rest (x.push (.plain c)) st k
    else expandParts sub m (afterCharacter m p c) rest (x.push (.plain c))
  | p, .quoted c :: rest, x =>
    let x := endRun m p x
    let x := x.push (if m.keepsQuotes then .quoted c else .plain c)
    expandParts sub m { p with tilde := false, run := x.size } rest x
  | p, .mark :: rest, x =>
    let x := endRun m p x
    let p := { p with tilde := false }
    match p.inQuotes, rest with
    | false, .parameter "@" .value false [] :: .mark :: rest => do
      let x ← expandParameter sub m true "@" .value false [] x
      expandParts sub m { p with run := x.size } rest x
    | _, rest =>
      let x := if m.keepsQuotes then x.push .mark else x
      expandParts sub m { p with inQuotes := !p.inQuotes, run := x.size } rest x
  | p, .parameter name .value true word :: _, x => do
    let x := endRun m p x
    let x ← expandParameter sub m (m.quoted || p.inQuotes) name .value true [] x
    expandParts sub m { p with tilde := false, run := x.size } word x
  | p, .parameter name op colon word :: rest, x => do
    let x := endRun m p x
    let x ← expandParameter sub m (m.quoted || p.inQuotes) name op colon word x
    expandParts sub m { p with tilde := false, run := x.size } rest x
  | p, .command body :: rest, x => do
    let x := endRun m p x
    let quoted := m.quoted || p.inQuotes
    let output ← sub body
    let text := dropNewlines (output.toList.filter (· != Piece.gap))
    let start := x.size
    let x := addText m quoted text x
    let x := if quoted then x else x.record start false
    expandParts sub m { p with tilde := false, run := x.size } rest x
  | p, .arithmetic word :: rest, x => do
    let x := endRun m p x
    let quoted := m.quoted || p.inQuotes
    let expression ← expandParts sub {} {} word {}
    let text ← arithmeticText expression.text
    let start := x.size
    let x := addText m quoted text x
    let x := if quoted then x else x.record start false
    expandParts sub m { p with tilde := false, run := x.size } rest x
termination_by _ parts => 2 * sizeOf parts
decreasing_by
  all_goals
    simp only [List.cons.sizeOf_spec, List.nil.sizeOf_spec, Part.parameter.sizeOf_spec,
      Part.arithmetic.sizeOf_spec]
    omega

def expandParameter (sub : Substitution) (m : Manner) (quoted : Bool) (name : String)
    (op : Operator) (colon : Bool) (word : List Part) (x : Expanded) : Act Expanded := do
  let st ← state
  let value := parameterText st m quoted name
  let given := if colon then value.bind (fun cs => if cs.isEmpty then none else some cs) else value
  let start := x.size
  let add (cs : List Char) : Expanded :=
    recordParameter st quoted name start (addText m quoted cs x)
  match op with
  | .bad => fail "Bad substitution"
  | .orElse =>
    match given with
    | some cs => return add cs
    | none => expandParts sub { m with nested := true, quoted } { tilde := true } word x
  | .ifSet =>
    match given with
    | some _ => expandParts sub { m with nested := true, quoted } { tilde := true } word x
    | none => return recordParameter st quoted name start x
  | .orAssign =>
    match given with
    | some cs => return add cs
    | none => do
      let new ← expandParts sub {} { tilde := true } word {}
      match (← state).setNamed name (some new.text) {} with
      | .error message => fail message
      | .ok st =>
        modify fun _ => st
        let cs := (parameterText st m quoted name).getD []
        return recordParameter st quoted name start (addText m quoted cs x)
  | .orComplain =>
    match given with
    | some cs => return add cs
    | none => do
      let message ← expandParts sub {} { tilde := true } word {}
      if word.isEmpty then fail (unsetMessage name ++ (if colon then " or null" else ""))
      else fail (name ++ ": " ++ message.text)
  | .value =>
    match given with
    | some cs => return add cs
    | none =>
      if st.options.nounset then fail (unsetMessage name)
      else return recordParameter st quoted name start x
  | .length =>
    match given with
    | some cs =>
      let x := addText m quoted (toString cs.length).toList x
      return recordParameter st quoted name start x
    | none =>
      if st.options.nounset then fail (unsetMessage name)
      else
        let x := addText m quoted ['0'] x
        return recordParameter st quoted name start x
  | .dropSuffix | .dropLongestSuffix | .dropPrefix | .dropLongestPrefix =>
    match given with
    | some cs => do
      let pattern ← expandParts sub { pattern := true } { tilde := true } word {}
      let pieces := cs.map (Piece.ofChar m.keepsQuotes quoted)
      let kept := cut op (Piece.pattern pattern.pieces.toList) pieces
      return recordParameter (← state) quoted name start (x.append kept)
    | none =>
      if st.options.nounset then fail (unsetMessage name) else return x
termination_by 2 * sizeOf word + 1
decreasing_by all_goals omega

end

/-- Expand a word in some manner. -/
def expandWord (sub : Substitution) (m : Manner) (w : Word) : Act Expanded :=
  expandParts sub m { tilde := m.tilde } w {}

/-- Expand a word to a text. -/
def expandText (sub : Substitution) (m : Manner) (w : Word) : Act String := do
  return (← expandWord sub m w).text

/-- Expand a word to a pattern. -/
def expandPattern (sub : Substitution) (w : Word) : Act (List Char) := do
  let x ← expandWord sub { pattern := true, tilde := true } w
  return Piece.pattern x.pieces.toList

/-- Expand a word to any number of words. -/
def expandFull (sub : Substitution) (w : Word) : Act (List String) := do
  let x ← expandWord sub { full := true, tilde := true } w
  let st ← state
  Glob.expandFields (Field.split x st.separators.toList none)

end BuildAtlas.Posix.Shell
