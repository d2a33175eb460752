import BuildAtlas.Posix.Shell.Reader.Basic

/-! # Reading words

A word goes on through quotes and expansions, which may be nested in each other. Each level has
its own rules for what a character means; a level opens where an expansion brings other rules.
-/
namespace BuildAtlas.Posix.Shell.Reader

inductive Mode where
  | plain
  | double
  | single
  | arithmetic
  deriving DecidableEq, Repr

inductive Class where
  | newline
  | ordinary
  /-- Means something to patterns or tildes, or in the shell's own marks. -/
  | delicate
  | backslash
  | singleQuote
  | doubleQuote
  | endQuote
  | backquote
  | dollar
  | closeBrace
  | openParen
  | closeParen
  | operator
  deriving DecidableEq, Repr

/-- Bytes that get a mark wherever they stand. -/
def isReserved (c : Char) : Bool := '\x81' ≤ c && c ≤ '\x88'

def isDelicate (c : Char) : Bool :=
  isReserved c || ['!', '*', '?', '[', '=', '~', ':', '/', '-', ']'].contains c

def isOperator (c : Char) : Bool := ['<', '>', '(', ')', ';', '&', '|', ' ', '\t'].contains c

def classifyPlain (c : Char) : Class :=
  if isNamePart c then .ordinary
  else
    match c with
    | '\n' => .newline
    | '\\' => .backslash
    | '\'' => .singleQuote
    | '"' => .doubleQuote
    | '`' => .backquote
    | '$' => .dollar
    | '\x7d' => .closeBrace
    | c => if isOperator c then .operator else if isReserved c then .delicate else .ordinary

def classifyDouble (c : Char) : Class :=
  if isNamePart c then .ordinary
  else
    match c with
    | '\n' => .newline
    | '\\' => .backslash
    | '"' => .endQuote
    | '`' => .backquote
    | '$' => .dollar
    | '\x7d' => .closeBrace
    | c => if isDelicate c then .delicate else .ordinary

def classifySingle (c : Char) : Class :=
  if isNamePart c then .ordinary
  else
    match c with
    | '\n' => .newline
    | '\'' => .endQuote
    | '\\' => .delicate
    | c => if isDelicate c then .delicate else .ordinary

def classifyArithmetic (c : Char) : Class :=
  if isNamePart c then .ordinary
  else
    match c with
    | '\n' => .newline
    | '\\' => .backslash
    | '`' => .backquote
    | '$' => .dollar
    | '\x7d' => .closeBrace
    | '(' => .openParen
    | ')' => .closeParen
    | c => if isReserved c then .delicate else .ordinary

def Mode.classify : Mode → Char → Class
  | plain => classifyPlain
  | double => classifyDouble
  | single => classifySingle
  | arithmetic => classifyArithmetic

/-- Rules that hold inside an expansion. -/
structure Level where
  mode : Mode
  inDouble : Bool := false
  /-- Whether double quotes are open that began inside the braces. -/
  innerDouble : Bool := false
  /-- Whether the level ends with the braces that opened it. -/
  ofBraces : Bool := false
  braces : Nat := 0
  doubleBraces : Nat := 0
  parens : Nat := 0

/-- What a word goes on with when an expansion in it ends; parts come last first. -/
inductive Frame where
  | parameter (name : String) (operator : Operator) (colon : Bool) (before : List Part)
  | arithmetic (before : List Part)

/-- A word under way, its parts last first. -/
structure Draft where
  level : Level
  outer : List Level := []
  parts : List Part := []
  frames : List Frame := []
  quoted : Bool := false

/-- What is read: a word, a text up to the end of the input, or a here-document. -/
inductive Extent where
  | word
  | text
  | document (d : Awaited)

def Extent.isWord : Extent → Bool
  | word => true
  | _ => false

namespace Draft

def add (d : Draft) (p : Part) : Draft := { d with parts := p :: d.parts }

def addMark (d : Draft) (e : Extent) : Draft := if e.isWord then d.add .mark else d

def setLevel (d : Draft) (l : Level) : Draft := { d with level := l }

def push (d : Draft) (l : Level) : Draft := { d with level := l, outer := d.level :: d.outer }

def pop (d : Draft) : Draft :=
  match d.outer with
  | [] => d
  | l :: outer => { d with level := l, outer }

/-- An expansion ends: its parts become one. -/
def close (d : Draft) : Draft :=
  match d.frames with
  | [] => d
  | .parameter name operator colon before :: frames =>
    { d with parts := .parameter name operator colon d.parts.reverse :: before, frames }
  | .arithmetic before :: frames =>
    { d with parts := .arithmetic d.parts.reverse :: before, frames }

/-- Double quotes open or end. -/
def toggle (d : Draft) (e : Extent) : Draft :=
  let l := d.level
  (if l.braces > 0 then d.setLevel { l with innerDouble := !l.innerDouble } else d).addMark e

def endQuote (d : Draft) (e : Extent) (c : Char) : Draft :=
  if !e.isWord && d.level.braces = 0 then d.add (.plain c)
  else
    let l := d.level
    let l := if l.doubleBraces = 0 then { l with mode := .plain, inDouble := false } else l
    let d := { d with level := l, quoted := true }
    if c = '"' then d.toggle e else d.addMark e

def closeBrace (d : Draft) : Draft :=
  let l := d.level
  if !l.innerDouble && l.braces > 0 then
    let l := { l with braces := l.braces - 1 }
    (if l.braces = 0 && l.ofBraces then d.pop
      else d.setLevel { l with doubleBraces := l.doubleBraces - 1 }).close
  else d.add (.plain '\x7d')

end Draft

def nextIn (l : Level) : Reader (Option Char) :=
  if l.mode = .single then next else nextJoined

/-! ## Ends of here-documents -/

def skipTabs : Nat → Option Char → Reader (Option Char)
  | 0, _ => exhaust
  | steps + 1, c => if c = some '\t' then next >>= skipTabs steps else return c

/-- Whether a line is the mark of the end, its first character having been read. -/
def isMark : List Char → Option Char → Reader Bool
  | [], c => return c.isNone || c = some '\n'
  | m :: mark, c => if c = some m then next >>= isMark mark else return false

/-- Whether a here-document ends where a line begins; if not, the first character of the line
that belongs to it. -/
def checkEnd (e : Extent) (c : Option Char) : Reader (Bool × Option Char) := do
  match e with
  | .document d =>
    let c ← if d.stripsTabs then skipTabs plenty c else pure c
    let before ← get
    if ← isMark d.mark c then
      countLine
      return (true, none)
    else
      set before
      return (false, c)
  | _ => return (false, c)

/-! ## Parameters -/

/-- Characters that satisfy a test, with the first that does not. -/
def nextWhile (p : Char → Bool) : Nat → List Char → Option Char → Reader (List Char × Option Char)
  | 0, _, _ => exhaust
  | steps + 1, rev, c =>
    match c with
    | some d =>
      if p d then nextJoined >>= nextWhile p steps (d :: rev) else return (rev.reverse, c)
    | none => return (rev.reverse, c)

/-- A parameter up to its operator: its name, whether its length is asked for, and the next
character. Without a name it is no parameter. -/
structure Head where
  name : Option String
  length : Bool := false
  following : Option Char

def plainHead (length : Bool) (braced : Bool) (c : Char) : Reader Head := do
  if isNameStart c then
    let (cs, c) ← nextWhile isNamePart plenty [] (some c)
    return { name := some (String.ofList cs), length, following := c }
  else if braced then
    let (cs, c) ← nextWhile isDigit plenty [] (some c)
    return { name := some (String.ofList cs), length, following := c }
  else return { name := some (String.singleton c), length, following := ← nextJoined }

def specialName (c : Option Char) : Option String :=
  match c with
  | some c => if isSpecialParameter c then some (String.singleton c) else none
  | none => none

def isNamed (c : Option Char) : Bool := c.any isNamePart

def readHead (braced : Bool) (c : Option Char) : Reader Head := do
  match c with
  | none => return { name := none, following := none }
  | some c =>
    if isNamePart c then plainHead false braced c
    else if c = '\x7d' then return { name := none, following := some c }
    else
      let d ← nextJoined
      if braced && c = '#' then
        match d with
        | some e =>
          if isNamePart e then plainHead true true e
          else
            let f ← nextJoined
            if e = '\x7d' || f != some '\x7d' then
              putBack f
              return { name := some "#", following := d }
            else
              let name := specialName d
              return { name, length := name.isSome, following := f }
        | none => return { name := some "#", following := none }
      else return { name := specialName (some c), following := d }

/-- What is asked of a parameter, given the character after its name. -/
structure Request where
  operator : Operator
  colon : Bool := false

def operatorOf (c : Option Char) : Operator :=
  match c with
  | some '\x7d' => .value
  | some '-' => .orElse
  | some '+' => .ifSet
  | some '?' => .orComplain
  | some '=' => .orAssign
  | _ => .bad

def readTrim (c : Char) (once twice : Operator) : Reader Request := do
  let d ← nextJoined
  if d = some c then return { operator := twice }
  else
    putBack d
    return { operator := once }

def readRequest (c : Option Char) : Reader Request := do
  match c with
  | some ':' => return { operator := operatorOf (← nextJoined), colon := true }
  | some '#' => readTrim '#' .dropPrefix .dropLongestPrefix
  | some '%' => readTrim '%' .dropSuffix .dropLongestSuffix
  | c => return { operator := operatorOf c }

def Operator.trims : Operator → Bool
  | .dropPrefix | .dropLongestPrefix | .dropSuffix | .dropLongestSuffix => true
  | _ => false

/-- Read a parameter after the dollar sign and its first character. -/
def readParameter (d : Draft) (c : Char) : Reader Draft := do
  let braced := c = '\x7b'
  let head ← readHead braced (← if braced then nextJoined else pure (some c))
  let request ←
    match head.name with
    | some _ =>
      if !braced then
        putBack head.following
        pure { operator := .value }
      else if head.length then
        putBack head.following
        pure { operator := if head.following = some '\x7d' then .length else .bad }
      else readRequest head.following
    | none =>
      putBack head.following
      pure { operator := .bad }
  let name := head.name.getD ""
  if request.operator = .value && !request.colon then
    return d.add (.parameter name .value false [])
  else
    let mode := if Operator.trims request.operator then Mode.plain else d.level.mode
    let mode := if mode = .arithmetic then Mode.double else mode
    let d :=
      if mode != d.level.mode || d.level.innerDouble then
        d.push { mode, ofBraces := true, inDouble := mode != .plain }
      else d
    let l := d.level
    let l := { l with
      braces := l.braces + 1
      doubleBraces := if l.inDouble then l.doubleBraces + 1 else l.doubleBraces }
    return { d with
      level := l
      frames := .parameter name request.operator request.colon d.parts :: d.frames
      parts := [] }

/-! ## Commands -/

/-- The text between backquotes, with the backslashes taken away that protect it. -/
def readBackquoted (inDouble : Bool) : Nat → List Char → Reader (List Char)
  | 0, _ => exhaust
  | steps + 1, rev => do
    match ← nextJoined with
    | none => fail "EOF in backquote substitution"
    | some '`' => return rev.reverse
    | some '\\' =>
      match ← next with
      | none => fail "EOF in backquote substitution"
      | some c =>
        if c = '\\' || c = '`' || c = '$' || (inDouble && c = '"') then
          readBackquoted inDouble steps (c :: rev)
        else readBackquoted inDouble steps (c :: '\\' :: rev)
    | some c =>
      if c = '\n' then countLine
      readBackquoted inDouble steps (c :: rev)

/-- Read the commands of a text of its own, whose lines are counted from one. -/
def readInner (list : Reader (Option Tree)) (text : List Char) : Reader (Option Tree) := do
  let s ← get
  set { s with
    text
    insets := []
    held := s.insets.map (fun (i : Inset) => i.name) ++ s.held
    complete := true
    line := 1
    awaited := [] }
  let body ← list
  modify fun inner => { inner with
    text := s.text
    insets := s.insets
    held := s.held
    complete := s.complete
    line := s.line
    awaited := s.awaited
    pushedBack := false }
  return body

/-- Read commands up to a closing parenthesis. -/
def readParenthesized (list : Reader (Option Tree)) : Reader (Option Tree) := do
  let awaited := (← get).awaited
  modify fun s => { s with awaited := [] }
  let body ← list
  let s ← get
  if s.token = .closeParen then
    set { s with awaited, pushedBack := false }
    return body
  else fail (s.token.text ++ " unexpected (expecting \")\")")

/-- Read what a dollar sign begins. -/
def readDollar (list : Reader (Option Tree)) (d : Draft) : Reader Draft := do
  let c ← nextJoined
  let literal : Reader Draft := do
    putBack c
    return d.add (.plain '$')
  if (← get).checks.endMark then literal
  else
    match c with
    | none => literal
    | some '(' =>
      let e ← nextJoined
      if e = some '(' then
        return { d.push { mode := .arithmetic, inDouble := true } with
          frames := .arithmetic d.parts :: d.frames
          parts := [] }
      else
        putBack e
        return d.add (.command (← readParenthesized list))
    | some c =>
      if c = '\x7b' || isNamePart c || isSpecialParameter c then readParameter d c
      else literal

/-! ## Whole words -/

/-- A backslash takes the meaning of the next character away; within double quotes it does so
only before some. -/
def readEscaped (e : Extent) (d : Draft) : Reader Draft := do
  match ← next with
  | none => return d.add (.quoted '\\')
  | some c =>
    let l := d.level
    let stays := l.inDouble && c != '\\' && c != '`' && c != '$' &&
      (c != '"' || (!e.isWord && l.braces = 0)) && (c != '\x7d' || l.braces = 0)
    let d := if stays then d.add (.quoted '\\') else d
    return { d.add (.quoted c) with quoted := true }

/-- Read the rest of a word, given the next character; what ends it is read as well. -/
def readParts (list : Reader (Option Tree)) (e : Extent) :
    Nat → Draft → Option Char → Reader (Draft × Option Char)
  | 0, _, _ => exhaust
  | steps + 1, d, c => do
    match c with
    | none => return (d, none)
    | some c =>
      let l := d.level
      match l.mode.classify c with
      | .newline =>
        if l.mode = .plain && l.braces = 0 then return (d, some c)
        else
          countLine
          let (ended, c') ← checkEnd e (← nextIn l)
          if ended then return (d.add (.plain c), none)
          else readParts list e steps (d.add (.plain c)) c'
      | .ordinary => readParts list e steps (d.add (.plain c)) (← nextIn l)
      | .delicate =>
        let part := if e.isWord || l.inDouble || l.braces > 0 then Part.quoted c else .plain c
        readParts list e steps (d.add part) (← nextIn l)
      | .backslash =>
        let d ← readEscaped e d
        readParts list e steps d (← nextIn l)
      | .singleQuote =>
        let d := (d.setLevel { l with mode := .single }).addMark e
        readParts list e steps d (← nextIn d.level)
      | .doubleQuote =>
        let d := (d.setLevel { l with mode := .double, inDouble := true }).toggle e
        readParts list e steps d (← nextIn d.level)
      | .endQuote =>
        let d := d.endQuote e c
        readParts list e steps d (← nextIn d.level)
      | .dollar =>
        let d ← readDollar list d
        readParts list e steps d (← nextIn d.level)
      | .closeBrace =>
        let d := d.closeBrace
        readParts list e steps d (← nextIn d.level)
      | .openParen =>
        let d := (d.setLevel { l with parens := l.parens + 1 }).add (.plain c)
        readParts list e steps d (← nextIn d.level)
      | .closeParen =>
        if l.parens > 0 then
          let d := (d.setLevel { l with parens := l.parens - 1 }).add (.plain c)
          readParts list e steps d (← nextIn d.level)
        else
          let c' ← nextJoined
          if c' = some ')' then
            let d := d.pop.close
            readParts list e steps d (← nextIn d.level)
          else
            putBack c'
            readParts list e steps (d.add (.plain c)) (← nextIn l)
      | .backquote =>
        if (← get).checks.endMark then
          readParts list e steps (d.add (.plain c)) (← nextIn l)
        else
          let text ← readBackquoted l.inDouble plenty []
          let body ← readInner list text
          readParts list e steps (d.add (.command body)) (← nextIn l)
      | .operator =>
        if l.braces = 0 then return (d, some c)
        else readParts list e steps (d.add (.plain c)) (← nextIn l)

/-- Read up to the end of the extent; the character that ends a word is given back. -/
def readExtent (list : Reader (Option Tree)) (e : Extent) (mode : Mode) (c : Option Char) :
    Reader (Draft × Option Char) := do
  let start : Draft := { level := { mode, inDouble := mode = .double } }
  let (ended, c) ← checkEnd e c
  let (d, c) ← if ended then pure (start, none) else readParts list e plenty start c
  let l := d.level
  if l.mode = .arithmetic then fail "Missing '))'"
  else if l.mode != .plain && e.isWord then fail "Unterminated quoted string"
  else if l.braces != 0 then fail "Missing '\x7d'"
  else return (d, c)

/-! ## Redirections -/

/-- Read the sign of a redirection after its first character. -/
def readOpening (digit : Option Nat) (sign : Char) : Reader Opening := do
  let c ← nextJoined
  if sign = '>' then
    let n := digit.getD 1
    match c with
    | some '>' => return .file n .append
    | some '|' => return .file n .overwrite
    | some '&' => return .duplicate n
    | c =>
      putBack c
      return .file n .write
  else
    let n := digit.getD 0
    match c with
    | some '<' =>
      let c ← nextJoined
      if c = some '-' then return .document n true
      else
        putBack c
        return .document n false
    | some '&' => return .duplicate n
    | some '>' => return .file n .readWrite
    | c =>
      putBack c
      return .file n .read

/-- The descriptor that a word before a redirection names, if it can. -/
def leadingDigit (d : Draft) : Option (Option Nat) :=
  if d.quoted then none
  else
    match d.parts with
    | [] => some none
    | [.plain c] => if isDigit c then some (some (c.toNat - '0'.toNat)) else none
    | _ => none

/-- Read a word or the sign of a redirection, given the first character. -/
def readWord (list : Reader (Option Tree)) (c : Option Char) : Reader Token := do
  let (d, c) ← readExtent list .word .plain c
  match c, leadingDigit d with
  | some '>', some digit =>
    let opening ← readOpening digit '>'
    modify fun s => { s with opening, token := .redirection }
    return .redirection
  | some '<', some digit =>
    let opening ← readOpening digit '<'
    modify fun s => { s with opening, token := .redirection }
    return .redirection
  | _, _ =>
    putBack c
    modify fun s => { s with
      word := d.parts.reverse
      wordQuoted := d.quoted
      token := .word }
    return .word

/-- Read all of the text as it stands within quotes. -/
def readText (list : Reader (Option Tree)) : Reader Word := do
  let (d, _) ← readExtent list .text .double (← nextJoined)
  return d.parts.reverse

/-- Read the lines of a here-document. -/
def readDocument (list : Reader (Option Tree)) (a : Awaited) : Reader Unit := do
  let mode := if a.expands then Mode.double else .single
  let (d, _) ← readExtent list (.document a) mode (← if a.expands then nextJoined else next)
  modify fun s => { s with
    word := d.parts.reverse
    wordQuoted := d.quoted
    token := .word
    found := (a.number, d.parts.reverse) :: s.found }

/-- Read the lines of the here-documents that have been asked for. -/
def readDocuments (list : Reader (Option Tree)) : Reader Unit := do
  let awaited := (← get).awaited
  modify fun s => { s with awaited := [] }
  awaited.forM (readDocument list)

end BuildAtlas.Posix.Shell.Reader
