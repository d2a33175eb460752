import BuildAtlas.Posix.Shell.Reader.Word

/-! # Reading tokens

A word may be a keyword or an alias, depending on where it stands.
-/
namespace BuildAtlas.Posix.Shell.Reader

def skipComment : Nat → Reader Unit
  | 0 => exhaust
  | steps + 1 => do
    let c ← next
    if c = none || c = some '\n' then putBack c else skipComment steps

def setToken (t : Token) : Reader Token := fun s => .ok (t, { s with token := t })

/-- The longer token if a character follows, else the shorter. -/
def readDouble (c : Char) (twice once : Token) : Reader Token := do
  let d ← nextJoined
  if d = some c then setToken twice
  else
    putBack d
    setToken once

/-- Read the next token, words as they stand. -/
def readRawFrom (list : Reader (Option Tree)) : Nat → Reader Token
  | 0 => exhaust
  | steps + 1 => do
    match ← nextJoined with
    | none => setToken .endOfFile
    | some ' ' | some '\t' => readRawFrom list steps
    | some '#' =>
      skipComment plenty
      readRawFrom list steps
    | some '\n' =>
      countLine
      setToken .newline
    | some '&' => readDouble '&' .andIf .background
    | some '|' => readDouble '|' .orIf .pipe
    | some ';' => readDouble ';' .endCase .semicolon
    | some '(' => setToken .openParen
    | some ')' => setToken .closeParen
    | c => readWord list c

def readRaw (list : Reader (Option Tree)) : Reader Token := do
  let s ← get
  if s.pushedBack then
    set { s with pushedBack := false }
    return s.token
  else readRawFrom list plenty

/-- Skip newlines, and read the here-documents that begin after them. -/
def skipNewlines (list : Reader (Option Tree)) : Nat → Token → Reader Token
  | 0, _ => exhaust
  | steps + 1, t =>
    if t = .newline then do
      readDocuments list
      modify fun s => { s with checks := {} }
      readRaw list >>= skipNewlines list steps
    else return t

/-- Put what an alias stands for in front of the rest of the text. -/
def insertAlias (name value : String) : Reader Unit := fun s =>
  if value = "" then .ok ((), s)
  else
    let endsBlank := value.toList.getLast?.any fun c => c = ' ' || c = '\t'
    .ok ((), { s with insets := { chars := value.toList, name, endsBlank } :: s.insets })

/-- The alias that a word is, unless it is under way already. -/
def alias? (s : State) (text : String) : Option String :=
  if s.held.contains text || s.released.contains text || s.insets.any (·.name = text) then none
  else s.aliases.lookup text

def Checks.or (a b : Checks) : Checks :=
  ⟨a.keyword || b.keyword, a.aliases || b.aliases, a.newline || b.newline, a.endMark || b.endMark⟩

def readTokenFrom (list : Reader (Option Tree)) : Nat → Checks → Reader Token
  | 0, _ => exhaust
  | steps + 1, checks => do
    let t ← readRaw list
    let t ← if checks.newline then skipNewlines list plenty t else pure t
    let s ← get
    let checks := checks.or s.checks
    set { s with checks := {} }
    if t != .word || s.wordQuoted then return t
    else
      match Word.plain? s.word with
      | none => return t
      | some cs =>
        let text := String.ofList cs
        match if checks.keyword then Keyword.ofText? text else none with
        | some k => setToken (.keyword k)
        | none =>
          match if checks.aliases then alias? s text else none with
          | some value =>
            insertAlias text value
            readTokenFrom list steps checks
          | none => return t

/-- Read the next token as the checks ask. -/
def readToken (list : Reader (Option Tree)) : Reader Token := do
  readTokenFrom list plenty (← get).checks

def pushBack : Reader Unit := fun s => .ok ((), { s with pushedBack := true })

def check (checks : Checks) : Reader Unit := fun s => .ok ((), { s with checks })

/-- Where a command may begin. -/
def commandStart : Checks := { keyword := true, aliases := true }

/-- Where a command may begin on a later line. -/
def nextCommand : Checks := { keyword := true, aliases := true, newline := true }

/-- The token at hand cannot stand here. -/
def unexpected {α : Type} : Reader α := do
  fail ((← get).token.text ++ " unexpected")

/-- The token at hand stands where another one has to. -/
def expecting {α : Type} (t : Token) : Reader α := do
  fail ((← get).token.text ++ " unexpected (expecting " ++ t.text ++ ")")

def expect (list : Reader (Option Tree)) (t : Token) : Reader Unit := do
  if (← readToken list) = t then return () else expecting t

end BuildAtlas.Posix.Shell.Reader
