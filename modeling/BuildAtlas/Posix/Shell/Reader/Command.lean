import BuildAtlas.Posix.Shell.Reader.Token

/-! # Reading commands

One function a form. What is nested in a command is read by a grammar of lesser depth.
-/
namespace BuildAtlas.Posix.Shell.Reader

/-- Readers for what is nested in a command. -/
structure Grammar where
  /-- A list of commands up to what ends it. -/
  list : Reader (Option Tree)
  /-- The same with one command at least. -/
  nonempty : Reader Tree
  command : Reader Tree

namespace Grammar

/-- Deeper than texts go. -/
def exhausted : Grammar := ⟨exhaust, exhaust, exhaust⟩

def token (g : Grammar) : Reader Token := readToken g.list

def expect (g : Grammar) (t : Token) : Reader Unit := Reader.expect g.list t

/-! ## Redirections -/

def characterOf : Part → Option Char
  | .plain c | .quoted c => some c
  | _ => none

/-- The descriptor that a word names by itself; the dash names none. -/
def fixedTarget : Word → Option (Option Nat)
  | [.plain c] =>
    if isDigit c then some (some (c.toNat - '0'.toNat)) else if c = '-' then some none else none
  | _ => none

/-- Read the word of a redirection. -/
def redirection (g : Grammar) : Reader Redirection := do
  let opening := (← get).opening
  match opening with
  | .document _ _ => check { endMark := true }
  | _ => pure ()
  if (← g.token) != .word then unexpected
  else
    let s ← get
    match opening with
    | .file n access => return .file n access s.word
    | .duplicate n =>
      match fixedTarget s.word with
      | some target => return .duplicate n target
      | none => return .duplicateNamed n s.word
    | .document n stripsTabs =>
      let number ← await (s.word.filterMap characterOf) stripsTabs (!s.wordQuoted)
      return .document n (!s.wordQuoted) (← knownDocument number)

/-- Read the redirections that follow a command. -/
def redirections (g : Grammar) : Nat → List Redirection → Reader (List Redirection)
  | 0, _ => exhaust
  | steps + 1, rev => do
    if (← g.token) = .redirection then g.redirections steps ((← g.redirection) :: rev)
    else
      pushBack
      return rev.reverse

/-! ## Simple commands -/

/-- A simple command under way, its parts last first. -/
structure Simple where
  assignments : List Word := []
  words : List Word := []
  redirections : List Redirection := []

def Simple.finish (c : Simple) (line : Nat) : Tree :=
  .command line c.assignments.reverse c.words.reverse c.redirections.reverse

def definition (g : Grammar) (name : Word) : Reader Tree := do
  g.expect .closeParen
  match Word.plain? name with
  | some cs =>
    if isName cs && !specialNames.contains (String.ofList cs) then
      check nextCommand
      let line := (← get).line
      return .definition line (String.ofList cs) (← g.command)
    else fail "Bad function name"
  | none => fail "Bad function name"

def simpleFrom (g : Grammar) (line : Nat) : Nat → Simple → Reader Tree
  | 0, _ => exhaust
  | steps + 1, c => do
    check { aliases := c.words.isEmpty }
    match ← g.token with
    | .word =>
      let word := (← get).word
      if c.words.isEmpty && Word.isAssignment word then
        g.simpleFrom line steps { c with assignments := word :: c.assignments }
      else g.simpleFrom line steps { c with words := word :: c.words }
    | .redirection =>
      let r ← g.redirection
      g.simpleFrom line steps { c with redirections := r :: c.redirections }
    | .openParen =>
      match c.assignments, c.words, c.redirections with
      | [], [name], [] => g.definition name
      | _, _, _ =>
        pushBack
        return c.finish line
    | _ =>
      pushBack
      return c.finish line

/-! ## Compound commands -/

def elseBranch (g : Grammar) : Nat → Reader (Option Tree)
  | 0 => exhaust
  | steps + 1 => do
    match ← g.token with
    | .keyword .elif =>
      let test ← g.nonempty
      g.expect (.keyword .then)
      let yes ← g.nonempty
      return some (.conditional test yes (← g.elseBranch steps))
    | .keyword .else => return some (← g.nonempty)
    | _ =>
      pushBack
      return none

def conditional (g : Grammar) : Reader Tree := do
  let test ← g.nonempty
  g.expect (.keyword .then)
  let yes ← g.nonempty
  let no ← g.elseBranch plenty
  g.expect (.keyword .fi)
  return .conditional test yes no

def loop (g : Grammar) (whileFails : Bool) : Reader Tree := do
  let test ← g.nonempty
  g.expect (.keyword .do)
  let body ← g.nonempty
  g.expect (.keyword .done)
  return .loop whileFails test body

def wordsFrom (g : Grammar) : Nat → List Word → Reader (List Word)
  | 0, _ => exhaust
  | steps + 1, rev => do
    if (← g.token) = .word then g.wordsFrom steps ((← get).word :: rev) else return rev.reverse

/-- All arguments, each a word. -/
def allArguments : Word := [.mark, .parameter "@" .value false [], .mark]

def each (g : Grammar) (line : Nat) : Reader Tree := do
  let t ← g.token
  let s ← get
  match Word.plain? s.word with
  | some cs =>
    if t != .word || s.wordQuoted || !isName cs then fail "Bad for loop variable"
    else
      check nextCommand
      let words ←
        if (← g.token) = .keyword .in then
          let words ← g.wordsFrom plenty []
          let last := (← get).token
          if last = .newline || last = .semicolon then pure words else unexpected
        else
          if (← get).token != .semicolon then pushBack
          pure [allArguments]
      check nextCommand
      g.expect (.keyword .do)
      let body ← g.nonempty
      g.expect (.keyword .done)
      return .each line (String.ofList cs) words body
  | none => fail "Bad for loop variable"

def patternsFrom (g : Grammar) : Nat → List Word → Reader (List Word)
  | 0, _ => exhaust
  | steps + 1, rev => do
    let rev := (← get).word :: rev
    if (← g.token) = .pipe then
      let _ ← g.token
      g.patternsFrom steps rev
    else return rev.reverse

abbrev Case := List Word × Option Tree

def casesFrom (g : Grammar) : Nat → List Case → Reader (List Case)
  | 0, _ => exhaust
  | steps + 1, rev => do
    check { keyword := true, newline := true }
    let t ← g.token
    if t = .keyword .esac then return rev.reverse
    else
      if t = .openParen then
        let _ ← g.token
      let patterns ← g.patternsFrom plenty []
      if (← get).token != .closeParen then expecting .closeParen
      else
        let body ← g.list
        check { keyword := true, newline := true }
        match ← g.token with
        | .keyword .esac => return ((patterns, body) :: rev).reverse
        | .endCase => g.casesFrom steps ((patterns, body) :: rev)
        | _ => expecting .endCase

def choice (g : Grammar) (line : Nat) : Reader Tree := do
  if (← g.token) != .word then expecting .word
  else
    let word := (← get).word
    check nextCommand
    g.expect (.keyword .in)
    return .choice line word (← g.casesFrom plenty [])

/-- A compound command with the redirections after it. -/
def redirected (g : Grammar) (line : Nat) (body : Tree) : Reader Tree := do
  check commandStart
  let redirections ← g.redirections plenty []
  if redirections.isEmpty then return body
  else
    match body with
    | .subshell line body _ => return .subshell line body redirections
    | body => return .redirected line body redirections

def commandOf (g : Grammar) : Reader Tree := do
  let line := (← get).line
  match ← g.token with
  | .keyword .if => g.conditional >>= g.redirected line
  | .keyword .while => g.loop false >>= g.redirected line
  | .keyword .until => g.loop true >>= g.redirected line
  | .keyword .for => g.each line >>= g.redirected line
  | .keyword .case => g.choice line >>= g.redirected line
  | .openParen =>
    let body ← g.nonempty
    g.expect .closeParen
    g.redirected line (.subshell line body [])
  | .keyword .openBrace =>
    let body ← g.nonempty
    g.expect (.keyword .closeBrace)
    g.redirected line body
  | .word | .redirection =>
    pushBack
    g.simpleFrom (← get).line plenty {}
  | _ => unexpected

/-! ## Lists -/

def stagesFrom (g : Grammar) : Nat → List Tree → Reader (List Tree)
  | 0, _ => exhaust
  | steps + 1, rev => do
    check nextCommand
    let rev := (← g.commandOf) :: rev
    if (← g.token) = .pipe then g.stagesFrom steps rev
    else
      pushBack
      return rev.reverse

def pipeline (g : Grammar) : Reader Tree := do
  let negated := (← g.token) = .keyword .bang
  if negated then check commandStart else pushBack
  let first ← g.commandOf
  let body ←
    if (← g.token) = .pipe then
      pure (Tree.pipeline false (← g.stagesFrom plenty [first]))
    else
      pushBack
      pure first
  return if negated then .negation body else body

def andOrFrom (g : Grammar) : Nat → Tree → Reader Tree
  | 0, _ => exhaust
  | steps + 1, first => do
    match ← g.token with
    | .andIf =>
      check nextCommand
      let second ← g.pipeline
      g.andOrFrom steps (.both first second)
    | .orIf =>
      check nextCommand
      let second ← g.pipeline
      g.andOrFrom steps (.either first second)
    | _ =>
      pushBack
      return first

def andOr (g : Grammar) : Reader Tree := do
  let first ← g.pipeline
  g.andOrFrom plenty first

def inBackground : Tree → Tree
  | .pipeline _ stages => .pipeline true stages
  | .redirected _ body redirections => .background body redirections
  | body => .background body []

def sequence (first : Option Tree) (second : Tree) : Tree :=
  match first with
  | none => second
  | some first => .sequence first second

/-- Read commands up to what ends their list; `mayEnd` tells whether that can come at once. -/
def listFrom (g : Grammar) : Nat → Bool → Option Tree → Reader (Option Tree)
  | 0, _, _ => exhaust
  | steps + 1, mayEnd, before => do
    check nextCommand
    let t ← g.token
    if t = .endOfFile then
      readDocuments g.list
      let _ ← setToken .endOfFile
      pushBack
      return before
    else
      pushBack
      if mayEnd && t.endsList then return before
      else
        let body ← g.andOr
        let t ← g.token
        let body := if t = .background then inBackground body else body
        let after := some (sequence before body)
        match t with
        | .newline | .endOfFile =>
          pushBack
          g.listFrom steps true after
        | .background | .semicolon => g.listFrom steps true after
        | _ =>
          pushBack
          return after

/-- What a line of a script holds. -/
inductive Line where
  /-- The commands, and whether the text ends with them. -/
  | commands (t : Option Tree) (last : Bool)
  | endOfScript

/-- Read the commands of one line. -/
def lineFrom (g : Grammar) : Nat → Option Tree → Reader Line
  | 0, _ => exhaust
  | steps + 1, before => do
    check commandStart
    let t ← g.token
    if t = .newline then
      readDocuments g.list
      return .commands before false
    else if t = .endOfFile then
      readDocuments g.list
      let _ ← setToken .endOfFile
      pushBack
      return if before.isSome then .commands before true else .endOfScript
    else
      pushBack
      let body ← g.andOr
      let t ← g.token
      let body := if t = .background then inBackground body else body
      let after := some (sequence before body)
      match t with
      | .newline | .endOfFile =>
        pushBack
        g.lineFrom steps after
      | .background | .semicolon => g.lineFrom steps after
      | _ => unexpected

end Grammar

/-- A list of at least one command. Only the end of the text can be in its place, and then the
token that has to follow is missed. -/
def required (list : Reader (Option Tree)) : Reader Tree := do
  return (← list).getD (.command 0 [] [] [])

/-- The grammar for commands of some depth. -/
def grammar : Nat → Grammar
  | 0 => .exhausted
  | depth + 1 =>
    { list := fun s => (grammar depth).listFrom plenty true none s
      nonempty := fun s => required ((grammar depth).listFrom plenty false none) s
      command := fun s => (grammar depth).commandOf s }

/-- Commands are nested less deep than this. -/
def deepest : Nat := 100000

/-! ## Whole lines -/

/-- What came of reading a line. -/
inductive Outcome where
  /-- The commands, the rest of the text, what aliases put before it, and the line it begins
  on. -/
  | line (l : Grammar.Line) (rest : List Char) (insets : List Inset) (line : Nat)
  | incomplete
  | defect (message : String) (line left : Nat)
  | exhausted

def run {α : Type} (r : Reader α) (s : State) : Except Stop (α × State) := r s

def readLineOnce (s : State) : Except Stop (Grammar.Line × State) :=
  run ((grammar deepest).lineFrom plenty none) s

/-- Read the next line of a text. -/
def readLine (s : State) : Outcome :=
  let result : Except Stop (Grammar.Line × State) :=
    match readLineOnce s with
    | .ok (line, after) =>
      if after.found.isEmpty then .ok (line, after)
      else readLineOnce { s with known := after.found }
    | .error stop => .error stop
  match result with
  | .ok (line, after) => .line line after.text after.insets after.line
  | .error .incomplete => .incomplete
  | .error (.defect message line left) => .defect message line left
  | .error .exhausted => .exhausted

end BuildAtlas.Posix.Shell.Reader
