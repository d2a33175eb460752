import BuildAtlas.Posix.Shell.Run.Builtin

/-! # Running simple commands

The words of a command are expanded until its name is known, then the others in the way that the
command asks for. Redirections come next and assignments after them.
-/
namespace BuildAtlas.Posix.Shell

open Act

/-! ## Words -/

/-- Expand words up to the first that yields anything. -/
def expandNext (sub : Substitution) : List Word → Act (List String × List Word)
  | [] => pure ([], [])
  | w :: rest => do
    let words ← expandFull sub w
    if words.isEmpty then expandNext sub rest else return (words, rest)

/-- A command on the way to being known. -/
structure Lead where
  /-- The name of the command and the arguments known so far. -/
  words : List String
  /-- What was in front of the name. -/
  before : List String := []
  rest : List Word
  found : Found := .unknown
  functions : Bool := true
  path : Option String := none
  /-- Whether the first built-in command in it is a special one. -/
  special : Option Bool := none
  /-- Whether assignments hold for the command only. -/
  isLocal : Bool := false

namespace Lead

def expandMore (sub : Substitution) (l : Lead) : Act Lead := do
  let (words, rest) ← expandNext sub l.rest
  return { l with
    words := l.words ++ words
    rest }

/-- What the options of `command` say: where the command is that it runs, and whether it is
looked for in the default path. None if it runs no command. -/
def passOptions (sub : Substitution) : Nat → Nat → Option String → Lead →
    Act (Lead × Option (Nat × Option String))
  | 0, _, _, l => pure (l, none)
  | steps + 1, at_, path, l => do
    let l ← if at_ < l.words.length then pure l else l.expandMore sub
    match (l.words[at_]?).map String.toList with
    | none => return (l, none)
    | some ['-', '-'] =>
      let l ← if at_ + 1 < l.words.length then pure l else l.expandMore sub
      return (l, if at_ + 1 < l.words.length then some (at_ + 1, path) else none)
    | some ('-' :: c :: cs) =>
      if (c :: cs).all (· = 'p') then passOptions sub steps (at_ + 1) (some defaultPath) l
      else return (l, none)
    | some _ => return (l, some (at_, path))

/-- Find out what the command is, past any `command` in front of it. -/
def resolve (sub : Substitution) : Nat → Lead → Act Lead
  | 0, l => pure l
  | steps + 1, l => do
    let found := findInside (← state) l.functions (l.words.headD "")
    match found with
    | .builtin b =>
      let l := { l with
        found
        isLocal := l.special.isSome || !b.special
        special := l.special <|> some b.special }
      if b.name = "command" then
        let (l, next) ← passOptions sub plenty 1 none l
        match next with
        | none => return { l with functions := true }
        | some (n, path) =>
          resolve sub steps { l with
            words := l.words.drop n
            before := l.before ++ l.words.take n
            functions := false
            path := path <|> l.path }
      else return l
    | found =>
      return { l with
        found
        isLocal := true }
where
  plenty : Nat := 1000000000

end Lead

/-- Expand one of the later words. -/
def expandArgument (sub : Substitution) (assigns : Bool) (w : Word) : Act (List String) := do
  if assigns && w.isAssignment then return [← expandText sub { assigns := true } w]
  else expandFull sub w

def expandArguments (sub : Substitution) (assigns : Bool) (ws : List Word) : Act (List String) := do
  return (← ws.mapM (expandArgument sub assigns)).flatten

def Found.builtin? : Found → Option Builtin
  | builtin b => some b
  | _ => none

/-! ## Assignments and traces -/

/-- Carry out an assignment, given as a text. -/
def assignText (isLocal exported : Bool) (text : String) : Act Unit := do
  let (name, value) := Builtin.splitValue text
  if isLocal then change fun st => st.makeLocal name value { exported := true }
  else change fun st => st.assign name value { exported }

def assignAll (sub : Substitution) (isLocal exported : Bool) (ws : List Word) :
    Act (List String) :=
  ws.mapM fun w => do
    let text ← expandText sub { assigns := true } w
    assignText isLocal exported text
    return text

/-- Print a command before it is run. -/
def trace (sub : Substitution) (descriptor : Nat) (words : List String) : Act Unit := do
  let st ← state
  if st.options.xtrace && !st.tracing then
    modify fun st => { st with tracing := true }
    let lead := (st.value? "PS4").getD ""
    let text ← expandText sub { quoted := true } (readQuoted st lead)
    modify fun st => { st with tracing := false }
    let _ ← write descriptor (text ++ " ".intercalate words ++ "\n")

/-- Where traces go: past a redirection of the command at hand. -/
def traceDescriptor (st : State) (redirected : Bool) : Nat :=
  match st.redirections with
  | top :: _ => if redirected then ((top.lookup 2).getD none).getD 2 else 2
  | [] => 2

/-! ## Functions -/

/-- Functions are nested no deeper than this. -/
def deepestCall : Nat := 1000

def callFunction (r : Runner) (f : Flags) (body : Tree) (args : List String) :
    Act (Except Break Unit) := do
  modify fun st => { st with depth := st.depth + 1 }
  let outer ← state
  if outer.depth > deepestCall then
    fail ("Maximum function recursion depth (" ++ toString deepestCall ++ ") reached")
  else
    modify fun st => State.enterScope { st with
      arguments := args
      place := {}
      loops := 0 }
    let result ← attempt (do
      let _ ← r.tree { tested := f.tested } body
      modify State.leaveScope)
    modify fun st => { st with
      arguments := outer.arguments
      place := outer.place
      loops := outer.loops
      depth := st.depth - 1
      skip := if st.skip.returns then .none else st.skip }
    return result

/-! ## Commands -/

/-- Leave the scopes of local variables but the outermost so many. -/
def unwindScopes (depth : Nat) : Act Unit := modify fun st =>
  (List.replicate (st.hidden.length - depth) ()).foldl (fun st _ => st.leaveScope) st

/-- Whether traps keep the shell from giving up its process. -/
def hasTraps (st : State) : Bool := st.traps.any fun (_, action) => action != ""

/-- Go on after a command that was run inside the shell. -/
def afterInside (special : Option Bool) (result : Except Break Unit) : Act Unit := do
  match result with
  | .ok () => collect
  | .error .error => if special = some true then breakOff .error else collect
  | .error b => breakOff b

/-- Run what has been found. -/
def invoke (r : Runner) (f : Flags) (l : Lead) : Act Nat := do
  match l.found with
  | .unknown =>
    modify (·.setStatus 127)
    return 127
  | .program place =>
    let st ← state
    let path := l.path.getD st.path
    if f.exits && !hasTraps st then launch l.words path (place.getD 0)
    else launchApart l.words path (place.getD 0)
  | .builtin b =>
    let result ← runBuiltin (some (l.words.headD "")) (Builtin.perform r f b.name (l.words.drop 1))
    afterInside l.special result
    gets (·.status)
  | .function body =>
    let result ← callFunction r f body (l.words.drop 1)
    match result with
    | .ok () => collect
    | .error b => breakOff b
    gets (·.status)

/-- Find a command that is not built in, and run it. -/
def invokeFound (r : Runner) (f : Flags) (l : Lead) : Act Nat := do
  match l.found with
  | .builtin _ => invoke r f l
  | _ =>
    let found ← findCommand
      { functions := l.functions, reports := true, path := l.path } (l.words.headD "")
    invoke r f { l with found }

/-- Run a command that is nothing but assignments and redirections. -/
def invokeNothing : Act Nat := do
  let result ← runBuiltin none (gets (·.substituted))
  afterInside none result
  gets (·.status)

structure Depths where
  scopes : Nat
  inputs : Nat
  redirections : Nat

def State.depths (st : State) : Depths :=
  ⟨st.hidden.length, st.inputs.length, st.redirections.length⟩

/-- Undo what was done for one command. -/
def unwind (d : Depths) : Act Unit := do
  unwindRedirections d.redirections
  unwindInputs d.inputs
  unwindScopes d.scopes

/-- Run a command whose name and arguments are known. -/
def runKnown (r : Runner) (f : Flags) (l : Lead) (assignments : List Word)
    (redirections : List Redirection) : Act Nat := do
  let sub := substitute r
  let depths := (← state).depths
  if l.isLocal then modify State.enterScope
  let isExec := l.found.builtin?.any (·.name = "exec")
  let ready ← redirections.mapM (prepare sub)
  let status ← tryRedirect sub ready
  if status != 0 then
    modify (·.setStatus status)
    if l.special = some true then breakOff .error
    else
      leaveFirst ready.isEmpty false
      unwind depths
      return status
  else
    let assigned ← assignAll sub l.isLocal (isExec && l.words.length > 1) assignments
    let st ← state
    trace sub (traceDescriptor st (!ready.isEmpty)) (assigned ++ l.before ++ l.words)
    let status ← if l.words.isEmpty then invokeNothing else invokeFound r f l
    leaveFirst ready.isEmpty isExec
    unwind depths
    return status
where
  leaveFirst (none : Bool) (lasts : Bool) : Act Unit :=
    if none then pure () else leaveRedirection lasts

/-- Run a simple command. -/
def runSimple (r : Runner) (f : Flags) (line : Nat) (assignments words : List Word)
    (redirections : List Redirection) : Act Nat := do
  let sub := substitute r
  modify fun st => { st with
    line
    substituted := 0 }
  let (first, rest) ← expandNext sub words
  if first.isEmpty then
    runKnown r f { words := [], rest := [], special := none } assignments redirections
  else
    let l ← Lead.resolve sub 1000000000 { words := first, rest }
    let more ← expandArguments sub (l.found.builtin?.any (·.assigns)) l.rest
    runKnown r f { l with
      words := l.words ++ more
      rest := [] } assignments redirections

end BuildAtlas.Posix.Shell
