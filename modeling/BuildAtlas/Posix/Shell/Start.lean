import BuildAtlas.Posix.Shell.Run.Tree

/-! # Starting a shell

The arguments of a shell say where its commands come from: from a text, a script or the standard
input.
-/
namespace BuildAtlas.Posix.Shell

open Act

/-! ## Variables -/

/-- Variables that a shell has from the start. -/
def initialVariables : List (String × Variable) :=
  [("IFS", some " \t\n"), ("MAIL", none), ("MAILPATH", none),
    ("PATH", some "/usr/local/sbin:/usr/local/bin:/usr/sbin:/usr/bin:/sbin:/bin"),
    ("PS1", some "# "), ("PS2", some "> "), ("PS4", some "+ "), ("OPTIND", some "1")].map
    fun (name, value) => (name, { value, lasting := true })

/-- Take over a variable of the environment if its name is one. -/
def importVariable (entry : String) (st : State) : Except String State :=
  let (name, value) := Builtin.splitValue entry
  if value.isSome && isName name.toList then st.assign name value { exported := true } else .ok st

def importVariables : List String → State → Except String State
  | [], st => .ok st
  | entry :: rest, st => do importVariables rest (← importVariable entry st)

/-- The directory by the names that the environment gives, if they lead here. -/
def importDirectory : Act Unit := do
  let st ← state
  let here ← call (.status "." true)
  let named ←
    match st.value? "PWD" with
    | none => pure none
    | some path => do
      let there ← call (.status path true)
      match here, there with
      | .ok a, .ok b =>
        pure (if FilePath.isAbsolute path && a.identity = b.identity then some path else none)
      | _, _ => pure none
  let directory ←
    match named with
    | some path => pure path
    | none => do
      match ← call .workingDirectory with
      | .ok path => pure (FilePath.render path)
      | .error _ => pure ""
  modify fun st => { st with directory }
  change fun st => st.assign "PWD" (some directory) { exported := true }

/-- Set the variables up. -/
def setUp (environment : List String) : Act Unit := do
  modify fun st => { st with vars := initialVariables }
  change (importVariables environment)
  change fun st => st.set "IFS" " \t\n"
  change fun st => st.set "OPTIND" "1"
  let (pid, parent) ← call .identity
  modify fun st => { st with rootId := pid }
  change fun st => st.set "PPID" (toString parent)
  importDirectory

/-! ## Arguments -/

/-- What the arguments of a shell come to. -/
structure Invocation where
  /-- Whether the first of the other arguments are the commands. -/
  takesText : Bool := false
  rest : List String

def startLetters (text : Bool) (on : Bool) (args : List String) : List Char →
    Act (Bool × List String)
  | [] => pure (text, args)
  | c :: cs => do
    if c = 'c' then startLetters true on args cs
    else if c = 'l' then startLetters text on args cs
    else
      let args ← Builtin.switchLetters on args [c]
      startLetters text on args cs

def readInvocation : Nat → Bool → List String → Act Invocation
  | 0, text, args => pure ⟨text, args⟩
  | steps + 1, text, args => do
    match args with
    | [] => return ⟨text, []⟩
    | s :: rest =>
      match s.toList with
      | ['-'] | ['-', '-'] => return ⟨text, rest⟩
      | '-' :: cs =>
        let (text, rest) ← startLetters text true rest cs
        readInvocation steps text rest
      | '+' :: cs =>
        let (text, rest) ← startLetters text false rest cs
        readInvocation steps text rest
      | _ => return ⟨text, args⟩

def setName (name : String) (arguments : List String) : Act Unit :=
  modify fun st => { st with
    name
    arguments }

/-- Settle where the commands come from; the text of them if they are given as one. -/
def settleInvocation (i : Invocation) : Act (Option String) := do
  match i.takesText, i.rest with
  | true, [] => fail "-c requires an argument"
  | true, text :: rest =>
    match rest with
    | name :: arguments => setName name arguments
    | [] => pure ()
    return some text
  | false, [] =>
    modify fun st => { st with options := { st.options with stdin := true } }
    return none
  | false, name :: arguments =>
    if (← gets (·.options.stdin)) then modify fun st => { st with arguments := i.rest }
    else
      let n ← Builtin.openScript name
      modify fun st => { st with inputs := [{ descriptor := some n }] }
      setName name arguments
    return none

/-! ## The whole -/

/-- Run the commands that the arguments ask for. -/
def runInvocation (r : Runner) (environment args : List String) : Act Unit := do
  setUp environment
  let i ← readInvocation (args.length + 1) false args
  let text ← settleInvocation i
  Builtin.settleOptions
  let stdin ← gets (·.options.stdin)
  match text with
  | some text =>
    let _ ← runText r text { exits := !stdin }
    if stdin then
      let _ ← runScript r
  | none =>
    let _ ← runScript r

/-- A shell that is called by some name. -/
def program (name : String) (args environment : List String) : Program :=
  let r := runner deepestCommand
  Act.run (toTheEnd r (runInvocation r environment args))
    { name, inputs := [{ descriptor := some 0 }] }

end BuildAtlas.Posix.Shell
