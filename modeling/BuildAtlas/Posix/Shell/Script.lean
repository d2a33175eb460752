import BuildAtlas.Posix.Shell.Act

/-! # Reading scripts

Commands are read a line at a time, so that those of one line can change how the next one is
read. A script that comes from a descriptor is read a block at a time.
-/
namespace BuildAtlas.Posix.Shell

open Act

/-- Bytes that are read at once. -/
def blockSize : Nat := 8192

def setInput (i : Input) : Act Unit :=
  modify fun st => { st with inputs := i :: st.inputs.drop 1 }

def pushInput (i : Input) : Act Unit := modify fun st => { st with inputs := i :: st.inputs }

/-- Leave the innermost input. -/
def popInput : Act Unit := do
  match (← state).inputs with
  | [] => return ()
  | i :: rest =>
    modify fun st => { st with inputs := rest }
    match i.descriptor with
    | some n =>
      let _ ← call (.close n)
    | none => return ()

/-- Leave all inputs but the outermost so many. -/
def unwindInputs (depth : Nat) : Act Unit := do
  let st ← state
  (List.replicate (st.inputs.length - depth) ()).forM fun _ => popInput

/-- Read a block; a signal does not matter. -/
def readBlock (descriptor : Nat) : Nat → Act (List Char)
  | 0 => pure []
  | tries + 1 => do
    match ← call (.read descriptor blockSize) with
    | .ok bytes => return (Text.ofBytes bytes).toList
    | .error .interrupted => readBlock descriptor tries
    | .error _ => return []

/-- A line at the beginning of a text, with its end if it is there. -/
def splitLine (cs : List Char) : List Char × List Char :=
  let line := cs.takeWhile (· != '\n')
  match cs.drop line.length with
  | [] => (line, [])
  | c :: rest => (line ++ [c], rest)

/-- Add the next line to what is parsed. -/
def fetchLine (i : Input) (descriptor : Nat) : Act Unit := do
  flush
  let buffer ← if i.buffer.isEmpty then readBlock descriptor 1000000 else pure i.buffer
  if buffer.isEmpty then setInput { i with ended := true }
  else
    let (line, rest) := splitLine buffer
    let line := line.filter (· != '\x00')
    setInput { i with text := i.text ++ line, buffer := rest }
    if (← gets (·.options.verbose)) then
      let _ ← write 2 (String.ofList line)

/-- What a script holds next. -/
inductive Next where
  /-- Commands, and whether the script ends with them. -/
  | commands (t : Option Tree) (last : Bool)
  | ended

def Input.reader (i : Input) (aliases : List (String × String)) : Reader.State :=
  { text := i.text
    insets := i.insets
    complete := i.ended || i.descriptor.isNone
    line := i.line
    aliases }

def readNext : Nat → Act Next
  | 0 => pure .ended
  | steps + 1 => do
    let st ← state
    match st.inputs with
    | [] => return .ended
    | i :: _ =>
      match Reader.readLine (i.reader st.aliases) with
      | .line l text insets line =>
        setInput { i with text, insets, line }
        match l with
        | .commands t last => return .commands t last
        | .endOfScript => return .ended
      | .incomplete =>
        match i.descriptor with
        | some n =>
          fetchLine i n
          readNext steps
        | none => return .ended
      | .defect message line left =>
        setInput { i with text := i.text.drop (i.text.length - left), line }
        modify fun st => { st with line }
        fail ("Syntax error: " ++ message)
      | .exhausted => return .ended

/-- Read the next commands of the innermost input. -/
def nextCommands : Act Next := readNext 1000000000

/-- Read a text as it stands within quotes. -/
def readQuoted (st : State) (text : String) : Word :=
  let reader : Reader.State := { text := text.toList, aliases := st.aliases }
  match Reader.run (Reader.readText (fun s => (Reader.grammar Reader.deepest).list s)) reader with
  | .ok (w, _) => w
  | .error _ => text.toList.map .quoted

end BuildAtlas.Posix.Shell
