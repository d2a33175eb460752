import BuildAtlas.Posix.System.Kernel
import BuildAtlas.Text.Utf8

/-! # System calls

What the system does for a process and what it replies. A call for which nothing can be replied
yet is tried again later.
-/
namespace BuildAtlas.Posix.Kernel

inductive Outcome (α : Type) where
  | done (reply : α) (k : Kernel) (p : Process)
  | blocked (k : Kernel) (p : Process)

namespace Outcome

def map {α β : Type} (f : α → β) : Outcome α → Outcome β
  | done a k p => done (f a) k p
  | blocked k p => blocked k p

end Outcome

/-! ## Opening -/

/-- An open file that leads to a source in the way asked for. -/
def openSource (source : Source) (mode : OpenMode) : OpenFile :=
  { source, reads := mode.isRead, writes := mode.isWrite,
    appends := mode = .append }

def openEntry (k : Kernel) (p : Process) (place : FilePath) (e : Entry) (mode : OpenMode) :
    Except Errno (Kernel × OpenFile) :=
  if mode = .create then .error .present
  else
    match e with
    | .directory =>
      if mode.isWrite then .error .isDirectory
      else .ok (k, openSource (.directory place) mode)
    | .file _ executable =>
      let k :=
        if mode = .replace then
          { k with files := k.files.put place (.file .empty executable) }
        else k
      .ok (k, openSource (.file place) mode)
    | .program _ => .ok (k, openSource (.device .null) mode)
    | .device .terminal => .error .noDevice
    | .device d => .ok (k, openSource (.device d) mode)
    | .link _ => .error .tooManyLinks
    | .descriptor n =>
      match k.openFile? p n with
      | none => .error .missing
      | some f =>
        match f.source with
        | .file path =>
          let k :=
            if mode = .replace then
              match k.files.get? path with
              | some (.file _ executable) =>
                { k with files := k.files.put path (.file .empty executable) }
              | _ => k
            else k
          .ok (k, openSource f.source mode)
        | .directory _ =>
          if mode.isWrite then .error .isDirectory
          else .ok (k, openSource f.source mode)
        | _ => .ok (k, openSource f.source mode)

def endsInStroke (path : String) : Bool := path.toList.getLast? = some '/'

def openPath (k : Kernel) (p : Process) (path : String) (mode : OpenMode) :
    Except Errno (Kernel × OpenFile) :=
  let files := k.view p
  match files.locate p.cwd path true with
  | .error failure =>
    if failure = .missing && endsInStroke path && mode.creates then
      match files.locate p.cwd (String.ofList (path.toList.reverse.dropWhile (· = '/')).reverse)
          true with
      | .ok _ => .error .isDirectory
      | .error failure => .error failure
    else .error failure
  | .ok place =>
    match files.get? place with
    | some e => k.openEntry p place e mode
    | none =>
      if mode.creates then
        .ok ({ k with files := k.files.put place (.file .empty false) },
          openSource (.file place) mode)
      else .error .missing

/-! ## Reading and writing -/

def fileBytes (k : Kernel) (path : FilePath) : ByteArray :=
  match k.files.get? path with
  | some (.file bytes _) => bytes
  | _ => .empty

def readBytes (k : Kernel) (p : Process) (n count : Nat) : Outcome (Except Errno ByteArray) :=
  match p.descriptor? n with
  | none => .done (.error .badDescriptor) k p
  | some d =>
    match k.openFiles[d.file]? with
    | none => .done (.error .badDescriptor) k p
    | some f =>
      if !f.reads then .done (.error .badDescriptor) k p
      else
        match f.source with
        | .file path =>
          let bytes := (k.fileBytes path).extract f.position (f.position + count)
          .done (.ok bytes) (k.advancePosition d.file (f.position + bytes.size)) p
        | .directory _ => .done (.error .isDirectory) k p
        | .device .zero | .device .full => .done (.ok ⟨(List.replicate count 0).toArray⟩) k p
        | .device _ => .done (.ok .empty) k p
        | .pipe i =>
          let pipe := (k.pipes[i]?).getD {}
          if pipe.used = 0 then
            if k.hasWriter p i then
              if p.disturbed then .done (.error .interrupted) k p else .blocked k p
            else .done (.ok .empty) k p
          else
            let (bytes, pipe) := pipe.take count
            .done (.ok bytes) { k with pipes := k.pipes.setIfInBounds i pipe } p

/-- Bytes with others in place of some of them. -/
def overwrite (old : ByteArray) (position : Nat) (bytes : ByteArray) : ByteArray :=
  let gap : ByteArray := ⟨(List.replicate (position - old.size) 0).toArray⟩
  old.extract 0 position ++ gap ++ bytes ++ old.extract (position + bytes.size) old.size

def writeBytes (k : Kernel) (p : Process) (n : Nat) (bytes : ByteArray) :
    Outcome (Except Errno Nat) :=
  match p.descriptor? n with
  | none => .done (.error .badDescriptor) k p
  | some d =>
    match k.openFiles[d.file]? with
    | none => .done (.error .badDescriptor) k p
    | some f =>
      if !f.writes then .done (.error .badDescriptor) k p
      else
        match f.source with
        | .file path =>
          match k.files.get? path with
          | some (.file old executable) =>
            let position := if f.appends then old.size else f.position
            let k := { k with
              files := k.files.put path (.file (overwrite old position bytes) executable) }
            .done (.ok bytes.size) (k.advancePosition d.file (position + bytes.size)) p
          | _ => .done (.ok bytes.size) k p
        | .directory _ => .done (.error .badDescriptor) k p
        | .device .full => .done (.error .noSpace) k p
        | .device _ => .done (.ok bytes.size) k p
        | .pipe i =>
          let pipe := (k.pipes[i]?).getD {}
          if pipe.watched then
            .done (.ok bytes.size) { k with pipes := k.pipes.modify i (·.put bytes) } p
          else if !k.hasReader p i then
            .done (.error .brokenPipe) k (p.signal Signal.pipe)
          else
            let room := Pipe.capacity - pipe.used
            if room < min bytes.size 4096 then
              if p.disturbed then .done (.error .interrupted) k p else .blocked k p
            else
              let count := min room bytes.size
              let bytes := bytes.extract 0 count
              .done (.ok count) { k with pipes := k.pipes.modify i (·.put bytes) } p

/-! ## Files -/

def entryStatus (k : Kernel) (p : Process) (place : FilePath) : Entry → FileStatus
  | .directory => ⟨.directory, 4096, true, place⟩
  | .file bytes executable => ⟨.regular, bytes.size, executable, place⟩
  | .program _ => ⟨.regular, 4096, true, place⟩
  | .device _ => ⟨.character, 0, false, place⟩
  | .link target => ⟨.link, target.length, true, place⟩
  | .descriptor n =>
    match k.openFile? p n with
    | none => ⟨.link, 0, false, place⟩
    | some f =>
      match f.source with
      | .file path =>
        match k.files.get? path with
        | some (.file bytes executable) => ⟨.regular, bytes.size, executable, path⟩
        | _ => ⟨.regular, 0, false, path⟩
      | .directory path => ⟨.directory, 4096, true, path⟩
      | .device _ => ⟨.character, 0, false, place⟩
      | .pipe i => ⟨.pipe, 0, false, ["pipe", toString i]⟩

def pathStatus (k : Kernel) (p : Process) (path : String) (last : Bool) :
    Except Errno FileStatus := do
  let (place, e) ← (k.view p).lookup p.cwd path last
  match e, last with
  | .descriptor _, false => return ⟨.link, 64, true, place⟩
  | e, _ => return k.entryStatus p place e

def directoryNames (k : Kernel) (p : Process) (path : String) :
    Except Errno (List String) := do
  let files := k.view p
  let (place, e) ← files.lookup p.cwd path true
  if e = .directory then return files.names place else throw .notDirectory

def changeDirectory (k : Kernel) (p : Process) (path : String) : Except Errno Process := do
  let (place, e) ← (k.view p).lookup p.cwd path true
  if e = .directory then return { p with cwd := place } else throw .notDirectory

/-! ## Processes -/

/-- The end of a child that can be told, of a given one or of any. -/
def endedChild? (k : Kernel) (p : Process) (child : Option Nat) : Option (Nat × Exit) :=
  k.processes.findSome? fun q =>
    if q.parent = p.pid && (child.isNone || child = some q.pid) then
      match q.phase with
      | .ended e => some (q.pid, e)
      | .running _ => none
    else none

def waitFor (k : Kernel) (p : Process) (child : Option Nat) (hang : Bool) :
    Outcome (Except Errno (Option (Nat × Exit))) :=
  match k.endedChild? p child with
  | some (pid, e) =>
    .done (.ok (some (pid, e)))
      { k with processes := k.processes.filter (·.pid != pid) } p
  | none =>
    if !(k.ofParent p.pid).any fun q => child.isNone || child = some q.pid then
      .done (.error .noChild) k p
    else if !hang then .done (.ok none) k p
    else if p.disturbed then .done (.error .interrupted) k p
    else .blocked k p

/-- Send a signal; one that ends its receiver leaves the news to the receiver's parent. -/
def sendSignal (k : Kernel) (p : Process) (pid : Int) (n : Nat) : Outcome (Except Errno Unit) :=
  let known (q : Process) : Bool := (q.pid : Int) = pid
  if pid < -1 then .done (.error .noProcess) k p
  else if pid ≤ 0 then
    let k := { k with processes := k.processes.map (·.signal n) }
    .done (.ok ()) k (p.signal n)
  else if known p then
    .done (.ok ()) k (if n = 0 then p else { p.signal n with disturbed := false })
  else if pid = 1 ∨ k.processes.any known then
    if n = 0 then .done (.ok ()) k p
    else
      let k := k.update pid.toNat (·.signal n)
      match k.processes.find? known with
      | some q =>
        if q.isRunning then .done (.ok ()) k p
        else
          let p := if q.parent = p.pid then p.signal Signal.child else p
          .done (.ok ()) ({ k with processes := k.processes.filter (!known ·) }.bury q) p
      | none => .done (.ok ()) k p
  else .done (.error .noProcess) k p

/-! ## Programs -/

inductive Interpreter where
  | none
  | malformed
  | found (path : String) (argument : Option String)
  deriving DecidableEq, Repr

/-- So many bytes at the beginning of a file can name the program that runs it. -/
def interpreterLimit : Nat := 256

def isBlankByte (c : Char) : Bool := c = ' ' || c = '\t'

def endsWord (c : Char) : Bool := isBlankByte c || c = '\x00'

/-- The program that runs a file, from the beginning of the file. -/
def interpreter (head : List Char) : Interpreter :=
  match head with
  | '#' :: '!' :: rest =>
    let line :=
      if rest.contains '\n' then some (rest.takeWhile (· != '\n'))
      else
        let padded :=
          rest ++ List.replicate (interpreterLimit - 2 - rest.length) '\x00'
        if (padded.dropWhile isBlankByte).any endsWord then some padded else none
    match line with
    | none => .malformed
    | some line =>
      let trimmed :=
        ((line.reverse.dropWhile isBlankByte).reverse).dropWhile isBlankByte
      let name := trimmed.takeWhile (!endsWord ·)
      if name.isEmpty then .malformed
      else
        let argument :=
          match trimmed.drop name.length with
          | '\x00' :: _ => []
          | rest => (rest.dropWhile isBlankByte).takeWhile (· != '\x00')
        .found (String.ofList name)
          (if argument.isEmpty then .none else some (String.ofList argument))
  | _ => .none

/-- The program that is behind a path in the end, with its arguments. Files that name the
program to run them may be nested. -/
def resolveProgram (k : Kernel) (p : Process) :
    Nat → String → List String → Except Errno (String × List String)
  | 0, _, _ => .error .tooManyLinks
  | depth + 1, path, arguments => do
    let (_, e) ← (k.view p).lookup p.cwd path true
    match e with
    | .program name => return (name, arguments)
    | .file bytes true =>
      match interpreter (Text.ofBytes (bytes.extract 0 interpreterLimit)).toList with
      | .found program argument =>
        k.resolveProgram p depth program
          (program :: argument.toList ++ path :: arguments.drop 1)
      | _ => throw .notExecutable
    | _ => throw .denied

def interpreterDepth : Nat := 6

/-! ## All calls -/

/-- What a call but a fork or an exec comes to. -/
def perform (k : Kernel) (p : Process) : (c : Call) → Outcome c.Reply
  | .tick => .done p.pending k { p with pending := [] }
  | .fork => .done p.pid k p
  | .exec _ _ _ => .done .notExecutable k p
  | .wait child hang => k.waitFor p child hang
  | .kill pid n => k.sendSignal p pid n
  | .setSignal n d => .done () k (p.setSignal n d)
  | .disposition n => .done (p.disposition n) k p
  | .open path mode =>
    match k.openPath p path mode with
    | .error failure => .done (.error failure) k p
    | .ok (k, f) =>
      let (n, k, p) := k.attachLowest p f
      .done (.ok n) k p
  | .close n =>
    if (p.descriptor? n).isSome then .done (.ok ()) k (p.dropDescriptor n)
    else .done (.error .badDescriptor) k p
  | .read n count => k.readBytes p n count
  | .write n bytes => k.writeBytes p n bytes
  | .duplicate n least closeOnExec =>
    match p.descriptor? n with
    | none => .done (.error .badDescriptor) k p
    | some d =>
      let m := p.freeDescriptor least
      .done (.ok m) k (p.setDescriptor m { d with closeOnExec })
  | .replace n target =>
    match p.descriptor? n with
    | none => .done (.error .badDescriptor) k p
    | some d =>
      .done (.ok ()) k (if n = target then p else
        p.setDescriptor target { d with closeOnExec := false })
  | .pipe =>
    let i := k.pipes.size
    let k := { k with pipes := k.pipes.push {} }
    let (first, k, p) := k.attachLowest p { source := .pipe i, reads := true, writes := false }
    let (second, k, p) := k.attachLowest p { source := .pipe i, reads := false, writes := true }
    .done (first, second) k p
  | .status path last => .done (k.pathStatus p path last) k p
  | .isTerminal _ => .done false k p
  | .names path => .done (k.directoryNames p path) k p
  | .changeDirectory path =>
    match k.changeDirectory p path with
    | .error failure => .done (.error failure) k p
    | .ok p => .done (.ok ()) k p
  | .workingDirectory => .done (.ok p.cwd) k p
  | .mask => .done p.mask k p
  | .setMask mask => .done () k { p with mask }
  | .sleep nanoseconds =>
    match p.wake with
    | none => .blocked k { p with wake := some (k.clock + nanoseconds) }
    | some wake =>
      if wake ≤ k.clock ∨ p.disturbed then .done () k { p with wake := none } else .blocked k p
  | .identity => .done (p.pid, p.parent) k p
  | .clock => .done k.clock k p

end BuildAtlas.Posix.Kernel
