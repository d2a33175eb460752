import BuildAtlas.Posix.System.Files
import BuildAtlas.Posix.System.Signal
import BuildAtlas.System

/-! # Programs

What the system sees of a program: it ends with a status, or it calls the system and goes on
with the reply. A fork replies twice, to the child with zero.
-/
namespace BuildAtlas.Posix

inductive OpenMode where
  | read
  /-- Empties the file, or makes it. -/
  | replace
  /-- Makes the file, which must not be there. -/
  | create
  | append
  | update
  /-- Writes into a file that is there. -/
  | write
  deriving DecidableEq, Repr

namespace OpenMode

def isRead (m : OpenMode) : Bool := m = .read || m = .update

def isWrite (m : OpenMode) : Bool := m != .read

def creates (m : OpenMode) : Bool :=
  m = .replace || m = .create || m = .append || m = .update

end OpenMode

inductive FileKind where
  | regular
  | directory
  | character
  | pipe
  | link
  deriving DecidableEq, Repr

structure FileStatus where
  kind : FileKind
  size : Nat
  executable : Bool
  /-- Tells files apart. -/
  identity : FilePath
  deriving DecidableEq, Repr

inductive Call where
  /-- Lets time pass; the reply is the signals that were caught since. -/
  | tick
  | fork
  /-- Only a failure replies. -/
  | exec (path : String) (arguments environment : List String)
  | wait (child : Option Nat) (hang : Bool)
  | kill (process : Int) (signal : Nat)
  | setSignal (signal : Nat) (d : Disposition)
  | disposition (signal : Nat)
  | open (path : String) (mode : OpenMode)
  | close (descriptor : Nat)
  | read (descriptor count : Nat)
  | write (descriptor : Nat) (bytes : ByteArray)
  | duplicate (descriptor least : Nat) (closeOnExec : Bool)
  | replace (descriptor target : Nat)
  | pipe
  | status (path : String) (last : Bool)
  | isTerminal (descriptor : Nat)
  | names (path : String)
  | changeDirectory (path : String)
  | workingDirectory
  | mask
  | setMask (mask : Nat)
  | sleep (nanoseconds : Nat)
  /-- Asks for the numbers of the process and of its parent. -/
  | identity
  | clock

/-- What the system replies to a call. -/
def Call.Reply : Call → Type
  | .tick => List Nat
  | .fork => Nat
  | .exec _ _ _ => Errno
  | .wait _ _ => Except Errno (Option (Nat × Exit))
  | .kill _ _ => Except Errno Unit
  | .setSignal _ _ => Unit
  | .disposition _ => Disposition
  | .open _ _ => Except Errno Nat
  | .close _ => Except Errno Unit
  | .read _ _ => Except Errno ByteArray
  | .write _ _ => Except Errno Nat
  | .duplicate _ _ _ => Except Errno Nat
  | .replace _ _ => Except Errno Unit
  | .pipe => Nat × Nat
  | .status _ _ => Except Errno FileStatus
  | .isTerminal _ => Bool
  | .names _ => Except Errno (List String)
  | .changeDirectory _ => Except Errno Unit
  | .workingDirectory => Except Errno FilePath
  | .mask => Nat
  | .setMask _ => Unit
  | .sleep _ => Unit
  | .identity => Nat × Nat
  | .clock => Nat

inductive Program where
  | exit (status : Nat)
  | call (c : Call) (next : c.Reply → Program)

end BuildAtlas.Posix
