/-! # Failures of system calls

The number and the words are those of the operating system.
-/
namespace BuildAtlas

inductive Errno where
  | notPermitted
  | missing
  | noProcess
  | interrupted
  | noDevice
  | notExecutable
  | badDescriptor
  | noChild
  | denied
  | present
  | notDirectory
  | isDirectory
  | invalid
  | noSpace
  | brokenPipe
  | nameTooLong
  | tooManyLinks
  deriving DecidableEq, Repr

namespace Errno

def number : Errno → Nat
  | notPermitted => 1
  | missing => 2
  | noProcess => 3
  | interrupted => 4
  | noDevice => 6
  | notExecutable => 8
  | badDescriptor => 9
  | noChild => 10
  | denied => 13
  | present => 17
  | notDirectory => 20
  | isDirectory => 21
  | invalid => 22
  | noSpace => 28
  | brokenPipe => 32
  | nameTooLong => 36
  | tooManyLinks => 40

def message : Errno → String
  | notPermitted => "Operation not permitted"
  | missing => "No such file or directory"
  | noProcess => "No such process"
  | interrupted => "Interrupted system call"
  | noDevice => "No such device or address"
  | notExecutable => "Exec format error"
  | badDescriptor => "Bad file descriptor"
  | noChild => "No child processes"
  | denied => "Permission denied"
  | present => "File exists"
  | notDirectory => "Not a directory"
  | isDirectory => "Is a directory"
  | invalid => "Invalid argument"
  | noSpace => "No space left on device"
  | brokenPipe => "Broken pipe"
  | nameTooLong => "File name too long"
  | tooManyLinks => "Too many levels of symbolic links"

/-- The message with the number of the failure. -/
def numberedMessage (f : Errno) : String :=
  f.message ++ " (os error " ++ toString f.number ++ ")"

end BuildAtlas.Errno
