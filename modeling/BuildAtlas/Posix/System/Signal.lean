/-! # Signals -/
namespace BuildAtlas.Posix

/-- What a process does about a signal. -/
inductive Disposition where
  | default
  | ignore
  | catch
  deriving DecidableEq, Repr

namespace Signal

/-- Names by number, from 1 on. -/
def names : List String := [
  "HUP", "INT", "QUIT", "ILL", "TRAP", "ABRT", "BUS", "FPE", "KILL", "USR1", "SEGV", "USR2",
  "PIPE", "ALRM", "TERM", "16", "CHLD", "CONT", "STOP", "TSTP", "TTIN", "TTOU", "URG",
  "XCPU", "XFSZ", "VTALRM", "PROF", "WINCH", "IO", "PWR", "SYS", "32", "33", "RTMIN",
  "RTMIN+1", "RTMIN+2", "RTMIN+3", "RTMIN+4", "RTMIN+5", "RTMIN+6", "RTMIN+7", "RTMIN+8",
  "RTMIN+9", "RTMIN+10", "RTMIN+11", "RTMIN+12", "RTMIN+13", "RTMIN+14", "RTMIN+15",
  "RTMAX-14", "RTMAX-13", "RTMAX-12", "RTMAX-11", "RTMAX-10", "RTMAX-9", "RTMAX-8",
  "RTMAX-7", "RTMAX-6", "RTMAX-5", "RTMAX-4", "RTMAX-3", "RTMAX-2", "RTMAX-1", "RTMAX"]

def count : Nat := 65

def int : Nat := 2
def quit : Nat := 3
def kill : Nat := 9
def pipe : Nat := 13
def term : Nat := 15
def child : Nat := 17
def resume : Nat := 18
def stop : Nat := 19

def name? (n : Nat) : Option String := if n = 0 then some "EXIT" else names[n - 1]?

/-- What is said of a process that a signal ended. -/
def describe (n : Nat) : String :=
  match n with
  | 1 => "Hangup"
  | 2 => "Interrupt"
  | 3 => "Quit"
  | 4 => "Illegal instruction"
  | 5 => "Trace/breakpoint trap"
  | 6 => "Aborted"
  | 7 => "Bus error"
  | 8 => "Floating point exception"
  | 9 => "Killed"
  | 10 => "User defined signal 1"
  | 11 => "Segmentation fault"
  | 12 => "User defined signal 2"
  | 13 => "Broken pipe"
  | 14 => "Alarm clock"
  | 15 => "Terminated"
  | 16 => "Stack fault"
  | 17 => "Child exited"
  | 18 => "Continued"
  | 19 => "Stopped (signal)"
  | 20 => "Stopped"
  | 21 => "Stopped (tty input)"
  | 22 => "Stopped (tty output)"
  | 23 => "Urgent I/O condition"
  | 24 => "CPU time limit exceeded"
  | 25 => "File size limit exceeded"
  | 26 => "Virtual timer expired"
  | 27 => "Profiling timer expired"
  | 28 => "Window changed"
  | 29 => "I/O possible"
  | 30 => "Power failure"
  | 31 => "Bad system call"
  | n =>
    if 34 ≤ n ∧ n ≤ 64 then "Real-time signal " ++ toString (n - 34)
    else "Unknown signal " ++ toString n

/-- Signals that do nothing to a process that has no use for them. -/
def harmless (n : Nat) : Bool := n = 17 || n = 18 || n = 23 || n = 28

/-- Signals that halt a process until it is told to go on. -/
def halts (n : Nat) : Bool := 19 ≤ n && n ≤ 22

end BuildAtlas.Posix.Signal
