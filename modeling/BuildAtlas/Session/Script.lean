import BuildAtlas.Query.Index

/-! # A scripted build tool

A tool that gives prepared replies, one a command and in order. When they are used up, the
listings of a fixed workspace answer, if there is one.
-/
namespace BuildAtlas

inductive Reply where
  | output (o : Output)
  | interrupted (text : String)
  deriving DecidableEq, Repr

/-- What the queries of a workspace print. -/
structure Answers where
  targets : String
  sources : String
  deriving DecidableEq, Repr

structure Script where
  replies : List Reply := []
  answers : Option Answers := none
  /-- The command lines received, oldest first. -/
  received : List String := []
  deriving DecidableEq, Repr

namespace Script

def push (s : Script) (reply : Reply) : Script := { s with replies := s.replies ++ [reply] }

def asksForKinds (line : String) : Bool := Text.occursIn Format.labelKind.name.toList line.toList

/-- The answer of the fixed workspace. -/
def fallback (s : Script) (line : String) : Except Fault Output :=
  match s.answers with
  | some answers => .ok (.success (if asksForKinds line then answers.targets else answers.sources))
  | none => .error (.dispatch line .unscripted)

def Reply.result (line : String) : Reply → Except Fault Output
  | .output o => .ok o
  | .interrupted text => .error (.dispatch line (.interrupted text))

/-- Reply to a command line. -/
def reply (line : String) (s : Script) : Except Fault Output × Script :=
  let heard := { s with received := s.received ++ [line] }
  match s.replies with
  | next :: rest => (Reply.result line next, { heard with replies := rest })
  | [] => (s.fallback line, heard)

def tool : Tool Script where
  run c s := s.reply c.line

end BuildAtlas.Script
