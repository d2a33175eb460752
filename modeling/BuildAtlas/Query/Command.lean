import BuildAtlas.Duration

/-! # Query commands

A query is a command line for a shell. An argument made only of characters without meaning to
any shell is written as it is; every other one is quoted for the shell's dialect.
-/
namespace BuildAtlas

inductive Dialect where
  | posix
  | cmd
  deriving DecidableEq, Repr

def Dialect.name : Dialect → String
  | posix => "posix"
  | cmd => "cmd"

/-- A command interpreter and the arguments it is started with. -/
structure Shell where
  dialect : Dialect
  program : String
  arguments : List String
  deriving DecidableEq, Repr

namespace Shell

def posix : Shell := ⟨.posix, "sh", []⟩

/-- Started so that it does not echo its commands. -/
def cmd : Shell := ⟨.cmd, "cmd", ["/Q"]⟩

def isPlain (c : Char) : Bool := c.isAlphanum || "_-+=/:.,@%".toList.contains c

/-- In single quotes, with a quote written as close, escaped quote, open. -/
def quotePosix (cs : List Char) : List Char :=
  ['\''] ++ cs.flatMap (fun c => if c = '\'' then ['\'', '\\', '\'', '\''] else [c]) ++ ['\'']

/-- In double quotes, with a quote written twice. -/
def quoteCmd (cs : List Char) : List Char :=
  ['"'] ++ cs.flatMap (fun c => if c = '"' then ['"', '"'] else [c]) ++ ['"']

def quoteChars (dialect : Dialect) (cs : List Char) : List Char :=
  if cs ≠ [] ∧ cs.all isPlain then cs
  else
    match dialect with
    | .posix => quotePosix cs
    | .cmd => quoteCmd cs

def quote (sh : Shell) (argument : String) : String :=
  String.ofList (quoteChars sh.dialect argument.toList)

end Shell

/-- What a query prints for each match: its kind and label, or the label alone. -/
inductive Format where
  | labelKind
  | label
  deriving DecidableEq, Repr

def Format.name : Format → String
  | labelKind => "label_kind"
  | label => "label"

structure Command where
  shell : Shell
  executable : String
  expression : String
  format : Format
  timeout : Option Duration := none
  deriving DecidableEq, Repr

def Command.line (c : Command) : String :=
  c.shell.quote c.executable ++ " query " ++ c.shell.quote c.expression ++ " --output "
    ++ c.format.name

end BuildAtlas
