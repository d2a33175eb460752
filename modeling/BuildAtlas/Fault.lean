import BuildAtlas.Duration
import BuildAtlas.Errno
import BuildAtlas.Text.Quoted

/-! # Faults

Everything that can go wrong, by cause. The wording is in the `message` functions alone.
-/
namespace BuildAtlas

/-- Why a text is not a label. -/
inductive LabelDefect where
  | empty
  | separatorInWorkspace
  | emptyWorkspace
  | emptyName
  | emptyPackageSegment
  | secondNameSeparator
  | emptyNameSegment
  deriving DecidableEq, Repr

def LabelDefect.message : LabelDefect → String
  | empty => "label is empty"
  | separatorInWorkspace => "workspace name contains a path separator"
  | emptyWorkspace => "workspace name is empty"
  | emptyName => "target name after ':' is empty"
  | emptyPackageSegment => "empty package segment"
  | secondNameSeparator => "more than one target separator"
  | emptyNameSegment => "empty segment in target name"

/-- Why a command brought back no result at all. -/
inductive DispatchCause where
  | system (e : Errno)
  | nulByte
  | endless
  | unscripted
  | timedOut (limit : Duration)
  | interrupted (text : String)
  deriving DecidableEq, Repr

def DispatchCause.message : DispatchCause → String
  | system e => e.numberedMessage
  | nulByte => "nul byte found in provided data"
  | endless => "the command does not end"
  | unscripted => "no scripted reply"
  | timedOut limit => "timed out after " ++ limit.render
  | interrupted text => text

inductive Fault where
  | labelSyntax (text : String) (defect : LabelDefect)
  | noTarget (text : String)
  | unknownPath (path : String)
  | missingParent (child : String)
  | notIndexed (file : String)
  | duplicateChild (name : String)
  | dispatch (command : String) (cause : DispatchCause)
  | query (message : String)
  deriving DecidableEq, Repr

def Fault.message : Fault → String
  | labelSyntax text defect =>
    "invalid label syntax in " ++ Text.quoted text ++ ": " ++ defect.message
  | noTarget text => "label " ++ Text.quoted text ++ " does not name a target"
  | unknownPath path => "invalid path: " ++ path
  | missingParent child =>
    "invalid path: parent node for package " ++ Text.quoted child ++ " does not exist"
  | notIndexed file => "invalid path: source file " ++ file ++ " is not indexed"
  | duplicateChild name => "duplicate child package: " ++ name
  | dispatch command cause => "failed to dispatch `" ++ command ++ "`: " ++ cause.message
  | query message => "build tool query failed: " ++ message

end BuildAtlas
