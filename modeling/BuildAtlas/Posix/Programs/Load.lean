import BuildAtlas.Posix.Programs.Cat
import BuildAtlas.Posix.Programs.Env
import BuildAtlas.Posix.Programs.Small
import BuildAtlas.Posix.Shell.Start
import BuildAtlas.Posix.System.Schedule

/-! # The programs of the system -/
namespace BuildAtlas.Posix.Programs

/-- A test as a program of its own. -/
def test (name : String) (args : List String) : Program :=
  Shell.Act.run
    (do
      match ← Shell.Act.attempt (Shell.Test.run name args) with
      | .ok status => Shell.Act.modify (·.setStatus status)
      | .error _ => Shell.Act.modify (·.setStatus 2))
    { name }

/-- What the programs do, by name. -/
def load : Loader := fun name args environment =>
  let rest := args.drop 1
  let first := args.headD ""
  match name with
  | "cat" => (Cat.main rest).toProgram
  | "dash" | "sh" => Shell.program first rest environment
  | "echo" => (echo rest).toProgram
  | "env" => (Env.main rest environment).toProgram
  | "false" => .exit 1
  | "printf" => (printf rest).toProgram
  | "pwd" => pwd.toProgram
  | "sleep" => (sleep rest).toProgram
  | "test" | "[" => test first rest
  | _ => .exit 0

end BuildAtlas.Posix.Programs
