/-! # Notes

What the index reports of its own work while it runs.
-/
namespace BuildAtlas

inductive Level where
  | info
  | warn
  deriving DecidableEq, Repr

def Level.name : Level → String
  | info => "INFO"
  | warn => "WARN"

structure Note where
  level : Level
  text : String
  deriving DecidableEq, Repr

namespace Note

def info (text : String) : Note := ⟨.info, text⟩

def warn (text : String) : Note := ⟨.warn, text⟩

end BuildAtlas.Note
