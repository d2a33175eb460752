import BuildAtlas.Text.Printable

/-! # Quoted text

Text shown inside a message stands in double quotes. A quote, a backslash and the common
control characters have a short escape; a character that would not show, or that would
combine with the one before it, is written by its number.
-/
namespace BuildAtlas.Text

def escapeByNumber (c : Char) : List Char :=
  ['\\', 'u', '\x7b'] ++ Nat.toDigits 16 c.toNat ++ ['\x7d']

def escape (c : Char) : List Char :=
  match c with
  | '\x00' => ['\\', '0']
  | '\t' => ['\\', 't']
  | '\r' => ['\\', 'r']
  | '\n' => ['\\', 'n']
  | '"' => ['\\', '"']
  | '\\' => ['\\', '\\']
  | c => if isExtending c || !isPrintable c then escapeByNumber c else [c]

def quoted (s : String) : String :=
  String.ofList (['"'] ++ s.toList.flatMap escape ++ ['"'])

end BuildAtlas.Text
