import BuildAtlas.Json.Basic

/-! # Reading JSON

The reader takes one character at a time. Its state is the stack of open lists and objects
and the token under way, so reading is a fold over the text. A defect is located by the number
of bytes read when it shows, which gives the line and column of the message.
-/
namespace BuildAtlas.Json

inductive Defect where
  | endInList
  | endInObject
  | endInString
  | endInValue
  | expectedColon
  | expectedListEnd
  | expectedObjectEnd
  | expectedWord
  | expectedValue
  | badEscape
  | badNumber
  | numberTooLarge
  | controlCharacter
  | keyNotString
  | loneSurrogate
  | unfinishedSurrogate
  | trailingComma
  | trailingText
  | tooDeep
  deriving DecidableEq, Repr

def Defect.message : Defect → String
  | endInList => "EOF while parsing a list"
  | endInObject => "EOF while parsing an object"
  | endInString => "EOF while parsing a string"
  | endInValue => "EOF while parsing a value"
  | expectedColon => "expected `:`"
  | expectedListEnd => "expected `,` or `]`"
  | expectedObjectEnd => "expected `,` or `\x7d`"
  | expectedWord => "expected ident"
  | expectedValue => "expected value"
  | badEscape => "invalid escape"
  | badNumber => "invalid number"
  | numberTooLarge => "number out of range"
  | controlCharacter => "control character (\\u0000-\\u001F) found while parsing a string"
  | keyNotString => "key must be a string"
  | loneSurrogate => "lone leading surrogate in hex escape"
  | unfinishedSurrogate => "unexpected end of hex escape"
  | trailingComma => "trailing comma"
  | trailingText => "trailing characters"
  | tooDeep => "recursion limit exceeded"

/-- Lists and objects may be nested this deep, less one. -/
def depthLimit : Nat := 128

/-! ## Numbers -/

inductive NumberPart where
  | sign
  | zero
  | digits
  /-- Digits for which the significand has no room. -/
  | manyDigits
  | point
  | fraction
  /-- Digits of a fraction for which the significand has no room. -/
  | longFraction
  | exponentMark
  | exponentSign
  | exponent
  deriving DecidableEq

/-- A number under way. The significand has the digits that fit 64 bits; `dropped` counts the
digits before the point that did not, `places` the digits of the fraction that did. -/
structure Numeral where
  part : NumberPart
  negative : Bool := false
  significand : Nat := 0
  dropped : Nat := 0
  places : Nat := 0
  exponentNegative : Bool := false
  exponent : Nat := 0

namespace Numeral

def isDigit (c : Char) : Bool := '0' ≤ c && c ≤ '9'

def digitValue (c : Char) : Nat := c.toNat - '0'.toNat

def scale (n : Numeral) : Int :=
  (if n.exponentNegative then -(n.exponent : Int) else n.exponent) + n.dropped - n.places

/-- The nearest number of at most 53 binary digits and trailing zeros, of two the even one. -/
def roundToDouble (n : Nat) : Nat :=
  let excess := n.log2 + 1 - 53
  let kept := n >>> excess
  let rest := n - (kept <<< excess)
  let half := (1 <<< excess) / 2
  if rest > half || (rest = half && rest > 0 && kept % 2 = 1) then (kept + 1) <<< excess
  else kept <<< excess

/-- Products from here on round to infinity in double precision. -/
def overflow : Nat := Nat.pow 2 1024 - Nat.pow 2 970

/-- The significand and the power of ten are rounded first, and their product after that. -/
def tooLarge (n : Numeral) : Bool :=
  n.significand != 0 &&
    match n.scale with
    | .ofNat k =>
      k > 308 || roundToDouble n.significand * roundToDouble (Nat.pow 10 k) ≥ overflow
    | .negSucc _ => false

def isInteger (n : Numeral) : Bool := n.part == .zero || n.part == .digits

def value (n : Numeral) : Json :=
  let signed : Int := if n.negative then -(n.significand : Int) else n.significand
  let fits := !n.negative || (0 < n.significand && n.significand ≤ 9223372036854775808)
  if n.isInteger && fits then .integer signed else .decimal signed n.scale

def complete (n : Numeral) : Bool :=
  n.isInteger || n.part == .manyDigits || n.part == .fraction || n.part == .longFraction ||
    n.part == .exponent

inductive Advance where
  | more (n : Numeral)
  | ended
  | bad (d : Defect)

def addDigit (n : Numeral) (c : Char) : Numeral :=
  { n with significand := n.significand * 10 + digitValue c }

/-- Whether a further digit keeps the significand within 64 bits. -/
def hasRoom (n : Numeral) (c : Char) : Bool :=
  n.significand * 10 + digitValue c < 18446744073709551616

def addIntegerDigit (n : Numeral) (c : Char) : Numeral :=
  if n.part != .manyDigits && n.hasRoom c then { n.addDigit c with part := .digits }
  else { n with part := .manyDigits, dropped := n.dropped + 1 }

def addFractionDigit (n : Numeral) (c : Char) : Numeral :=
  if n.part != .longFraction && n.hasRoom c then
    { n.addDigit c with part := .fraction, places := n.places + 1 }
  else { n with part := .longFraction }

def addExponentDigit (n : Numeral) (c : Char) : Advance :=
  let e := n.exponent * 10 + digitValue c
  if e ≥ 2147483648 && n.significand != 0 && !n.exponentNegative then .bad .numberTooLarge
  else .more { n with part := .exponent, exponent := e }

def advance (n : Numeral) (c : Char) : Advance :=
  match n.part with
  | .sign =>
    if c = '0' then .more { n with part := .zero }
    else if isDigit c then .more (n.addIntegerDigit c)
    else .bad .badNumber
  | .zero | .digits | .manyDigits =>
    if isDigit c then
      if n.part = .zero then .bad .badNumber else .more (n.addIntegerDigit c)
    else if c = '.' then .more { n with part := .point }
    else if c = 'e' || c = 'E' then .more { n with part := .exponentMark }
    else .ended
  | .point => if isDigit c then .more (n.addFractionDigit c) else .bad .badNumber
  | .fraction | .longFraction =>
    if isDigit c then .more (n.addFractionDigit c)
    else if c = 'e' || c = 'E' then .more { n with part := .exponentMark }
    else .ended
  | .exponentMark =>
    if c = '+' then .more { n with part := .exponentSign }
    else if c = '-' then .more { n with part := .exponentSign, exponentNegative := true }
    else if isDigit c then n.addExponentDigit c
    else .bad .badNumber
  | .exponentSign => if isDigit c then n.addExponentDigit c else .bad .badNumber
  | .exponent => if isDigit c then n.addExponentDigit c else .ended

end Numeral

/-! ## Strings -/

inductive TextPart where
  | plain
  | escape
  /-- Bytes read of the four after `\u`, and their value while all are digits; `high` is the
  surrogate that came before. -/
  | hex (size : Nat) (value : Option Nat) (high : Option Nat)
  | afterHigh (high : Nat)
  | afterHighEscape (high : Nat)

/-- A string under way, its characters last first. -/
structure Literal where
  isKey : Bool
  part : TextPart := .plain
  rev : List Char := []

namespace Literal

def hexValue (c : Char) : Option Nat :=
  if '0' ≤ c && c ≤ '9' then some (c.toNat - '0'.toNat)
  else if 'a' ≤ c && c ≤ 'f' then some (c.toNat - 'a'.toNat + 10)
  else if 'A' ≤ c && c ≤ 'F' then some (c.toNat - 'A'.toNat + 10)
  else none

inductive Advance where
  | more (l : Literal)
  | ended
  | bad (d : Defect) (bytes : Nat)

def push (l : Literal) (c : Char) : Advance := .more { l with part := .plain, rev := c :: l.rev }

def isHigh (n : Nat) : Bool := 0xd800 ≤ n && n ≤ 0xdbff

def isLow (n : Nat) : Bool := 0xdc00 ≤ n && n ≤ 0xdfff

def endHex (l : Literal) (n : Nat) : Option Nat → Advance
  | none =>
    if isLow n then .bad .loneSurrogate 1
    else if isHigh n then .more { l with part := .afterHigh n }
    else l.push (Char.ofNat n)
  | some high =>
    if isLow n then l.push (Char.ofNat ((high - 0xd800) * 0x400 + (n - 0xdc00) + 0x10000))
    else .bad .loneSurrogate 1

def advance (l : Literal) (c : Char) : Advance :=
  match l.part with
  | .plain =>
    if c = '"' then .ended
    else if c = '\\' then .more { l with part := .escape }
    else if c.toNat < 0x20 then .bad .controlCharacter 1
    else l.push c
  | .escape =>
    match c with
    | '"' => l.push '"'
    | '\\' => l.push '\\'
    | '/' => l.push '/'
    | 'b' => l.push '\x08'
    | 'f' => l.push '\x0c'
    | 'n' => l.push '\n'
    | 'r' => l.push '\r'
    | 't' => l.push '\t'
    | 'u' => .more { l with part := .hex 0 (some 0) none }
    | _ => .bad .badEscape 1
  | .hex size value high =>
    let next := value.bind fun n => (hexValue c).map (n * 16 + ·)
    if size + c.utf8Size < 4 then .more { l with part := .hex (size + c.utf8Size) next high }
    else
      match next with
      | none => .bad .badEscape (4 - size)
      | some n => l.endHex n high
  | .afterHigh high =>
    if c = '\\' then .more { l with part := .afterHighEscape high }
    else .bad .unfinishedSurrogate 1
  | .afterHighEscape high =>
    if c = 'u' then .more { l with part := .hex 0 (some 0) (some high) }
    else .bad .unfinishedSurrogate 1

end Literal

/-! ## The machine -/

/-- An open list or object, what it holds so far last first. -/
inductive Frame where
  | list (rev : List Json)
  | object (rev : List (String × Json)) (key : String)

inductive Scan where
  | value
  | firstItem
  | item
  | firstKey
  | key
  | colon
  | afterItem
  | afterField
  | done (v : Json)
  | word (rest : List Char) (v : Json)
  | literal (l : Literal)
  | number (n : Numeral)

structure Machine where
  stack : List Frame := []
  scan : Scan := .value

/-- A defect, and how many bytes of the character that shows it count as read. -/
structure Refusal where
  defect : Defect
  bytes : Nat := 1

namespace Machine

def isSpace (c : Char) : Bool := c = ' ' || c = '\n' || c = '\t' || c = '\r'

/-- A value is complete: it goes into the innermost open list or object. -/
def deliver (v : Json) : List Frame → Machine
  | [] => ⟨[], .done v⟩
  | .list rev :: rest => ⟨.list (v :: rev) :: rest, .afterItem⟩
  | .object rev key :: rest => ⟨.object ((key, v) :: rev) key :: rest, .afterField⟩

def close : List Frame → Machine
  | [] => {}
  | .list rev :: rest => deliver (.list rev.reverse) rest
  | .object rev _ :: rest => deliver (.object rev.reverse) rest

def setKey (key : String) : List Frame → List Frame
  | .object rev _ :: rest => .object rev key :: rest
  | stack => stack

def openFrame (m : Machine) (frame : Frame) (scan : Scan) : Except Refusal Machine :=
  if m.stack.length + 1 < depthLimit then .ok ⟨frame :: m.stack, scan⟩
  else .error { defect := .tooDeep }

def startValue (m : Machine) (c : Char) : Except Refusal Machine :=
  match c with
  | 'n' => .ok { m with scan := .word ['u', 'l', 'l'] .null }
  | 't' => .ok { m with scan := .word ['r', 'u', 'e'] (.bool true) }
  | 'f' => .ok { m with scan := .word ['a', 'l', 's', 'e'] (.bool false) }
  | '"' => .ok { m with scan := .literal { isKey := false } }
  | '[' => m.openFrame (.list []) .firstItem
  | '\x7b' => m.openFrame (.object [] "") .firstKey
  | '-' => .ok { m with scan := .number { part := .sign, negative := true } }
  | '0' => .ok { m with scan := .number { part := .zero } }
  | c =>
    if Numeral.isDigit c then
      .ok { m with scan := .number ({ part := .digits : Numeral }.addDigit c) }
    else .error { defect := .expectedValue }

def startKey (m : Machine) (c : Char) : Except Refusal Machine :=
  if c = '"' then .ok { m with scan := .literal { isKey := true } }
  else .error { defect := .keyNotString }

/-- A character between two tokens. -/
def betweenTokens (m : Machine) (c : Char) : Except Refusal Machine :=
  if isSpace c then .ok m
  else
    match m.scan with
    | .firstItem => if c = ']' then .ok (close m.stack) else m.startValue c
    | .item => if c = ']' then .error { defect := .trailingComma } else m.startValue c
    | .firstKey => if c = '\x7d' then .ok (close m.stack) else m.startKey c
    | .key => if c = '\x7d' then .error { defect := .trailingComma } else m.startKey c
    | .colon =>
      if c = ':' then .ok { m with scan := .value } else .error { defect := .expectedColon }
    | .afterItem =>
      if c = ']' then .ok (close m.stack)
      else if c = ',' then .ok { m with scan := .item }
      else .error { defect := .expectedListEnd }
    | .afterField =>
      if c = '\x7d' then .ok (close m.stack)
      else if c = ',' then .ok { m with scan := .key }
      else .error { defect := .expectedObjectEnd }
    | .done _ => .error { defect := .trailingText }
    | _ => m.startValue c

def step (m : Machine) (c : Char) : Except Refusal Machine :=
  match m.scan with
  | .word [] v => betweenTokens (deliver v m.stack) c
  | .word [last] v =>
    if c = last then .ok (deliver v m.stack) else .error { defect := .expectedWord }
  | .word (next :: rest) v =>
    if c = next then .ok { m with scan := .word rest v } else .error { defect := .expectedWord }
  | .literal l =>
    match l.advance c with
    | .more l => .ok { m with scan := .literal l }
    | .bad defect bytes => .error { defect, bytes }
    | .ended =>
      let text := String.ofList l.rev.reverse
      if l.isKey then .ok ⟨setKey text m.stack, .colon⟩
      else .ok (deliver (.string text) m.stack)
  | .number n =>
    match n.advance c with
    | .more n => .ok { m with scan := .number n }
    | .bad defect => .error { defect }
    | .ended =>
      if n.tooLarge then .error { defect := .numberTooLarge, bytes := 0 }
      else betweenTokens (deliver n.value m.stack) c
  | _ => m.betweenTokens c

/-- The text is over. -/
def finish (m : Machine) : Except Defect Json :=
  match m.scan with
  | .done v => .ok v
  | .firstItem | .afterItem => .error .endInList
  | .firstKey | .colon | .afterField => .error .endInObject
  | .literal _ => .error .endInString
  | .number n =>
    if !n.complete then .error .endInValue
    else if n.tooLarge then .error .numberTooLarge
    else
      match m.stack with
      | [] => .ok n.value
      | .list _ :: _ => .error .endInList
      | .object _ _ :: _ => .error .endInObject
  | _ => .error .endInValue

/-- The final state, or the defect and the number of bytes read when it showed. -/
def run (m : Machine) (bytes : Nat) : List Char → Except (Defect × Nat) Json
  | [] => m.finish.mapError fun defect => (defect, bytes)
  | c :: cs =>
    match m.step c with
    | .ok m => run m (bytes + c.utf8Size) cs
    | .error refusal => .error (refusal.defect, bytes + refusal.bytes)

end Machine

/-- Line and column after so many bytes of a text, the first line being 1. -/
def locate (bytes line column : Nat) : List Char → Nat × Nat
  | [] => (line, column)
  | c :: cs =>
    if bytes = 0 then (line, column)
    else if c = '\n' then locate (bytes - 1) (line + 1) 0 cs
    else locate (bytes - c.utf8Size) line (column + min bytes c.utf8Size) cs

structure ReadError where
  defect : Defect
  line : Nat
  column : Nat
  deriving DecidableEq, Repr

def ReadError.message (e : ReadError) : String :=
  e.defect.message ++ " at line " ++ toString e.line ++ " column " ++ toString e.column

def read (text : String) : Except ReadError Json :=
  match Machine.run {} 0 text.toList with
  | .ok v => .ok v
  | .error (defect, bytes) =>
    let (line, column) := locate bytes 1 0 text.toList
    .error { defect, line, column }

end BuildAtlas.Json
