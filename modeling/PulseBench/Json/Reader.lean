import PulseBench.Json.Number
import PulseBench.Text.HexDigit

/-!
# Reading JSON text

Text is read in two passes, each a machine that goes over its input once. The first cuts the text
into tokens, character by character. The second builds the value, token by token, on a stack of the
arrays and objects that are still open.

`ofText?` reads well-formed text in which parts may stand for nothing; `ofReadableText?` asks for
more: every part has a value, and arrays and objects are nested at most 127 deep.
-/

namespace PulseBench.Json

variable {α : Type}

/-! ## Tokens -/

inductive Token (α : Type) where
  | openArray
  | closeArray
  | openObject
  | closeObject
  | comma
  | colon
  /-- A string; none if it stands for no text. -/
  | text (s : Option String)
  /-- Any other value that is no array or object. -/
  | value (j : Json α)

/-- A part of a string: a character, or a code of four hexadecimal digits. -/
inductive TextUnit where
  | char (c : Char)
  | code (n : Nat)

/-- What the parts behind a place in a string stand for: their characters, perhaps with the second
half of a character in front, whose first half has to come before. -/
structure Decoded where
  chars : List Char
  half : Option Nat

/-- One part more, in front of the others. -/
def Decoded.cons? (d : Decoded) (u : TextUnit) : Option Decoded :=
  match u, d.half with
  | .char c, none => some ⟨c :: d.chars, none⟩
  | .char _, some _ => none
  | .code n, none =>
      if 0xDC00 ≤ n ∧ n ≤ 0xDFFF then some ⟨d.chars, some n⟩
      else if 0xD800 ≤ n ∧ n ≤ 0xDBFF then none
      else some ⟨Char.ofNat n :: d.chars, none⟩
  | .code n, some low =>
      if 0xD800 ≤ n ∧ n ≤ 0xDBFF then
        some ⟨Char.ofNat (0x10000 + (n - 0xD800) * 0x400 + (low - 0xDC00)) :: d.chars, none⟩
      else none

/-- The text of the parts of a string, last first; none if half a character stands alone. -/
def textOf? (units : List TextUnit) : Option String := do
  let ⟨chars, none⟩ ← units.foldlM Decoded.cons? ⟨[], none⟩ | none
  return String.ofList chars

/-- Where the first machine stands inside a string. -/
inductive Escape where
  /-- Plain characters. -/
  | none
  /-- Behind a backslash. -/
  | started
  /-- Inside of a code: digits read, and their value. -/
  | code (digits value : Nat)

/-- Where the first machine stands. Characters and tokens are kept last first. -/
inductive LexMode where
  | between
  | string (units : List TextUnit) (escape : Escape)
  | number (chars : List Char)
  | word (chars : List Char)

structure Lexer (α : Type) where
  mode : LexMode
  tokens : List (Token α)

namespace Lexer

def isBlank (c : Char) : Bool := c == ' ' || c == '\n' || c == '\t' || c == '\r'

def isNumberChar (c : Char) : Bool :=
  c.isDigit || c == '-' || c == '+' || c == '.' || c == 'e' || c == 'E'

/-- The character of a short escape. -/
def shortEscape? : Char → Option Char
  | '"' => some '"'
  | '\\' => some '\\'
  | '/' => some '/'
  | 'b' => some '\x08'
  | 'f' => some '\x0c'
  | 'n' => some '\n'
  | 'r' => some '\r'
  | 't' => some '\t'
  | _ => none

/-- One character of a string. -/
def inString (l : Lexer α) (units : List TextUnit) (escape : Escape) (c : Char) :
    Option (Lexer α) :=
  let goTo (units : List TextUnit) (escape : Escape) : Lexer α :=
    { l with mode := .string units escape }
  match escape with
  | .none =>
      if c == '"' then some ⟨.between, .text (textOf? units) :: l.tokens⟩
      else if c == '\\' then some (goTo units .started)
      else if c.toNat < 0x20 then none
      else some (goTo (.char c :: units) .none)
  | .started =>
      if c == 'u' then some (goTo units (.code 0 0))
      else (shortEscape? c).map fun d => goTo (.char d :: units) .none
  | .code digits value =>
      (Text.hexDigit? c).map fun d =>
        let value := 16 * value + d
        if digits = 3 then goTo (.code value :: units) .none
        else goTo units (.code (digits + 1) value)

/-- The value of a word. -/
def ofWord? (word : List Char) : Option (Json α) :=
  match String.ofList word with
  | "null" => some .null
  | "true" => some (.bool true)
  | "false" => some (.bool false)
  | _ => none

/-- One character between tokens. -/
def betweenTokens (l : Lexer α) (c : Char) : Option (Lexer α) :=
  let emit (t : Token α) : Option (Lexer α) := some ⟨.between, t :: l.tokens⟩
  match c with
  | '[' => emit .openArray
  | ']' => emit .closeArray
  | '\x7b' => emit .openObject
  | '\x7d' => emit .closeObject
  | ',' => emit .comma
  | ':' => emit .colon
  | '"' => some ⟨.string [] .none, l.tokens⟩
  | c =>
      if isBlank c then some l
      else if c.isDigit || c == '-' then some ⟨.number [c], l.tokens⟩
      else if c.isAlpha then some ⟨.word [c], l.tokens⟩
      else none

variable [Scalar α]

/-- Ends a number or a word. -/
def close? (l : Lexer α) : Option (Lexer α) :=
  match l.mode with
  | .between => some l
  | .string _ _ => none
  | .number chars =>
      (NumberText.ofChars? chars.reverse).map fun n => ⟨.between, .value n.value :: l.tokens⟩
  | .word chars => (ofWord? chars.reverse).map fun j => ⟨.between, .value j :: l.tokens⟩

/-- One character. -/
def step (l : Lexer α) (c : Char) : Option (Lexer α) :=
  match l.mode with
  | .between => l.betweenTokens c
  | .string units escape => l.inString units escape c
  | .number chars =>
      if isNumberChar c then some { l with mode := .number (c :: chars) }
      else do (← l.close?).betweenTokens c
  | .word chars =>
      if c.isAlpha then some { l with mode := .word (c :: chars) }
      else do (← l.close?).betweenTokens c

end Lexer

/-- The tokens of a text. -/
def tokens? [Scalar α] (text : String) : Option (List (Token α)) := do
  let l ← text.toList.foldlM Lexer.step (⟨.between, []⟩ : Lexer α)
  return (← l.close?).tokens.reverse

/-! ## Values -/

/-- An array or object that is still open, its items last first. The name of a field may stand for
no text. -/
inductive Frame (α : Type) where
  | array (items : List (Json α))
  | object (fields : List (Option String × Json α))
  /-- An object behind a field name. -/
  | field (fields : List (Option String × Json α)) (name : Option String)

/-- A field whose name stands for a text. -/
def named? (field : Option String × Json α) : Option (String × Json α) :=
  field.1.map (·, field.2)

/-- The value of an object, its fields last first. It has none if a name stands for no text. -/
def ofFields (fields : List (Option String × Json α)) : Json α :=
  (fields.reverse.mapM named?).elim .unreadable .object

/-- What may come next. -/
inductive Expected where
  | value
  /-- The first item of an array, or its end. -/
  | firstItem
  /-- The first field of an object, or its end. -/
  | firstField
  | fieldName
  | colon
  /-- A comma, or the end of what is open. -/
  | separator
  /-- Nothing. -/
  | nothing
deriving DecidableEq

structure Builder (α : Type) where
  frames : List (Frame α)
  expected : Expected
  result : Option (Json α)

namespace Builder

/-- Puts a finished value where it belongs. -/
def place (b : Builder α) (j : Json α) : Option (Builder α) :=
  match b.frames with
  | [] => some ⟨[], .nothing, some j⟩
  | .array items :: rest => some ⟨.array (j :: items) :: rest, .separator, none⟩
  | .field fields name :: rest => some ⟨.object ((name, j) :: fields) :: rest, .separator, none⟩
  | .object _ :: _ => none

/-- Opens an array or an object. -/
def openFrame (b : Builder α) (frame : Frame α) (expected : Expected) : Builder α :=
  ⟨frame :: b.frames, expected, none⟩

/-- Whether a value may come next. -/
def expectsValue (b : Builder α) : Bool := b.expected == .value || b.expected == .firstItem

/-- One token. -/
def step (b : Builder α) (t : Token α) : Option (Builder α) :=
  match t with
  | .value j => if b.expectsValue then b.place j else none
  | .text s =>
      match b.expected, b.frames with
      | .firstField, .object fields :: rest | .fieldName, .object fields :: rest =>
          some ⟨.field fields s :: rest, .colon, none⟩
      | _, _ => if b.expectsValue then b.place (s.elim .unreadable .text) else none
  | .openArray => if b.expectsValue then some (b.openFrame (.array []) .firstItem) else none
  | .openObject => if b.expectsValue then some (b.openFrame (.object []) .firstField) else none
  | .closeArray =>
      match b.expected, b.frames with
      | .firstItem, .array items :: rest | .separator, .array items :: rest =>
          place ⟨rest, .value, none⟩ (.array items.reverse)
      | _, _ => none
  | .closeObject =>
      match b.expected, b.frames with
      | .firstField, .object fields :: rest | .separator, .object fields :: rest =>
          place ⟨rest, .value, none⟩ (ofFields fields)
      | _, _ => none
  | .comma =>
      match b.expected, b.frames with
      | .separator, .array items :: rest => some ⟨.array items :: rest, .value, none⟩
      | .separator, .object fields :: rest => some ⟨.object fields :: rest, .fieldName, none⟩
      | _, _ => none
  | .colon => if b.expected == .colon then some { b with expected := .value } else none

end Builder

/-- The value that tokens build. -/
def ofTokens? (tokens : List (Token α)) : Option (Json α) := do
  let b ← tokens.foldlM Builder.step (⟨[], .value, none⟩ : Builder α)
  b.result

/-! ## Texts -/

/-- The value of a text, parts of which may stand for nothing. -/
def ofText? [Scalar α] (text : String) : Option (Json α) := do
  ofTokens? (← tokens? text)

/-- Whether a token stands for something. -/
def Token.isReadable : Token α → Bool
  | .text none | .value .unreadable => false
  | _ => true

/-- Arrays and objects open at once, and the most that were. -/
structure Nesting where
  now : Nat
  most : Nat

def Nesting.step (n : Nesting) : Token α → Nesting
  | .openArray | .openObject => ⟨n.now + 1, max n.most (n.now + 1)⟩
  | .closeArray | .closeObject => { n with now := n.now - 1 }
  | _ => n

/-- How deep arrays and objects may be nested. -/
def maxDepth : Nat := 127

/-- The value of a text every part of which has one. -/
def ofReadableText? [Scalar α] (text : String) : Option (Json α) := do
  let tokens ← tokens? text
  let nesting : Nesting := tokens.foldl Nesting.step ⟨0, 0⟩
  if tokens.all Token.isReadable && nesting.most ≤ maxDepth then ofTokens? tokens else none

end PulseBench.Json
