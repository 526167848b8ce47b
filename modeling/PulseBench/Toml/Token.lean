import PulseBench.Text.HexDigit

/-!
# Tokens of a settings file

Settings are written in TOML. A machine goes over the text once, character by character, and cuts it
into tokens. It knows nothing of keys and values: a `word` is whatever stands outside of quotes, be
it a key, a number or a date. Blanks and comments are dropped, ends of lines are kept.
-/

namespace PulseBench.Toml

inductive Token where
  | openBracket
  | closeBracket
  /-- Two brackets without anything between them. -/
  | openPair
  | closePair
  | openBrace
  | closeBrace
  | equals
  | comma
  | newline
  | word (chars : List Char)
  | quoted (text : String) (multiline : Bool)
deriving DecidableEq

/-! ## Strings -/

/-- Where the machine stands inside an escape sequence. -/
inductive Escape where
  /-- Plain characters. -/
  | none
  /-- Behind a backslash. -/
  | started
  /-- Inside of a code of hexadecimal digits: digits to come, and the value of those before. -/
  | code (left value : Nat)
  /-- Inside of a gap, which joins two lines; whether the end of the line was seen. -/
  | gap (ended : Bool)
deriving DecidableEq

/-- A string that is not closed yet. -/
structure OpenString where
  /-- A double quote, or a single one for a string without escape sequences. -/
  quote : Char
  multiline : Bool
  /-- Characters so far, last first. -/
  chars : List Char
  escape : Escape
  /-- Quotes at the end, which may turn out to close a string over many lines. -/
  closing : Nat
  /-- A newline would be the first character; it is dropped. -/
  fresh : Bool

namespace OpenString

/-- The string behind its opening quotes. -/
def start (quote : Char) (multiline : Bool) : OpenString :=
  ⟨quote, multiline, [], .none, 0, multiline⟩

/-- The finished string with some of the quotes at its end. -/
def finish (s : OpenString) (quotes : Nat) : Token :=
  .quoted (String.ofList (List.replicate quotes s.quote ++ s.chars).reverse) s.multiline

/-- Control characters except the tabulator have to be escaped. -/
def isPlain (c : Char) : Bool := c == '\t' || decide (0x20 ≤ c.toNat) && c != '\x7f'

def isBlank (c : Char) : Bool := c == ' ' || c == '\t'

/-- The character of a short escape sequence. -/
def shortEscape? : Char → Option Char
  | '"' => some '"'
  | '\\' => some '\\'
  | 'b' => some '\x08'
  | 'f' => some '\x0c'
  | 'n' => some '\n'
  | 'r' => some '\r'
  | 't' => some '\t'
  | _ => none

/-- The character with a code; surrogates are none. -/
def ofCode? (code : Nat) : Option Char :=
  if h : code.isValidChar then some (Char.ofNatAux code h) else none

/-- Behind a backslash. -/
def afterBackslash (s : OpenString) (c : Char) : Option OpenString :=
  if c == 'u' then some { s with escape := .code 4 0 }
  else if c == 'U' then some { s with escape := .code 8 0 }
  else if s.multiline && (isBlank c || c == '\n') then some { s with escape := .gap (c == '\n') }
  else (shortEscape? c).map fun d => { s with chars := d :: s.chars, escape := .none }

/-- A digit of a code. -/
def codeDigit (s : OpenString) (left value : Nat) (c : Char) : Option OpenString := do
  let d ← Text.hexDigit? c
  let value := 16 * value + d
  if left ≤ 1 then
    return { s with chars := (← ofCode? value) :: s.chars, escape := .none }
  else return { s with escape := .code (left - 1) value }

/-- A plain character, which may begin an escape sequence. -/
def plain (s : OpenString) (c : Char) : Option OpenString :=
  if c == '\\' && s.quote == '"' then some { s with escape := .started, fresh := false }
  else if c == '\n' then
    if s.multiline then
      some { s with chars := if s.fresh then s.chars else c :: s.chars, fresh := false }
    else none
  else if isPlain c then some { s with chars := c :: s.chars, fresh := false }
  else none

/-- One character of a string that does not close it. -/
def step (s : OpenString) (c : Char) : Option OpenString :=
  match s.escape with
  | .none => s.plain c
  | .started => s.afterBackslash c
  | .code left value => s.codeDigit left value c
  | .gap ended =>
      if isBlank c then some s
      else if c == '\n' then some { s with escape := .gap true }
      else if ended then { s with escape := .none }.plain c
      else none

/-- Whether a quote would close the string, or be counted among those that may. -/
def takesQuotes (s : OpenString) : Bool :=
  match s.escape with
  | .none => true
  | .gap ended => ended
  | _ => false

/-- The string with the quotes at its end taken for characters. -/
def settled (s : OpenString) : OpenString :=
  { s with chars := List.replicate s.closing s.quote ++ s.chars, closing := 0 }

end OpenString

/-! ## The machine -/

/-- Where the machine stands. Characters are kept last first. -/
inductive LexMode where
  | between
  /-- Behind a bracket, which may be the first of two. -/
  | bracket (c : Char)
  | word (chars : List Char)
  /-- Behind a date and one blank, with the time of day perhaps to come. -/
  | dateGap (chars : List Char)
  | comment
  /-- Behind one or two quotes that begin a string. -/
  | quotes (quote : Char) (two : Bool)
  | string (s : OpenString)

structure Lexer where
  mode : LexMode
  /-- Tokens, last first. -/
  tokens : List Token

namespace Lexer

def isWordChar (c : Char) : Bool :=
  c.isAlphanum || c == '-' || c == '_' || c == '+' || c == '.' || c == ':'

/-- Whether a word, given last first, has the form of a date. -/
def looksLikeDate (chars : List Char) : Bool :=
  match chars with
  | [d₂, d₁, '-', m₂, m₁, '-', y₄, y₃, y₂, y₁] =>
      [y₁, y₂, y₃, y₄, m₁, m₂, d₁, d₂].all Char.isDigit
  | _ => false

def single (bracket : Char) : Token := if bracket == '[' then .openBracket else .closeBracket

def double (bracket : Char) : Token := if bracket == '[' then .openPair else .closePair

/-- One character between tokens. -/
def betweenTokens (tokens : List Token) (c : Char) : Option Lexer :=
  match c with
  | '[' | ']' => some ⟨.bracket c, tokens⟩
  | '\x7b' => some ⟨.between, .openBrace :: tokens⟩
  | '\x7d' => some ⟨.between, .closeBrace :: tokens⟩
  | '=' => some ⟨.between, .equals :: tokens⟩
  | ',' => some ⟨.between, .comma :: tokens⟩
  | '\n' => some ⟨.between, .newline :: tokens⟩
  | '#' => some ⟨.comment, tokens⟩
  | '"' | '\'' => some ⟨.quotes c false, tokens⟩
  | c =>
      if OpenString.isBlank c then some ⟨.between, tokens⟩
      else if isWordChar c then some ⟨.word [c], tokens⟩
      else none

/-- The token of a word, given last first. -/
def ofWord (chars : List Char) : Token := .word chars.reverse

/-- One character of a word. -/
def inWord (tokens : List Token) (chars : List Char) (c : Char) : Option Lexer :=
  if isWordChar c then some ⟨.word (c :: chars), tokens⟩
  else if c == ' ' && looksLikeDate chars then some ⟨.dateGap chars, tokens⟩
  else betweenTokens (ofWord chars :: tokens) c

/-- One character of a string. At most two quotes stand before the closing ones. -/
def inString (tokens : List Token) (s : OpenString) (c : Char) : Option Lexer :=
  if c == s.quote && s.takesQuotes then
    if !s.multiline then some ⟨.between, s.finish 0 :: tokens⟩
    else if s.closing = 4 then some ⟨.between, s.finish 2 :: tokens⟩
    else
      some ⟨.string { s with escape := .none, closing := s.closing + 1, fresh := false }, tokens⟩
  else if 3 ≤ s.closing then betweenTokens (s.finish (s.closing - 3) :: tokens) c
  else (s.settled.step c).map fun s => ⟨.string s, tokens⟩

/-- One character. -/
def step (l : Lexer) (c : Char) : Option Lexer :=
  match l.mode with
  | .between => betweenTokens l.tokens c
  | .bracket b =>
      if c == b then some ⟨.between, double b :: l.tokens⟩
      else betweenTokens (single b :: l.tokens) c
  | .word chars => inWord l.tokens chars c
  | .dateGap chars =>
      if c.isDigit then some { l with mode := .word (c :: ' ' :: chars) }
      else betweenTokens (ofWord chars :: l.tokens) c
  | .comment =>
      if c == '\n' then betweenTokens l.tokens c
      else if OpenString.isPlain c then some l
      else none
  | .quotes quote false =>
      if c == quote then some { l with mode := .quotes quote true }
      else inString l.tokens (.start quote false) c
  | .quotes quote true =>
      if c == quote then some { l with mode := .string (.start quote true) }
      else betweenTokens ((OpenString.start quote false).finish 0 :: l.tokens) c
  | .string s => inString l.tokens s c

end Lexer

/-- The text with every pair of carriage return and newline made a newline. -/
def unixLines : List Char → List Char
  | '\r' :: '\n' :: rest => '\n' :: unixLines rest
  | c :: rest => c :: unixLines rest
  | [] => []

/-- The text without the mark that may stand at its beginning. -/
def withoutMark : List Char → List Char
  | '\uFEFF' :: rest => rest
  | text => text

/-- The tokens of a text; the last one is an end of line. -/
def tokens? (text : String) : Option (List Token) := do
  let chars := unixLines (withoutMark text.toList) ++ ['\n']
  let l ← chars.foldlM Lexer.step (⟨.between, []⟩ : Lexer)
  match l.mode with
  | .between => return l.tokens.reverse
  | _ => none

end PulseBench.Toml
