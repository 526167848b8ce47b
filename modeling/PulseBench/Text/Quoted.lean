import PulseBench.Text.Unprintable

/-!
# Quoted names and lists of names

Messages show names that may hold any character in double quotes: a quote and a backslash are
escaped, the common control characters have short forms, and every other character that cannot be
seen is given by its code point.
-/

namespace PulseBench.Text

/-- The code point of a character in hexadecimal, in braces. -/
def codePoint (c : Char) : String :=
  "\\u\x7b" ++ String.ofList (Nat.toDigits 16 c.toNat) ++ "\x7d"

/-- One character inside of quotes. -/
def escaped (c : Char) : String :=
  match c with
  | '"' => "\\\""
  | '\\' => "\\\\"
  | '\n' => "\\n"
  | '\r' => "\\r"
  | '\t' => "\\t"
  | '\x00' => "\\0"
  | c => if isUnprintable c then codePoint c else String.singleton c

/-- A name in double quotes. -/
def quoted (name : String) : String :=
  "\"" ++ String.join (name.toList.map escaped) ++ "\""

/-- Items with a comma and a blank between them. -/
def commaSeparated (items : List String) : String := ", ".intercalate items

/-- A list of quoted names in square brackets. -/
def quotedList (names : List String) : String :=
  "[" ++ commaSeparated (names.map quoted) ++ "]"

/-- A set of quoted names in braces. -/
def quotedSet (names : List String) : String :=
  "\x7b" ++ commaSeparated (names.map quoted) ++ "\x7d"

end PulseBench.Text
