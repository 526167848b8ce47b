import PulseBench.Failure
import PulseBench.Text.DecimalDigit

/-!
# Channel names

A channel is called `a_ch<N>` if it is analog and `d_ch<N>` if it is digital, with a decimal number
of at most 64 bits. `Channel.ofName?` reads such a name and `Channel.name` writes it.

A name with digits of another script has the right form, but no number can be read from it.
-/

namespace PulseBench

inductive ChannelKind where
  | analog
  | digital
deriving DecidableEq, Repr

/-- A channel by kind and number. -/
structure Channel where
  kind : ChannelKind
  number : Nat
deriving DecidableEq, Repr

namespace ChannelKind

/-- What stands before the number. -/
def stem : ChannelKind → List Char
  | .analog => ['a', '_', 'c', 'h']
  | .digital => ['d', '_', 'c', 'h']

end ChannelKind

namespace Channel

/-- Largest channel number. -/
def maxNumber : Nat := Nat.pow 2 64 - 1

/-- The name of a channel. -/
def name (c : Channel) : String :=
  String.ofList (c.kind.stem ++ Nat.toDigits 10 c.number)

/-- The number that decimal digits denote. -/
def ofDigits (digits : List Char) : Nat :=
  digits.foldl (fun n c => 10 * n + (c.toNat - '0'.toNat)) 0

/-- The kind and the digits of a name of the right form, digits of any script. -/
def parts? (name : String) : Option (ChannelKind × List Char) :=
  let tail? : Option (ChannelKind × List Char) :=
    match name.toList with
    | 'a' :: '_' :: 'c' :: 'h' :: tail => some (.analog, tail)
    | 'd' :: '_' :: 'c' :: 'h' :: tail => some (.digital, tail)
    | _ => none
  tail?.filter fun (_, tail) => !tail.isEmpty && tail.all Text.isDecimalDigit

variable {α : Type}

/-- Reads a channel name. Digits are read from the left, so a number that is already too large is
reported before a digit of another script behind it. -/
def ofName (name : String) : Except (ProgramFault α) Channel :=
  match parts? name with
  | none => .error (.channelName name)
  | some (kind, digits) =>
      let readable := digits.takeWhile Char.isDigit
      if maxNumber < ofDigits readable then .error (.channelTooLarge name)
      else if readable.length < digits.length then .error (.channelDigits name)
      else .ok ⟨kind, ofDigits digits⟩

/-- The kind of the channel with this name, if it is a channel name. -/
def kindOf? (name : String) : Option ChannelKind :=
  match ofName (α := Unit) name with
  | .ok c => some c.kind
  | .error _ => none

def isAnalog (name : String) : Bool := kindOf? name == some .analog

def isDigital (name : String) : Bool := kindOf? name == some .digital

end Channel

end PulseBench
