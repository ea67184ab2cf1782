import FrontierBus.Text.Blank

/-!
# Addresses of four octets

A host whose last part is a number is an address: one to four numbers, in decimal, octal or
hexadecimal, of which all but the last stand for an octet each and the last for the octets left.
-/

namespace FrontierBus.Host.Ipv4

/-- The value of a figure in the bases up to sixteen. -/
def figureValue (character : Char) : Option Nat :=
  if character.isDigit then some (character.toNat - '0'.toNat)
  else if 'a' ≤ character ∧ character ≤ 'f' then some (character.toNat - 'a'.toNat + 10)
  else if 'A' ≤ character ∧ character ≤ 'F' then some (character.toNat - 'A'.toNat + 10)
  else none

/-- The number that figures spell in a base. -/
def number? (base : Nat) (figures : List Char) : Option Nat :=
  figures.foldlM (fun value character => do
    let figure ← figureValue character
    if figure < base then some (base * value + figure) else none) 0

/-- A part of an address: behind `0x` hexadecimal, behind `0` octal, else decimal. A base without
figures stands for zero. -/
def part? (text : List Char) : Option Nat :=
  match text with
  | [] => none
  | '0' :: 'x' :: figures | '0' :: 'X' :: figures => number? 16 figures
  | '0' :: figure :: figures => number? 8 (figure :: figures)
  | figures => number? 10 figures

/-- The parts of a host, without an empty one behind a final dot. -/
def parts (host : List Char) : List (List Char) :=
  let pieces := Text.splitAt '.' host
  if pieces.getLast? = some [] then pieces.dropLast else pieces

/-- The last part of the host is a number, so the host is an address or nothing. -/
def endsInNumber (host : List Char) : Bool :=
  match (parts host).getLast? with
  | none => false
  | some last => (!last.isEmpty && last.all Char.isDigit) || (part? last).isSome

/-- The address that a list of numbers stands for. -/
def combine (numbers : List Nat) : Option Nat :=
  match numbers.reverse with
  | [] => none
  | last :: octets =>
    if octets.length ≤ 3 ∧ octets.all (· ≤ 255) ∧ last < Nat.pow 256 (4 - octets.length) then
      some (octets.reverse.foldl (fun value octet => 256 * value + octet) 0 *
        Nat.pow 256 (4 - octets.length) + last)
    else none

/-- The address that a host in numbers stands for. -/
def parse? (host : List Char) : Option Nat := do
  combine (← (parts host).mapM part?)

/-- The decimal text of an address. -/
def text (address : Nat) : List Char :=
  let octet (place : Nat) := toString (address / Nat.pow 256 place % 256)
  (octet 3 ++ "." ++ octet 2 ++ "." ++ octet 1 ++ "." ++ octet 0).toList

end FrontierBus.Host.Ipv4
