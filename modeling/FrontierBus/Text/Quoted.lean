import FrontierBus.Text.Span
import FrontierBus.Text.QuotedRows

/-!
# Quoted text

A text between double quotes in which nothing is hidden from the reader: quotes and backslashes
are escaped, and so is every character that shows nothing of its own or would merge with the one
before.
-/

namespace FrontierBus.Text.Quoted

/-- The characters that show nothing of their own. -/
def invisible : Array (Span Unit) :=
  Span.sorted (Span.ofRows () invisibleRows)

/-- The marks that extend the character before them. -/
def extending : Array (Span Unit) :=
  Span.sorted (Span.ofRows () extendingRows)

/-- A character by its number in hexadecimal. -/
def numbered (character : Char) : List Char :=
  ['\\', 'u', '\x7b'] ++ Nat.toDigits 16 character.toNat ++ ['\x7d']

/-- A character as it stands between the quotes. -/
def encodeChar (character : Char) : List Char :=
  if character = '\x00' then ['\\', '0']
  else if character = '\t' then ['\\', 't']
  else if character = '\r' then ['\\', 'r']
  else if character = '\n' then ['\\', 'n']
  else if character = '\\' || character = '"' then ['\\', character]
  else if 0x20 ≤ character.toNat && character.toNat < 0x7F then [character]
  else if (Span.search extending character).isSome || (Span.search invisible character).isSome then
    numbered character
  else [character]

/-- The quoted form of a text. -/
def encode (text : String) : String :=
  String.ofList (['"'] ++ text.toList.flatMap encodeChar ++ ['"'])

end FrontierBus.Text.Quoted
