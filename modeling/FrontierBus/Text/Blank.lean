/-!
# Blank characters

The characters that settings and keys may be padded with: those with the property White_Space.
Padding is removed at both ends only; a blank inside a text is kept.
-/

namespace FrontierBus.Text

/-- The character has the property White_Space. -/
def isBlank (character : Char) : Bool :=
  let code := character.toNat
  (9 ≤ code && code ≤ 13) || code == 0x20 || code == 0x85 || code == 0xA0 || code == 0x1680 ||
    (0x2000 ≤ code && code ≤ 0x200A) || code == 0x2028 || code == 0x2029 || code == 0x202F ||
    code == 0x205F || code == 0x3000

/-- What is left after the characters that satisfy `drop` are taken off both ends. -/
def strip (drop : Char → Bool) (characters : List Char) : List Char :=
  (((characters.dropWhile drop).reverse).dropWhile drop).reverse

/-- The text without the blanks at its ends. -/
def trim (text : String) : String :=
  String.ofList (strip isBlank text.toList)

/-- The text holds nothing but blanks. -/
def allBlank (text : String) : Bool :=
  text.toList.all isBlank

/-- ASCII letters become lower case; every other character stays. -/
def lowerAscii (text : String) : String :=
  String.ofList (text.toList.map Char.toLower)

/-- The pieces of a list between the separators, the empty ones included. -/
def splitAt (separator : Char) : List Char → List (List Char)
  | [] => [[]]
  | character :: rest =>
    if character = separator then [] :: splitAt separator rest
    else match splitAt separator rest with
      | [] => [[character]]
      | piece :: pieces => (character :: piece) :: pieces

end FrontierBus.Text
