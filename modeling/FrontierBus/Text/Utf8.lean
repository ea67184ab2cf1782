/-!
# Octets read as text

A sequence of octets is cut into pieces: well-formed characters, and longest runs that start like
a character and are then broken off. Reading with replacement gives U+FFFD for each such run;
reading strictly reports the first one, where it stands and how long it is, or that the octets end
inside a character.
-/

namespace FrontierBus.Text.Utf8

/-- What a leading octet asks for: how many octets follow it, and the bounds of the first of them.
The bounds rule out overlong forms, surrogates and numbers above U+10FFFF. -/
def continuation (lead : UInt8) : Option (Nat × UInt8 × UInt8) :=
  if 0xC2 ≤ lead ∧ lead ≤ 0xDF then some (1, 0x80, 0xBF)
  else if lead = 0xE0 then some (2, 0xA0, 0xBF)
  else if lead = 0xED then some (2, 0x80, 0x9F)
  else if 0xE1 ≤ lead ∧ lead ≤ 0xEF then some (2, 0x80, 0xBF)
  else if lead = 0xF0 then some (3, 0x90, 0xBF)
  else if 0xF1 ≤ lead ∧ lead ≤ 0xF3 then some (3, 0x80, 0xBF)
  else if lead = 0xF4 then some (3, 0x80, 0x8F)
  else none

/-- The octets, at most `owed` of them, that continue a character. -/
def takeTail : (owed : Nat) → (low high : UInt8) → List UInt8 → List UInt8
  | 0, _, _, _ => []
  | _ + 1, _, _, [] => []
  | owed + 1, low, high, octet :: rest =>
    if low ≤ octet ∧ octet ≤ high then octet :: takeTail owed 0x80 0xBF rest else []

/-- A cut of the octets. -/
inductive Piece where
  /-- A well-formed character. -/
  | scalar (character : Char)
  /-- Some octets that no text contains in this place; `truncated` if the octets end where
  the character would have gone on. -/
  | malformed (length : Nat) (truncated : Bool)
  deriving Repr, DecidableEq

/-- The number that the payload bits of a leading octet and its tail spell. -/
def scalarValue (lead : UInt8) (tail : List UInt8) : Nat :=
  let leadBits := match tail.length with
    | 1 => lead.toNat % 32
    | 2 => lead.toNat % 16
    | _ => lead.toNat % 8
  tail.foldl (fun value octet => 64 * value + octet.toNat % 64) leadBits

/-- The pieces of a sequence of octets, in order. -/
def pieces : List UInt8 → List Piece
  | [] => []
  | lead :: rest =>
    if lead < 0x80 then .scalar (Char.ofNat lead.toNat) :: pieces rest
    else match continuation lead with
      | none => .malformed 1 false :: pieces rest
      | some (owed, low, high) =>
        let tail := takeTail owed low high rest
        let piece :=
          if tail.length = owed then .scalar (Char.ofNat (scalarValue lead tail))
          else .malformed (tail.length + 1) (rest.drop tail.length).isEmpty
        piece :: pieces (rest.drop tail.length)
termination_by octets => octets.length
decreasing_by all_goals simp only [List.length_drop, List.length_cons]; omega

/-- The character that stands for a piece when text is read with replacement. -/
def Piece.replaced : Piece → Char
  | .scalar character => character
  | .malformed .. => '\uFFFD'

/-- The text of the octets, with U+FFFD for each malformed piece. -/
def lossy (octets : ByteArray) : String :=
  match String.fromUTF8? octets with
  | some text => text
  | none => String.ofList ((pieces octets.data.toList).map Piece.replaced)

/-- Why octets are no text: the first malformed piece and the octets before it. -/
structure Malformed where
  start : Nat
  length : Nat
  truncated : Bool
  deriving Repr, DecidableEq

/-- The first malformed piece, with `start` octets before the pieces. -/
def firstMalformed (start : Nat) : List Piece → Option Malformed
  | [] => none
  | .scalar character :: rest => firstMalformed (start + character.utf8Size) rest
  | .malformed length truncated :: _ => some ⟨start, length, truncated⟩

/-- The wording of the refusal. -/
def Malformed.message : Malformed → String
  | ⟨start, _, true⟩ => s!"incomplete utf-8 byte sequence from index {start}"
  | ⟨start, length, false⟩ => s!"invalid utf-8 sequence of {length} bytes from index {start}"

/-- The text of the octets, or why they are none. -/
def decode (octets : ByteArray) : Except Malformed String :=
  match String.fromUTF8? octets with
  | some text => .ok text
  | none =>
    match firstMalformed 0 (pieces octets.data.toList) with
    | some fault => .error fault
    | none => .ok (lossy octets)

end FrontierBus.Text.Utf8
