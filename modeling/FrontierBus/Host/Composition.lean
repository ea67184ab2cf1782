import FrontierBus.Text.Span
import FrontierBus.Host.CompositionRows

/-!
# Canonical composition

A letter and its marks are written as one character where there is one: the text is taken apart
into letters and marks, the marks on a letter are put into the order of their classes, and then
letters take up the marks that they have a composite with. Korean syllables are composed by
arithmetic.
-/

namespace FrontierBus.Host.Composition

open FrontierBus.Text

/-- The composites, by code point, with the pair that each is made of. -/
def composites : Array (Span (Nat × Nat)) :=
  Span.sorted <| (Span.entries compositeRows).filterMap fun
    | [composite, first, second] => some ⟨composite, composite, (first, second)⟩
    | _ => none

/-- One number for a pair of code points. -/
def pairKey (first second : Nat) : Nat :=
  first * 0x110000 + second

/-- The composites, by the key of their pair. -/
def pairs : Array (Span Nat) :=
  Span.sorted <| (Span.entries compositeRows).filterMap fun
    | [composite, first, second] =>
      let key := pairKey first second
      some ⟨key, key, composite⟩
    | _ => none

/-- The combining classes that are not zero. -/
def classes : Array (Span Nat) :=
  Span.sorted <| (Span.entries classRows).filterMap fun
    | [first, last, value] => some ⟨first, last, value⟩
    | _ => none

/-- The combining class of a character, zero for letters and all else that opens a new unit. -/
def combiningClass (character : Char) : Nat :=
  ((Span.search classes character).map Span.value).getD 0

/-- The letters of a Korean syllable: its place among all syllables counts the middle letters in
units of the 28 endings and the first letters in units of the 21 middle letters. -/
def syllableParts (code : Nat) : Option (List Nat) :=
  if 0xAC00 ≤ code ∧ code < 0xAC00 + 11172 then
    let place := code - 0xAC00
    let opening := [0x1100 + place / 588, 0x1161 + place % 588 / 28]
    some (if place % 28 = 0 then opening else opening ++ [0x11A7 + place % 28])
  else none

/-- The parts of a character, taken apart at most `depth` times. -/
def parts : (depth : Nat) → Char → List Char
  | 0, character => [character]
  | depth + 1, character =>
    match syllableParts character.toNat with
    | some codes => codes.map Char.ofNat
    | none => match Span.search composites character with
      | none => [character]
      | some span => parts depth (Char.ofNat span.value.1) ++ [Char.ofNat span.value.2]

/-- The text taken apart. No composite is nested deeper than four. -/
def decompose (text : List Char) : List Char :=
  text.flatMap (parts 4)

/-- Puts a mark behind the marks of its class and of lower classes. -/
def insertMark (mark : Char) : List Char → List Char
  | [] => [mark]
  | other :: rest =>
    if combiningClass other ≤ combiningClass mark then other :: insertMark mark rest
    else mark :: other :: rest

/-- The text with the marks behind each letter in the order of their classes; `marks` are those
read since the last letter. -/
def reorder (marks : List Char) : List Char → List Char
  | [] => marks
  | character :: rest =>
    if combiningClass character = 0 then marks ++ character :: reorder [] rest
    else reorder (insertMark character marks) rest

/-- The syllable that two Korean letters, or a syllable and an ending, make. -/
def syllable (first second : Nat) : Option Nat :=
  if 0x1100 ≤ first ∧ first < 0x1113 ∧ 0x1161 ≤ second ∧ second < 0x1176 then
    some (0xAC00 + ((first - 0x1100) * 21 + (second - 0x1161)) * 28)
  else if 0xAC00 ≤ first ∧ first < 0xAC00 + 11172 ∧ (first - 0xAC00) % 28 = 0 ∧
      0x11A7 < second ∧ second < 0x11C3 then
    some (first + (second - 0x11A7))
  else none

/-- The composite of two characters. -/
def composite (first second : Char) : Option Char :=
  match syllable first.toNat second.toNat with
  | some code => some (Char.ofNat code)
  | none =>
    let key := pairKey first.toNat second.toNat
    (Span.searchBetween pairs key 0 pairs.size).map fun span => Char.ofNat span.value

/-- Composes behind a letter: `marks`, newest first, are those that the letter did not take up.
A mark is taken up only if all marks before it have a lower class. -/
def composeBehind (letter : Char) (marks : List Char) : List Char → List Char
  | [] => letter :: marks.reverse
  | character :: rest =>
    let reachable := match marks with
      | [] => true
      | mark :: _ => combiningClass mark < combiningClass character
    match if reachable then composite letter character else none with
    | some whole => composeBehind whole marks rest
    | none =>
      if combiningClass character = 0 then
        letter :: marks.reverse ++ composeBehind character [] rest
      else composeBehind letter (character :: marks) rest

/-- The composed form of a text in which the marks are in order. -/
def compose : List Char → List Char
  | [] => []
  | character :: rest =>
    if combiningClass character = 0 then composeBehind character [] rest
    else character :: compose rest

/-- The canonical composed form of a text. -/
def normalize (text : List Char) : List Char :=
  compose (reorder [] (decompose text))

end FrontierBus.Host.Composition
