import FrontierBus.Text.Blank
import FrontierBus.Host.Mapping
import FrontierBus.Host.Composition
import FrontierBus.Host.Direction
import FrontierBus.Host.Joining
import FrontierBus.Host.Punycode

/-!
# Domain names

A domain name is written in ASCII. A name of plain ASCII letters only becomes lower case; any
other name is first brought into its common spelling, then every label with characters beyond
ASCII is checked and written in Punycode behind `xn--`. A label that comes in written form is
read, checked by the same rules and kept.
-/

namespace FrontierBus.Host.Domain

/-- What announces a label in written form. -/
def announcement : List Char := ['x', 'n', '-', '-']

/-- The character has a code below 128. -/
def isAscii (character : Char) : Bool :=
  character.toNat < 128

/-- ASCII characters that no domain name contains: controls, the blank, and those that delimit the
parts of a locator. -/
def isForbidden (character : Char) : Bool :=
  character.toNat ≤ 0x20 || character.toNat == 0x7F ||
    ['%', '#', '/', ':', '<', '>', '?', '@', '[', '\\', ']', '^', '|'].contains character

/-- The longest label with characters beyond ASCII. -/
def longestShown : Nat := 1000

/-- The longest written form that is read, counted behind the announcement. -/
def longestWritten : Nat := 2000

/-- A label as it is shown to a reader and as it is written in ASCII. -/
structure Label where
  shown : List Char
  written : List Char

/-- The rules on a label with characters beyond ASCII: it is not too long, it opens with no mark,
and each joiner in it changes how it is written. -/
def isWellFormed (label : List Char) : Bool :=
  label.length ≤ longestShown &&
    (match label with
      | [] => true
      | character :: _ => !Direction.isMark character) &&
    Joining.joinersApply [] label

/-- The label is in its common spelling. -/
def isCommonSpelling (label : List Char) : Bool :=
  label.all Mapping.isOwnSpelling && Composition.normalize label == label

/-- The label that a written form stands for. It must be one that could not be written as it is. -/
def readLabel (written : List Char) : Option Label :=
  let body := written.drop announcement.length
  if body.length ≤ longestWritten then
    match Punycode.decode body with
    | none => none
    | some shown =>
      if !shown.all isAscii && isCommonSpelling shown && isWellFormed shown then
        some ⟨shown, written⟩
      else none
  else none

/-- The label of a name in common spelling. -/
def writeLabel (label : List Char) : Option Label :=
  if announcement.isPrefixOf label then
    if label.all isAscii then readLabel label else none
  else if label.all isAscii then some ⟨label, label⟩
  else if isWellFormed label then
    some ⟨label, announcement ++ Punycode.encode label⟩
  else none

/-- The labels of a name, joined by dots. -/
def join (labels : List (List Char)) : List Char :=
  (labels.intersperse ['.']).flatten

/-- The name needs no look at its labels: it is ASCII and no label is in written form. -/
def isPlain (name : List Char) : Bool :=
  name.all isAscii &&
    (Text.splitAt '.' (name.map Char.toLower)).all fun label => !announcement.isPrefixOf label

/-- The ASCII form of a name, or `none` if it is no domain name. -/
def toAscii (name : List Char) : Option (List Char) :=
  if isPlain name then
    let written := name.map Char.toLower
    if written.any isForbidden then none else some written
  else do
    let common := Composition.normalize (← Mapping.respell name)
    if common.any isForbidden then none
    else do
      let labels ← (Text.splitAt '.' common).mapM writeLabel
      if Direction.wellDirected (labels.map Label.shown) then
        some (join (labels.map Label.written))
      else none

end FrontierBus.Host.Domain
