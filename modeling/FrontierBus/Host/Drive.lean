import FrontierBus.Text.Blank

/-!
# Drives

A file locator may name a drive, a letter and a colon or bar, where its path begins. A path begins
with what is left when the segments that stand for a directory or for the one above it have been
followed. Tabs and line ends are no part of a locator, but one right behind a drive ends the
segment there.
-/

namespace FrontierBus.Host.Drive

open FrontierBus.Text

/-- A letter and a colon or bar, which names a drive. -/
def isDrive : List Char → Bool
  | [letter, mark] => letter.isAlpha && (mark == ':' || mark == '|')
  | _ => false

/-- Tabs and line ends. -/
def isBreak (character : Char) : Bool :=
  ['\t', '\n', '\r'].contains character

/-- The characters of a text that are part of a locator. -/
def visible (text : List Char) : List Char :=
  text.filter (!isBreak ·)

/-- What follows the first `count` characters that are part of a locator. -/
def dropVisible : (count : Nat) → List Char → List Char
  | 0, text => text
  | _, [] => []
  | count + 1, character :: rest =>
    if isBreak character then dropVisible (count + 1) rest else dropVisible count rest

/-- A slash of either kind. -/
def isSlash (character : Char) : Bool :=
  character == '/' || character == '\\'

/-- The segment stands for the directory that it is in. -/
def isSame (segment : List Char) : Bool :=
  [".", "%2e"].contains (String.ofList (segment.map Char.toLower))

/-- The segment stands for the directory above. -/
def isAbove (segment : List Char) : Bool :=
  ["..", "%2e.", ".%2e", "%2e%2e"].contains (String.ofList (segment.map Char.toLower))

/-- The segment goes on behind a drive with a colon, and a tab or line end stands right behind
that drive. -/
def isBroken (segment : List Char) : Bool :=
  let drive := (visible segment).take 2
  let rest := dropVisible 2 segment
  isDrive drive && drive.contains ':' && (rest.head?.map isBreak).getD false &&
    !(visible rest).isEmpty

/-- The directories above, from the directory that they lead to; no way leads out of a drive. -/
def leave : List (List Char) → List (List Char)
  | [] => []
  | last :: above => if isDrive last then last :: above else above

/-- Following the segments, a drive comes first in the path; `kept` are the segments so far, the
last one first. -/
def comesFirst (kept : List (List Char)) : List (List Char) → Bool
  | [] => false
  | segment :: rest =>
    let name := visible segment
    if isSame name then comesFirst kept rest
    else if isAbove name then comesFirst (leave kept) rest
    else if kept.isEmpty && isDrive name then true
    else if kept.isEmpty && isBroken segment then comesFirst [name.drop 2, name.take 2] rest
    else comesFirst (name :: kept) rest

/-- The characters that end a path. -/
def endsPath (character : Char) : Bool :=
  character == '?' || character == '#'

/-- The segments of a path, from behind the slash that opens it. -/
def segments (path : List Char) : List (List Char) :=
  splitAt '/' <| (path.takeWhile (!endsPath ·)).map fun character =>
    if isSlash character then '/' else character

/-- What follows a host is a path that begins with a drive. -/
def opens : List Char → Bool
  | [] => false
  | character :: path => isSlash character && comesFirst [] (segments path)

end FrontierBus.Host.Drive
