import FrontierBus.Text.Span
import FrontierBus.Host.JoiningRows
import FrontierBus.Host.Composition

/-!
# Joiners

The invisible joiner and non-joiner may stand in a label only where they change how it is written:
behind a mark that drops the vowel of its letter, and for the non-joiner also between two cursive
letters that would join without it.
-/

namespace FrontierBus.Host.Joining

open FrontierBus.Text

/-- How a character joins its neighbours. -/
inductive Kind where
  | bothSides
  | beforeOnly
  | afterOnly
  | transparent
  deriving Repr, DecidableEq

/-- The kinds of all characters that join, or that joining looks through. -/
def table : Array (Span Kind) :=
  Span.sorted <|
    Span.ofRows .bothSides bothSidesRows ++ Span.ofRows .beforeOnly beforeOnlyRows ++
    Span.ofRows .afterOnly afterOnlyRows ++ Span.ofRows .transparent transparentRows

/-- The kind of a character, if it takes part in joining. -/
def kind (character : Char) : Option Kind :=
  (Span.search table character).map Span.value

/-- The first character, of those that joining does not look through, satisfies `joins`. -/
def reaches (joins : Option Kind → Bool) (text : List Char) : Bool :=
  match text.dropWhile (fun character => kind character == some .transparent) with
  | [] => false
  | character :: _ => joins (kind character)

/-- The mark before the joiner drops the vowel of its letter: combining class nine. -/
def followsVirama (before : List Char) : Bool :=
  match before with
  | [] => false
  | character :: _ => Composition.combiningClass character == 9

/-- Every joiner of the label changes how it is written; `before` is what was read, newest
first. -/
def joinersApply (before : List Char) : List Char → Bool
  | [] => true
  | character :: rest =>
    let allowed :=
      if character = '\u200D' then followsVirama before
      else if character = '\u200C' then
        followsVirama before ||
          (reaches (fun joining => joining == some .bothSides || joining == some .afterOnly) before
            && reaches (fun joining => joining == some .bothSides || joining == some .beforeOnly)
              rest)
      else true
    allowed && joinersApply (character :: before) rest

end FrontierBus.Host.Joining
