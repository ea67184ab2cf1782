import FrontierBus.Text.Span
import FrontierBus.Host.MappingRows

/-!
# The host mapping

International host names are compared in a common spelling: capitals become small letters, wide
and other compatibility forms become plain ones, some characters are left out and some are
refused.
-/

namespace FrontierBus.Host.Mapping

open FrontierBus.Text

/-- How a character is spelled in a host name. -/
inductive Rule where
  /-- The character `step * n` places behind the first of the span becomes the one as many places
  behind `target`; those in between stay. -/
  | shifted (step target : Nat)
  /-- The character becomes a sequence of others. -/
  | spelled (targets : List Nat)
  /-- The character is left out. -/
  | omitted
  /-- No host name contains the character. -/
  | refused
  deriving Repr, DecidableEq

/-- The reading of an entry of the shift rows. -/
def shiftSpan : List Nat → Option (Span Rule)
  | [first, target] => some ⟨first, first, .shifted 1 target⟩
  | [first, last, target] => some ⟨first, last, .shifted 1 target⟩
  | [first, last, target, step] => some ⟨first, last, .shifted step target⟩
  | _ => none

/-- The reading of an entry of the spelling rows. -/
def spellingSpan : List Nat → Option (Span Rule)
  | [] => none
  | code :: targets => some ⟨code, code, .spelled targets⟩

/-- All rules, by the characters they apply to. -/
def table : Array (Span Rule) :=
  Span.sorted <|
    (Span.entries shiftRows).filterMap shiftSpan ++
    (Span.entries spellingRows).filterMap spellingSpan ++
    Span.ofRows .omitted omissionRows ++
    Span.ofRows .refused refusalRows

/-- The spelling of a character, or `none` if no host name contains it. -/
def spelling (character : Char) : Option (List Char) :=
  match Span.search table character with
  | none => some [character]
  | some span => match span.value with
    | .refused => none
    | .omitted => some []
    | .spelled targets => some (targets.map Char.ofNat)
    | .shifted step target =>
      let behind := character.toNat - span.first
      if behind % step = 0 then some [Char.ofNat (target + behind)] else some [character]

/-- The character stands for itself in a host name. -/
def isOwnSpelling (character : Char) : Bool :=
  spelling character == some [character]

/-- The spelling of a text, or `none` if it contains a refused character. -/
def respell (text : List Char) : Option (List Char) :=
  (text.mapM spelling).map List.flatten

end FrontierBus.Host.Mapping
