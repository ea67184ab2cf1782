import FrontierBus.Text.Span
import FrontierBus.Host.DirectionRows

/-!
# Writing direction

Host names with characters that are written from right to left are shown unambiguously only if
each label is of one direction: the rules on what a label may begin with, contain and end with.
-/

namespace FrontierBus.Host.Direction

open FrontierBus.Text

/-- The part that a character plays in the order of writing. -/
inductive Kind where
  | leftToRight
  | rightToLeft
  | arabicLetter
  | arabicNumber
  | europeanNumber
  | europeanSeparator
  | europeanTerminator
  | commonSeparator
  | nonspacing
  | neutralBoundary
  | otherNeutral
  deriving Repr, DecidableEq

/-- The kinds of all characters that are not simply written from left to right. -/
def table : Array (Span Kind) :=
  Span.sorted <|
    Span.ofRows Kind.rightToLeft rightToLeftRows ++
    Span.ofRows Kind.arabicLetter arabicLetterRows ++
    Span.ofRows Kind.arabicNumber arabicNumberRows ++
    Span.ofRows Kind.europeanNumber europeanNumberRows ++
    Span.ofRows Kind.europeanSeparator europeanSeparatorRows ++
    Span.ofRows Kind.europeanTerminator europeanTerminatorRows ++
    Span.ofRows Kind.commonSeparator commonSeparatorRows ++
    Span.ofRows Kind.nonspacing nonspacingRows ++
    Span.ofRows Kind.neutralBoundary neutralBoundaryRows ++
    Span.ofRows Kind.otherNeutral otherNeutralRows

/-- The kind of a character. -/
def kind (character : Char) : Kind :=
  ((Span.search table character).map Span.value).getD .leftToRight

/-- The marks. -/
def marks : Array (Span Unit) :=
  Span.sorted (Span.ofRows () markRows)

/-- The character combines with the one before it. -/
def isMark (character : Char) : Bool :=
  (Span.search marks character).isSome

/-- The kinds that make a host name one with right-to-left parts. -/
def Kind.isRightward : Kind → Bool
  | .rightToLeft | .arabicLetter | .arabicNumber => true
  | _ => false

/-- The kinds that may stand in a label of either direction. -/
def Kind.isNeutral : Kind → Bool
  | .europeanNumber | .europeanSeparator | .commonSeparator | .europeanTerminator
  | .otherNeutral | .neutralBoundary | .nonspacing => true
  | _ => false

/-- The kind of the last character that is not a nonspacing mark. -/
def lastSpacing (kinds : List Kind) : Option Kind :=
  (kinds.filter (· != .nonspacing)).getLast?

/-- A label, given by the kinds of its characters, is of one direction. -/
def oneDirection (kinds : List Kind) : Bool :=
  match kinds with
  | [] => true
  | .leftToRight :: _ =>
    kinds.all (fun kind => kind == .leftToRight || kind.isNeutral) &&
      (lastSpacing kinds == some .leftToRight || lastSpacing kinds == some .europeanNumber)
  | .rightToLeft :: _ | .arabicLetter :: _ =>
    kinds.all (fun kind => kind.isRightward || kind.isNeutral) &&
      (match lastSpacing kinds with
        | some .rightToLeft | some .arabicLetter | some .europeanNumber
        | some .arabicNumber => true
        | _ => false) &&
      !(kinds.contains .europeanNumber && kinds.contains .arabicNumber)
  | _ => false

/-- Either no label of the host name has right-to-left parts, or every label is of one direction. -/
def wellDirected (labels : List (List Char)) : Bool :=
  let kinds := labels.map (·.map kind)
  !(kinds.any (·.any Kind.isRightward)) || kinds.all oneDirection

end FrontierBus.Host.Direction
