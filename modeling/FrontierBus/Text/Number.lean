/-!
# Numbers in settings and on the command line

A number is written in decimal, with a plus sign in front or not. What is no such text, or beyond
the bound of its kind, is refused as a whole.
-/

namespace FrontierBus.Text

/-- The number that decimal figures spell. -/
def figures? (figures : List Char) : Option Nat :=
  if figures.isEmpty || !figures.all Char.isDigit then none
  else some (figures.foldl (fun value figure => 10 * value + (figure.toNat - '0'.toNat)) 0)

/-- The number below `bound` that a text spells. -/
def natural? (bound : Nat) (text : List Char) : Option Nat :=
  (figures? (match text with
    | '+' :: figures => figures
    | figures => figures)).filter (· < bound)

/-- A number with blanks in front, up to `width` characters. -/
def padded (width : Nat) (number : Nat) : String :=
  let figures := toString number
  String.ofList (List.replicate (width - figures.length) ' ') ++ figures

end FrontierBus.Text
