/-!
# Punycode

A label with characters beyond ASCII is written in letters, digits and hyphens: first its ASCII
characters, then, behind a hyphen, how far apart the insertions of the others are. The distances
are numbers in base 36 of variable length, whose thresholds adapt to the distances before.
-/

namespace FrontierBus.Host.Punycode

/-- The thresholds of a number's digits depend on the bias: between 1 and 26. -/
def threshold (bias position : Nat) : Nat :=
  min 26 (max 1 (position - bias))

theorem threshold_pos (bias position : Nat) : 1 ≤ threshold bias position := by
  simp only [threshold]
  omega

/-- Divides by 35 until at most 455 is left, counting 36 for each division. -/
def settle (distance : Nat) : Nat × Nat :=
  if _large : 455 < distance then
    let (settled, count) := settle (distance / 35)
    (settled, count + 36)
  else (distance, 0)
termination_by distance
decreasing_by omega

/-- The bias for the next distance. -/
def adapt (distance length : Nat) (isFirst : Bool) : Nat :=
  let scaled := if isFirst then distance / 700 else distance / 2
  let (settled, count) := settle (scaled + scaled / length)
  count + 36 * settled / (settled + 38)

/-- The digit of a value below 36: letters, then figures. -/
def digit (value : Nat) : Char :=
  if value < 26 then Char.ofNat ('a'.toNat + value) else Char.ofNat ('0'.toNat + (value - 26))

/-- The value of a digit. -/
def digitValue (character : Char) : Option Nat :=
  if 'a' ≤ character ∧ character ≤ 'z' then some (character.toNat - 'a'.toNat)
  else if 'A' ≤ character ∧ character ≤ 'Z' then some (character.toNat - 'A'.toNat)
  else if character.isDigit then some (character.toNat - '0'.toNat + 26)
  else none

/-- The digits of a number, the least significant first; `position` is 36 for the first digit and
grows by 36. -/
def digits (bias position number : Nat) : List Char :=
  let limit := threshold bias position
  if _last : number < limit then [digit number]
  else digit (limit + (number - limit) % (36 - limit)) ::
    digits bias (position + 36) ((number - limit) / (36 - limit))
termination_by number
decreasing_by
  have positive := threshold_pos bias position
  have smaller :=
    Nat.div_le_self (number - threshold bias position) (36 - threshold bias position)
  omega

/-- What the encoder carries along: the distance since the last insertion, the bias, and how many
characters the decoder will have by now. -/
structure Encoder where
  distance : Nat
  bias : Nat
  handled : Nat
  output : List Char

/-- One pass over the label: notes where `code` is inserted among the smaller code points. -/
def Encoder.pass (code basicCount : Nat) (encoder : Encoder) (label : List Char) : Encoder :=
  label.foldl (fun encoder character =>
    if character.toNat < code then { encoder with distance := encoder.distance + 1 }
    else if character.toNat = code then
      { distance := 0
        bias := adapt encoder.distance (encoder.handled + 1) (encoder.handled == basicCount)
        handled := encoder.handled + 1
        output := encoder.output ++ digits encoder.bias 36 encoder.distance }
    else encoder) encoder

/-- Passes over the label for each of its code points beyond ASCII; `next` is the least code point
not yet noted. -/
def Encoder.passes (label : List Char) (basicCount : Nat) :
    (next : Nat) → Encoder → List Nat → Encoder
  | _, encoder, [] => encoder
  | next, encoder, code :: codes =>
    let skipped := { encoder with
      distance := encoder.distance + (code - next) * (encoder.handled + 1) }
    let passed := skipped.pass code basicCount label
    passes label basicCount (code + 1) { passed with distance := passed.distance + 1 } codes

/-- The written form of a label, without the mark that announces it. -/
def encode (label : List Char) : List Char :=
  let basic := label.filter fun character => character.toNat < 128
  let others := (label.map Char.toNat).filter fun code => 128 ≤ code
  let codes := (others.mergeSort (· ≤ ·)).eraseDups
  let opening := if basic.isEmpty then [] else basic ++ ['-']
  (Encoder.passes label basic.length 128 ⟨0, 72, basic.length, opening⟩ codes).output

/-- The largest distance that is read, and the largest weight of a digit in it. -/
def largest : Nat := 4294967295

/-- The number that stands at the beginning, added to `value`, and what follows it. -/
def readNumber (bias : Nat) : (position weight value : Nat) → List Char → Option (Nat × List Char)
  | _, _, _, [] => none
  | position, weight, value, character :: rest =>
    match digitValue character with
    | none => none
    | some amount =>
      let limit := threshold bias position
      let total := value + amount * weight
      if largest < total then none
      else if amount < limit then some (total, rest)
      else if largest < weight * (36 - limit) then none
      else readNumber bias (position + 36) (weight * (36 - limit)) total rest

theorem readNumber_shorter {bias position weight value number : Nat} {text rest : List Char}
    (read : readNumber bias position weight value text = some (number, rest)) :
    rest.length < text.length := by
  induction text generalizing position weight value with
  | nil => simp [readNumber] at read
  | cons character text hypothesis =>
    simp only [readNumber] at read
    split at read
    · simp at read
    · split at read
      · simp at read
      · split at read
        · simp only [Option.some.injEq, Prod.mk.injEq] at read
          simp [read.2]
        · split at read
          · simp at read
          · have shorter := hypothesis read
            simp only [List.length_cons]
            omega

/-- Carries out the insertions: `code` and `place` are where the last one was made. -/
def insertions (bias code place : Nat) (label : List Char) (text : List Char) :
    Option (List Char) :=
  match _ends : text with
  | [] => some label
  | _ :: _ =>
    match read : readNumber bias 36 1 place text with
    | none => none
    | some (moved, rest) =>
      let length := label.length + 1
      let inserted := code + moved / length
      if inserted.isValidChar then
        let label := label.insertIdx (moved % length) (Char.ofNat inserted)
        insertions (adapt (moved - place) length (place == 0)) inserted
          (moved % length + 1) label rest
      else none
termination_by text.length
decreasing_by
  have shorter := readNumber_shorter read
  simp_all

/-- The label that a written form stands for. The ASCII characters end at the last hyphen. -/
def decode (text : List Char) : Option (List Char) :=
  let tail := (text.reverse.takeWhile (· ≠ '-')).reverse
  let head := text.take (text.length - tail.length - 1)
  if text.contains '-' then
    if head.isEmpty then none else insertions 72 128 0 head tail
  else insertions 72 128 0 [] text

end FrontierBus.Host.Punycode
