import FrontierBus.Host.Ipv4

/-!
# Addresses of eight groups

Groups of up to four hexadecimal figures between colons; one double colon stands for a run of zero
groups; the last two groups may be written as an address of four octets. Written out, the first
longest run of at least two zero groups becomes the double colon.
-/

namespace FrontierBus.Host.Ipv6

/-- The groups read so far: before the double colon, and after it once there was one. -/
structure Groups where
  before : List Nat
  after : Option (List Nat)

namespace Groups

/-- How many of the eight places are taken; a double colon takes at least one. -/
def places (groups : Groups) : Nat :=
  groups.before.length + match groups.after with
    | none => 0
    | some after => after.length + 1

/-- One more group. -/
def push (groups : Groups) (value : Nat) : Groups :=
  match groups.after with
  | none => { groups with before := groups.before ++ [value] }
  | some after => { groups with after := some (after ++ [value]) }

/-- All eight groups, if the places are filled. -/
def complete (groups : Groups) : Option (List Nat) :=
  match groups.after with
  | none => if groups.before.length = 8 then some groups.before else none
  | some after =>
    some (groups.before ++
      List.replicate (8 - groups.before.length - after.length) 0 ++ after)

end Groups

/-- A number from 0 to 255 in decimal without needless zeros. -/
def octet? (text : List Char) : Option Nat :=
  if text.isEmpty || (text.length != 1 && text.head? == some '0') then none
  else match Ipv4.number? 10 text with
    | none => none
    | some value => if value ≤ 255 then some value else none

/-- The two groups that four octets make. -/
def embedded? (text : List Char) : Option (Nat × Nat) :=
  match (Text.splitAt '.' text).mapM octet? with
  | some [first, second, third, fourth] => some (256 * first + second, 256 * third + fourth)
  | _ => none

/-- The leading hexadecimal figures of a text, at most `count`, and the rest. -/
def takeFigures : (count : Nat) → List Char → List Char × List Char
  | 0, text => ([], text)
  | _ + 1, [] => ([], [])
  | count + 1, character :: rest =>
    if (Ipv4.figureValue character).isSome then
      let (figures, rest) := takeFigures count rest
      (character :: figures, rest)
    else ([], character :: rest)

theorem takeFigures_length (count : Nat) (text : List Char) :
    (takeFigures count text).2.length ≤ text.length := by
  induction count generalizing text with
  | zero => simp [takeFigures]
  | succ count hypothesis =>
    cases text with
    | nil => simp [takeFigures]
    | cons character rest =>
      simp only [takeFigures]
      split
      · have shorter := hypothesis rest
        simp only [List.length_cons]
        omega
      · simp

/-- Reads groups up to the end of the text. -/
def readGroups (groups : Groups) (text : List Char) : Option (List Nat) :=
  match text with
  | [] => groups.complete
  | ':' :: rest =>
    if groups.places < 8 ∧ groups.after.isNone then readGroups { groups with after := some [] } rest
    else none
  | character :: rest =>
    if groups.places < 8 then
      let figures := (takeFigures 4 (character :: rest)).1
      let value := (Ipv4.number? 16 figures).getD 0
      match _behind : (takeFigures 4 (character :: rest)).2 with
      | [] => (groups.push value).complete
      | ':' :: next :: others => readGroups (groups.push value) (next :: others)
      | '.' :: _ =>
        if figures.isEmpty || 6 < groups.places then none
        else match embedded? (character :: rest) with
          | none => none
          | some (first, second) => ((groups.push first).push second).complete
      | _ => none
    else none
termination_by text.length
decreasing_by
  · simp
  · have shorter := takeFigures_length 4 (character :: rest)
    simp_all only [List.length_cons]
    omega

/-- The address between the brackets. -/
def parse? (text : List Char) : Option (List Nat) :=
  match text with
  | ':' :: ':' :: rest => readGroups ⟨[], some []⟩ rest
  | ':' :: _ | [] | [_] => none
  | text => readGroups ⟨[], none⟩ text

/-- The length of the run of zero groups at the beginning. -/
def zeroRun (groups : List Nat) : Nat :=
  (groups.takeWhile (· = 0)).length

/-- The first longest run of zero groups among the suffixes: its length and where it starts. -/
def longestZeroRun : (start : Nat) → List Nat → Nat × Nat
  | start, [] => (0, start)
  | start, group :: groups =>
    let here := zeroRun (group :: groups)
    let later := longestZeroRun (start + 1) groups
    if later.1 ≤ here then (here, start) else later

/-- A group in lower-case hexadecimal. -/
def groupText (group : Nat) : List Char :=
  Nat.toDigits 16 group

/-- Groups between colons. -/
def joinGroups (groups : List Nat) : List Char :=
  ((groups.map groupText).intersperse [':']).flatten

/-- The text of an address, with its brackets. -/
def text (groups : List Nat) : List Char :=
  let (length, start) := longestZeroRun 0 groups
  let body :=
    if 2 ≤ length then
      joinGroups (groups.take start) ++ [':', ':'] ++ joinGroups (groups.drop (start + length))
    else joinGroups groups
  ['['] ++ body ++ [']']

end FrontierBus.Host.Ipv6
