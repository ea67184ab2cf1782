import FrontierBus.Host.Locator
import FrontierBus.Proofs.Text.Fronts

/-!
# Names of ASCII letters

A host of ASCII letters and dots is its own spelling but for the case: nothing in it stands for
another character, no label of it is a written form, and it is no address.
-/

namespace FrontierBus.Host

open FrontierBus.Text

/-- An ASCII letter or a dot. -/
def isNamePart (character : Char) : Bool :=
  character.isAlpha || character == '.'

variable {host label : List Char} {character : Char}

theorem ascii_of_alphanum (plain : character.isAlphanum = true) : character.toNat < 128 := by
  rcases Bool.or_eq_true_iff.mp plain with letter | figure
  · rcases Bool.or_eq_true_iff.mp letter with upper | lower
    · exact Nat.lt_of_le_of_lt (of_decide_eq_true upper).2 (by decide)
    · have few := of_decide_eq_true (Bool.and_eq_true_iff.mp lower).2
      exact Nat.lt_of_le_of_lt few (by decide)
  · have few := of_decide_eq_true (Bool.and_eq_true_iff.mp figure).2
    exact Nat.lt_of_le_of_lt few (by decide)

/-- What holds of each letter and of the dot, by their codes, holds of any. -/
theorem forall_namePart (holds : Char → Prop)
    (each : ∀ code < 128, isNamePart (Char.ofNat code) = true → holds (Char.ofNat code))
    (part : isNamePart character = true) : holds character := by
  have plain : character.toNat < 128 := by
    rcases Bool.or_eq_true_iff.mp part with letter | isDot
    · exact ascii_of_alphanum (by simp [Char.isAlphanum, letter])
    · rw [beq_iff_eq.mp isDot]
      decide
  exact forall_ascii (fun character => isNamePart character = true → holds character) each plain
    part

theorem isNamePart_toLower (part : isNamePart character = true) :
    isNamePart character.toLower = true :=
  forall_namePart (isNamePart ·.toLower) (by decide) part

theorem toLower_toLower (part : isNamePart character = true) :
    character.toLower.toLower = character.toLower :=
  forall_namePart (fun character => character.toLower.toLower = character.toLower)
    (by decide) part

theorem isNamePart_of_toLower (part : isNamePart character.toLower = true) :
    isNamePart character = true := by
  by_cases upper : character.isUpper = true
  · have letter : character.isAlpha = true := Bool.or_eq_true_iff.mpr (Or.inl upper)
    simp [isNamePart, letter]
  · have same : character.toLower = character :=
      dif_neg fun isUpper => upper (decide_eq_true isUpper)
    rwa [same] at part

/-- A text of letters and dots. -/
structure IsName (host : List Char) : Prop where
  something : host ≠ []
  parts : ∀ character ∈ host, isNamePart character = true

/-- A name of labels of ASCII letters, none of them empty, joined by dots. -/
def IsLettered (host : List Char) : Prop :=
  ∀ label ∈ Text.splitAt '.' host, label ≠ [] ∧ ∀ character ∈ label, character.isAlpha = true

instance (host : List Char) : Decidable (IsLettered host) :=
  decidable_of_iff ((Text.splitAt '.' host).all fun label =>
    !label.isEmpty && label.all Char.isAlpha) (by simp [IsLettered])

theorem IsName.all (name : IsName host) (holds : Char → Prop)
    (each : ∀ code < 128, isNamePart (Char.ofNat code) = true → holds (Char.ofNat code)) :
    ∀ character ∈ host, holds character :=
  fun character present => forall_namePart holds each (name.parts character present)

theorem IsLettered.isName (lettered : IsLettered host) : IsName host where
  something := by
    rintro rfl
    exact (lettered [] (by simp [Text.splitAt])).1 rfl
  parts := by
    have letters := forall_splitAt_iff.mp fun label isLabel => (lettered label isLabel).2
    intro character present
    by_cases isDot : character = '.'
    · simp [isNamePart, isDot]
    · simp [isNamePart, letters character present isDot]

/-- A text of letters is no number in any base. -/
theorem part?_eq_none
    (letters : ∀ character ∈ label, isNamePart character = true ∧ character ≠ '.') :
    Ipv4.part? label = none := by
  have noZero : ∀ rest, label ≠ '0' :: rest := by
    rintro rest rfl
    exact absurd (letters '0' List.mem_cons_self).1 (by decide)
  cases label with
  | nil => rfl
  | cons first rest =>
      unfold Ipv4.part?
      split
      · rfl
      · rename_i isZero
        exact absurd isZero (noZero _)
      · rename_i isZero
        exact absurd isZero (noZero _)
      · rename_i isZero
        exact absurd isZero (noZero _)
      · rcases letters first List.mem_cons_self with ⟨part, noDot⟩
        have large := forall_namePart (fun first => first ≠ '.' →
          (Ipv4.figureValue first).all (10 ≤ ·) = true) (by decide) part noDot
        rw [Ipv4.number?, List.foldlM_cons]
        cases isFigure : Ipv4.figureValue first with
        | none => rfl
        | some value =>
            rw [isFigure, Option.all_some, decide_eq_true_eq] at large
            simp [Nat.not_lt.mpr large]

/-- Octets in which no `%` stands for others are as they are. -/
theorem unescape_eq {octets : List UInt8} (plain : ∀ octet ∈ octets, octet ≠ 0x25) :
    Locator.unescape octets = octets := by
  fun_induction Locator.unescape octets with
  | case1 high low rest => simp at plain
  | case2 high low rest => simp at plain
  | case3 octet rest noEscape hypothesis =>
      rw [hypothesis fun octet present => plain octet (List.mem_cons_of_mem _ present)]
  | case4 => rfl

namespace IsName

theorem toLower (name : IsName host) : IsName (host.map Char.toLower) where
  something := by simpa using name.something
  parts := by
    rw [List.forall_mem_map]
    exact fun character present => isNamePart_toLower (name.parts character present)

/-- What is a name in lower case is a name. -/
theorem of_toLower {other : List Char} (name : IsName host)
    (same : other.map Char.toLower = host.map Char.toLower) : IsName other where
  something := by
    rintro rfl
    exact name.something (List.map_eq_nil_iff.mp same.symm)
  parts := by
    intro character present
    apply isNamePart_of_toLower
    apply name.toLower.parts
    rw [← same]
    exact List.mem_map_of_mem present

/-- A name in lower case stays as it is in lower case. -/
theorem map_toLower_toLower (name : IsName host) :
    (host.map Char.toLower).map Char.toLower = host.map Char.toLower := by
  rw [List.map_map]
  exact List.map_congr_left fun character present => toLower_toLower (name.parts character present)

/-- No label is a written form, so the labels need no look. -/
theorem isPlain (name : IsName host) : Domain.isPlain host = true := by
  have isAscii := name.all (Domain.isAscii ·) (by decide)
  have noHyphen : ∀ label ∈ Text.splitAt '.' (host.map Char.toLower), ∀ character ∈ label,
      character ≠ '-' := by
    rw [forall_splitAt_iff]
    exact fun character present _ => name.toLower.all (· ≠ '-') (by decide) character present
  simp only [Domain.isPlain, Bool.and_eq_true, List.all_eq_true]
  refine ⟨isAscii, ?_⟩
  intro label isLabel
  rw [Bool.not_eq_true', Bool.eq_false_iff]
  intro announced
  have hyphen : '-' ∈ label :=
    (List.isPrefixOf_iff_prefix.mp announced).subset (by decide)
  exact noHyphen label isLabel '-' hyphen rfl

/-- The ASCII form of a name is the name in lower case. -/
theorem toAscii_eq (name : IsName host) : Domain.toAscii host = some (host.map Char.toLower) := by
  have allowed : (host.map Char.toLower).any Domain.isForbidden = false := by
    rw [List.any_eq_false]
    exact name.toLower.all (¬Domain.isForbidden · = true) (by decide)
  rw [Domain.toAscii, if_pos name.isPlain]
  simp only [allowed, Bool.false_eq_true, if_false]

/-- A name is no address. -/
theorem not_endsInNumber (name : IsName host) : Ipv4.endsInNumber host = false := by
  have letters : ∀ label ∈ Text.splitAt '.' host, ∀ character ∈ label,
      isNamePart character = true ∧ character ≠ '.' := by
    rw [forall_splitAt_iff]
    exact fun character present noDot => ⟨name.parts character present, noDot⟩
  have isSplit : ∀ label ∈ Ipv4.parts host, label ∈ Text.splitAt '.' host := by
    intro label isLabel
    rw [Ipv4.parts] at isLabel
    split at isLabel
    · exact List.dropLast_subset _ isLabel
    · exact isLabel
  rw [Ipv4.endsInNumber]
  split
  · rfl
  · rename_i last isLast
    have lettersLast := letters last (isSplit last (List.mem_of_getLast? isLast))
    rw [part?_eq_none lettersLast]
    cases last with
    | nil => rfl
    | cons first rest =>
        rcases lettersLast first List.mem_cons_self with ⟨part, noDot⟩
        have noFigure := forall_namePart (fun first => first ≠ '.' → first.isDigit = false)
          (by decide) part noDot
        simp [noFigure]

/-- A name is spelled in lower case, and otherwise as it is. -/
theorem networkHost_eq (name : IsName host) :
    Locator.networkHost host = some (host.map Char.toLower) := by
  have isAscii := name.all (·.toNat < 128) (by decide)
  have noEscape : ∀ octet ∈ (String.ofList host).toUTF8.data.toList, octet ≠ 0x25 := by
    rw [Utf8.toUTF8_ascii isAscii, List.data_toByteArray, List.forall_mem_map]
    exact name.all (·.toUInt8 ≠ 0x25) (by decide)
  have decoded : Utf8.decode
      ⟨(Locator.unescape (String.ofList host).toUTF8.data.toList).toArray⟩ =
        .ok (String.ofList host) := by
    rw [unescape_eq noEscape, Array.toArray_toList]
    exact Utf8.decode_toUTF8 (String.ofList host)
  unfold Locator.networkHost
  split
  · have bracket := name.parts '[' List.mem_cons_self
    cases bracket
  · simp only [decoded]
    simp [Except.toOption, name.toAscii_eq, name.something, not_endsInNumber name.toLower]

end IsName

end FrontierBus.Host
