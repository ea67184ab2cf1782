import FrontierBus.Proofs.Text.Fronts
import Mathlib.Data.List.Forall2

/-!
# Padding and pieces

A text is padded by blanks in front of it and behind it. To trim a text is to find the one that it
is a padding of and that begins and ends with no blank; and to cut it at a separator is to find the
pieces without separators that it is joined from. Padding a text pads its first and its last piece
only, so the trimmed pieces stay the same.
-/

namespace FrontierBus.Text

/-- A text with blanks added in front of it and behind it. -/
def Padded (text padded : String) : Prop :=
  ∃ front back, allBlank front = true ∧ allBlank back = true ∧ padded = front ++ text ++ back

/-- A text neither begins nor ends with a blank. -/
def Trimmed (text : String) : Prop :=
  (∀ first, text.toList.head? = some first → isBlank first = false) ∧
    ∀ last, text.toList.getLast? = some last → isBlank last = false

/-- A text is made of pieces with separators between them, and none in them. -/
def JoinedFrom (separator : Char) (text : String) (pieces : List String) : Prop :=
  pieces ≠ [] ∧ (∀ piece ∈ pieces, separator ∉ piece.toList) ∧
    text = (String.singleton separator).intercalate pieces

section Stripping

variable {drop : Char → Bool} {front text back : List Char}

theorem strip_eq (drop : Char → Bool) (text : List Char) :
    strip drop text = (text.dropWhile drop).rdropWhile drop := rfl

theorem rdropWhile_append_of_pos (dropped : ∀ character ∈ back, drop character = true)
    (text : List Char) : (text ++ back).rdropWhile drop = text.rdropWhile drop := by
  have behind : ∀ character ∈ back.reverse, drop character = true := by simpa using dropped
  rw [List.rdropWhile, List.reverse_append, List.dropWhile_append_of_pos behind, List.rdropWhile]

theorem strip_padding (inFront : ∀ character ∈ front, drop character = true)
    (behind : ∀ character ∈ back, drop character = true) (text : List Char) :
    strip drop (front ++ text ++ back) = strip drop text := by
  rw [strip_eq, strip_eq, List.append_assoc, List.dropWhile_append_of_pos inFront,
    List.dropWhile_append]
  split
  · rename_i nothing
    have allDropped : back.dropWhile drop = [] := List.dropWhile_eq_nil_iff.mpr behind
    rw [allDropped, List.isEmpty_iff.mp nothing]
  · exact rdropWhile_append_of_pos behind _

/-- What is taken off is what a text begins and ends with. -/
theorem strip_between (drop : Char → Bool) (text : List Char) :
    text.takeWhile drop ++ strip drop text ++ (text.dropWhile drop).rtakeWhile drop = text := by
  rw [strip_eq, List.append_assoc, List.rdropWhile_append_rtakeWhile,
    List.takeWhile_append_dropWhile]

theorem head?_strip {first : Char} (isFirst : (strip drop text).head? = some first) :
    drop first = false := by
  rcases List.rdropWhile_prefix drop (text.dropWhile drop) with ⟨dropped, parts⟩
  have begins : (text.dropWhile drop).head? = some first := by
    rw [← parts, List.head?_append, ← strip_eq, isFirst]
    rfl
  have kept := List.head?_dropWhile_not drop text
  simpa [begins] using kept

theorem getLast?_strip {last : Char} (isLast : (strip drop text).getLast? = some last) :
    drop last = false := by
  rcases List.getLast?_eq_some_iff.mp isLast with ⟨_, parts⟩
  have something : (text.dropWhile drop).rdropWhile drop ≠ [] := by
    rw [← strip_eq, parts]
    simp
  have kept := List.rdropWhile_last_not drop (text.dropWhile drop) something
  have same : ((text.dropWhile drop).rdropWhile drop).getLast something = last := by
    simp [← strip_eq, parts]
  simpa [same] using kept

theorem strip_eq_self (first : ∀ first, text.head? = some first → drop first = false)
    (last : ∀ last, text.getLast? = some last → drop last = false) : strip drop text = text := by
  have begins : text.dropWhile drop = text := by
    cases text with
    | nil => rfl
    | cons character others => exact List.dropWhile_cons_of_neg (by simp [first character rfl])
  rw [strip_eq, begins, List.rdropWhile_eq_self_iff]
  intro something dropped
  rw [last _ (List.getLast?_eq_some_getLast something)] at dropped
  cases dropped

end Stripping

section Trimming

variable {text padded : String}

@[simp]
theorem toList_trim (text : String) : (trim text).toList = strip isBlank text.toList := by
  simp [trim]

theorem allBlank_iff : allBlank text = true ↔ ∀ character ∈ text.toList, isBlank character = true :=
  List.all_eq_true

theorem Padded.refl (text : String) : Padded text text :=
  ⟨"", "", rfl, rfl, by simp⟩

theorem Padded.strip_eq (isPadded : Padded text padded) :
    strip isBlank padded.toList = strip isBlank text.toList := by
  rcases isPadded with ⟨front, back, inFront, behind, rfl⟩
  simpa using strip_padding (allBlank_iff.mp inFront) (allBlank_iff.mp behind) text.toList

theorem Padded.trim_eq (isPadded : Padded text padded) : trim padded = trim text := by
  rw [trim, trim, isPadded.strip_eq]

theorem Padded.allBlank_eq (isPadded : Padded text padded) : allBlank padded = allBlank text := by
  rcases isPadded with ⟨front, back, inFront, behind, rfl⟩
  simp only [allBlank] at inFront behind
  simp [allBlank, inFront, behind]

/-- Lower case neither makes a blank nor takes one away. -/
theorem isBlank_toLower (character : Char) : isBlank character.toLower = isBlank character := by
  by_cases plain : character.toNat < 128
  · exact forall_ascii (fun character => isBlank character.toLower = isBlank character) (by decide)
      plain
  · have same : character.toLower = character := by
      apply dif_neg
      rintro ⟨_, upTo⟩
      exact plain (Nat.lt_of_le_of_lt upTo (by decide))
    rw [same]

theorem eq_empty_of_allBlank (blank : allBlank text = true)
    (solid : ∀ character ∈ text.toList, isBlank character = false) : text = "" := by
  rw [← String.toList_eq_nil_iff, List.eq_nil_iff_forall_not_mem]
  intro character present
  have isBlank := allBlank_iff.mp blank character present
  rw [solid character present] at isBlank
  cases isBlank

/-- A text without blanks is padded only by itself. -/
theorem Padded.eq_of_solid (isPadded : Padded text padded)
    (solid : ∀ character ∈ padded.toList, isBlank character = false) : padded = text := by
  rcases isPadded with ⟨front, back, inFront, behind, rfl⟩
  simp only [String.toList_append, List.forall_mem_append] at solid
  rw [eq_empty_of_allBlank inFront solid.1.1, eq_empty_of_allBlank behind solid.2]
  simp

theorem padded_trim (text : String) : Padded (trim text) text := by
  refine ⟨String.ofList (text.toList.takeWhile isBlank),
    String.ofList ((text.toList.dropWhile isBlank).rtakeWhile isBlank), ?_, ?_, ?_⟩
  · rw [allBlank_iff, String.toList_ofList]
    intro character present
    exact List.mem_takeWhile_imp present
  · rw [allBlank_iff, String.toList_ofList]
    intro character present
    exact List.mem_rtakeWhile_imp present
  · rw [← String.toList_inj]
    simp only [String.toList_append, String.toList_ofList, toList_trim]
    exact (strip_between isBlank text.toList).symm

theorem trimmed_trim (text : String) : Trimmed (trim text) := by
  constructor
  · intro first isFirst
    exact head?_strip (by simpa using isFirst)
  · intro last isLast
    exact getLast?_strip (by simpa using isLast)

theorem Trimmed.trim_eq (trimmed : Trimmed text) : trim text = text := by
  rw [trim, strip_eq_self trimmed.1 trimmed.2, String.ofList_toList]

/-- A text is trimmed to the one that it is a padding of and that is trimmed itself. -/
theorem trim_eq_iff : trim padded = text ↔ Padded text padded ∧ Trimmed text := by
  constructor
  · rintro rfl
    exact ⟨padded_trim padded, trimmed_trim padded⟩
  · rintro ⟨isPadded, trimmed⟩
    exact isPadded.trim_eq.trans trimmed.trim_eq

theorem isEmpty_trim (text : String) : (trim text).isEmpty = allBlank text := by
  rw [Bool.eq_iff_iff, String.isEmpty_iff, trim_eq_iff]
  constructor
  · rintro ⟨isPadded, _⟩
    exact isPadded.allBlank_eq
  · intro blank
    exact ⟨⟨text, "", blank, rfl, by simp⟩, by simp [Trimmed]⟩

end Trimming

section Cutting

variable {separator : Char} {text padded : String} {pieces : List String}

theorem splitAt_cons_of_ne {first : Char} (other : first ≠ separator) (rest : List Char) :
    splitAt separator (first :: rest) = (splitAt separator rest).modifyHead (first :: ·) := by
  rw [splitAt, if_neg other]
  split
  · rename_i nothing
    exact absurd nothing (splitAt_ne_nil separator rest)
  · rename_i isSplit
    rw [isSplit, List.modifyHead_cons]

theorem splitAt_eq_splitOn (separator : Char) (text : List Char) :
    splitAt separator text = text.splitOn separator := by
  induction text with
  | nil => simp [splitAt]
  | cons first rest hypothesis =>
      rw [List.splitOn_cons_eq_if_modifyHead, ← hypothesis]
      by_cases same : first = separator
      · simp [splitAt, same]
      · simp [splitAt_cons_of_ne, same]

/-- To cut a text is to find the pieces that it is joined from. -/
theorem joinedFrom_iff : JoinedFrom separator text pieces ↔
    splitAt separator text.toList = pieces.map String.toList := by
  constructor
  · rintro ⟨something, clean, rfl⟩
    rw [String.toList_intercalate, String.toList_singleton, splitAt_eq_splitOn]
    exact List.splitOn_intercalate separator (by simpa using clean) (by simpa using something)
  · intro isSplit
    refine ⟨?_, ?_, ?_⟩
    · rintro rfl
      exact splitAt_ne_nil separator text.toList isSplit
    · have clean : ∀ piece ∈ splitAt separator text.toList, ∀ character ∈ piece,
          character ≠ separator :=
        forall_splitAt_iff.mpr fun _ _ other => other
      intro piece isPiece present
      rw [isSplit] at clean
      exact clean piece.toList (List.mem_map_of_mem isPiece) separator present rfl
    · rw [← String.toList_inj, String.toList_intercalate, String.toList_singleton, ← isSplit,
        splitAt_eq_splitOn, List.intercalate_splitOn]

theorem joinedFrom_splitAt (separator : Char) (text : String) :
    JoinedFrom separator text ((splitAt separator text.toList).map String.ofList) := by
  rw [joinedFrom_iff]
  simp [Function.comp_def]

section Ends

variable {front back : List Char}

/-- What is added in front of a text goes to its first piece. -/
theorem splitAt_append_left (clean : separator ∉ front) (text : List Char) :
    splitAt separator (front ++ text) = (splitAt separator text).modifyHead (front ++ ·) := by
  induction front with
  | nil => exact (congrFun List.modifyHead_id _).symm
  | cons first rest hypothesis =>
      rw [List.mem_cons, not_or] at clean
      rw [List.cons_append, splitAt_cons_of_ne (Ne.symm clean.1), hypothesis clean.2,
        List.modifyHead_modifyHead]
      rfl

/-- What is added behind a text goes to its last piece, which is the empty one if the text is empty.
-/
theorem splitAt_append_right (clean : separator ∉ back) (text : List Char) :
    List.Forall₂ (fun piece longer => longer = piece ∨ longer = piece ++ back)
      (splitAt separator text) (splitAt separator (text ++ back)) := by
  induction text with
  | nil =>
      rw [List.nil_append, splitAt_eq_splitOn, splitAt_eq_splitOn, List.splitOn_eq_singleton clean]
      simp
  | cons first rest hypothesis =>
      by_cases same : first = separator
      · simpa [splitAt, same] using hypothesis
      · rw [List.cons_append, splitAt_cons_of_ne same, splitAt_cons_of_ne same]
        generalize splitAt separator rest = pieces, splitAt separator (rest ++ back) = longer
          at hypothesis
        cases hypothesis with
        | nil => exact .nil
        | cons isLonger others =>
            refine .cons ?_ others
            rcases isLonger with rfl | rfl
            · exact .inl rfl
            · exact .inr rfl

/-- Padding does not show in the pieces of a text, once they are stripped. -/
theorem map_strip_splitAt {drop : Char → Bool} (kept : drop separator = false)
    (inFront : ∀ character ∈ front, drop character = true)
    (behind : ∀ character ∈ back, drop character = true) (text : List Char) :
    (splitAt separator (front ++ text ++ back)).map (strip drop) =
      (splitAt separator text).map (strip drop) := by
  have clean : ∀ part : List Char, (∀ character ∈ part, drop character = true) →
      separator ∉ part := by
    intro part dropped present
    rw [dropped separator present] at kept
    cases kept
  have nothing : ∀ character ∈ ([] : List Char), drop character = true := by simp
  have last : (splitAt separator (text ++ back)).map (strip drop) =
      (splitAt separator text).map (strip drop) := by
    rw [← List.forall₂_eq_eq_eq, List.forall₂_map_left_iff, List.forall₂_map_right_iff]
    refine (splitAt_append_right (clean back behind) text).flip.imp ?_
    rintro longer piece (rfl | rfl)
    · rfl
    · simpa using strip_padding nothing behind piece
  rw [List.append_assoc, splitAt_append_left (clean front inFront), ← last]
  cases splitAt separator (text ++ back) with
  | nil => rfl
  | cons piece pieces =>
      simpa using strip_padding inFront nothing piece

end Ends

/-- The trimmed pieces of a padded text are those of the text. -/
theorem Padded.map_strip_splitAt (isPadded : Padded text padded)
    (solid : isBlank separator = false) :
    (splitAt separator padded.toList).map (strip isBlank) =
      (splitAt separator text.toList).map (strip isBlank) := by
  rcases isPadded with ⟨front, back, inFront, behind, rfl⟩
  simpa using Text.map_strip_splitAt solid (allBlank_iff.mp inFront) (allBlank_iff.mp behind)
    text.toList

end Cutting

end FrontierBus.Text
