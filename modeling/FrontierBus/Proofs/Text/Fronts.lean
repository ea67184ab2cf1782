import FrontierBus.Text.Blank
import FrontierBus.Text.Utf8
import Mathlib.Data.List.DropRight
import Mathlib.Tactic.Tauto

/-!
# Texts with a plain front

Octets that begin with ASCII are read as that text and what the rest is read as, even if the rest is
no text. Taking padding off such a text leaves its front as it is.
-/

namespace FrontierBus.Text

/-- What holds of each ASCII character by its code holds of any. -/
theorem forall_ascii (holds : Char → Prop) (each : ∀ code < 128, holds (Char.ofNat code))
    {character : Char} (plain : character.toNat < 128) : holds character := by
  have found := each character.toNat plain
  rwa [Char.ofNat_toNat] at found

/-- An ASCII character that is seen. -/
def isGraphic (character : Char) : Bool :=
  0x20 < character.toNat && character.toNat < 0x7F

/-- What holds of each ASCII character that is seen, by its code, holds of any. -/
theorem forall_graphic (holds : Char → Prop)
    (each : ∀ code < 128, isGraphic (Char.ofNat code) = true → holds (Char.ofNat code))
    {character : Char} (graphic : isGraphic character = true) : holds character := by
  have plain : character.toNat < 128 := by
    simp only [isGraphic, Bool.and_eq_true, decide_eq_true_eq] at graphic
    omega
  exact forall_ascii (fun character => isGraphic character = true → holds character) each plain
    graphic

section Boundary

variable {goesOn : Char → Bool} {front rest : List Char}
  (inside : ∀ character ∈ front, goesOn character = true)
  (boundary : ∀ first, rest.head? = some first → goesOn first = false)

include inside boundary

theorem takeWhile_append_eq : (front ++ rest).takeWhile goesOn = front := by
  rw [List.takeWhile_append_of_pos inside]
  cases rest with
  | nil => simp
  | cons first others => simp [boundary first rfl]

theorem dropWhile_append_eq : (front ++ rest).dropWhile goesOn = rest := by
  rw [List.dropWhile_append_of_pos inside]
  cases rest with
  | nil => rfl
  | cons first others => simp [boundary first rfl]

end Boundary

/-- Padding at the end of a text is behind the last character that is no padding. -/
theorem rdropWhile_append {drop : Char → Bool} {front : List Char}
    (solid : ∀ last, front.getLast? = some last → drop last = false) (rest : List Char) :
    (front ++ rest).rdropWhile drop = front ++ rest.rdropWhile drop := by
  have stays : front.reverse.dropWhile drop = front.reverse := by
    cases isReverse : front.reverse with
    | nil => rfl
    | cons last others =>
        rw [← List.head?_reverse, isReverse] at solid
        exact List.dropWhile_cons_of_neg (by simp [solid last rfl])
  rw [List.rdropWhile, List.reverse_append, List.dropWhile_append, stays, List.rdropWhile]
  split
  · rename_i nothing
    rw [List.isEmpty_iff.mp nothing]
    simp
  · simp

/-- Padding is taken off the end only, if the text begins with something that is no padding. -/
theorem strip_append {drop : Char → Bool} {front : List Char} (something : front ≠ [])
    (solid : ∀ character ∈ front, drop character = false) (rest : List Char) :
    strip drop (front ++ rest) = front ++ rest.rdropWhile drop := by
  have begins : (front ++ rest).dropWhile drop = front ++ rest := by
    cases front with
    | nil => exact absurd rfl something
    | cons first others => exact List.dropWhile_cons_of_neg (by simp [solid first])
  rw [strip, begins]
  exact rdropWhile_append (fun last isLast => solid last (List.mem_of_getLast? isLast)) rest

theorem splitAt_ne_nil (separator : Char) (text : List Char) : splitAt separator text ≠ [] := by
  fun_cases splitAt separator text with
  | _ => simp

/-- The characters of the pieces are those of the text, but for the separators. -/
theorem forall_splitAt_iff {separator : Char} {text : List Char} {holds : Char → Prop} :
    (∀ piece ∈ splitAt separator text, ∀ character ∈ piece, holds character) ↔
      ∀ character ∈ text, character ≠ separator → holds character := by
  fun_induction splitAt separator text with
  | case1 => simp
  | case2 rest hypothesis => simp [hypothesis]
  | case3 character rest _ isSplit => exact absurd isSplit (splitAt_ne_nil separator rest)
  | case4 character rest other piece pieces isSplit hypothesis =>
      rw [isSplit, List.forall_mem_cons] at hypothesis
      rw [List.forall_mem_cons, List.forall_mem_cons, List.forall_mem_cons, ← hypothesis]
      tauto

namespace Utf8

variable {character : Char} {octets : ByteArray}

/-- An ASCII character is written as one octet. -/
theorem encode_ascii (plain : character.toNat < 128) :
    [character].utf8Encode = [character.toUInt8].toByteArray := by
  have single : character.utf8Size = 1 := by
    rw [Char.utf8Size_eq_one_iff, UInt32.le_iff_toNat_le]
    exact Nat.le_of_lt_succ plain
  rw [List.utf8Encode_singleton, String.utf8EncodeChar_eq_singleton single]
  rfl

theorem toUTF8_ascii {text : List Char} (plain : ∀ character ∈ text, character.toNat < 128) :
    (String.ofList text).toUTF8 = (text.map Char.toUInt8).toByteArray := by
  change (String.ofList text).toByteArray = _
  rw [String.toByteArray_ofList]
  induction text with
  | nil => rfl
  | cons first rest hypothesis =>
      rcases List.forall_mem_cons.mp plain with ⟨plainFirst, plainRest⟩
      rw [List.utf8Encode_cons, encode_ascii plainFirst, hypothesis plainRest,
        ← List.toByteArray_append]
      rfl

theorem pieces_ascii (plain : character.toNat < 128) (rest : List UInt8) :
    pieces (character.toUInt8 :: rest) = .scalar character :: pieces rest := by
  have same : character.toUInt8.toNat = character.toNat :=
    Nat.mod_eq_of_lt (Nat.lt_trans plain (by decide))
  have small : character.toUInt8 < 0x80 := by
    rw [UInt8.lt_iff_toNat_lt, same]
    exact plain
  rw [pieces, if_pos small, same, Char.ofNat_toNat]

theorem fromUTF8?_eq_some {text : String} (isText : text.toByteArray = octets) :
    String.fromUTF8? octets = some text := by
  subst isText
  rw [String.fromUTF8?, dif_pos text.isValidUTF8]
  rfl

/-- A text is read as itself. -/
theorem decode_toUTF8 (text : String) : decode text.toUTF8 = .ok text := by
  have isText : text.toByteArray = text.toUTF8 := rfl
  rw [decode, fromUTF8?_eq_some isText]

theorem lossy_of_valid {text : String} (isText : text.toByteArray = octets) :
    lossy octets = text := by
  rw [lossy, fromUTF8?_eq_some isText]

theorem lossy_of_not_valid (invalid : ¬octets.IsValidUTF8) :
    lossy octets = String.ofList ((pieces octets.data.toList).map Piece.replaced) := by
  rw [lossy, String.fromUTF8?, dif_neg invalid]

theorem toList_lossy_cons (plain : character.toNat < 128) (octets : ByteArray) :
    (lossy ([character].utf8Encode ++ octets)).toList = character :: (lossy octets).toList := by
  by_cases valid : octets.IsValidUTF8
  · rcases valid with ⟨text, rfl⟩
    rw [lossy_of_valid String.toByteArray_ofList, ← List.utf8Encode_append,
      lossy_of_valid String.toByteArray_ofList]
    simp
  · have invalid : ¬([character].utf8Encode ++ octets).IsValidUTF8 :=
      mt ByteArray.isValidUTF8_utf8Encode_singleton_append_iff.mp valid
    rw [lossy_of_not_valid valid, lossy_of_not_valid invalid, encode_ascii plain]
    simp [pieces_ascii plain, Piece.replaced]

/-- Octets that begin with ASCII are read as that and what the others are read as. -/
theorem toList_lossy_append {front : List Char} (plain : ∀ character ∈ front, character.toNat < 128)
    (octets : ByteArray) :
    (lossy ((String.ofList front).toUTF8 ++ octets)).toList = front ++ (lossy octets).toList := by
  change (lossy ((String.ofList front).toByteArray ++ octets)).toList = _
  rw [String.toByteArray_ofList]
  induction front with
  | nil => simp
  | cons first rest hypothesis =>
      rcases List.forall_mem_cons.mp plain with ⟨plainFirst, plainRest⟩
      rw [List.utf8Encode_cons, ByteArray.append_assoc, toList_lossy_cons plainFirst,
        hypothesis plainRest]
      rfl

end Utf8

end FrontierBus.Text
