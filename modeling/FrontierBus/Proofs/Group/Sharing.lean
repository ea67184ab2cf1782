import FrontierBus.Broker.Group
import Mathlib.Data.List.Nodup
import Mathlib.Order.Monotone.Basic
import Mathlib.Tactic.Ring

/-!
# Sharing items out

The shares of a list are consecutive runs of it. A run starts where the one before it stops, and
the last one stops at the end of the list; so every run lies inside the list, every item is in
exactly one of them, and their lengths differ by at most one.
-/

namespace FrontierBus.Broker.Group

variable {Item : Type} {items : List Item} {item : Item} {total parts index : Nat}

/-- The length of the share with an index, of `parts` shares of a list with `total` items. -/
def shareLength (total parts index : Nat) : Nat :=
  total / parts + if index < total % parts then 1 else 0

/-- The place at which the share with an index starts. -/
def shareStart (total parts index : Nat) : Nat :=
  index * (total / parts) + min index (total % parts)

theorem share_eq_take_drop (items : List Item) (parts index : Nat) :
    share items parts index =
      (items.drop (shareStart items.length parts index)).take
        (shareLength items.length parts index) := rfl

@[simp]
theorem shareStart_zero : shareStart total parts 0 = 0 := by
  simp [shareStart]

theorem shareStart_succ :
    shareStart total parts (index + 1) =
      shareStart total parts index + shareLength total parts index := by
  have product : (index + 1) * (total / parts) = index * (total / parts) + total / parts := by
    ring
  simp only [shareStart, shareLength]
  rw [product]
  split <;> omega

theorem shareStart_parts (positive : 0 < parts) : shareStart total parts parts = total := by
  have rest : total % parts < parts := Nat.mod_lt total positive
  have whole : parts * (total / parts) + total % parts = total := Nat.div_add_mod total parts
  simp only [shareStart]
  omega

theorem shareStart_monotone (total parts : Nat) : Monotone (shareStart total parts) := by
  apply monotone_nat_of_le_succ
  intro index
  rw [shareStart_succ]
  omega

/-- A share lies inside the list. -/
theorem shareStart_add_shareLength_le (total : Nat) (inside : index < parts) :
    shareStart total parts index + shareLength total parts index ≤ total := by
  have stops := shareStart_monotone total parts (Nat.succ_le_of_lt inside)
  rw [shareStart_parts (by omega), Nat.succ_eq_add_one, shareStart_succ] at stops
  exact stops

theorem length_share (inside : index < parts) :
    (share items parts index).length = shareLength items.length parts index := by
  have fits := shareStart_add_shareLength_le items.length inside
  rw [share_eq_take_drop, List.length_take, List.length_drop]
  omega

theorem shareLength_le_succ (total parts index other : Nat) :
    shareLength total parts index ≤ shareLength total parts other + 1 := by
  simp only [shareLength]
  split <;> split <;> omega

theorem share_sublist (items : List Item) (parts index : Nat) :
    (share items parts index).Sublist items :=
  (List.take_sublist _ _).trans (List.drop_sublist _ _)

/-- The items of a share are those at the places from its start to the start of the next. -/
theorem mem_share_iff :
    item ∈ share items parts index ↔
      ∃ place, shareStart items.length parts index ≤ place ∧
        place < shareStart items.length parts (index + 1) ∧ items[place]? = some item := by
  rw [share_eq_take_drop, shareStart_succ, List.mem_iff_getElem?]
  constructor
  · rintro ⟨place, found⟩
    rw [List.getElem?_take] at found
    split at found
    · rename_i short
      rw [List.getElem?_drop] at found
      exact ⟨shareStart items.length parts index + place, by omega, by omega, found⟩
    · simp at found
  · rintro ⟨place, started, notStopped, found⟩
    refine ⟨place - shareStart items.length parts index, ?_⟩
    rw [List.getElem?_take_of_lt (by omega), List.getElem?_drop]
    rw [Nat.add_sub_cancel' started]
    exact found

theorem exists_share_of_lt_shareStart {place : Nat} :
    ∀ count, place < shareStart total parts count →
      ∃ index < count, shareStart total parts index ≤ place ∧
        place < shareStart total parts (index + 1) := by
  intro count
  induction count with
  | zero => simp
  | succ count hypothesis =>
      intro before
      rcases Nat.lt_or_ge place (shareStart total parts count) with earlier | here
      · rcases hypothesis earlier with ⟨index, index_lt, started, notStopped⟩
        exact ⟨index, by omega, started, notStopped⟩
      · exact ⟨count, by omega, here, before⟩

theorem exists_mem_share (positive : 0 < parts) (present : item ∈ items) :
    ∃ index < parts, item ∈ share items parts index := by
  rcases List.mem_iff_getElem?.mp present with ⟨place, found⟩
  have inside : place < items.length := (List.getElem?_eq_some_iff.mp found).1
  have before : place < shareStart items.length parts parts := by
    rw [shareStart_parts positive]
    exact inside
  rcases exists_share_of_lt_shareStart parts before with ⟨index, index_lt, started, notStopped⟩
  exact ⟨index, index_lt, mem_share_iff.mpr ⟨place, started, notStopped, found⟩⟩

/-- No item of a list without repetitions is in two shares. -/
theorem eq_of_mem_share (distinct : items.Nodup) {other : Nat}
    (here : item ∈ share items parts index) (there : item ∈ share items parts other) :
    index = other := by
  rcases mem_share_iff.mp here with ⟨place, started, notStopped, found⟩
  rcases mem_share_iff.mp there with ⟨otherPlace, otherStarted, otherNotStopped, otherFound⟩
  have inside : place < items.length := (List.getElem?_eq_some_iff.mp found).1
  have same : place = otherPlace :=
    (List.getElem?_inj inside distinct).mp (found.trans otherFound.symm)
  subst otherPlace
  rcases Nat.lt_trichotomy index other with earlier | same | later
  · have stops := shareStart_monotone items.length parts (Nat.succ_le_of_lt earlier)
    rw [Nat.succ_eq_add_one] at stops
    omega
  · exact same
  · have stops := shareStart_monotone items.length parts (Nat.succ_le_of_lt later)
    rw [Nat.succ_eq_add_one] at stops
    omega

end FrontierBus.Broker.Group
