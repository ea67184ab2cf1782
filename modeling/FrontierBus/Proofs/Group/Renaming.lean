import FrontierBus.Broker.Group
import Mathlib.Logic.Function.Basic

/-!
# Renaming members

A group knows its members by numbers, and only compares them. So a group whose members have other
numbers, no two of them the same, does the same in every respect.
-/

namespace FrontierBus.Broker

/-- The member with another number. -/
def Member.rename (rename : Nat → Nat) (member : Member) : Member :=
  { member with id := rename member.id }

namespace Group

/-- The group with other numbers for its members. -/
def rename (rename : Nat → Nat) (group : Group) : Group :=
  { group with members := group.members.map (Member.rename rename) }

variable {rename : Nat → Nat} {group : Group} {id partition : Nat}

theorem length_members_rename (rename : Nat → Nat) (group : Group) :
    (group.rename rename).members.length = group.members.length :=
  List.length_map _

theorem isOwned_rename (rename : Nat → Nat) (group : Group) (partition : Nat) :
    (group.rename rename).isOwned partition = group.isOwned partition := by
  simp only [isOwned, Group.rename, List.any_map]
  rfl

theorem free_rename (rename : Nat → Nat) (group : Group) (count : Nat) :
    (group.rename rename).free count = group.free count := by
  simp only [free, isOwned_rename]

theorem sharers_rename (rename : Nat → Nat) (group : Group) :
    (group.rename rename).sharers = group.sharers.map rename := by
  simp only [sharers, Group.rename, List.filter_map, List.map_map]
  rfl

theorem rename_enlist (rename : Nat → Nat) (group : Group) (id : Nat) (assignment : Assignment) :
    (group.enlist id assignment).rename rename =
      (group.rename rename).enlist (rename id) assignment := by
  simp [enlist, Group.rename, Member.rename]

section Injective

variable (injective : Function.Injective rename)
include injective

theorem idxOf_map (ids : List Nat) (id : Nat) : (ids.map rename).idxOf (rename id) = ids.idxOf id := by
  induction ids with
  | nil => rfl
  | cons first ids hypothesis =>
      rw [List.map_cons, List.idxOf_cons, List.idxOf_cons, hypothesis]
      have same : (rename first == rename id) = (first == id) :=
        decide_eq_decide.mpr injective.eq_iff
      rw [same]

theorem member?_rename (group : Group) (id : Nat) :
    (group.rename rename).member? (rename id) = (group.member? id).map (Member.rename rename) := by
  have same : (fun member : Member => decide (member.id = rename id)) ∘ Member.rename rename =
      fun member => decide (member.id = id) := by
    funext member
    exact decide_eq_decide.mpr injective.eq_iff
  simp only [member?, Group.rename, List.find?_map]
  rw [same]

theorem assigned_rename (group : Group) (count id : Nat) :
    (group.rename rename).assigned count (rename id) = group.assigned count id := by
  simp only [assigned, member?_rename injective]
  cases group.member? id with
  | none => rfl
  | some member =>
      cases assignment : member.assignment with
      | static partition => simp [Member.rename, assignment]
      | dynamic =>
          simp [Member.rename, assignment, free_rename, sharers_rename, idxOf_map injective]

theorem freshCursors_rename (group : Group) (count : Nat) (member : Member) :
    (group.rename rename).freshCursors count (member.rename rename) =
      group.freshCursors count member := by
  simp only [freshCursors]
  have owned : (group.rename rename).assigned count (member.rename rename).id =
      group.assigned count member.id := assigned_rename injective group count member.id
  rw [owned]
  rfl

theorem rename_setCursors (group : Group) (id : Nat) (cursors : List Cursor) :
    (group.setCursors id cursors).rename rename =
      (group.rename rename).setCursors (rename id) cursors := by
  simp only [setCursors, Group.rename, List.map_map]
  congr 2
  funext member
  by_cases same : member.id = id
  · simp [Member.rename, same]
  · have different : rename member.id ≠ rename id := fun equal => same (injective equal)
    simp [Member.rename, same, different]

theorem rename_dismiss (group : Group) (id : Nat) :
    (group.dismiss id).rename rename = (group.rename rename).dismiss (rename id) := by
  have same : (fun member : Member => decide (member.id ≠ rename id)) ∘ Member.rename rename =
      fun member => decide (member.id ≠ id) := by
    funext member
    exact decide_eq_decide.mpr (not_congr injective.eq_iff)
  simp only [dismiss, Group.rename, List.filter_map]
  rw [same]

theorem rename_commit (group : Group) (count id : Nat) :
    (group.commit count id).rename rename = (group.rename rename).commit count (rename id) := by
  simp only [commit, member?_rename injective, assigned_rename injective]
  cases group.member? id with
  | none => rfl
  | some member => rfl

end Injective

end Group

end FrontierBus.Broker
