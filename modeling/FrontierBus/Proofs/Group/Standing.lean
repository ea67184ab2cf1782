import FrontierBus.Proofs.Group.Changes

/-!
# Where static members stand

A static member owns the partition that it asked for, whoever else is there. So each change of a
group is told by what its members asked for and where they stand.
-/

namespace FrontierBus.Broker.Group

variable {group : Group} {count next partition id other : Nat} {member : Member}
  {assignment : Assignment} {cursors : List Cursor}

/-- What the member with a number asked for. -/
def wanted? (group : Group) (id : Nat) : Option Assignment :=
  (group.member? id).map Member.assignment

theorem wanted?_eq_some :
    group.wanted? id = some assignment ↔
      ∃ member, group.member? id = some member ∧ member.assignment = assignment := by
  simp [wanted?]

theorem mem_assigned_of_wanted? (wants : group.wanted? id = some (.static partition))
    (count : Nat) : partition ∈ group.assigned count id := by
  rcases wanted?_eq_some.mp wants with ⟨member, found, isStatic⟩
  rw [assigned_eq_singleton found isStatic]
  exact List.mem_singleton_self partition

theorem wanted?_of_mem_assigned (isStatic : group.wanted? id ≠ some .dynamic)
    (owned : partition ∈ group.assigned count id) :
    group.wanted? id = some (.static partition) := by
  cases found : group.member? id with
  | none => simp [assigned_of_member?_none found] at owned
  | some member =>
      have wants : group.wanted? id = some member.assignment := by simp [wanted?, found]
      cases assignment : member.assignment with
      | dynamic =>
          rw [wants, assignment] at isStatic
          exact absurd rfl isStatic
      | static own =>
          rw [assigned_eq_singleton found assignment, List.mem_singleton] at owned
          rw [wants, assignment, owned]

theorem wanted?_enlist (group : Group) (newcomer : Nat) (assignment : Assignment) (id : Nat) :
    (group.enlist newcomer assignment).wanted? id =
      (group.wanted? id).or (if newcomer = id then some assignment else none) := by
  simp only [wanted?]
  rw [member?_enlist]
  cases group.member? id with
  | some member => rfl
  | none =>
      simp only [Option.none_or, Option.map_none]
      split
      · rfl
      · rfl

theorem wanted?_dismiss (group : Group) (gone id : Nat) :
    (group.dismiss gone).wanted? id = if id = gone then none else group.wanted? id := by
  simp only [wanted?]
  rw [member?_dismiss]
  split
  · rfl
  · rfl

@[simp]
theorem wanted?_setCursors (group : Group) (reader : Nat) (cursors : List Cursor) (id : Nat) :
    (group.setCursors reader cursors).wanted? id = group.wanted? id := by
  simp only [wanted?]
  rw [member?_setCursors]
  cases group.member? id with
  | none => rfl
  | some member =>
      simp only [Option.map_some]
      split
      · rfl
      · rfl

@[simp]
theorem wanted?_commit (group : Group) (count committer id : Nat) :
    (group.commit count committer).wanted? id = group.wanted? id := by
  simp only [commit]
  split
  · rfl
  · rfl

@[simp]
theorem standing_enlist (group : Group) (newcomer : Nat) (assignment : Assignment)
    (id partition : Nat) :
    (group.enlist newcomer assignment).standing id partition = group.standing id partition := by
  simp only [standing]
  rw [remembered?_enlist]
  rfl

theorem standing_dismiss (different : id ≠ other) (partition : Nat) :
    (group.dismiss other).standing id partition = group.standing id partition := by
  simp only [standing, remembered?]
  rw [member?_dismiss, if_neg different]
  rfl

theorem standing_setCursors_of_ne (different : id ≠ other) (cursors : List Cursor)
    (partition : Nat) :
    (group.setCursors other cursors).standing id partition = group.standing id partition := by
  simp only [standing]
  rw [remembered?_setCursors_of_ne different]
  rfl

/-- Checking off leaves the owner of a partition where it stands, whoever checks off. -/
theorem standing_commit (fit : group.WellFormed count next)
    (owned : partition ∈ group.assigned count id) (committer : Nat) :
    (group.commit count committer).standing id partition = group.standing id partition := by
  cases recalled : group.remembered? id partition with
  | some position =>
      rw [standing, remembered?_commit, recalled, standing_of_remembered? recalled]
      rfl
  | none =>
      rw [standing, remembered?_commit, recalled, Option.getD_none, startOffset_commit fit]
      split
      · rename_i alsoOwned
        rw [fit.owner_unique alsoOwned owned]
      · rw [standing_of_not_remembered recalled]

/-- Whoever joins stands where reading starts. -/
theorem standing_of_not_member (absent : group.member? id = none) (partition : Nat) :
    group.standing id partition = group.startOffset partition := by
  apply standing_of_not_remembered
  simp [remembered?, absent]

theorem WellFormed.not_member (fit : group.WellFormed count next) :
    group.member? next = none := by
  cases found : group.member? next with
  | none => rfl
  | some member =>
      have below := fit.id_lt member (mem_members_of_member? found)
      rw [id_of_member? found] at below
      exact absurd below (Nat.lt_irrefl next)

theorem WellFormed.wanted?_unique (fit : group.WellFormed count next)
    (wants : group.wanted? id = some (.static partition))
    (otherWants : group.wanted? other = some (.static partition)) : id = other := by
  have owned := mem_assigned_of_wanted? wants count
  have otherOwned := mem_assigned_of_wanted? otherWants count
  exact fit.owner_unique owned otherOwned

end FrontierBus.Broker.Group
