import FrontierBus.Proofs.Group.Sharing
import Mathlib.Data.List.Basic

/-!
# Ownership within a group

Ownership is not stored: it is worked out from the members each time it is asked for. Members fit
together if their numbers differ, and no two of them hold the same partition of their own. Then
every partition has at most one owner, and exactly one as soon as some member takes a share of
what is free.
-/

namespace FrontierBus.Broker.Group

variable {group : Group} {count next partition id : Nat} {member : Member}

/-- The members of a group fit together, on a topic with `count` partitions and with numbers below
`next`. -/
structure WellFormed (group : Group) (count next : Nat) : Prop where
  ids_nodup : (group.members.map Member.id).Nodup
  id_lt : ∀ member ∈ group.members, member.id < next
  static_lt : ∀ member ∈ group.members, ∀ partition,
    member.assignment = .static partition → partition < count
  static_unique : ∀ first ∈ group.members, ∀ second ∈ group.members, ∀ partition,
    first.assignment = .static partition → second.assignment = .static partition →
      first.id = second.id
  cursors_nodup : ∀ member ∈ group.members, (member.cursors.map Cursor.partition).Nodup

/-- The group takes a member that asks for this, on a topic with `count` partitions. -/
def Admits (group : Group) (count : Nat) : Assignment → Prop
  | .dynamic => True
  | .static partition => partition < count ∧ group.isOwned partition = false

/-- The partitions of a topic are shared out among the members of a group. -/
structure SharedOut (group : Group) (count : Nat) : Prop where
  ids_nodup : (group.members.map Member.id).Nodup
  /-- No partition has two owners. -/
  disjoint : ∀ first ∈ group.members, ∀ second ∈ group.members, first.id ≠ second.id →
    (group.assigned count first.id).Disjoint (group.assigned count second.id)
  ascending : ∀ member ∈ group.members, (group.assigned count member.id).Pairwise (· < ·)
  lt_count : ∀ member ∈ group.members, ∀ partition ∈ group.assigned count member.id,
    partition < count
  /-- A static member owns what it asked for and nothing else. -/
  assigned_static : ∀ member ∈ group.members, ∀ partition,
    member.assignment = .static partition → group.assigned count member.id = [partition]
  /-- Beside a dynamic member no partition is without an owner. -/
  covered : ∀ sharer ∈ group.members, sharer.assignment = .dynamic → ∀ partition < count,
    ∃! owner, owner ∈ group.members ∧ partition ∈ group.assigned count owner.id
  balanced : ∀ first ∈ group.members, first.assignment = .dynamic →
    ∀ second ∈ group.members, second.assignment = .dynamic →
      (group.assigned count first.id).length ≤ (group.assigned count second.id).length + 1
  /-- What a dynamic member owns is a whole run of the free partitions, which ends inside them. -/
  sliced : ∀ member ∈ group.members, member.assignment = .dynamic →
    let total := (group.free count).length
    let parts := group.sharers.length
    let index := group.sharers.idxOf member.id
    index < parts ∧ shareStart total parts index + shareLength total parts index ≤ total ∧
      (group.assigned count member.id).length = shareLength total parts index

theorem mem_members_of_member? (found : group.member? id = some member) :
    member ∈ group.members :=
  List.mem_of_find?_eq_some found

theorem id_of_member? (found : group.member? id = some member) : member.id = id := by
  simpa using List.find?_some found

theorem find?_id_of_mem {members : List Member} (distinct : (members.map Member.id).Nodup)
    (present : member ∈ members) :
    members.find? (fun other => other.id = member.id) = some member := by
  induction members with
  | nil => simp at present
  | cons first rest hypothesis =>
      rw [List.map_cons, List.nodup_cons] at distinct
      rcases List.mem_cons.mp present with rfl | later
      · simp
      · have different : first.id ≠ member.id := by
          intro same
          apply distinct.1
          rw [same]
          exact List.mem_map_of_mem later
        rw [List.find?_cons_of_neg (by simpa using different)]
        exact hypothesis distinct.2 later

theorem member?_of_mem (distinct : (group.members.map Member.id).Nodup)
    (present : member ∈ group.members) : group.member? member.id = some member :=
  find?_id_of_mem distinct present

theorem isOwned_iff :
    group.isOwned partition = true ↔
      ∃ member ∈ group.members, member.assignment = .static partition := by
  simp [isOwned]

theorem not_static_of_not_isOwned (isFree : group.isOwned partition = false)
    (present : member ∈ group.members) : member.assignment ≠ .static partition := by
  intro isStatic
  rw [isOwned_iff.mpr ⟨member, present, isStatic⟩] at isFree
  simp at isFree

theorem mem_free_iff :
    partition ∈ group.free count ↔ partition < count ∧ group.isOwned partition = false := by
  simp [free]

theorem free_pairwise_lt (group : Group) (count : Nat) :
    (group.free count).Pairwise (· < ·) :=
  List.pairwise_lt_range.filter _

theorem mem_sharers_iff :
    id ∈ group.sharers ↔
      ∃ member ∈ group.members, member.assignment = .dynamic ∧ member.id = id := by
  simp [sharers, and_assoc]

theorem sharers_nodup (distinct : (group.members.map Member.id).Nodup) : group.sharers.Nodup :=
  distinct.sublist (List.filter_sublist.map _)

theorem assigned_of_member?_none (absent : group.member? id = none) :
    group.assigned count id = [] := by
  simp [assigned, absent]

theorem assigned_eq_singleton (found : group.member? id = some member)
    (isStatic : member.assignment = .static partition) :
    group.assigned count id = [partition] := by
  simp [assigned, found, isStatic]

theorem assigned_eq_share (found : group.member? id = some member)
    (isDynamic : member.assignment = .dynamic) :
    group.assigned count id =
      share (group.free count) group.sharers.length (group.sharers.idxOf id) := by
  simp [assigned, found, isDynamic]

theorem assigned_sublist_free (found : group.member? id = some member)
    (isDynamic : member.assignment = .dynamic) :
    (group.assigned count id).Sublist (group.free count) := by
  rw [assigned_eq_share found isDynamic]
  exact share_sublist _ _ _

theorem assigned_pairwise_lt (group : Group) (count id : Nat) :
    (group.assigned count id).Pairwise (· < ·) := by
  cases found : group.member? id with
  | none =>
      rw [assigned_of_member?_none found]
      exact List.Pairwise.nil
  | some member =>
      cases assignment : member.assignment with
      | static partition =>
          rw [assigned_eq_singleton found assignment]
          exact List.pairwise_singleton _ _
      | dynamic =>
          exact (free_pairwise_lt group count).sublist (assigned_sublist_free found assignment)

theorem assigned_nodup (group : Group) (count id : Nat) : (group.assigned count id).Nodup :=
  (assigned_pairwise_lt group count id).imp Nat.ne_of_lt

theorem idxOf_lt_sharers (present : member ∈ group.members)
    (isDynamic : member.assignment = .dynamic) :
    group.sharers.idxOf member.id < group.sharers.length :=
  List.idxOf_lt_length_of_mem (mem_sharers_iff.mpr ⟨member, present, isDynamic, rfl⟩)

namespace WellFormed

theorem member? (fit : group.WellFormed count next) (present : member ∈ group.members) :
    group.member? member.id = some member :=
  member?_of_mem fit.ids_nodup present

theorem lt_count_of_mem_assigned (fit : group.WellFormed count next)
    (owned : partition ∈ group.assigned count id) : partition < count := by
  cases found : group.member? id with
  | none => simp [assigned_of_member?_none found] at owned
  | some member =>
      cases assignment : member.assignment with
      | static wanted =>
          rw [assigned_eq_singleton found assignment, List.mem_singleton] at owned
          subst partition
          exact fit.static_lt member (mem_members_of_member? found) wanted assignment
      | dynamic =>
          exact (mem_free_iff.mp ((assigned_sublist_free found assignment).mem owned)).1

/-- A partition that a dynamic member owns is not one that a static member asked for. -/
theorem not_static_of_shared (found : group.member? id = some member)
    (isDynamic : member.assignment = .dynamic) (owned : partition ∈ group.assigned count id)
    {owner : Member} (present : owner ∈ group.members) :
    owner.assignment ≠ .static partition := by
  have isFree := (mem_free_iff.mp ((assigned_sublist_free found isDynamic).mem owned)).2
  exact not_static_of_not_isOwned isFree present

/-- A partition has at most one owner. -/
theorem owner_unique (fit : group.WellFormed count next) {other : Nat}
    (owned : partition ∈ group.assigned count id)
    (otherOwned : partition ∈ group.assigned count other) : id = other := by
  cases found : group.member? id with
  | none => simp [assigned_of_member?_none found] at owned
  | some first =>
      cases otherFound : group.member? other with
      | none => simp [assigned_of_member?_none otherFound] at otherOwned
      | some second =>
          have present := mem_members_of_member? found
          have otherPresent := mem_members_of_member? otherFound
          cases assignment : first.assignment with
          | static wanted =>
              have isWanted := owned
              rw [assigned_eq_singleton found assignment, List.mem_singleton] at isWanted
              subst wanted
              cases otherAssignment : second.assignment with
              | static otherWanted =>
                  rw [assigned_eq_singleton otherFound otherAssignment,
                    List.mem_singleton] at otherOwned
                  subst otherWanted
                  rw [← id_of_member? found, ← id_of_member? otherFound]
                  exact fit.static_unique first present second otherPresent partition
                    assignment otherAssignment
              | dynamic =>
                  exact absurd assignment
                    (not_static_of_shared otherFound otherAssignment otherOwned present)
          | dynamic =>
              cases otherAssignment : second.assignment with
              | static otherWanted =>
                  have isWanted := otherOwned
                  rw [assigned_eq_singleton otherFound otherAssignment,
                    List.mem_singleton] at isWanted
                  subst otherWanted
                  exact absurd otherAssignment
                    (not_static_of_shared found assignment owned otherPresent)
              | dynamic =>
                  rw [assigned_eq_share found assignment] at owned
                  rw [assigned_eq_share otherFound otherAssignment] at otherOwned
                  have sameIndex := eq_of_mem_share
                    ((free_pairwise_lt group count).imp Nat.ne_of_lt) owned otherOwned
                  have isSharer : id ∈ group.sharers :=
                    mem_sharers_iff.mpr ⟨first, present, assignment, id_of_member? found⟩
                  exact (List.idxOf_inj isSharer).mp sameIndex

/-- Beside a dynamic member every partition has an owner. -/
theorem exists_owner (fit : group.WellFormed count next) {sharer : Member}
    (present : sharer ∈ group.members) (isDynamic : sharer.assignment = .dynamic)
    (inside : partition < count) :
    ∃ owner ∈ group.members, partition ∈ group.assigned count owner.id := by
  cases owned : group.isOwned partition with
  | true =>
      rcases isOwned_iff.mp owned with ⟨owner, ownerPresent, isStatic⟩
      refine ⟨owner, ownerPresent, ?_⟩
      rw [assigned_eq_singleton (fit.member? ownerPresent) isStatic]
      exact List.mem_singleton_self partition
  | false =>
      have some_sharer : 0 < group.sharers.length :=
        Nat.zero_lt_of_lt (idxOf_lt_sharers present isDynamic)
      rcases exists_mem_share some_sharer (mem_free_iff.mpr ⟨inside, owned⟩) with
        ⟨index, index_lt, shared⟩
      have isSharer : group.sharers[index] ∈ group.sharers := List.getElem_mem index_lt
      rcases mem_sharers_iff.mp isSharer with ⟨owner, ownerPresent, ownerDynamic, numbered⟩
      refine ⟨owner, ownerPresent, ?_⟩
      rw [assigned_eq_share (fit.member? ownerPresent) ownerDynamic, numbered,
        (sharers_nodup fit.ids_nodup).idxOf_getElem]
      exact shared

theorem length_assigned (fit : group.WellFormed count next) (present : member ∈ group.members)
    (isDynamic : member.assignment = .dynamic) :
    (group.assigned count member.id).length =
      shareLength (group.free count).length group.sharers.length
        (group.sharers.idxOf member.id) := by
  rw [assigned_eq_share (fit.member? present) isDynamic]
  exact length_share (idxOf_lt_sharers present isDynamic)

theorem sharedOut (fit : group.WellFormed count next) : group.SharedOut count where
  ids_nodup := fit.ids_nodup
  disjoint := by
    intro first _ second _ different partition owned otherOwned
    exact different (fit.owner_unique owned otherOwned)
  ascending := fun member _ => assigned_pairwise_lt group count member.id
  lt_count := fun _ _ _ owned => fit.lt_count_of_mem_assigned owned
  assigned_static := fun _ present _ isStatic =>
    assigned_eq_singleton (fit.member? present) isStatic
  covered := by
    intro sharer present isDynamic partition inside
    rcases fit.exists_owner present isDynamic inside with ⟨owner, ownerPresent, owned⟩
    refine ⟨owner, ⟨ownerPresent, owned⟩, ?_⟩
    rintro other ⟨otherPresent, otherOwned⟩
    have sameId := fit.owner_unique otherOwned owned
    have found := fit.member? otherPresent
    rw [sameId, fit.member? ownerPresent] at found
    exact (Option.some.inj found).symm
  balanced := by
    intro first present isDynamic second otherPresent otherDynamic
    rw [fit.length_assigned present isDynamic, fit.length_assigned otherPresent otherDynamic]
    exact shareLength_le_succ _ _ _ _
  sliced := fun _ present isDynamic =>
    have inside := idxOf_lt_sharers present isDynamic
    ⟨inside, shareStart_add_shareLength_le _ inside, fit.length_assigned present isDynamic⟩

end WellFormed

end FrontierBus.Broker.Group
