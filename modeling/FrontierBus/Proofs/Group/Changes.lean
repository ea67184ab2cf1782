import FrontierBus.Proofs.Broker.Views
import FrontierBus.Proofs.Group.Ownership

/-!
# Changes of a group

Members join and leave, are handed messages, and check off what they have read. What this does to
the places that members remember, to the checkpoints and to the fit of the members is told change
by change. Only checking off touches the checkpoints, and only reading adds to what a member
remembers.
-/

namespace FrontierBus.Broker

/-- Where a member has read to in a partition, if it remembers. -/
def Member.remembered? (member : Member) (partition : Nat) : Option Nat :=
  (member.cursors.find? fun cursor => cursor.partition = partition).map Cursor.position

namespace Group

/-- Where the member with a number has read to in a partition, if it remembers. -/
def remembered? (group : Group) (id partition : Nat) : Option Nat :=
  (group.member? id).bind fun member => member.remembered? partition

/-- The offset that a member reads next in a partition. -/
def standing (group : Group) (id partition : Nat) : Nat :=
  (group.remembered? id partition).getD (group.startOffset partition)

variable {group : Group} {count next partition id other position : Nat} {member : Member}
  {assignment : Assignment} {cursors : List Cursor}

theorem standing_of_remembered? (remembers : group.remembered? id partition = some position) :
    group.standing id partition = position := by
  rw [standing, remembers, Option.getD_some]

theorem standing_of_not_remembered (forgotten : group.remembered? id partition = none) :
    group.standing id partition = group.startOffset partition := by
  rw [standing, forgotten, Option.getD_none]

theorem remembered?_of_member? (found : group.member? id = some member) (partition : Nat) :
    group.remembered? id partition = member.remembered? partition := by
  simp [remembered?, found]

theorem member?_enlist (group : Group) (newcomer : Nat) (assignment : Assignment) (id : Nat) :
    (group.enlist newcomer assignment).member? id =
      (group.member? id).or (if newcomer = id then some ⟨newcomer, assignment, []⟩ else none) := by
  simp [member?, enlist, List.find?_append, List.find?_singleton]

/-- A newcomer remembers nothing. -/
theorem remembered?_enlist (group : Group) (newcomer : Nat) (assignment : Assignment)
    (id partition : Nat) :
    (group.enlist newcomer assignment).remembered? id partition =
      group.remembered? id partition := by
  simp only [remembered?]
  rw [member?_enlist]
  cases group.member? id with
  | some member => rfl
  | none =>
      rw [Option.none_or]
      split
      · rfl
      · rfl

theorem member?_dismiss (group : Group) (gone id : Nat) :
    (group.dismiss gone).member? id = if id = gone then none else group.member? id := by
  simp only [member?, dismiss]
  rw [List.find?_filter]
  by_cases same : id = gone
  · subst same
    simp
  · rw [if_neg same]
    congr 1
    funext member
    by_cases here : member.id = id
    · simp [here, same]
    · simp [here]

theorem remembered?_dismiss (remembered : (group.dismiss other).remembered? id partition =
    some position) : group.remembered? id partition = some position := by
  simp only [remembered?] at remembered ⊢
  rw [member?_dismiss] at remembered
  split at remembered
  · simp at remembered
  · exact remembered

theorem member?_setCursors (group : Group) (reader : Nat) (cursors : List Cursor) (id : Nat) :
    (group.setCursors reader cursors).member? id =
      (group.member? id).map fun member =>
        if member.id = reader then { member with cursors } else member := by
  simp only [member?, setCursors]
  rw [List.find?_map]
  congr 2
  funext member
  simp only [Function.comp_apply]
  split
  · rfl
  · rfl

theorem remembered?_setCursors_self (live : group.member? id = some member)
    (cursors : List Cursor) (partition : Nat) :
    (group.setCursors id cursors).remembered? id partition =
      (cursors.find? fun cursor => cursor.partition = partition).map Cursor.position := by
  simp only [remembered?]
  rw [member?_setCursors, live]
  simp [id_of_member? live, Member.remembered?]

theorem remembered?_setCursors_of_ne (different : id ≠ other) (cursors : List Cursor)
    (partition : Nat) :
    (group.setCursors other cursors).remembered? id partition =
      group.remembered? id partition := by
  simp only [remembered?]
  rw [member?_setCursors]
  cases live : group.member? id with
  | none => rfl
  | some member =>
      have elsewhere : member.id ≠ other := by rwa [id_of_member? live]
      simp [elsewhere]

theorem position_cursor (group : Group) (member : Member) (partition : Nat) :
    (group.cursor member partition).position =
      (member.remembered? partition).getD (group.startOffset partition) := by
  simp only [cursor, Member.remembered?]
  cases member.cursors.find? fun cursor => cursor.partition = partition with
  | none => rfl
  | some cursor => rfl

theorem partition_cursor (group : Group) (member : Member) (partition : Nat) :
    (group.cursor member partition).partition = partition := by
  simp only [cursor]
  cases found : member.cursors.find? fun cursor => cursor.partition = partition with
  | none => rfl
  | some cursor => simpa using List.find?_some found

theorem map_partition_freshCursors (group : Group) (count : Nat) (member : Member) :
    (group.freshCursors count member).map Cursor.partition = group.assigned count member.id := by
  rw [freshCursors, List.map_map]
  refine Eq.trans (List.map_congr_left ?_) (List.map_id _)
  intro partition _
  exact partition_cursor group member partition

/-- Fresh cursors are in the partitions that the member owns, where it has read to or where it
would start. -/
theorem of_mem_freshCursors {cursor : Cursor} (present : cursor ∈ group.freshCursors count member) :
    cursor.partition ∈ group.assigned count member.id ∧
      cursor.position =
        (member.remembered? cursor.partition).getD (group.startOffset cursor.partition) := by
  rcases List.mem_map.mp present with ⟨partition, owned, rfl⟩
  rw [partition_cursor]
  exact ⟨owned, position_cursor group member partition⟩

@[simp]
theorem remembered?_commit (group : Group) (count committer id partition : Nat) :
    (group.commit count committer).remembered? id partition = group.remembered? id partition := by
  simp only [commit]
  split
  · rfl
  · rfl

theorem lookup_foldl_setCheckpoint_of_not_mem {cursors : List Cursor}
    (absent : partition ∉ cursors.map Cursor.partition) (committed : List (Nat × Nat)) :
    (cursors.foldl (fun committed cursor =>
      setCheckpoint cursor.partition cursor.position committed) committed).lookup partition =
      committed.lookup partition := by
  induction cursors generalizing committed with
  | nil => rfl
  | cons cursor cursors hypothesis =>
      rw [List.map_cons, List.mem_cons, not_or] at absent
      rw [List.foldl_cons, hypothesis absent.2, lookup_setCheckpoint, if_neg absent.1]

/-- Setting the checkpoints of several partitions sets that of each to its cursor. -/
theorem lookup_foldl_setCheckpoint {cursors : List Cursor}
    (distinct : (cursors.map Cursor.partition).Nodup) (committed : List (Nat × Nat))
    (partition : Nat) :
    (cursors.foldl (fun committed cursor =>
      setCheckpoint cursor.partition cursor.position committed) committed).lookup partition =
      ((cursors.find? fun cursor => cursor.partition = partition).map Cursor.position).or
        (committed.lookup partition) := by
  induction cursors generalizing committed with
  | nil => rfl
  | cons cursor cursors hypothesis =>
      rw [List.map_cons, List.nodup_cons] at distinct
      rw [List.foldl_cons]
      by_cases here : cursor.partition = partition
      · rw [List.find?_cons_of_pos (by simpa using here),
          lookup_foldl_setCheckpoint_of_not_mem (here ▸ distinct.1), lookup_setCheckpoint,
          if_pos here.symm]
        rfl
      · rw [List.find?_cons_of_neg (by simpa using here), hypothesis distinct.2,
          lookup_setCheckpoint, if_neg (Ne.symm here)]

theorem find?_filter_partition (cursors : List Cursor) (owned : List Nat) (partition : Nat) :
    (cursors.filter fun cursor => owned.contains cursor.partition).find?
        (fun cursor => cursor.partition = partition) =
      if partition ∈ owned then cursors.find? (fun cursor => cursor.partition = partition)
      else none := by
  rw [List.find?_filter]
  split
  · rename_i isOwned
    congr 1
    funext cursor
    by_cases here : cursor.partition = partition
    · simp [here, isOwned]
    · simp [here]
  · rename_i notOwned
    rw [List.find?_eq_none]
    intro cursor _ both
    simp only [List.contains_iff_mem, decide_eq_true_eq] at both
    exact notOwned (both.2 ▸ both.1)

/-- Checking off sets the checkpoints of the partitions that the member owns and remembers. -/
theorem checkpoint?_commit (fit : group.WellFormed count next) (id partition : Nat) :
    (group.commit count id).checkpoint? partition =
      if partition ∈ group.assigned count id then
        (group.remembered? id partition).or (group.checkpoint? partition)
      else group.checkpoint? partition := by
  cases found : group.member? id with
  | none => simp [commit, found, assigned_of_member?_none found]
  | some member =>
      have distinct : ((member.cursors.filter fun cursor =>
          (group.assigned count id).contains cursor.partition).map Cursor.partition).Nodup :=
        (fit.cursors_nodup member (mem_members_of_member? found)).sublist
          (List.filter_sublist.map _)
      rw [remembered?_of_member? found]
      simp only [checkpoint?, commit, found]
      rw [lookup_foldl_setCheckpoint distinct, find?_filter_partition]
      split
      · rfl
      · rfl

/-- After checking off, reading starts where the member stood in what it owns. -/
theorem startOffset_commit (fit : group.WellFormed count next) (id partition : Nat) :
    (group.commit count id).startOffset partition =
      if partition ∈ group.assigned count id then group.standing id partition
      else group.startOffset partition := by
  simp only [standing, startOffset]
  rw [checkpoint?_commit fit]
  split
  · cases group.remembered? id partition with
    | none => rfl
    | some position => rfl
  · rfl

@[simp]
theorem checkpoint?_enlist (group : Group) (newcomer : Nat) (assignment : Assignment)
    (partition : Nat) :
    (group.enlist newcomer assignment).checkpoint? partition = group.checkpoint? partition := rfl

@[simp]
theorem checkpoint?_dismiss (group : Group) (gone partition : Nat) :
    (group.dismiss gone).checkpoint? partition = group.checkpoint? partition := rfl

@[simp]
theorem checkpoint?_setCursors (group : Group) (reader : Nat) (cursors : List Cursor)
    (partition : Nat) :
    (group.setCursors reader cursors).checkpoint? partition = group.checkpoint? partition := rfl

/-- An exchange of cursors leaves numbers and assignments alone. -/
theorem of_mem_setCursors {reader : Nat}
    (present : member ∈ (group.setCursors reader cursors).members) :
    ∃ old ∈ group.members, member.id = old.id ∧ member.assignment = old.assignment ∧
      (member.cursors = old.cursors ∨ member.cursors = cursors) := by
  rcases List.mem_map.mp present with ⟨old, oldPresent, rfl⟩
  refine ⟨old, oldPresent, ?_⟩
  split
  · exact ⟨rfl, rfl, Or.inr rfl⟩
  · exact ⟨rfl, rfl, Or.inl rfl⟩

theorem map_id_setCursors (group : Group) (reader : Nat) (cursors : List Cursor) :
    (group.setCursors reader cursors).members.map Member.id = group.members.map Member.id := by
  simp only [setCursors, List.map_map]
  apply List.map_congr_left
  intro member _
  simp only [Function.comp_apply]
  split
  · rfl
  · rfl

theorem Admits.not_static (admits : group.Admits count assignment)
    (wanted : assignment = .static partition) (present : member ∈ group.members) :
    member.assignment ≠ .static partition := by
  subst wanted
  exact not_static_of_not_isOwned admits.2 present

namespace WellFormed

theorem empty (count next : Nat) : Group.empty.WellFormed count next where
  ids_nodup := List.nodup_nil
  id_lt := by simp [Group.empty]
  static_lt := by simp [Group.empty]
  static_unique := by simp [Group.empty]
  cursors_nodup := by simp [Group.empty]

theorem mono (fit : group.WellFormed count next) {wider later : Nat} (noFewer : count ≤ wider)
    (notBefore : next ≤ later) : group.WellFormed wider later where
  ids_nodup := fit.ids_nodup
  id_lt := fun member present => Nat.lt_of_lt_of_le (fit.id_lt member present) notBefore
  static_lt := fun member present partition isStatic =>
    Nat.lt_of_lt_of_le (fit.static_lt member present partition isStatic) noFewer
  static_unique := fit.static_unique
  cursors_nodup := fit.cursors_nodup

/-- A member that is admitted, with a number that nobody had, fits in. -/
theorem enlist (fit : group.WellFormed count next) (admits : group.Admits count assignment) :
    (group.enlist next assignment).WellFormed count (next + 1) where
  ids_nodup := by
    simp only [Group.enlist, List.map_append, List.map_cons, List.map_nil]
    refine fit.ids_nodup.append (List.nodup_singleton next) ?_
    rw [List.disjoint_singleton]
    intro taken
    rcases List.mem_map.mp taken with ⟨member, present, same⟩
    exact absurd (fit.id_lt member present) (by omega)
  id_lt := by
    intro member present
    rcases List.mem_append.mp present with old | new
    · exact Nat.lt_succ_of_lt (fit.id_lt member old)
    · rw [List.mem_singleton.mp new]
      exact Nat.lt_succ_self next
  static_lt := by
    intro member present partition isStatic
    rcases List.mem_append.mp present with old | new
    · exact fit.static_lt member old partition isStatic
    · rw [List.mem_singleton.mp new] at isStatic
      simp only at isStatic
      subst isStatic
      exact admits.1
  static_unique := by
    intro first present second otherPresent partition isStatic otherStatic
    rcases List.mem_append.mp present with old | new
    · rcases List.mem_append.mp otherPresent with otherOld | otherNew
      · exact fit.static_unique first old second otherOld partition isStatic otherStatic
      · rw [List.mem_singleton.mp otherNew] at otherStatic
        exact absurd isStatic (admits.not_static otherStatic old)
    · rcases List.mem_append.mp otherPresent with otherOld | otherNew
      · rw [List.mem_singleton.mp new] at isStatic
        exact absurd otherStatic (admits.not_static isStatic otherOld)
      · rw [List.mem_singleton.mp new, List.mem_singleton.mp otherNew]
  cursors_nodup := by
    intro member present
    rcases List.mem_append.mp present with old | new
    · exact fit.cursors_nodup member old
    · rw [List.mem_singleton.mp new]
      exact List.nodup_nil

/-- A group whose members are among those of one that fits together, as they are, fits together. -/
theorem of_sublist (fit : group.WellFormed count next) {fewer : Group}
    (among : fewer.members.Sublist group.members) : fewer.WellFormed count next where
  ids_nodup := fit.ids_nodup.sublist (among.map _)
  id_lt := fun member present => fit.id_lt member (among.mem present)
  static_lt := fun member present => fit.static_lt member (among.mem present)
  static_unique := fun first present second otherPresent =>
    fit.static_unique first (among.mem present) second (among.mem otherPresent)
  cursors_nodup := fun member present => fit.cursors_nodup member (among.mem present)

theorem dismiss (fit : group.WellFormed count next) (gone : Nat) :
    (group.dismiss gone).WellFormed count next :=
  fit.of_sublist List.filter_sublist

theorem commit (fit : group.WellFormed count next) (id : Nat) :
    (group.commit count id).WellFormed count next := by
  apply fit.of_sublist
  simp only [Group.commit]
  split
  · exact List.Sublist.refl _
  · exact List.Sublist.refl _

theorem setCursors (fit : group.WellFormed count next)
    (distinct : (cursors.map Cursor.partition).Nodup) (reader : Nat) :
    (group.setCursors reader cursors).WellFormed count next where
  ids_nodup := by
    rw [map_id_setCursors]
    exact fit.ids_nodup
  id_lt := by
    intro member present
    rcases of_mem_setCursors present with ⟨old, oldPresent, sameId, _, _⟩
    rw [sameId]
    exact fit.id_lt old oldPresent
  static_lt := by
    intro member present partition isStatic
    rcases of_mem_setCursors present with ⟨old, oldPresent, _, sameAssignment, _⟩
    exact fit.static_lt old oldPresent partition (sameAssignment ▸ isStatic)
  static_unique := by
    intro first present second otherPresent partition isStatic otherStatic
    rcases of_mem_setCursors present with ⟨old, oldPresent, sameId, sameAssignment, _⟩
    rcases of_mem_setCursors otherPresent with
      ⟨other, otherOld, otherSameId, otherSameAssignment, _⟩
    rw [sameId, otherSameId]
    exact fit.static_unique old oldPresent other otherOld partition
      (sameAssignment ▸ isStatic) (otherSameAssignment ▸ otherStatic)
  cursors_nodup := by
    intro member present
    rcases of_mem_setCursors present with ⟨old, oldPresent, _, _, same | new⟩
    · rw [same]
      exact fit.cursors_nodup old oldPresent
    · rw [new]
      exact distinct

end WellFormed

end Group

end FrontierBus.Broker
