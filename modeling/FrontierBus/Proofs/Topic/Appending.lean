import FrontierBus.Proofs.Broker.Views

/-!
# Appending

Records that fit a topic are all stored, each behind those before it in its partition. Where they go
is told by a list of places beside them.
-/

namespace FrontierBus

/-- A record as it is stored. -/
def Record.stored (record : Record) : Broker.StoredRecord :=
  ⟨record.key, record.payload⟩

/-- If a record names a partition, it is one of `count`. -/
def Record.Fits (count : Nat) (record : Record) : Prop :=
  ∀ partition, record.partition = some partition → partition < count

namespace Broker.Topic

/-- An entry is a record with the partition that it went to: one of `count`, and the one that it
names if it names one. -/
def Placed (count : Nat) (entry : Record × Nat) : Prop :=
  entry.2 < count ∧ ∀ partition, entry.1.partition = some partition → entry.2 = partition

/-- What went to a partition, as it is stored there. -/
def laidIn (partition : Nat) (entries : List (Record × Nat)) : List StoredRecord :=
  (entries.filter fun entry => entry.2 = partition).map fun entry => entry.1.stored

theorem laidIn_append (partition : Nat) (front back : List (Record × Nat)) :
    laidIn partition (front ++ back) = laidIn partition front ++ laidIn partition back := by
  simp [laidIn]

theorem length_laidIn (partition : Nat) (entries : List (Record × Nat)) :
    (laidIn partition entries).length = (entries.map Prod.snd).count partition := by
  rw [laidIn, List.length_map, ← List.countP_eq_length_filter, List.count_eq_countP,
    List.countP_map]
  rfl

variable {topic : Topic} {record : Record} {records : List Record}

theorem toList_records_push (topic : Topic) {place : Nat} (inside : place < topic.count)
    (record : Record) (partition : Nat) :
    ((topic.push place record.stored).records partition).toList =
      (topic.records partition).toList ++ laidIn partition [(record, place)] := by
  rw [records_push]
  by_cases here : place = partition
  · subst here
    simp [laidIn, inside]
  · simp [laidIn, here]

/-- A record that fits is stored at the end of a partition. -/
theorem append_of_fits (name : String) (positive : 0 < topic.count)
    (fits : record.Fits topic.count) :
    (topic.append name record).1 = .ok () ∧
      ∃ place, Placed topic.count (record, place) ∧ ∀ partition,
        ((topic.append name record).2.records partition).toList =
          (topic.records partition).toList ++ laidIn partition [(record, place)] := by
  cases target : record.partition with
  | none =>
      have inside : topic.turn % topic.count < topic.count := Nat.mod_lt _ positive
      simp only [append, target]
      refine ⟨trivial, topic.turn % topic.count, ⟨inside, by simp [target]⟩, ?_⟩
      intro partition
      exact toList_records_push topic inside record partition
  | some place =>
      have inside := fits place target
      simp only [append, target]
      rw [if_pos inside]
      refine ⟨rfl, place, ⟨inside, by simp [target]⟩, ?_⟩
      intro partition
      exact toList_records_push topic inside record partition

/-- Records that fit are all stored, in their order. -/
theorem appendAll_of_fits (name : String) (positive : 0 < topic.count)
    (fits : ∀ record ∈ records, record.Fits topic.count) :
    (topic.appendAll name records).1 = List.replicate records.length (.ok ()) ∧
      ∃ entries : List (Record × Nat), entries.map Prod.fst = records ∧
        (∀ entry ∈ entries, Placed topic.count entry) ∧ ∀ partition,
          ((topic.appendAll name records).2.records partition).toList =
            (topic.records partition).toList ++ laidIn partition entries := by
  induction records generalizing topic with
  | nil => exact ⟨rfl, [], rfl, by simp, by simp [appendAll, laidIn]⟩
  | cons record records hypothesis =>
      rw [List.forall_mem_cons] at fits
      have sameCount := (Extends.append name topic record).keeps.count_eq
      rcases append_of_fits name positive fits.1 with ⟨stored, place, placed, grown⟩
      have restFits : ∀ other ∈ records, other.Fits (topic.append name record).2.count := by
        rw [sameCount]
        exact fits.2
      rcases hypothesis (sameCount ▸ positive) restFits with
        ⟨allStored, entries, isRecords, allPlaced, grownAll⟩
      rw [sameCount] at allPlaced
      simp only [appendAll]
      refine ⟨?_, (record, place) :: entries, ?_, ?_, ?_⟩
      · rw [stored, allStored, List.length_cons, List.replicate_succ]
      · rw [List.map_cons, isRecords]
      · rw [List.forall_mem_cons]
        exact ⟨placed, allPlaced⟩
      · intro partition
        rw [grownAll, grown, List.append_assoc, ← laidIn_append, List.singleton_append]

end Broker.Topic

end FrontierBus
