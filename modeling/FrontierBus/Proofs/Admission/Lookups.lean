import FrontierBus.Lag
import FrontierBus.Proofs.Broker.Views

/-!
# Looking up lags

A snapshot is made of the entries that a probe gives, in whatever order they come. It keeps one lag
for each partition, ascending by partition: that of its last entry. The partitions below a threshold
are those whose lag is known and below it.
-/

namespace FrontierBus.LagSnapshot

open Broker (lookup_cons_eq_ite)

variable {lags : List (Nat × Nat)} {offsets : List PartitionOffsets} {partition lag : Nat}

/-- What is shown when the last success gave these entries at a moment, if there was one. -/
def shown : Option (Nat × List PartitionOffsets) → LagSnapshot
  | none => .empty
  | some (moment, offsets) => .ofOffsets moment offsets

theorem refreshedAt_shown (known : Option (Nat × List PartitionOffsets)) :
    (shown known).refreshedAt = known.map Prod.fst := by
  cases known with
  | none => rfl
  | some told => rfl

/-- Each partition is listed once, and they ascend. -/
def Ascending (lags : List (Nat × Nat)) : Prop :=
  (lags.map Prod.fst).Pairwise (· < ·)

theorem lookup_insertLag (partition lag : Nat) (lags : List (Nat × Nat)) (other : Nat) :
    (insertLag partition lag lags).lookup other =
      if other = partition then some lag else lags.lookup other := by
  induction lags with
  | nil => rw [insertLag, lookup_cons_eq_ite]
  | cons first rest hypothesis =>
      rcases first with ⟨firstPartition, firstLag⟩
      rw [insertLag]
      split
      · rw [lookup_cons_eq_ite]
      · split
        · rename_i same
          rw [lookup_cons_eq_ite, lookup_cons_eq_ite, ← same]
          split
          · rfl
          · rfl
        · rename_i different
          rw [lookup_cons_eq_ite, lookup_cons_eq_ite, hypothesis]
          by_cases isFirst : other = firstPartition
          · have notNew : other ≠ partition := by omega
            rw [if_pos isFirst, if_neg notNew, if_pos isFirst]
          · rw [if_neg isFirst, if_neg isFirst]

theorem mem_map_fst_insertLag {other : Nat}
    (present : other ∈ (insertLag partition lag lags).map Prod.fst) :
    other = partition ∨ other ∈ lags.map Prod.fst := by
  induction lags with
  | nil => simpa [insertLag] using present
  | cons first rest hypothesis =>
      rw [insertLag] at present
      split at present
      · simpa using present
      · split at present
        · rename_i same
          simp only [List.map_cons, List.mem_cons] at present ⊢
          tauto
        · simp only [List.map_cons, List.mem_cons] at present ⊢
          tauto

theorem Ascending.insertLag (ascending : Ascending lags) (partition lag : Nat) :
    Ascending (insertLag partition lag lags) := by
  induction lags with
  | nil => exact List.pairwise_singleton _ _
  | cons first rest hypothesis =>
      rcases first with ⟨firstPartition, firstLag⟩
      rw [Ascending, List.map_cons, List.pairwise_cons] at ascending
      rcases ascending with ⟨aheadOfRest, restAscending⟩
      rw [LagSnapshot.insertLag]
      split
      · rename_i before
        rw [Ascending, List.map_cons, List.pairwise_cons]
        refine ⟨?_, List.pairwise_cons.mpr ⟨aheadOfRest, restAscending⟩⟩
        intro other present
        rcases List.mem_cons.mp present with rfl | later
        · exact before
        · exact Nat.lt_trans before (aheadOfRest other later)
      · split
        · rename_i same
          rw [same]
          exact List.pairwise_cons.mpr ⟨aheadOfRest, restAscending⟩
        · rw [Ascending, List.map_cons, List.pairwise_cons]
          refine ⟨?_, hypothesis restAscending⟩
          intro other present
          rcases mem_map_fst_insertLag present with rfl | later
          · simp only
            omega
          · exact aheadOfRest other later

theorem ascending_lags (known : Option (Nat × List PartitionOffsets)) :
    Ascending (shown known).lags := by
  cases known with
  | none => exact List.Pairwise.nil
  | some told =>
      rcases told with ⟨moment, offsets⟩
      simp only [shown, ofOffsets]
      induction offsets using List.reverseRecOn with
      | nil => exact List.Pairwise.nil
      | append_singleton offsets entry hypothesis =>
          rw [List.foldl_append]
          exact hypothesis.insertLag entry.partition entry.lag

/-- The lag of a partition is that of its last entry. -/
theorem lag?_shown (known : Option (Nat × List PartitionOffsets)) (partition : Nat) :
    (shown known).lag? partition =
      ((((known.map Prod.snd).getD []).filter fun entry =>
        entry.partition = partition).getLast?).map PartitionOffsets.lag := by
  cases known with
  | none => rfl
  | some told =>
      rcases told with ⟨moment, offsets⟩
      simp only [shown, ofOffsets, lag?, Option.map_some, Option.getD_some]
      induction offsets using List.reverseRecOn with
      | nil => rfl
      | append_singleton offsets entry hypothesis =>
          rw [List.foldl_append, List.filter_append]
          simp only [List.foldl_cons, List.foldl_nil]
          rw [lookup_insertLag]
          by_cases here : partition = entry.partition
          · simp [here]
          · have elsewhere : entry.partition ≠ partition := by omega
            rw [if_neg here, hypothesis]
            simp [elsewhere]

/-- In a list that ascends the entries are what is looked up. -/
theorem lookup_eq_some_iff (ascending : Ascending lags) :
    lags.lookup partition = some lag ↔ (partition, lag) ∈ lags := by
  induction lags with
  | nil => simp
  | cons first rest hypothesis =>
      rcases first with ⟨firstPartition, firstLag⟩
      rw [Ascending, List.map_cons, List.pairwise_cons] at ascending
      rw [lookup_cons_eq_ite, List.mem_cons, Prod.mk.injEq]
      split
      · rename_i same
        have notLater : (partition, lag) ∉ rest := by
          intro later
          have ahead := ascending.1 partition (List.mem_map_of_mem later)
          simp only at ahead
          omega
        rw [Option.some.injEq]
        constructor
        · intro isLag
          exact Or.inl ⟨same, isLag.symm⟩
        · rintro (⟨_, isLag⟩ | later)
          · exact isLag.symm
          · exact absurd later notLater
      · rename_i different
        rw [hypothesis ascending.2]
        simp [different]

/-- A partition is below a threshold if its lag is known and below it. -/
theorem mem_below_iff {snapshot : LagSnapshot} (ascending : Ascending snapshot.lags)
    (threshold partition : Nat) :
    partition ∈ snapshot.below threshold ↔
      ∃ lag, snapshot.lag? partition = some lag ∧ lag < threshold := by
  simp only [below, lag?, lookup_eq_some_iff ascending, List.mem_map, List.mem_filter,
    decide_eq_true_eq]
  constructor
  · rintro ⟨⟨_, lag⟩, ⟨present, small⟩, rfl⟩
    exact ⟨lag, present, small⟩
  · rintro ⟨lag, present, small⟩
    exact ⟨(partition, lag), ⟨present, small⟩, rfl⟩

theorem below_pairwise_lt {snapshot : LagSnapshot} (ascending : Ascending snapshot.lags)
    (threshold : Nat) : (snapshot.below threshold).Pairwise (· < ·) :=
  ascending.sublist (List.filter_sublist.map _)

/-- A greater threshold leaves nothing out. -/
theorem below_sublist (snapshot : LagSnapshot) {threshold greater : Nat}
    (notLess : threshold ≤ greater) :
    (snapshot.below threshold).Sublist (snapshot.below greater) := by
  apply List.Sublist.map
  apply List.monotone_filter_right
  intro entry small
  simp only [decide_eq_true_eq] at small ⊢
  omega

end FrontierBus.LagSnapshot
