import FrontierBus.Proofs.Broker.Outcomes
import Mathlib.Data.Int.CardIntervalMod

/-!
# Turns

The records that leave their partition to the topic take turns: each goes to the next partition, and
what is delivered beside them takes no turn, whether it is stored or refused. As long as the turns
have not been counted round, the records are shared out as evenly as their number allows.
-/

namespace FrontierBus.Broker.Topic

/-- Where the records went that leave their partition to the topic, in their order. -/
def turnsIn (entries : List (Record × Nat)) : List Nat :=
  (entries.filter fun entry => entry.1.partition = none).map Prod.snd

/-- The entries are all that has gone to a topic since it was created, and those that leave their
partition to it have each taken the next turn. -/
structure Holds (count : Nat) (entries : List (Record × Nat)) (topic : Topic) : Prop where
  count_eq : topic.count = count
  lays : (create count).Lays entries topic
  turn_eq : topic.turn = (turnsIn entries).length % Word.count64
  turns_eq : turnsIn entries =
    (List.range (turnsIn entries).length).map fun turn => turn % Word.count64 % count

variable {topic other : Topic} {entries : List (Record × Nat)} {record : Record}
  {count place : Nat}

theorem turnsIn_append (front back : List (Record × Nat)) :
    turnsIn (front ++ back) = turnsIn front ++ turnsIn back := by
  simp [turnsIn]

theorem length_turnsIn (entries : List (Record × Nat)) :
    (turnsIn entries).length =
      ((entries.map Prod.fst).filter fun record => record.partition = none).length := by
  rw [turnsIn, List.length_map, List.filter_map, List.length_map]
  rfl

theorem turnsIn_unnamed (unnamed : record.partition = none) (place : Nat) :
    turnsIn [(record, place)] = [place] := by
  simp [turnsIn, unnamed]

theorem turnsIn_named {partition : Nat} (named : record.partition = some partition) (place : Nat) :
    turnsIn [(record, place)] = [] := by
  simp [turnsIn, named]

@[simp]
theorem count_create (count : Nat) : (create count).count = count := by
  simp [create, Topic.count]

theorem records_create (count partition : Nat) : (create count).records partition = #[] := by
  simp only [create, records, Array.getD_eq_getD_getElem?, Array.getElem?_replicate]
  split
  · rfl
  · rfl

theorem Lays.push (topic : Topic) (placed : Placed topic.count (record, place)) :
    topic.Lays [(record, place)] (topic.push place record.stored) where
  placed := by
    intro entry present
    rw [List.mem_singleton.mp present]
    exact placed
  grown := fun partition => toList_records_push topic placed.1 record partition

namespace Holds

theorem create (count : Nat) : Holds count [] (create count) :=
  ⟨count_create count, .nothing _, rfl, rfl⟩

/-- What is in the groups makes no difference. -/
theorem congr (holds : Holds count entries topic)
    (partitions_eq : other.partitions = topic.partitions) (turn_eq : other.turn = topic.turn) :
    Holds count entries other := by
  rcases topic with ⟨partitions, turn, groups⟩
  rcases other with ⟨otherPartitions, otherTurn, otherGroups⟩
  cases partitions_eq
  cases turn_eq
  exact ⟨holds.count_eq, ⟨holds.lays.placed, holds.lays.grown⟩, holds.turn_eq, holds.turns_eq⟩

theorem records_eq (holds : Holds count entries topic) (partition : Nat) :
    (topic.records partition).toList = laidIn partition entries := by
  rw [holds.lays.grown, records_create]
  rfl

theorem lays_push (holds : Holds count entries topic) (placed : Placed count (record, place)) :
    (Topic.create count).Lays (entries ++ [(record, place)]) (topic.push place record.stored) := by
  have pushed := Lays.push topic (holds.count_eq ▸ placed)
  exact holds.lays.append pushed (by rw [holds.count_eq, count_create])

/-- A record that leaves its partition to the topic takes the next turn. -/
theorem takeTurn (holds : Holds count entries topic) (positive : 0 < count)
    (unnamed : record.partition = none) :
    Holds count (entries ++ [(record, topic.turn % count)])
      { topic.push (topic.turn % count) record.stored with
        turn := (topic.turn + 1) % Word.count64 } := by
  have placed : Placed count (record, topic.turn % count) :=
    ⟨Nat.mod_lt _ positive, by simp [unnamed]⟩
  have lays := holds.lays_push placed
  have sameCount := (count_push topic (topic.turn % count) record.stored).trans holds.count_eq
  refine ⟨sameCount, ⟨lays.placed, lays.grown⟩, ?_, ?_⟩
  · simp only [turnsIn_append, turnsIn_unnamed unnamed, List.length_append, List.length_singleton,
      holds.turn_eq, Nat.mod_add_mod]
  · rw [turnsIn_append, turnsIn_unnamed unnamed, List.length_append, List.length_singleton,
      List.range_succ, List.map_append, ← holds.turns_eq, holds.turn_eq, List.map_singleton]

/-- A record that names its partition takes no turn. -/
theorem keepTurn (holds : Holds count entries topic) {partition : Nat} (inside : partition < count)
    (named : record.partition = some partition) :
    Holds count (entries ++ [(record, partition)]) (topic.push partition record.stored) := by
  have placed : Placed count (record, partition) := ⟨inside, by simp [named]⟩
  have sameCount := (count_push topic partition record.stored).trans holds.count_eq
  have sameTurns : turnsIn (entries ++ [(record, partition)]) = turnsIn entries := by
    rw [turnsIn_append, turnsIn_named named, List.append_nil]
  refine ⟨sameCount, holds.lays_push placed, ?_, ?_⟩
  · rw [sameTurns]
    exact holds.turn_eq
  · rw [sameTurns]
    exact holds.turns_eq

theorem append (holds : Holds count entries topic) (positive : 0 < count) (name : String)
    (record : Record) :
    ∃ more, more.map Prod.fst = (if (topic.append name record).1.isOk then [record] else []) ∧
      Holds count (entries ++ more) (topic.append name record).2 := by
  cases target : record.partition with
  | none =>
      simp only [Topic.append, target, holds.count_eq]
      exact ⟨[(record, topic.turn % count)], rfl, holds.takeTurn positive target⟩
  | some partition =>
      simp only [Topic.append, target, holds.count_eq]
      split
      · rename_i inside
        exact ⟨[(record, partition)], rfl, holds.keepTurn inside target⟩
      · refine ⟨[], rfl, ?_⟩
        rw [List.append_nil]
        exact holds

/-- Records that are delivered together go one after the other, and just those with a success of their
own are added. -/
theorem appendAll (holds : Holds count entries topic) (positive : 0 < count) (name : String)
    (records : List Record) :
    ∃ more, more.map Prod.fst = acceptedOf records (topic.appendAll name records).1 ∧
      Holds count (entries ++ more) (topic.appendAll name records).2 := by
  have adds : ∀ (entries : List (Record × Nat)) (topic : Topic) (record : Record),
      Holds count entries topic → ∃ more,
        more.map Prod.fst = (if (topic.append name record).1.isOk then [record] else []) ∧
          Holds count (entries ++ more) (topic.append name record).2 :=
    fun _ _ record holds => holds.append positive name record
  exact appendAll_adds name adds holds records

/-- As long as the turns are not counted round, the first of them go through the partitions over and
over. -/
theorem prefix_eq (holds : Holds count entries topic)
    (few : (turnsIn entries).length < Word.count64) {early : List Nat}
    (isEarly : early <+: turnsIn entries) : early = (List.range early.length).map (· % count) := by
  have firstTurns := List.prefix_iff_eq_take.mp isEarly
  have short := isEarly.length_le
  rw [holds.turns_eq, ← List.map_take, List.take_range, Nat.min_eq_left short] at firstTurns
  apply firstTurns.trans
  apply List.map_congr_left
  intro turn present
  have isTurn : turn < early.length := List.mem_range.mp present
  have inWord : turn % Word.count64 = turn := Nat.mod_eq_of_lt (by omega)
  rw [inWord]

end Holds

/-- How many of the first turns are a partition's. -/
theorem count_range_mod (length count place : Nat) :
    ((List.range length).map (· % count)).count place =
      Nat.count (fun turn => turn % count = place) length := by
  induction length with
  | zero => rfl
  | succ length hypothesis =>
      rw [List.range_succ, List.map_append, List.count_append, hypothesis, Nat.count_succ,
        List.map_singleton, List.count_singleton]
      simp

theorem count_turns_le_succ {first second : Nat} (isFirst : first < count)
    (isSecond : second < count) (length : Nat) :
    Nat.count (fun turn => turn % count = first) length ≤
      Nat.count (fun turn => turn % count = second) length + 1 := by
  have positive : 0 < count := Nat.zero_lt_of_lt isFirst
  have shares : ∀ {place}, place < count →
      Nat.count (fun turn => turn % count = place) length =
        length / count + if place < length % count then 1 else 0 := by
    intro place inside
    have share := Nat.count_modEq_card (b := length) positive place
    simp only [Nat.ModEq, Nat.mod_eq_of_lt inside] at share
    exact share
  rw [shares isFirst, shares isSecond]
  split
  · omega
  · omega

end FrontierBus.Broker.Topic
