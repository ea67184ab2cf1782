import FrontierBus.Proofs.Topic.Fetching
import Mathlib.Data.List.Nodup

/-!
# Batches

A batch is taken in rounds, one message from each cursor at a time, so the messages of different
partitions alternate in it. Those of one partition are a stretch of its messages without a gap: from
where the cursor stood to where it stands afterwards. A batch that is not full leaves no message
behind.
-/

namespace FrontierBus.Broker.Topic

/-- The messages of a partition, in the order of their offsets. -/
def messages (topic : Topic) (partition : Nat) : List Message :=
  (topic.records partition).toList.mapIdx fun offset record =>
    ⟨partition, offset, record.key, record.payload⟩

theorem getElem?_messages (topic : Topic) (partition offset : Nat) :
    (topic.messages partition)[offset]? = topic.messageAt ⟨partition, offset⟩ := by
  simp [messages, messageAt, List.getElem?_mapIdx]

theorem partition_of_mem_messages {topic : Topic} {partition : Nat} {message : Message}
    (present : message ∈ topic.messages partition) : message.partition = partition := by
  rcases List.mem_iff_getElem?.mp present with ⟨offset, stored⟩
  rw [getElem?_messages] at stored
  exact (Option.map_eq_some_iff.mp stored).elim fun _ found => by rw [← found.2]

/-- A cursor has moved over a stretch of its partition, and the messages of the batch from there are
those of the stretch. -/
structure Drawn (topic : Topic) (batch : List Message) (before after : Cursor) : Prop where
  partition_eq : after.partition = before.partition
  position_le : before.position ≤ after.position
  inside : before.position < after.position →
    after.position ≤ (topic.messages before.partition).length
  filter_eq : batch.filter (fun message => message.partition = before.partition) =
    ((topic.messages before.partition).take after.position).drop before.position

/-- All messages of a batch are from the partitions of the cursors. -/
def From (batch : List Message) (cursors : List Cursor) : Prop :=
  ∀ message ∈ batch, message.partition ∈ cursors.map Cursor.partition

variable {topic : Topic} {batch front back : List Message} {before between after cursor : Cursor}
  {cursors : List Cursor}

theorem filter_partition_eq_nil (elsewhere : From batch cursors) {partition : Nat}
    (absent : partition ∉ cursors.map Cursor.partition) :
    batch.filter (fun message => message.partition = partition) = [] := by
  rw [List.filter_eq_nil_iff]
  intro message present here
  have isThere := elsewhere message present
  rw [of_decide_eq_true here] at isThere
  exact absent isThere

namespace Drawn

/-- A cursor from whose partition nothing is handed out stays where it is. -/
theorem still (topic : Topic)
    (nothing : batch.filter (fun message => message.partition = cursor.partition) = []) :
    topic.Drawn batch cursor cursor := by
  refine ⟨rfl, Nat.le_refl _, fun moved => absurd moved (Nat.lt_irrefl _), ?_⟩
  rw [nothing, List.drop_take]
  simp

theorem congr {batch other : List Message} (drawn : topic.Drawn batch before after)
    (same : other.filter (fun message => message.partition = before.partition) =
      batch.filter fun message => message.partition = before.partition) :
    topic.Drawn other before after :=
  ⟨drawn.partition_eq, drawn.position_le, drawn.inside, same.trans drawn.filter_eq⟩

theorem append (first : topic.Drawn front before between)
    (second : topic.Drawn back between after) :
    topic.Drawn (front ++ back) before after where
  partition_eq := second.partition_eq.trans first.partition_eq
  position_le := Nat.le_trans first.position_le second.position_le
  inside := by
    intro moved
    have firstInside := first.inside
    have secondInside := second.inside
    rw [first.partition_eq] at secondInside
    have firstLe := first.position_le
    have secondLe := second.position_le
    omega
  filter_eq := by
    have firstLe := first.position_le
    have secondLe := second.position_le
    have secondEq := second.filter_eq
    rw [first.partition_eq] at secondEq
    rw [List.filter_append, first.filter_eq, secondEq, List.drop_take, List.drop_take,
      List.drop_take]
    have split : after.position - before.position =
        between.position - before.position + (after.position - between.position) := by omega
    rw [split, List.take_add, List.drop_drop]
    congr 3
    omega

theorem next {message : Message} (found : topic.messageAt cursor = some message)
    (others : batch.filter (fun message => message.partition = cursor.partition) = []) :
    topic.Drawn (message :: batch) cursor { cursor with position := cursor.position + 1 } := by
  have stored : (topic.messages cursor.partition)[cursor.position]? = some message := by
    rw [getElem?_messages]
    exact found
  rcases List.getElem?_eq_some_iff.mp stored with ⟨short, isMessage⟩
  have here : message.partition = cursor.partition :=
    partition_of_mem_messages (List.mem_of_getElem? stored)
  refine ⟨rfl, Nat.le_succ _, fun _ => short, ?_⟩
  rw [List.filter_cons_of_pos (by simpa using here), others, List.drop_take,
    List.drop_eq_getElem_cons short, isMessage]
  simp

end Drawn

theorem from_takeRound (topic : Topic) (room : Nat) (cursors : List Cursor) :
    From (topic.takeRound room cursors).1 cursors := by
  fun_induction takeRound topic room cursors with
  | case1 => simp [From]
  | case2 => simp [From]
  | case3 room cursor cursors absent batch rest taken hypothesis =>
      intro message present
      rw [taken] at hypothesis
      exact List.mem_cons_of_mem _ (hypothesis message present)
  | case4 room cursor cursors message found batch rest taken hypothesis =>
      rw [taken] at hypothesis
      intro other present
      rcases List.mem_cons.mp present with rfl | later
      · have here : other.partition = cursor.partition := by
          rcases Option.map_eq_some_iff.mp found with ⟨_, _, rfl⟩
          rfl
        rw [here]
        exact List.mem_cons_self
      · exact List.mem_cons_of_mem _ (hypothesis other later)

/-- Only the messages from the partitions of the cursors matter to what they have drawn. -/
theorem forall₂_drawn_congr {batch other : List Message} {before after : List Cursor}
    (drawn : List.Forall₂ (topic.Drawn batch) before after)
    (same : ∀ cursor ∈ before,
      other.filter (fun message => message.partition = cursor.partition) =
        batch.filter fun message => message.partition = cursor.partition) :
    List.Forall₂ (topic.Drawn other) before after := by
  induction drawn with
  | nil => exact .nil
  | @cons cursor _ _ _ head _ hypothesis =>
      refine .cons (head.congr (same cursor List.mem_cons_self)) (hypothesis ?_)
      intro cursor present
      exact same cursor (List.mem_cons_of_mem _ present)

/-- A round draws at most one message from each cursor, and it is from the partition of that cursor,
which no other cursor is in. -/
theorem takeRound_drawn (topic : Topic) (room : Nat) (cursors : List Cursor)
    (distinct : (cursors.map Cursor.partition).Nodup) :
    List.Forall₂ (topic.Drawn (topic.takeRound room cursors).1) cursors
      (topic.takeRound room cursors).2 := by
  fun_induction takeRound topic room cursors with
  | case1 => exact List.Forall₂.nil
  | case2 cursors => exact List.forall₂_same.mpr fun cursor _ => .still topic rfl
  | case3 room cursor cursors absent batch rest taken hypothesis =>
      rw [List.map_cons, List.nodup_cons] at distinct
      have elsewhere := from_takeRound topic (room + 1) cursors
      rw [taken] at elsewhere hypothesis
      exact .cons (.still topic (filter_partition_eq_nil elsewhere distinct.1))
        (hypothesis distinct.2)
  | case4 room cursor cursors message found batch rest taken hypothesis =>
      rw [List.map_cons, List.nodup_cons] at distinct
      have elsewhere := from_takeRound topic room cursors
      rw [taken] at elsewhere hypothesis
      refine .cons (.next found (filter_partition_eq_nil elsewhere distinct.1)) ?_
      refine forall₂_drawn_congr (hypothesis distinct.2) ?_
      intro other present
      rw [List.filter_cons_of_neg]
      rcases Option.map_eq_some_iff.mp found with ⟨_, _, rfl⟩
      rw [decide_eq_true_eq]
      intro same
      apply distinct.1
      rw [show cursor.partition = other.partition from same]
      exact List.mem_map_of_mem present

theorem from_takeBatch (topic : Topic) (room : Nat) (cursors : List Cursor) :
    From (topic.takeBatch room cursors).1 cursors := by
  fun_induction takeBatch topic room cursors with
  | case1 => simp [From]
  | case2 => simp [From]
  | case3 room cursors _ message batch between taken others after further hypothesis =>
      have round := from_takeRound topic room cursors
      have same := map_partition_of_forall₂ (takeRound_advanced topic room cursors)
        fun _ _ advanced => advanced.partition_eq
      rw [taken] at round same
      rw [further] at hypothesis
      intro other present
      rcases List.mem_append.mp present with early | late
      · exact round other early
      · rw [← same]
        exact hypothesis other late

theorem forall₂_drawn_append {before between after : List Cursor}
    (first : List.Forall₂ (topic.Drawn front) before between)
    (second : List.Forall₂ (topic.Drawn back) between after) :
    List.Forall₂ (topic.Drawn (front ++ back)) before after := by
  induction first generalizing after with
  | nil =>
      cases second
      exact .nil
  | cons drawn _ hypothesis =>
      cases second with
      | cons further rest => exact .cons (drawn.append further) (hypothesis rest)

/-- From each partition a batch draws a stretch of messages without a gap. -/
theorem takeBatch_drawn (topic : Topic) (room : Nat) (cursors : List Cursor)
    (distinct : (cursors.map Cursor.partition).Nodup) :
    List.Forall₂ (topic.Drawn (topic.takeBatch room cursors).1) cursors
      (topic.takeBatch room cursors).2 := by
  fun_induction takeBatch topic room cursors with
  | case1 cursors => exact List.forall₂_same.mpr fun cursor _ => .still topic rfl
  | case2 room cursors _ after taken =>
      exact List.forall₂_same.mpr fun cursor _ => .still topic rfl
  | case3 room cursors _ message batch between taken others after further hypothesis =>
      have round := takeRound_drawn topic room cursors distinct
      have same := map_partition_of_forall₂ (takeRound_advanced topic room cursors)
        fun _ _ advanced => advanced.partition_eq
      rw [taken] at round same
      rw [further] at hypothesis
      exact forall₂_drawn_append round (hypothesis (by rwa [same]))

/-- A round with room that takes nothing finds no message at any cursor. -/
theorem messageAt_of_takeRound_nil {room : Nat} {cursors : List Cursor} (some_room : room ≠ 0)
    (nothing : (topic.takeRound room cursors).1 = []) :
    ∀ cursor ∈ cursors, topic.messageAt cursor = none := by
  fun_induction takeRound topic room cursors with
  | case1 => simp
  | case2 => exact absurd rfl some_room
  | case3 room first rest absent batch others taken hypothesis =>
      rw [taken] at hypothesis
      intro cursor present
      rcases List.mem_cons.mp present with rfl | later
      · exact absent
      · exact hypothesis some_room nothing cursor later
  | case4 room first rest message found batch others taken hypothesis => cases nothing

/-- A batch with fewer messages than there is room for leaves no message behind. -/
theorem messageAt_of_takeBatch_short {room : Nat} {cursors : List Cursor}
    (short : (topic.takeBatch room cursors).1.length < room) :
    ∀ cursor ∈ (topic.takeBatch room cursors).2, topic.messageAt cursor = none := by
  fun_induction takeBatch topic room cursors with
  | case1 => simp at short
  | case2 room cursors some_room after taken =>
      apply messageAt_of_takeRound_nil some_room
      rw [taken]
  | case3 room cursors _ message batch between taken others after further hypothesis =>
      rw [further] at hypothesis
      apply hypothesis
      simp only [List.length_append, List.length_cons] at short
      simp only
      omega

end FrontierBus.Broker.Topic
