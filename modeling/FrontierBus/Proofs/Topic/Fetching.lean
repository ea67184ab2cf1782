import FrontierBus.Broker.Topic
import Mathlib.Data.List.Forall2

/-!
# Fetching

A fetch moves cursors forward over the records of their partitions. Each cursor stays in its
partition and never goes back, and what lies between its old and its new position is handed out.
-/

namespace FrontierBus.Broker.Topic

variable {topic : Topic}

/-- A cursor has moved forward within its partition, over records that are among the messages. -/
structure Advanced (topic : Topic) (messages : List Message) (before after : Cursor) : Prop where
  partition_eq : after.partition = before.partition
  position_le : before.position ≤ after.position
  handed : ∀ offset, before.position ≤ offset → offset < after.position →
    ∃ message ∈ messages, topic.messageAt ⟨before.partition, offset⟩ = some message

namespace Advanced

theorem refl (topic : Topic) (messages : List Message) (cursor : Cursor) :
    topic.Advanced messages cursor cursor :=
  ⟨rfl, Nat.le_refl _, fun offset started notReached => by omega⟩

theorem mono {messages more : List Message} {before after : Cursor}
    (advanced : topic.Advanced messages before after) (among : messages ⊆ more) :
    topic.Advanced more before after := by
  refine ⟨advanced.partition_eq, advanced.position_le, ?_⟩
  intro offset started notReached
  rcases advanced.handed offset started notReached with ⟨message, member, isThere⟩
  exact ⟨message, among member, isThere⟩

theorem trans {messages : List Message} {before between after : Cursor}
    (first : topic.Advanced messages before between)
    (second : topic.Advanced messages between after) : topic.Advanced messages before after := by
  refine ⟨second.partition_eq.trans first.partition_eq,
    Nat.le_trans first.position_le second.position_le, ?_⟩
  intro offset started notReached
  rcases Nat.lt_or_ge offset between.position with early | late
  · exact first.handed offset started early
  · rw [← first.partition_eq]
    exact second.handed offset late notReached

theorem next {cursor : Cursor} {message : Message} {messages : List Message}
    (found : topic.messageAt cursor = some message) (handed : message ∈ messages) :
    topic.Advanced messages cursor { cursor with position := cursor.position + 1 } := by
  refine ⟨rfl, Nat.le_succ _, ?_⟩
  intro offset started notReached
  have here : offset = cursor.position := by
    simp only at notReached
    omega
  exact ⟨message, handed, by rw [here]; exact found⟩

end Advanced

theorem takeRound_advanced (topic : Topic) (room : Nat) (cursors : List Cursor) :
    List.Forall₂ (topic.Advanced (topic.takeRound room cursors).1) cursors
      (topic.takeRound room cursors).2 := by
  fun_induction takeRound topic room cursors with
  | case1 => exact List.Forall₂.nil
  | case2 cursors => exact List.forall₂_same.mpr fun cursor _ => .refl topic _ cursor
  | case3 room cursor cursors absent messages rest taken hypothesis =>
      rw [taken] at hypothesis
      exact .cons (.refl topic _ cursor) hypothesis
  | case4 room cursor cursors message found messages rest taken hypothesis =>
      rw [taken] at hypothesis
      refine .cons (.next found List.mem_cons_self) ?_
      exact hypothesis.imp fun _ _ advanced => advanced.mono (List.subset_cons_self _ _)

theorem forall₂_advanced_trans {messages : List Message} {before between after : List Cursor}
    (first : List.Forall₂ (topic.Advanced messages) before between)
    (second : List.Forall₂ (topic.Advanced messages) between after) :
    List.Forall₂ (topic.Advanced messages) before after := by
  induction first generalizing after with
  | nil =>
      cases second
      exact .nil
  | cons advanced _ hypothesis =>
      cases second with
      | cons further rest => exact .cons (advanced.trans further) (hypothesis rest)

/-- A batch takes every cursor forward, over records that it hands out. -/
theorem takeBatch_advanced (topic : Topic) (room : Nat) (cursors : List Cursor) :
    List.Forall₂ (topic.Advanced (topic.takeBatch room cursors).1) cursors
      (topic.takeBatch room cursors).2 := by
  fun_induction takeBatch topic room cursors with
  | case1 cursors => exact List.forall₂_same.mpr fun cursor _ => .refl topic _ cursor
  | case2 room cursors _ after taken =>
      exact List.forall₂_same.mpr fun cursor _ => .refl topic _ cursor
  | case3 room cursors _ message messages between taken others after further hypothesis =>
      have round := takeRound_advanced topic room cursors
      rw [taken] at round
      rw [further] at hypothesis
      refine forall₂_advanced_trans
        (round.imp fun _ _ advanced => advanced.mono (List.subset_append_left _ _))
        (hypothesis.imp fun _ _ advanced => advanced.mono (List.subset_append_right _ _))

section Pointwise

variable {Moved : Cursor → Cursor → Prop} {before after : List Cursor}

/-- If cursors move within their partitions, the first one in a partition has moved to the first one
there. -/
theorem find?_of_forall₂ (moved : List.Forall₂ Moved before after)
    (stays : ∀ old new, Moved old new → new.partition = old.partition) {partition : Nat}
    {new : Cursor} (found : after.find? (fun cursor => cursor.partition = partition) = some new) :
    ∃ old, before.find? (fun cursor => cursor.partition = partition) = some old ∧
      Moved old new := by
  induction moved with
  | nil => simp at found
  | @cons first firstMoved rest restMoved head _ hypothesis =>
      have same := stays first firstMoved head
      by_cases here : first.partition = partition
      · have movedHere : firstMoved.partition = partition := same.trans here
        rw [List.find?_cons_of_pos (by simpa using movedHere), Option.some.injEq] at found
        subst found
        exact ⟨first, List.find?_cons_of_pos (by simpa using here), head⟩
      · have movedElsewhere : firstMoved.partition ≠ partition := by
          rw [same]
          exact here
        rw [List.find?_cons_of_neg (by simpa using movedElsewhere)] at found
        rw [List.find?_cons_of_neg (by simpa using here)]
        exact hypothesis found

theorem exists_of_mem_of_forall₂ (moved : List.Forall₂ Moved before after) {new : Cursor}
    (present : new ∈ after) : ∃ old ∈ before, Moved old new := by
  induction moved with
  | nil => simp at present
  | cons head _ hypothesis =>
      rcases List.mem_cons.mp present with rfl | later
      · exact ⟨_, List.mem_cons_self, head⟩
      · rcases hypothesis later with ⟨old, amongThem, isMoved⟩
        exact ⟨old, List.mem_cons_of_mem _ amongThem, isMoved⟩

theorem map_partition_of_forall₂ (moved : List.Forall₂ Moved before after)
    (stays : ∀ old new, Moved old new → new.partition = old.partition) :
    after.map Cursor.partition = before.map Cursor.partition := by
  induction moved with
  | nil => rfl
  | cons head _ hypothesis =>
      rw [List.map_cons, List.map_cons, stays _ _ head, hypothesis]

end Pointwise

end FrontierBus.Broker.Topic
