import FrontierBus.Proofs.Topic.Fetching

/-!
# Rounds

A batch is dealt out in rounds, and each round visits every cursor once, unless the batch is full
before. So after any number of rounds no cursor is more than one message behind another, except where
there is no message left for it.
-/

namespace FrontierBus.Broker.Topic

variable {topic : Topic} {rounds : Nat} {before between after : Cursor}

theorem length_takeRound_le (topic : Topic) (room : Nat) (cursors : List Cursor) :
    (topic.takeRound room cursors).1.length ≤ room := by
  fun_induction takeRound topic room cursors with
  | case1 => exact Nat.zero_le _
  | case2 => exact Nat.le_refl _
  | case3 room cursor cursors absent messages rest taken hypothesis =>
      rw [taken] at hypothesis
      exact hypothesis
  | case4 room cursor cursors message found messages rest taken hypothesis =>
      rw [taken] at hypothesis
      exact Nat.succ_le_succ hypothesis

/-- No batch is larger than there is room for. -/
theorem length_takeBatch_le (topic : Topic) (room : Nat) (cursors : List Cursor) :
    (topic.takeBatch room cursors).1.length ≤ room := by
  fun_induction takeBatch topic room cursors with
  | case1 => exact Nat.le_refl _
  | case2 => exact Nat.zero_le _
  | case3 room cursors _ message messages between taken others after further hypothesis =>
      have first := length_takeRound_le topic room cursors
      rw [taken, List.length_cons] at first
      rw [further] at hypothesis
      simp only [List.length_append, List.length_cons] at hypothesis ⊢
      omega

/-- A round visits a cursor: there is a message for it, there is none left for it, or there is no
room for one. -/
inductive Visited (topic : Topic) (full : Prop) : Cursor → Cursor → Prop where
  | served {cursor : Cursor} {message : Message}
      (found : topic.messageAt cursor = some message) :
      Visited topic full cursor { cursor with position := cursor.position + 1 }
  | exhausted {cursor : Cursor} (nothing : topic.messageAt cursor = none) :
      Visited topic full cursor cursor
  | cutOff {cursor : Cursor} (noRoom : full) : Visited topic full cursor cursor

theorem Visited.imp {full filled : Prop} (visited : topic.Visited full before after)
    (only : full → filled) : topic.Visited filled before after := by
  cases visited with
  | served found => exact .served found
  | exhausted nothing => exact .exhausted nothing
  | cutOff noRoom => exact .cutOff (only noRoom)

theorem takeRound_visited (topic : Topic) (room : Nat) (cursors : List Cursor) :
    List.Forall₂ (topic.Visited ((topic.takeRound room cursors).1.length = room)) cursors
      (topic.takeRound room cursors).2 := by
  fun_induction takeRound topic room cursors with
  | case1 => exact List.Forall₂.nil
  | case2 cursors => exact List.forall₂_same.mpr fun _ _ => .cutOff rfl
  | case3 room cursor cursors absent messages rest taken hypothesis =>
      rw [taken] at hypothesis
      exact .cons (.exhausted absent) hypothesis
  | case4 room cursor cursors message found messages rest taken hypothesis =>
      rw [taken] at hypothesis
      exact .cons (.served found)
        (hypothesis.imp fun _ _ visited => visited.imp (congrArg Nat.succ))

/-- After some rounds a cursor has moved by one in each, the last one apart, or else there is no
message left for it. -/
structure Dealt (topic : Topic) (rounds : Nat) (before after : Cursor) : Prop where
  partition_eq : after.partition = before.partition
  atMost : after.position ≤ before.position + rounds
  atLeast : before.position + rounds ≤ after.position + 1 ∨ topic.messageAt after = none
  stays : topic.messageAt before = none → after = before

namespace Dealt

theorem none (topic : Topic) (cursor : Cursor) : topic.Dealt 0 cursor cursor :=
  ⟨rfl, Nat.le_refl _, Or.inl (Nat.le_succ _), fun _ => rfl⟩

theorem one {full : Prop} (visited : topic.Visited full before after) :
    topic.Dealt 1 before after := by
  cases visited with
  | served found =>
      refine ⟨rfl, Nat.le_refl _, Or.inl (Nat.le_succ _), ?_⟩
      intro nothing
      rw [found] at nothing
      cases nothing
  | exhausted nothing => exact ⟨rfl, Nat.le_succ _, Or.inl (Nat.le_refl _), fun _ => rfl⟩
  | cutOff noRoom => exact ⟨rfl, Nat.le_succ _, Or.inl (Nat.le_refl _), fun _ => rfl⟩

/-- A round that is not cut off comes before others. -/
theorem behind (visited : topic.Visited False before between)
    (dealt : topic.Dealt rounds between after) : topic.Dealt (rounds + 1) before after := by
  have atMost := dealt.atMost
  cases visited with
  | served found =>
      simp only at atMost
      refine ⟨dealt.partition_eq, by omega, ?_, ?_⟩
      · rcases dealt.atLeast with moved | nothing
        · simp only at moved
          exact Or.inl (by omega)
        · exact Or.inr nothing
      · intro nothing
        rw [found] at nothing
        cases nothing
  | exhausted nothing =>
      have still := dealt.stays nothing
      subst still
      exact ⟨rfl, Nat.le_add_right _ _, Or.inr nothing, fun _ => rfl⟩
  | cutOff noRoom => exact noRoom.elim

end Dealt

theorem forall₂_dealt_behind {first second third : List Cursor}
    (visited : List.Forall₂ (topic.Visited False) first second)
    (dealt : List.Forall₂ (topic.Dealt rounds) second third) :
    List.Forall₂ (topic.Dealt (rounds + 1)) first third := by
  induction visited generalizing third with
  | nil =>
      cases dealt
      exact .nil
  | cons head _ hypothesis =>
      cases dealt with
      | cons rest others => exact .cons (rest.behind head) (hypothesis others)

/-- A batch is dealt out in the same number of rounds to all cursors. Only the last one may have
been cut off, and it has been only if the batch is full. -/
theorem takeBatch_dealt (topic : Topic) (room : Nat) (cursors : List Cursor) :
    ∃ rounds, List.Forall₂ (topic.Dealt rounds) cursors (topic.takeBatch room cursors).2 := by
  fun_induction takeBatch topic room cursors with
  | case1 cursors => exact ⟨0, List.forall₂_same.mpr fun cursor _ => .none topic cursor⟩
  | case2 room cursors _ after taken =>
      exact ⟨0, List.forall₂_same.mpr fun cursor _ => .none topic cursor⟩
  | case3 room cursors _ message messages between taken others after further hypothesis =>
      have round := takeRound_visited topic room cursors
      rw [taken, List.length_cons] at round
      by_cases full : messages.length + 1 = room
      · rw [full, Nat.sub_self, takeBatch, dif_pos rfl] at further
        cases further
        exact ⟨1, round.imp fun _ _ visited => .one visited⟩
      · rw [further] at hypothesis
        rcases hypothesis with ⟨rounds, dealt⟩
        exact ⟨rounds + 1,
          forall₂_dealt_behind (round.imp fun _ _ visited => visited.imp full) dealt⟩

end FrontierBus.Broker.Topic
