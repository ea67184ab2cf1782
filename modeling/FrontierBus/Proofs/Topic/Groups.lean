import FrontierBus.Proofs.Broker.Views

/-!
# Records and groups of a topic

The records of a topic and the turn of the next one do not depend on its groups, nor does what is
taken from given cursors. So a topic may have other groups without a record knowing it.
-/

namespace FrontierBus.Broker.Topic

variable {topic : Topic} {room : Nat} {cursors : List Cursor}

/-- The topic with other groups. -/
def withGroups (topic : Topic) (groups : List (String × Group)) : Topic :=
  { topic with groups }

theorem takeRound_withGroups (topic : Topic) (groups : List (String × Group)) (room : Nat)
    (cursors : List Cursor) :
    (topic.withGroups groups).takeRound room cursors = topic.takeRound room cursors := by
  induction cursors generalizing room with
  | nil =>
      cases room with
      | zero => rfl
      | succ room => rfl
  | cons cursor cursors hypothesis =>
      cases room with
      | zero => rfl
      | succ room =>
          have same : (topic.withGroups groups).messageAt cursor = topic.messageAt cursor := rfl
          simp only [takeRound, same, hypothesis]

theorem takeBatch_withGroups (topic : Topic) (groups : List (String × Group)) (room : Nat)
    (cursors : List Cursor) :
    (topic.withGroups groups).takeBatch room cursors = topic.takeBatch room cursors := by
  fun_induction takeBatch topic room cursors with
  | case1 cursors => rw [takeBatch, dif_pos rfl]
  | case2 room cursors some_room after nothing =>
      rw [takeBatch, dif_neg some_room, takeRound_withGroups, nothing]
  | case3 room cursors some_room message messages moved taken others last more hypothesis =>
      rw [takeBatch, dif_neg some_room, takeRound_withGroups, taken]
      simp only [hypothesis, more]

theorem append_withGroups (name : String) (topic : Topic) (groups : List (String × Group))
    (record : Record) :
    (topic.withGroups groups).append name record =
      ((topic.append name record).1, (topic.append name record).2.withGroups groups) := by
  cases target : record.partition with
  | none =>
      simp only [append, target]
      rfl
  | some partition =>
      have same : (topic.withGroups groups).count = topic.count := rfl
      simp only [append, target, same]
      split
      · rfl
      · rfl

theorem appendAll_withGroups (name : String) (topic : Topic) (groups : List (String × Group))
    (records : List Record) :
    (topic.withGroups groups).appendAll name records =
      ((topic.appendAll name records).1, (topic.appendAll name records).2.withGroups groups) := by
  induction records generalizing topic with
  | nil => rfl
  | cons record records hypothesis =>
      simp only [appendAll, append_withGroups, hypothesis]

end FrontierBus.Broker.Topic
