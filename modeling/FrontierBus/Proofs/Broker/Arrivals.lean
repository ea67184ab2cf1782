import FrontierBus.Proofs.Broker.Occurrences
import FrontierBus.Proofs.Consumer.Calls

/-!
# Arrivals

A broker counts the deliveries that arrive, and only a delivery adds messages. So a poll that waits
for the next arrival and gives up has seen all the messages that there are by then.
-/

namespace FrontierBus

namespace Timeline

variable {Log : Type} [Transport Log] {line later : Timeline Log} {seen moment : Nat}

/-- Whoever waits for an arrival in vain has seen all that there are. -/
theorem arrivals_of_awaitArrival (late : line.awaitArrival seen moment = (false, later)) :
    Transport.arrivals later.log = seen := by
  fun_induction awaitArrival seen moment line with
  | case1 line same =>
      cases late
      exact same
  | case2 line _ turn _ hypothesis => exact hypothesis late
  | case3 => cases late

end Timeline

namespace Broker

variable {before after broker : Broker} {action : Action} {name topic : String}

theorem messages_of_setTopic {changed : Topic}
    (topics_eq : after.topics = (before.setTopic name changed).topics) (topic : String)
    (partition : Nat) :
    after.messages topic partition =
      if topic = name then changed.messages partition else before.messages topic partition := by
  simp only [messages]
  rw [topic?_congr topics_eq, topic?_setTopic]
  by_cases same : topic = name
  · simp [same]
  · simp [same]

/-- Groups are no part of the messages of a topic. -/
theorem messages_of_setGroup {groupName : String} {found : Topic} {changed : Group}
    (exist : before.topic? name = some found)
    (topics_eq : after.topics = (before.setTopic name (found.setGroup groupName changed)).topics)
    (topic : String) (partition : Nat) :
    after.messages topic partition = before.messages topic partition := by
  rw [messages_of_setTopic topics_eq]
  split
  · rename_i same
    rw [same, messages_eq_of_topic? exist]
    rfl
  · rfl

theorem messages_create (count partition : Nat) : (Topic.create count).messages partition = [] := by
  by_cases inside : partition < count
  · simp [Topic.messages, Topic.records, Topic.create, inside]
  · simp [Topic.messages, Topic.records, Topic.create, inside]

theorem arrivals_le_step (before : Broker) (action : Action) :
    before.arrivals ≤ (before.step action).2.arrivals := by
  have effect := effect_step action before
  generalize (before.step action).2 = after at effect
  cases effect with
  | extended _ _ _ _ arrived =>
      rw [arrived]
      exact Nat.le_succ _
  | nothing _ _ arrivals_eq => exact arrivals_eq.ge
  | created _ _ _ arrivals_eq => exact arrivals_eq.ge
  | joined _ _ _ _ arrivals_eq => exact arrivals_eq.ge
  | polled _ _ _ _ _ arrivals_eq => exact arrivals_eq.ge
  | committed _ _ _ _ arrivals_eq => exact arrivals_eq.ge
  | left _ _ _ arrivals_eq => exact arrivals_eq.ge

theorem messages_step_eq (noArrival : (before.step action).2.arrivals = before.arrivals)
    (topic : String) (partition : Nat) :
    (before.step action).2.messages topic partition = before.messages topic partition := by
  have effect := effect_step action before
  generalize (before.step action).2 = after at effect noArrival
  cases effect with
  | nothing topics_eq => exact messages_congr topics_eq topic partition
  | @created name count _ absent topics_eq =>
      rw [messages_of_setTopic topics_eq]
      split
      · rename_i same
        rw [same, messages, absent, messages_create]
      · rfl
  | extended _ _ _ _ arrived => omega
  | joined exist _ topics_eq => exact messages_of_setGroup exist topics_eq topic partition
  | polled exist _ _ topics_eq => exact messages_of_setGroup exist topics_eq topic partition
  | committed exist _ topics_eq => exact messages_of_setGroup exist topics_eq topic partition
  | left exist topics_eq => exact messages_of_setGroup exist topics_eq topic partition

theorem arrivals_le_run (broker : Broker) (actions : List Action) :
    broker.arrivals ≤ (broker.run actions).arrivals := by
  induction actions generalizing broker with
  | nil => exact Nat.le_refl _
  | cons action actions hypothesis =>
      exact Nat.le_trans (arrivals_le_step broker action) (hypothesis _)

theorem messages_run_eq {actions : List Action}
    (noArrival : (broker.run actions).arrivals = broker.arrivals) (topic : String)
    (partition : Nat) :
    (broker.run actions).messages topic partition = broker.messages topic partition := by
  induction actions generalizing broker with
  | nil => rfl
  | cons action actions hypothesis =>
      have first := arrivals_le_step broker action
      have rest := arrivals_le_run (broker.step action).2 actions
      change ((broker.step action).2.run actions).arrivals = _ at noArrival
      change ((broker.step action).2.run actions).messages topic partition = _
      have noneFirst : (broker.step action).2.arrivals = broker.arrivals := by omega
      have noneThen : ((broker.step action).2.run actions).arrivals =
          (broker.step action).2.arrivals := by omega
      rw [hypothesis noneThen]
      exact messages_step_eq noneFirst topic partition

theorem arrivals_le_of_comes {line later : Timeline Broker} {occurred : List (Occurrence Broker)}
    (comes : line.Comes occurred later) : line.log.arrivals ≤ later.log.arrivals := by
  rw [run_of_comes comes]
  exact arrivals_le_run line.log _

/-- A poll with room for messages never answers with an empty batch. -/
theorem poll_ne_nil {reader : Reader} {limit : Nat} (some_room : limit ≠ 0) (broker : Broker) :
    (broker.poll reader limit).1 ≠ .ok (some []) := by
  rcases poll_cases reader limit 0 broker with
    ⟨fault, failed, _⟩ | ⟨found, member, _, _, answered, _⟩
  · change (broker.poll reader limit).1 = _ at failed
    rw [failed]
    simp
  · change (broker.poll reader limit).1 = _ at answered
    rw [answered, handedOut]
    split
    · simp
    · rename_i present
      simp only [ne_eq, Except.ok.injEq, Option.some.injEq]
      intro nothing
      simp [nothing, some_room] at present

/-- When a poll until a deadline returns no message, its last request has found none, and nothing
has arrived since. -/
theorem comes_of_pollUntil_nil {reader : Reader} {limit patience deadline : Nat}
    {line ended : Timeline Broker} (some_room : limit ≠ 0)
    (nothing : line.pollUntil reader limit patience deadline = (.ok [], ended)) :
    ∃ (front back : List (Occurrence Broker)) (moment : Nat)
      (reply : Reply (.poll reader limit patience)),
      line.Comes (front ++ .request ⟨moment, .poll reader limit patience, reply⟩ :: back) ended ∧
      ((line.log.run (front.map actionOf)).poll reader limit).1 = .ok none ∧
      ended.log.arrivals = (line.log.run (front.map actionOf)).arrivals := by
  fun_induction Timeline.pollUntil reader limit patience deadline line with
  | case1 line asked answered fault failed => cases nothing
  | case2 line asked answered messages succeeded =>
      simp only [Prod.mk.injEq, Except.ok.injEq] at nothing
      rw [nothing.1] at succeeded
      exact absurd succeeded (poll_ne_nil some_room (line.gap 0).log)
  | case3 line seen asked found later late =>
      rcases Timeline.comes_gap 0 line with ⟨front, passes, _⟩
      rcases Timeline.comes_gap_awaitArrival seen deadline asked.2 with ⟨back, waits, _⟩
      rw [late] at waits
      simp only [Prod.mk.injEq, true_and] at nothing
      subst nothing
      have asks := (Timeline.Comes.asked (.poll reader limit patience) (line.gap 0)).cons waits
      refine ⟨front, back, (line.gap 0).now, asked.1, passes.append asks, ?_, ?_⟩
      · rw [← run_of_comes passes]
        exact found
      · rw [← run_of_comes passes]
        have same : later.log.arrivals = line.log.arrivals := Timeline.arrivals_of_awaitArrival late
        have before := arrivals_le_of_comes passes
        have behind : (line.gap 0).log.arrivals ≤ later.log.arrivals := arrivals_le_of_comes asks
        omega
  | case4 line seen asked found later arrived hypothesis =>
      rcases Timeline.comes_gap 0 line with ⟨passed, passes, _⟩
      rcases Timeline.comes_gap_awaitArrival seen deadline asked.2 with ⟨between, waits, _⟩
      rw [arrived] at waits
      rcases hypothesis nothing with ⟨front, back, moment, reply, comes, answered, noArrival⟩
      have first := passes.append
        ((Timeline.Comes.asked (.poll reader limit patience) (line.gap 0)).cons waits)
      have sameLog := run_of_comes first
      refine ⟨(passed ++ .request ⟨(line.gap 0).now, .poll reader limit patience, asked.1⟩ ::
        between) ++ front, back, moment, reply, ?_, ?_, ?_⟩
      · rw [List.append_assoc]
        exact first.append comes
      · rw [List.map_append, run_append, ← sameLog]
        exact answered
      · rw [List.map_append, run_append, ← sameLog]
        exact noArrival

/-- So it is with a poll for a span of time. -/
theorem comes_of_poll_nil {reader : Reader} {limit patience : Nat} {line ended : Timeline Broker}
    (some_room : limit ≠ 0) (nothing : line.poll reader limit patience = (.ok [], ended)) :
    ∃ (front back : List (Occurrence Broker)) (moment : Nat)
      (reply : Reply (.poll reader limit patience)),
      line.Comes (front ++ .request ⟨moment, .poll reader limit patience, reply⟩ :: back) ended ∧
      ((line.log.run (front.map actionOf)).poll reader limit).1 = .ok none ∧
      ended.log.arrivals = (line.log.run (front.map actionOf)).arrivals := by
  rcases line.poll_eq_pollUntil reader limit patience with ⟨panicked, isPollUntil⟩
  have begins : line.Comes [] { line with panicked } := .still rfl rfl rfl rfl
  rw [isPollUntil] at nothing
  rcases comes_of_pollUntil_nil some_room nothing with
    ⟨front, back, moment, reply, comes, answered, noArrival⟩
  exact ⟨front, back, moment, reply, begins.append comes, answered, noArrival⟩

end Broker

end FrontierBus
