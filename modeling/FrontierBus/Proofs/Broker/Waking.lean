import FrontierBus.Proofs.Broker.Bystanders
import FrontierBus.Proofs.Broker.Portions
import FrontierBus.Proofs.Timeline.Reckoning
import Mathlib.Order.Bounds.Basic

/-!
# Waking

A poll with nothing to hand out waits for news: a record that its session has not read, in a
partition that it owns. Arrivals without news wake it too, so it polls again and goes back to
waiting. What it must not do is to sleep through news, whatever arrives in between, in whatever
order things come due, and whichever of them happen in the gaps before the log is read and before
the wait begins. So its end is compared with the log as it would be without the poll.

All of this is so only if the deadline has a number. If it has none the poll panics before it has
read anything, even if there are news.
-/

namespace FrontierBus

/-- The log at a moment if nobody makes a request until then. -/
def Timeline.logAt (moment : Nat) (line : Timeline Broker) : Broker :=
  line.log.run (line.ahead moment)

namespace Broker

/-- A session owns a partition with a record that it has not read. -/
def HasNews (broker : Broker) (reader : Reader) : Prop :=
  ∃ partition position, broker.position reader partition = .ok position ∧
    position < (broker.messages reader.topic partition).length

/-- The action leaves a session alone, and every request comes through after it as before. -/
def Action.spares (reader : Reader) (action : Action) : Bool :=
  action.isBeside reader && !action.interrupts

/-- Until a deadline nothing gets in the way of a live session. -/
structure Awaits (reader : Reader) (deadline : Nat) (line : Timeline Broker) : Prop where
  reached : Reached line.log
  reachable : line.log.Reachable
  live : (line.log.member? reader).isSome
  spares : ∀ action ∈ line.ahead deadline, action.spares reader = true
  inTime : line.now ≤ deadline

/-- Between two points of a timeline there have been no news for a session, and from the later one
on there are news whenever there are from the earlier one on. -/
structure Uneventful (reader : Reader) (deadline : Nat) (line later : Timeline Broker) : Prop where
  notBefore : line.now ≤ later.now
  inTime : later.now ≤ deadline
  sameNews : ∀ moment, later.now ≤ moment → moment ≤ deadline →
    ((later.logAt moment).HasNews reader ↔ (line.logAt moment).HasNews reader)
  quiet : ∀ moment, line.now ≤ moment → moment < later.now → ¬ (line.logAt moment).HasNews reader

/-- How a poll that has waited until a deadline may end. -/
inductive PollEnds (reader : Reader) (deadline : Nat) (line : Timeline Broker) :
    Except Fault (List Message) → Timeline Broker → Prop where
  /-- With messages, at the first moment at which there are news. -/
  | woken {messages : List Message} {ended : Timeline Broker} (some_message : messages ≠ [])
      (first : IsLeast {moment | line.now ≤ moment ∧ (line.logAt moment).HasNews reader} ended.now)
      (inTime : ended.now ≤ deadline) : PollEnds reader deadline line (.ok messages) ended
  /-- With none at the deadline, if there have been no news until then. Nothing is left to read. -/
  | late {ended : Timeline Broker} (now_eq : ended.now = deadline)
      (quiet : ∀ moment, line.now ≤ moment → moment ≤ deadline →
        ¬ (line.logAt moment).HasNews reader)
      (through : ∀ partition ∈ ended.log.assigned reader, ended.log.IsThrough reader partition) :
      PollEnds reader deadline line (.ok []) ended

variable {broker other : Broker} {reader : Reader} {action : Action} {actions : List Action}
  {line later after : Timeline Broker} {deadline moment limit patience : Nat} {turn : Timeline.Turn}

theorem Action.spares_iff : action.spares reader = true ↔
    action.isBeside reader = true ∧ action.interrupts = false := by
  simp [spares]

theorem messages_run (broker : Broker) (actions : List Action) (topic : String) (partition : Nat) :
    broker.messages topic partition <+: (broker.run actions).messages topic partition := by
  induction actions generalizing broker with
  | nil => exact List.prefix_rfl
  | cons action actions hypothesis =>
      exact (messages_step broker action topic partition).trans (hypothesis _)

namespace HasNews

theorem mono (news : broker.HasNews reader)
    (position_eq : ∀ partition, other.position reader partition = broker.position reader partition)
    (grown : ∀ partition,
      broker.messages reader.topic partition <+: other.messages reader.topic partition) :
    other.HasNews reader := by
  rcases news with ⟨partition, position, stands, unread⟩
  exact ⟨partition, position, (position_eq partition).trans stands,
    Nat.lt_of_lt_of_le unread (grown partition).length_le⟩

theorem congr
    (position_eq : ∀ partition, other.position reader partition = broker.position reader partition)
    (messages_eq : ∀ partition,
      other.messages reader.topic partition = broker.messages reader.topic partition) :
    other.HasNews reader ↔ broker.HasNews reader :=
  ⟨fun news => news.mono (fun partition => (position_eq partition).symm)
      fun partition => (messages_eq partition) ▸ List.prefix_rfl,
    fun news => news.mono position_eq fun partition => (messages_eq partition) ▸ List.prefix_rfl⟩

/-- A session without news has nothing left to read in what it owns. -/
theorem isThrough_of_noNews (noNews : ¬ broker.HasNews reader) {partition : Nat}
    (owned : partition ∈ broker.assigned reader) : broker.IsThrough reader partition := by
  refine ⟨_, position_of_owned owned, ?_⟩
  by_contra unread
  exact noNews ⟨partition, _, position_of_owned owned, Nat.lt_of_not_le unread⟩

theorem not_of_isThrough
    (through : ∀ partition ∈ broker.assigned reader, broker.IsThrough reader partition) :
    ¬ broker.HasNews reader := by
  rintro ⟨partition, position, stands, unread⟩
  have owned : partition ∈ broker.assigned reader := by
    by_contra notOwned
    simp [Broker.position, notOwned] at stands
  rcases through partition owned with ⟨place, standsSo, atEnd⟩
  rw [stands, Except.ok.injEq] at standsSo
  omega

/-- Messages that a poll hands out are news. -/
theorem of_poll {messages : List Message}
    (answered : (broker.step (.ask (.poll reader limit patience))).1 = .ok (some messages))
    (some_message : messages ≠ []) : broker.HasNews reader := by
  have portioned := portioned_of_poll answered
  rw [answered] at portioned
  rcases List.exists_mem_of_ne_nil messages some_message with ⟨message, present⟩
  have inPortion : message ∈ portion messages message.partition :=
    List.mem_filter.mpr ⟨present, by simp⟩
  rcases portioned.goesOn _ (portioned.owned message present) with ⟨start, stands, _, stretch, _⟩
  refine ⟨message.partition, start, stands, ?_⟩
  rw [show portion messages message.partition = _ from stretch] at inPortion
  have unread := List.length_pos_of_mem (List.mem_of_mem_take inPortion)
  rw [List.length_drop] at unread
  omega

/-- After a poll that finds nothing, though there is room for a message, there are no news. -/
theorem not_of_emptyPoll (some_room : limit ≠ 0)
    (answered : (broker.step (.ask (.poll reader limit patience))).1 = .ok none) :
    ¬ (broker.step (.ask (.poll reader limit patience))).2.HasNews reader := by
  have portioned := portioned_of_poll answered
  rw [answered] at portioned
  apply not_of_isThrough
  rw [(kept_of_poll broker reader limit patience).2]
  exact portioned.complete (Nat.pos_of_ne_zero some_room)

end HasNews

namespace Awaits

variable (awaits : Awaits reader deadline line)

include awaits

/-- A turn is an action that spares the session. -/
theorem take (next : line.nextTurn deadline = some turn) :
    Awaits reader deadline (line.take turn) ∧
      ∃ action, action.spares reader = true ∧ (line.take turn).log = (line.log.step action).2 := by
  rcases exists_action_of_turn (fun _ _ _ => rfl) awaits.spares next awaits.inTime with
    ⟨inTime, spares, action, spared, log_eq⟩
  rcases Action.spares_iff.mp spared with ⟨beside, calm⟩
  refine ⟨⟨?_, ?_, ?_, spares, inTime⟩, action, spared, log_eq⟩
  · rw [log_eq]
    exact Reached.lasting line.log action awaits.reached
  · rw [log_eq]
    exact reachable_step awaits.reachable calm
  · rw [log_eq]
    exact live_of_unchanged (Action.isBeside_iff.mp beside).1 awaits.live

/-- A turn that is over has made no difference to the log at a later moment: either it is counted in
with what lies ahead, or it was the look of a watch, which changes nothing. -/
theorem logAt_take (next : line.nextTurn deadline = some turn)
    (notBefore : (line.take turn).now ≤ moment) :
    (line.take turn).logAt moment = line.logAt moment := by
  simp only [Timeline.logAt]
  rcases Timeline.take_cases next with ⟨action, log_eq, ahead_eq⟩ | ⟨watch, log_eq, ahead_eq⟩
  · rw [ahead_eq moment notBefore, log_eq]
    rfl
  · have asks : (Transport.serve watch.request line.log).2 = line.log :=
      question_of_calm (reachable_iff.mp awaits.reachable).2 watch.topic fun topic =>
        topic.offsets watch.topic watch.group watch.partitions
    rw [ahead_eq, log_eq, asks]

/-- A turn is uneventful if there are no news before the clock gets to it. -/
theorem uneventful_take (next : line.nextTurn deadline = some turn)
    (quiet : line.now < (line.take turn).now → ¬ line.log.HasNews reader) :
    Uneventful reader deadline line (line.take turn) := by
  refine ⟨(Timeline.now_take next).1, (awaits.take next).1.inTime, ?_, ?_⟩
  · intro moment notBefore _
    rw [awaits.logAt_take next notBefore]
  · intro moment notBefore before
    rw [Timeline.logAt, Timeline.ahead_of_before_turn next notBefore before]
    exact quiet (by omega)

/-- Without an arrival a turn brings no news. -/
theorem noNews_take (next : line.nextTurn deadline = some turn)
    (noArrival : (line.take turn).log.arrivals = line.log.arrivals)
    (noNews : ¬ line.log.HasNews reader) : ¬ (line.take turn).log.HasNews reader := by
  rcases (awaits.take next).2 with ⟨action, spared, log_eq⟩
  have beside := (Action.spares_iff.mp spared).1
  rw [log_eq] at noArrival ⊢
  rwa [HasNews.congr (position_of_beside beside awaits.reached)
    (messages_step_eq noArrival reader.topic)]

end Awaits

theorem logAt_of_no_turn (none_left : line.nextTurn deadline = none) (inTime : moment ≤ deadline) :
    line.logAt moment = line.log := by
  have none_early := Timeline.ahead_prefix inTime line
  rw [Timeline.ahead_of_no_turn none_left, List.prefix_nil] at none_early
  rw [Timeline.logAt, none_early]
  rfl

namespace Uneventful

theorem refl (inTime : line.now ≤ deadline) : Uneventful reader deadline line line :=
  ⟨Nat.le_refl _, inTime, fun _ _ _ => Iff.rfl, by omega⟩

theorem trans (first : Uneventful reader deadline line later)
    (second : Uneventful reader deadline later after) : Uneventful reader deadline line after := by
  refine ⟨Nat.le_trans first.notBefore second.notBefore, second.inTime, ?_, ?_⟩
  · intro moment notBefore inTime
    exact (second.sameNews moment notBefore inTime).trans
      (first.sameNews moment (Nat.le_trans second.notBefore notBefore) inTime)
  · intro moment notBefore before
    rcases Nat.lt_or_ge moment later.now with early | late
    · exact first.quiet moment notBefore early
    · have inTime := second.inTime
      rw [← first.sameNews moment late (by omega)]
      exact second.quiet moment late before

end Uneventful

namespace Awaits

variable (awaits : Awaits reader deadline line)

include awaits

/-- News are still there when whatever is due by now has happened. -/
theorem hasNews_logAt (news : line.log.HasNews reader) : (line.logAt line.now).HasNews reader := by
  have beside : ∀ action ∈ line.ahead line.now, action.isBeside reader = true := by
    intro action due
    have spared := awaits.spares action ((Timeline.ahead_prefix awaits.inTime line).mem due)
    exact (Action.spares_iff.mp spared).1
  exact news.mono (position_run_of_beside awaits.reached beside) (messages_run _ _ reader.topic)

/-- The plan of the gaps has no part in it, nor has a panic. -/
theorem beside (now_eq : later.now = line.now) (log_eq : later.log = line.log)
    (upcoming_eq : later.upcoming = line.upcoming) :
    Awaits reader deadline later ∧ Uneventful reader deadline line later := by
  have ahead_eq : ∀ moment, later.ahead moment = line.ahead moment := by
    intro moment
    rw [Timeline.ahead, upcoming_eq, Timeline.ahead]
  have logAt_eq : ∀ moment, later.logAt moment = line.logAt moment := by
    intro moment
    rw [Timeline.logAt, log_eq, ahead_eq, Timeline.logAt]
  refine ⟨⟨log_eq ▸ awaits.reached, log_eq ▸ awaits.reachable, log_eq ▸ awaits.live,
    ahead_eq deadline ▸ awaits.spares, now_eq ▸ awaits.inTime⟩,
    ⟨now_eq.ge, now_eq ▸ awaits.inTime, fun moment _ _ => logAt_eq moment ▸ Iff.rfl, ?_⟩⟩
  intro moment notBefore before
  omega

theorem plan (gaps : List Nat) :
    Awaits reader deadline (line.plan gaps) ∧ Uneventful reader deadline line (line.plan gaps) :=
  awaits.beside rfl rfl rfl

/-- What is due by now takes its turn in a gap without any time passing. -/
theorem gap (usual : Nat) :
    Awaits reader deadline (line.gap usual) ∧
      Uneventful reader deadline line (line.gap usual) := by
  apply Timeline.keeps_gap fun later =>
    Awaits reader deadline later ∧ Uneventful reader deadline line later
  · rintro later gaps ⟨goesOn, passes⟩
    rcases goesOn.plan gaps with ⟨planned, begins⟩
    exact ⟨planned, passes.trans begins⟩
  · rintro later turn next ⟨goesOn, passes⟩
    have moved := Timeline.now_take next
    have isNext := Timeline.nextTurn_of_earlier next goesOn.inTime
    exact ⟨(goesOn.take isNext).1, passes.trans (goesOn.uneventful_take isNext (by omega))⟩
  · exact ⟨awaits, .refl awaits.inTime⟩

/-- Without an arrival there are no news behind a gap, if there were none before. -/
theorem noNews_gap (usual : Nat) (noArrival : (line.gap usual).log.arrivals = line.log.arrivals)
    (noNews : ¬ line.log.HasNews reader) : ¬ (line.gap usual).log.HasNews reader := by
  refine (Timeline.keeps_gap (fun later => Awaits reader deadline later ∧
    line.log.arrivals ≤ later.log.arrivals ∧
    (later.log.arrivals = line.log.arrivals → ¬ later.log.HasNews reader))
    ?_ ?_ ⟨awaits, Nat.le_refl _, fun _ => noNews⟩ usual).2.2 noArrival
  · rintro later gaps ⟨goesOn, kept⟩
    exact ⟨(goesOn.plan gaps).1, kept⟩
  · rintro later turn next ⟨goesOn, notFewer, stillNone⟩
    have isNext := Timeline.nextTurn_of_earlier next goesOn.inTime
    rcases Timeline.comes_take turn later with ⟨_, takes, _⟩
    have notFewerThen := arrivals_le_of_comes takes
    refine ⟨(goesOn.take isNext).1, Nat.le_trans notFewer notFewerThen, ?_⟩
    intro noneThen
    exact goesOn.noNews_take isNext (by omega) (stillNone (by omega))

theorem now_moveTo : (line.moveTo deadline).now = deadline :=
  Nat.max_eq_right awaits.inTime

theorem moveTo : Awaits reader deadline (line.moveTo deadline) :=
  ⟨awaits.reached, awaits.reachable, awaits.live, awaits.spares, awaits.now_moveTo.le⟩

theorem uneventful_moveTo (none_left : line.nextTurn deadline = none)
    (noNews : ¬ line.log.HasNews reader) :
    Uneventful reader deadline line (line.moveTo deadline) := by
  refine ⟨Nat.le_max_left _ _, awaits.moveTo.inTime, fun _ _ _ => Iff.rfl, ?_⟩
  intro moment _ before
  have inTime := awaits.moveTo.inTime
  rwa [logAt_of_no_turn none_left (by omega)]

/-- Let there be no news unless there are other arrivals than those seen. Then it is uneventful to
wait for one, and if none comes there are no news at the deadline. -/
theorem awaitArrival {seen : Nat}
    (noNews : line.log.arrivals = seen → ¬ line.log.HasNews reader) :
    Awaits reader deadline (line.awaitArrival seen deadline).2 ∧
      Uneventful reader deadline line (line.awaitArrival seen deadline).2 ∧
      ((line.awaitArrival seen deadline).1 = false →
        (line.awaitArrival seen deadline).2.now = deadline ∧
        (line.awaitArrival seen deadline).2.logAt deadline =
          (line.awaitArrival seen deadline).2.log ∧
        ¬ (line.awaitArrival seen deadline).2.log.HasNews reader) := by
  fun_induction Timeline.awaitArrival seen deadline line with
  | case1 line same none_left =>
      exact ⟨awaits.moveTo, awaits.uneventful_moveTo none_left (noNews same),
        fun _ => ⟨awaits.now_moveTo, logAt_of_no_turn none_left (Nat.le_refl _), noNews same⟩⟩
  | case2 line same turn next hypothesis =>
      have first := awaits.uneventful_take next fun _ => noNews same
      have stillNoNews : (line.take turn).log.arrivals = seen →
          ¬ (line.take turn).log.HasNews reader :=
        fun sameThen => awaits.noNews_take next (sameThen.trans same.symm) (noNews same)
      rcases hypothesis (awaits.take next).1 stillNoNews with ⟨goesOn, rest, late⟩
      exact ⟨goesOn, first.trans rest, late⟩
  | case3 line =>
      rcases awaits.gap _ with ⟨goesOn, passes⟩
      exact ⟨goesOn, passes, fun gaveUp => by cases gaveUp⟩

theorem poll (limit patience : Nat) :
    Awaits reader deadline (line.serve (.poll reader limit patience)).2 := by
  have moved : (line.serve (.poll reader limit patience)).2.log =
      (line.log.step (.ask (.poll reader limit patience))).2 := rfl
  refine ⟨?_, ?_, ?_, awaits.spares, awaits.inTime⟩
  · exact moved ▸ Reached.lasting line.log _ awaits.reached
  · exact moved ▸ reachable_step awaits.reachable rfl
  · exact moved ▸ live_of_unchanged rfl awaits.live

theorem poll_ok (limit patience : Nat) :
    ∃ handed, (line.log.step (.ask (.poll reader limit patience))).1 = .ok handed :=
  poll_eq_ok_iff.mpr ⟨awaits.live, awaits.reachable⟩

/-- A poll that finds nothing is uneventful: it leaves the session where it is, and the records that
will be there are the same with it and without it. -/
theorem uneventful_poll
    (nothing : handedBy (line.log.step (.ask (.poll reader limit patience))).1 = []) :
    Uneventful reader deadline line (line.serve (.poll reader limit patience)).2 := by
  refine ⟨Nat.le_refl _, awaits.inTime, ?_,
    fun _ notBefore before => absurd notBefore (Nat.not_le.mpr before)⟩
  intro moment notBefore inTime
  have spares : ∀ action ∈ line.ahead moment, action.spares reader = true :=
    fun action due => awaits.spares action ((Timeline.ahead_prefix inTime line).mem due)
  have beside := fun action due => (Action.spares_iff.mp (spares action due)).1
  have calm := fun action due => (Action.spares_iff.mp (spares action due)).2
  have sameRecords :=
    SameRecords.of_poll (reachable_iff.mp awaits.reachable).2 reader limit patience
  apply HasNews.congr
  · intro partition
    have stood := (intact_of_emptyPoll nothing).position_eq reader partition
    exact (position_run_of_beside (awaits.poll limit patience).reached beside partition).trans
      (stood.trans (position_run_of_beside awaits.reached beside partition).symm)
  · exact (sameRecords.run calm).messages_eq reader.topic

end Awaits

theorem PollEnds.of_uneventful {answer : Except Fault (List Message)}
    (uneventful : Uneventful reader deadline line later)
    (ends : PollEnds reader deadline later answer after) :
    PollEnds reader deadline line answer after := by
  cases ends with
  | woken some_message first inTime =>
      refine .woken some_message ⟨⟨?_, ?_⟩, ?_⟩ inTime
      · exact Nat.le_trans uneventful.notBefore first.1.1
      · exact (uneventful.sameNews _ first.1.1 inTime).mp first.1.2
      · rintro moment ⟨notBefore, news⟩
        by_contra early
        rcases Nat.lt_or_ge moment later.now with before | late
        · exact uneventful.quiet moment notBefore before news
        · have newsLater := (uneventful.sameNews moment late (by omega)).mpr news
          exact early (first.2 ⟨late, newsLater⟩)
  | late now_eq quiet through =>
      refine .late now_eq ?_ through
      intro moment notBefore inTime news
      rcases Nat.lt_or_ge moment later.now with before | late
      · exact uneventful.quiet moment notBefore before news
      · exact quiet moment late inTime ((uneventful.sameNews moment late inTime).mpr news)

/-- A session looks at the arrivals, polls and finds nothing. What has come by the time at which it
begins to wait is either among the arrivals it has seen, and then read, or wakes it. -/
theorem Awaits.noNews_of_emptyPoll (awaits : Awaits reader deadline line) (some_room : limit ≠ 0)
    (found : ((line.gap 0).log.step (.ask (.poll reader limit patience))).1 = .ok none)
    (same : (((line.gap 0).serve (.poll reader limit patience)).2.gap 0).log.arrivals =
      line.log.arrivals) :
    ¬ (((line.gap 0).serve (.poll reader limit patience)).2.gap 0).log.HasNews reader := by
  let asked := ((line.gap 0).serve (.poll reader limit patience)).2
  rcases Timeline.comes_gap 0 line with ⟨_, passes, _⟩
  rcases Timeline.comes_gap 0 asked with ⟨_, passesThen, _⟩
  have before : line.log.arrivals ≤ (line.gap 0).log.arrivals := arrivals_le_of_comes passes
  have polled : (line.gap 0).log.arrivals ≤ asked.log.arrivals :=
    arrivals_le_of_comes (.asked (.poll reader limit patience) (line.gap 0))
  have behind : asked.log.arrivals ≤ (asked.gap 0).log.arrivals := arrivals_le_of_comes passesThen
  have noArrival : (asked.gap 0).log.arrivals = asked.log.arrivals :=
    Nat.le_antisymm (same.le.trans (before.trans polled)) behind
  have noNews : ¬ asked.log.HasNews reader := HasNews.not_of_emptyPoll some_room found
  exact ((awaits.gap 0).1.poll limit patience).noNews_gap 0 noArrival noNews

/-- Such a round is uneventful until its wait is over, and if the wait is in vain there are no news
at the deadline. -/
theorem Awaits.emptyRound (awaits : Awaits reader deadline line) (some_room : limit ≠ 0)
    (found : ((line.gap 0).log.step (.ask (.poll reader limit patience))).1 = .ok none)
    {woken : Bool} (waits : (((line.gap 0).serve (.poll reader limit patience)).2.gap 0).awaitArrival
      line.log.arrivals deadline = (woken, later)) :
    Awaits reader deadline later ∧ Uneventful reader deadline line later ∧
      (woken = false → later.now = deadline ∧ later.logAt deadline = later.log ∧
        ¬ later.log.HasNews reader) := by
  rcases awaits.gap 0 with ⟨goesOn, passes⟩
  have polled := goesOn.uneventful_poll (congrArg handedBy found)
  rcases (goesOn.poll limit patience).gap 0 with ⟨goesOnThen, passesThen⟩
  have waited := goesOnThen.awaitArrival (awaits.noNews_of_emptyPoll some_room found)
  rw [waits] at waited
  exact ⟨waited.1, ((passes.trans polled).trans passesThen).trans waited.2.1, waited.2.2⟩

theorem pollEnds_pollUntil (some_room : limit ≠ 0) (patience : Nat)
    (awaits : Awaits reader deadline line) :
    PollEnds reader deadline line (line.pollUntil reader limit patience deadline).1
      (line.pollUntil reader limit patience deadline).2 := by
  fun_induction Timeline.pollUntil reader limit patience deadline line with
  | case1 line asked answered fault failed =>
      rcases (awaits.gap 0).1.poll_ok limit patience with ⟨handed, succeeded⟩
      cases failed.symm.trans succeeded
  | case2 line asked answered messages succeeded =>
      rcases awaits.gap 0 with ⟨goesOn, passes⟩
      have some_message : messages ≠ [] := by
        rintro rfl
        exact poll_ne_nil some_room (line.gap 0).log succeeded
      have served : ((line.gap 0).log.step (.ask (.poll reader limit patience))).1 =
          .ok (some messages) := succeeded
      have news := goesOn.hasNews_logAt (HasNews.of_poll served some_message)
      have now_eq : answered.now = (line.gap 0).now := Timeline.now_pauseUntil_now asked.2
      apply PollEnds.of_uneventful passes
      refine .woken some_message ?_ (now_eq ▸ goesOn.inTime)
      rw [now_eq]
      exact ⟨⟨Nat.le_refl _, news⟩, fun _ later => later.1⟩
  | case3 line seen asked found later late =>
      rcases awaits.emptyRound some_room found late with ⟨_, missedNothing, gaveUp⟩
      rcases gaveUp rfl with ⟨now_eq, logAt_eq, stillNoNews⟩
      apply PollEnds.of_uneventful missedNothing
      refine .late now_eq ?_ fun partition => HasNews.isThrough_of_noNews stillNoNews
      intro moment notBefore inTime
      have atDeadline : moment = deadline := Nat.le_antisymm inTime (now_eq ▸ notBefore)
      rwa [atDeadline, logAt_eq]
  | case4 line seen asked found later arrived hypothesis =>
      rcases awaits.emptyRound some_room found arrived with ⟨stillAwaits, missedNothing, _⟩
      exact (hypothesis stillAwaits).of_uneventful missedNothing

theorem PollEnds.inTime {answer : Except Fault (List Message)}
    (ends : PollEnds reader deadline line answer after) : after.now ≤ deadline := by
  cases ends with
  | woken _ _ inTime => exact inTime
  | late now_eq => exact now_eq.le

theorem poll_zero {handed : Option (List Message)}
    (answered : (broker.step (.ask (.poll reader 0 patience))).1 = .ok handed) :
    handed = some [] := by
  have empty := (portioned_of_poll answered).length_le
  rcases poll_cases reader 0 patience broker with
    ⟨fault, failed, _⟩ | ⟨found, member, _, _, isAnswered, _⟩
  · cases failed.symm.trans answered
  · rw [isAnswered, handedBy_handedOut, Nat.le_zero, List.length_eq_zero_iff] at empty
    rw [isAnswered, empty, Except.ok.injEq] at answered
    exact answered.symm

/-- A poll without room for a message returns at once. -/
theorem pollUntil_zero (awaits : Awaits reader deadline line) :
    (line.pollUntil reader 0 patience deadline).1 = .ok [] ∧
      (line.pollUntil reader 0 patience deadline).2.now = line.now := by
  rcases (awaits.gap 0).1.poll_ok 0 patience with ⟨handed, answered⟩
  obtain rfl := poll_zero answered
  have served : ((line.gap 0).serve (.poll reader 0 patience)).1.answer = .ok (some []) := answered
  unfold Timeline.pollUntil
  simp only [served, true_and]
  exact (Timeline.now_pauseUntil_now _).trans (Timeline.now_gap 0 line)

/-- As long as nothing gets in the way of a live session, what its poll comes to is as it should be:
with room for a message it ends with news or at the deadline, without room at once, and never later
than at the deadline. -/
structure PollServes (reader : Reader) (limit deadline : Nat) (line : Timeline Broker)
    (answer : Except Fault (List Message)) (ended : Timeline Broker) : Prop where
  ends : limit ≠ 0 → PollEnds reader deadline line answer ended
  atOnce : limit = 0 → answer = .ok [] ∧ ended.now = line.now
  inTime : ended.now ≤ deadline

theorem Awaits.pollServes (awaits : Awaits reader deadline line) (limit patience : Nat) :
    PollServes reader limit deadline line (line.pollUntil reader limit patience deadline).1
      (line.pollUntil reader limit patience deadline).2 := by
  by_cases no_room : limit = 0
  · subst no_room
    rcases pollUntil_zero awaits with ⟨answered, now_eq⟩
    exact ⟨fun some_room => absurd rfl some_room, fun _ => ⟨answered, now_eq⟩,
      now_eq.le.trans awaits.inTime⟩
  · have ends := pollEnds_pollUntil no_room patience awaits
    exact ⟨fun _ => ends, fun isZero => absurd isZero no_room, ends.inTime⟩

theorem Awaits.pollServes_beside (awaits : Awaits reader deadline line) (panicked : Bool)
    (limit patience : Nat) :
    let ended := ({ line with panicked } : Timeline Broker).pollUntil reader limit patience deadline
    PollServes reader limit deadline line ended.1 ended.2 := by
  intro ended
  have begun : Awaits reader deadline { line with panicked } ∧
      Uneventful reader deadline line { line with panicked } := awaits.beside rfl rfl rfl
  have serves := begun.1.pollServes limit patience
  exact ⟨fun some_room => (serves.ends some_room).of_uneventful begun.2, serves.atOnce,
    serves.inTime⟩

/-- A poll is seen to end if its deadline has a number, and else it panics, even if there are news.
As long as nothing gets in the way of a live session, a poll that is seen to end does so at the
first moment at which the log, as it would be without the poll, holds a record that the session has
not read; then it returns messages. If there is no such moment by the deadline, it ends just then,
returns none, and the session has nothing left to read. A poll without room for a message returns at
once. -/
theorem poll_serves_iff (reached : Reached line.log) (reachable : line.log.Reachable)
    (live : (line.log.member? reader).isSome)
    (spares : ∀ action ∈ line.ahead (line.now + patience), action.spares reader = true)
    (sound : line.panicked = false) (limit : Nat) :
    let result := Timeline.told (line.poll reader limit patience)
    ((∃ answer ended, result = some (answer, ended) ∧
        PollServes reader limit (line.now + patience) line answer ended) ↔
      line.now + patience ≤ Moment.last) ∧
    (result = none ↔ Moment.last < line.now + patience) := by
  intro result
  have panics : result = none ↔ Moment.last < line.now + patience := by
    have sets : Transport.setsDeadline reader line.log = true := live
    rw [Timeline.told_eq_none, Timeline.panicked_poll]
    simp [sets, sound]
  refine ⟨⟨?_, ?_⟩, panics⟩
  · rintro ⟨answer, ended, isResult, _⟩
    by_contra beyond
    rw [panics.mpr (Nat.lt_of_not_le beyond)] at isResult
    cases isResult
  · intro hasNumber
    rcases line.poll_eq_pollUntil reader limit patience with ⟨panicked, isPollUntil⟩
    have awaits : Awaits reader (line.now + patience) line :=
      ⟨reached, reachable, live, spares, Nat.le_add_right _ _⟩
    have serves := awaits.pollServes_beside panicked limit patience
    rw [← isPollUntil] at serves
    have seen : result = some (line.poll reader limit patience) := by
      rcases Option.eq_none_or_eq_some result with isNone | ⟨other, isSome⟩
      · exact absurd (panics.mp isNone) (Nat.not_lt.mpr hasNumber)
      · rw [isSome, (Timeline.told_eq_some.mp isSome).2]
    exact ⟨_, _, seen, serves⟩

/-- A session waits. Records of another topic arrive, a session of another group polls, and then
there is a record for each partition of the session, one after the other. -/
def distracted : Timeline Broker :=
  { Timeline.start (empty.run [.createTopic "t" 2, .createTopic "u" 1,
      .ask (.join "t" "g" .dynamic), .ask (.join "t" "h" .dynamic)]) with
    upcoming := [(2, .append "u" [⟨none, none, ⟨#[97]⟩⟩]), (3, .ask (.poll ⟨"t", "h", 1⟩ 1 0)),
      (5, .append "t" [⟨some 1, none, ⟨#[98]⟩⟩]), (7, .append "t" [⟨some 0, none, ⟨#[99]⟩⟩])] }

theorem poll_serves_iff_distracted :
    let reader : Reader := ⟨"t", "g", 0⟩
    (∃ answer ended, Timeline.told (distracted.poll reader 4 10) = some (answer, ended) ∧
      PollServes reader 4 10 distracted answer ended ∧ ended.now = 5) ∧
    (∃ answer ended, Timeline.told (distracted.poll reader 4 4) = some (answer, ended) ∧
      PollServes reader 4 4 distracted answer ended ∧ ended.now = 4) ∧
    Timeline.told (distracted.poll reader 4 Duration.longest) = none := by
  intro reader
  have reached : Reached distracted.log := ⟨_, rfl⟩
  have reachable : distracted.log.Reachable := reachable_iff.mpr (by decide +kernel)
  have live : (distracted.log.member? reader).isSome := by decide +kernel
  have spares : ∀ patience ∈ [10, 4, Duration.longest],
      ∀ action ∈ distracted.ahead (0 + patience), action.spares reader = true := by
    decide +kernel
  have serves (patience : Nat) (isOne : patience ∈ [10, 4, Duration.longest]) :=
    poll_serves_iff reached reachable live (spares patience isOne) rfl 4
  rcases (serves 10 (by decide)).1.mpr (by decide) with ⟨answer, ended, isSeen, goesWell⟩
  rcases (serves 4 (by decide)).1.mpr (by decide) with ⟨answerThen, endedThen, isSeenThen, wellThen⟩
  refine ⟨⟨answer, ended, isSeen, goesWell, ?_⟩, ⟨answerThen, endedThen, isSeenThen, wellThen, ?_⟩,
    (serves Duration.longest (by decide)).2.mpr (by decide)⟩
  · rw [← congrArg (fun seen => seen.2.now) (Timeline.told_eq_some.mp isSeen).2]
    decide +kernel
  · rw [← congrArg (fun seen => seen.2.now) (Timeline.told_eq_some.mp isSeenThen).2]
    decide +kernel

/-- A record is there that the only session of its group has not read. -/
def unread : Timeline Broker :=
  .start (empty.run [.createTopic "t" 1, .append "t" [⟨none, none, ⟨#[97]⟩⟩],
    .ask (.join "t" "g" .dynamic)])

/-- Nothing gets in the way of the session and there are news. Whoever does not want to wait is
handed the record, and whoever would wait for as long as there is a span is handed nothing at all.
-/
theorem poll_panics_with_news :
    let reader : Reader := ⟨"t", "g", 0⟩
    Reached unread.log ∧ unread.log.Reachable ∧ (unread.log.member? reader).isSome ∧
      unread.upcoming = [] ∧ unread.log.HasNews reader ∧
      (Timeline.told (unread.poll reader 1 0)).map Prod.fst =
        some (.ok [⟨0, 0, none, ⟨#[97]⟩⟩]) ∧
      Timeline.told (unread.poll reader 1 Duration.longest) = none ∧
      Timeline.told (unread.poll reader 0 Duration.longest) = none := by
  intro reader
  have panics (limit : Nat) : Timeline.told (unread.poll reader limit Duration.longest) = none := by
    apply Timeline.told_eq_none.mpr
    apply (Timeline.panicked_poll reader limit Duration.longest unread).mpr
    exact .inr ⟨by decide +kernel, by decide +kernel⟩
  exact ⟨⟨_, rfl⟩, reachable_iff.mpr (by decide +kernel), by decide +kernel, rfl,
    ⟨0, 0, by decide +kernel, by decide +kernel⟩, by decide +kernel, panics 1, panics 0⟩

/-- Two records come while a session polls: one when it has read the log and has not begun to wait,
and one before it has read the log again. Neither is missed. -/
example :
    let racing : Timeline Broker :=
      { Timeline.start (empty.run [.createTopic "t" 1, .ask (.join "t" "g" .dynamic)]) with
        upcoming := [(0, .append "t" [⟨none, none, ⟨#[97]⟩⟩]),
          (0, .append "t" [⟨none, none, ⟨#[98]⟩⟩])]
        gaps := [0, 1, 0, 1] }
    let polled := racing.poll ⟨"t", "g", 0⟩ 2 10
    polled.1 = .ok [⟨0, 0, none, ⟨#[97]⟩⟩, ⟨0, 1, none, ⟨#[98]⟩⟩] ∧ polled.2.now = 0 := by
  decide +kernel

end Broker

end FrontierBus
