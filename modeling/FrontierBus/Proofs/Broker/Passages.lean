import FrontierBus.Proofs.Broker.Attendance
import FrontierBus.Proofs.Consumer.Lifetime
import FrontierBus.Proofs.Producer.Lifetime

/-!
# Comings and goings

What comes to pass while something is called is of two kinds: the events, by which sessions may come
and go, and the requests of the call, of which at most one begins or ends a session. Whether that
session comes or goes amid the events or behind them makes no difference to who is present in the
end.
-/

namespace FrontierBus

open Broker

/-- A request by which, as it is answered, nobody comes or goes. -/
def Exchange.Idle (exchange : Exchange) : Prop :=
  ∀ present, attendedBy present exchange.request exchange.reply.answer = present

theorem Occurrence.idle_of_aside {exchange : Exchange} {occurred : List (Occurrence Broker)}
    (aside : Timeline.Aside occurred) (isMade : .request exchange ∈ occurred) : exchange.Idle := by
  have isAside := aside _ isMade
  rcases exchange with ⟨moment, request, reply⟩
  cases request with
  | offsets => exact fun _ => rfl
  | _ => cases isAside

/-- A session is to begin or to end. -/
def Request.isPassage : Request → Bool
  | join .. | leave _ => true
  | _ => false

theorem Exchange.idle_of_not_isPassage {exchange : Exchange}
    (stays : exchange.request.isPassage = false) : exchange.Idle := by
  rcases exchange with ⟨moment, request, reply⟩
  cases request with
  | join => cases stays
  | leave => cases stays
  | _ => exact fun _ => rfl

theorem Exchange.idle_of_look {exchange : Exchange} (look : exchange.asked? = none) :
    exchange.Idle := by
  rcases exchange.asked?_cases with asked | ⟨_, _, _, _, isLook⟩
  · rw [look] at asked
    cases asked
  · apply idle_of_not_isPassage
    rw [isLook]
    rfl

namespace Timeline

variable {Log : Type} [Transport Log] {line after : Timeline Log}
  {occurred : List (Occurrence Log)}

/-- From one timeline to a later one requests are made, and none of them begins or ends a session.
-/
def AsksWithin (before after : Timeline Log) : Prop :=
  ∃ requests, (∀ request ∈ requests, request.isPassage = false) ∧ before.Asks requests after

theorem idle_of_asksWithin (within : line.AsksWithin after) (comes : line.Comes occurred after) :
    ∀ exchange, .request exchange ∈ occurred → exchange.Idle := by
  rcases within with ⟨_, stay, made, makes, rfl⟩
  intro exchange isMade
  have among : exchange ∈ made := by
    rw [← makes.since_eq, comes.makes.since_eq]
    exact Occurrence.mem_exchanges.mpr isMade
  rcases exchange.asked?_cases with isAsked | ⟨isLook, _⟩
  · exact Exchange.idle_of_not_isPassage
      (stay _ (List.mem_filterMap.mpr ⟨exchange, among, isAsked⟩))
  · exact Exchange.idle_of_look isLook

theorem AsksWithin.trans {before between : Timeline Log} (first : before.AsksWithin between)
    (second : between.AsksWithin after) : before.AsksWithin after := by
  rcases first with ⟨front, frontStays, asksFront⟩
  rcases second with ⟨back, backStays, asksBack⟩
  exact ⟨front ++ back, List.forall_mem_append.mpr ⟨frontStays, backStays⟩,
    asksFront.trans asksBack⟩

theorem asksWithin_of_delivers {producer changed : Producer}
    (delivers : producer.Delivers line changed after) : line.AsksWithin after := by
  rcases delivers.asks with ⟨deliveries, own, asks⟩
  refine ⟨deliveries, fun request isAsked => ?_, asks⟩
  have isDelivery := own request isAsked
  cases request with
  | join => cases isDelivery
  | leave => cases isDelivery
  | _ => rfl

/-- Short of closing, a consumer neither begins nor ends a session. -/
theorem asksWithin_consumer {call : Consumer.Call} (stays : call ≠ .close) (consumer : Consumer)
    (line : Timeline Log) : line.AsksWithin (consumer.perform line call).2.2 := by
  rcases (Consumer.asks_perform_of_ne_close stays consumer line).2 with ⟨reads, areReads, asks⟩
  refine ⟨reads, fun request isAsked => ?_, asks⟩
  have isRead := areReads request isAsked
  cases request with
  | join => cases isRead
  | leave => cases isRead
  | _ => rfl

/-- Whatever a producer is called to do, no session of a group begins or ends. -/
theorem asksWithin_producer (call : Call) (producer : StreamProducer) (line : Timeline Log) :
    line.AsksWithin (producer.perform call line).2.2 := by
  have course := StreamProducer.course_perform call producer line
  generalize producer.records call = records at course
  generalize (producer.perform call line).1 = answer at course
  generalize (producer.perform call line).2.1.core = changed at course
  generalize (producer.perform call line).2.2 = after at course ⊢
  cases course with
  | refused => exact ⟨[], List.forall_mem_nil _, .nothing line⟩
  | again => exact ⟨[], List.forall_mem_nil _, .nothing line⟩
  | flushed => exact asksWithin_of_delivers (Producer.flush_delivers producer.core line)
  | took _ room behind =>
      exact (asksWithin_of_delivers (Producer.tries_delivers room)).trans
        (asksWithin_of_delivers (Producer.tries_delivers behind))
  | closed =>
      refine (asksWithin_of_delivers (Producer.flush_delivers producer.core line)).trans ?_
      exact ⟨_, List.forall_mem_singleton.mpr rfl, Timeline.asks_ask _ _ fun _ _ => rfl⟩

end Timeline

namespace Broker

variable {broker : Broker} {present other : List Session} {session : Session} {reader : Reader}
  {action : Action} {occurred front back : List (Occurrence Broker)}

section Attends

theorem attends_perm (listed : present.Perm other) :
    (attends broker action present).Perm (attends broker action other) := by
  cases action with
  | ask request =>
      simp only [attends]
      cases request with
      | join topic group assignment =>
          simp only [attendedBy]
          split
          · exact listed.append_right _
          · exact listed
      | leave gone => exact listed.filter _
      | _ => exact listed
  | _ => exact listed

/-- Whoever is on the list and does not leave may as well be put at its end. -/
theorem attends_concat (stays : action.isLeaveOf session.reader = false) :
    (attends broker action (present ++ [session])).Perm
      (attends broker action present ++ [session]) := by
  cases action with
  | ask request =>
      simp only [attends]
      cases request with
      | join topic group assignment =>
          simp only [attendedBy]
          split
          · rw [List.append_assoc, List.append_assoc]
            exact List.perm_append_comm.append_left present
          · exact .refl _
      | leave gone =>
          have isOther : session.reader ≠ gone := by
            intro same
            simp [Action.isLeaveOf, same] at stays
          simp [attendedBy, isOther]
      | _ => exact .refl _
  | _ => exact .refl _

/-- Whoever comes has a number that nobody had before. -/
theorem mem_attends (isPresent : session ∈ attends broker action present) :
    session ∈ present ∨ broker.nextMember ≤ session.reader.member := by
  cases action with
  | ask request =>
      simp only [attends] at isPresent
      cases request with
      | join topic group assignment =>
          cases answered : (broker.step (.ask (.join topic group assignment))).1 with
          | error fault =>
              rw [answered] at isPresent
              exact .inl isPresent
          | ok id =>
              rw [answered] at isPresent
              rcases List.mem_append.mp isPresent with old | new
              · exact .inl old
              · rw [List.mem_singleton.mp new, (group_of_join answered).2]
                exact .inr (Nat.le_refl _)
      | leave gone => exact .inl (List.mem_of_mem_filter isPresent)
      | _ => exact .inl isPresent
  | _ => exact .inl isPresent

/-- Striking a session with a number that was given out off the list can be done before or after. -/
theorem filter_attends (numbered : reader.member < broker.nextMember) :
    (attends broker action present).filter (fun session => session.reader ≠ reader) =
      attends broker action (present.filter fun session => session.reader ≠ reader) := by
  cases action with
  | ask request =>
      simp only [attends]
      cases request with
      | join topic group assignment =>
          cases answered : (broker.step (.ask (.join topic group assignment))).1 with
          | error fault => rfl
          | ok id =>
              have isNew : (⟨topic, group, id⟩ : Reader) ≠ reader := by
                intro same
                rw [← same, (group_of_join answered).2] at numbered
                exact Nat.lt_irrefl _ numbered
              simp only [attendedBy, List.filter_append]
              simp [isNew]
      | leave gone =>
          simp only [attendedBy]
          rw [List.filter_comm]
      | _ => rfl
  | _ => rfl

end Attends

/-- Who is present after what has come to pass, if of all that only the events count. -/
def besides : Broker → List Session → List (Occurrence Broker) → List Session
  | _, present, [] => present
  | broker, present, .request exchange :: occurred =>
    besides ((Occurrence.request exchange).befall broker) present occurred
  | broker, present, .event action :: occurred =>
    besides ((Occurrence.event action).befall broker) (attends broker action present) occurred

theorem besides_append (broker : Broker) (present : List Session)
    (front back : List (Occurrence Broker)) :
    besides broker present (front ++ back) =
      besides (front.foldl Occurrence.befall broker) (besides broker present front) back := by
  induction front generalizing broker present with
  | nil => rfl
  | cons occurrence front hypothesis =>
      cases occurrence with
      | request exchange => exact hypothesis _ present
      | event action => exact hypothesis _ _

theorem nextMember_le_befall (occurrence : Occurrence Broker) (broker : Broker) :
    broker.nextMember ≤ (occurrence.befall broker).nextMember := by
  rw [befall_eq]
  exact nextMember_le_step broker _

theorem nextMember_le_foldl (occurred : List (Occurrence Broker)) (broker : Broker) :
    broker.nextMember ≤ (occurred.foldl Occurrence.befall broker).nextMember := by
  induction occurred generalizing broker with
  | nil => exact Nat.le_refl _
  | cons occurrence occurred hypothesis =>
      exact Nat.le_trans (nextMember_le_befall occurrence broker) (hypothesis _)

theorem besides_perm (listed : present.Perm other) (broker : Broker)
    (occurred : List (Occurrence Broker)) :
    (besides broker present occurred).Perm (besides broker other occurred) := by
  induction occurred generalizing broker present other with
  | nil => exact listed
  | cons occurrence occurred hypothesis =>
      cases occurrence with
      | request exchange => exact hypothesis listed _
      | event action => exact hypothesis (attends_perm listed) _

theorem besides_concat
    (stays : ∀ action, .event action ∈ occurred → action.isLeaveOf session.reader = false)
    (broker : Broker) (present : List Session) :
    (besides broker (present ++ [session]) occurred).Perm
      (besides broker present occurred ++ [session]) := by
  induction occurred generalizing broker present with
  | nil => exact .refl _
  | cons occurrence occurred hypothesis =>
      have later := hypothesis fun action happens => stays action (List.mem_cons_of_mem _ happens)
      cases occurrence with
      | request exchange => exact later _ present
      | event action =>
          have moved : (attends broker action (present ++ [session])).Perm
              (attends broker action present ++ [session]) :=
            attends_concat (stays action List.mem_cons_self)
          exact (besides_perm moved _ occurred).trans (later _ _)

theorem mem_besides (isPresent : session ∈ besides broker present occurred) :
    session ∈ present ∨ broker.nextMember ≤ session.reader.member := by
  induction occurred generalizing broker present with
  | nil => exact .inl isPresent
  | cons occurrence occurred hypothesis =>
      cases occurrence with
      | request exchange =>
          rcases hypothesis isPresent with before | new
          · exact .inl before
          · exact .inr (Nat.le_trans (nextMember_le_befall _ broker) new)
      | event action =>
          rcases hypothesis isPresent with before | new
          · exact mem_attends before
          · exact .inr (Nat.le_trans (nextMember_le_befall _ broker) new)

theorem filter_besides (numbered : reader.member < broker.nextMember) :
    (besides broker present occurred).filter (fun session => session.reader ≠ reader) =
      besides broker (present.filter fun session => session.reader ≠ reader) occurred := by
  induction occurred generalizing broker present with
  | nil => rfl
  | cons occurrence occurred hypothesis =>
      have later := Nat.lt_of_lt_of_le numbered (nextMember_le_befall occurrence broker)
      cases occurrence with
      | request exchange => exact hypothesis later
      | event action =>
          simp only [besides]
          rw [hypothesis later, filter_attends numbered]

theorem attends_of_fits {exchange : Exchange}
    (fits : (Occurrence.request exchange : Occurrence Broker).Fits broker)
    (present : List Session) :
    attends broker (.ask exchange.request) present =
      attendedBy present exchange.request exchange.reply.answer := by
  have answered : exchange.reply = (broker.serve exchange.request).1 := fits
  rw [answered]
  rfl

/-- Where by the requests nobody comes or goes, only the events count. -/
theorem noted_of_idle (idle : ∀ exchange, .request exchange ∈ occurred → exchange.Idle)
    (fits : Occurrence.AllFit broker occurred) (present : List Session) :
    noted attends broker present (occurred.map actionOf) = besides broker present occurred := by
  induction occurred generalizing broker present with
  | nil => rfl
  | cons occurrence occurred hypothesis =>
      have rest := hypothesis (fun exchange isMade => idle exchange (List.mem_cons_of_mem _ isMade))
        fits.2
      rw [befall_eq] at rest
      cases occurrence with
      | request exchange =>
          have kept := (attends_of_fits fits.1 present).trans
            (idle exchange List.mem_cons_self present)
          simp only [List.map_cons, noted, actionOf, besides, befall_eq]
          rw [kept]
          exact rest present
      | event action =>
          simp only [List.map_cons, noted, actionOf, besides, befall_eq]
          exact rest _

/-- Where a session comes by one of the requests, it may as well have come behind the events. -/
theorem noted_of_joining {exchange : Exchange}
    (joins : ∀ present, attendedBy present exchange.request exchange.reply.answer =
      present ++ [session])
    (idleFront : ∀ made, .request made ∈ front → made.Idle)
    (idleBack : ∀ made, .request made ∈ back → made.Idle)
    (stays : ∀ action, .event action ∈ back → action.isLeaveOf session.reader = false)
    (fits : Occurrence.AllFit broker (front ++ .request exchange :: back))
    (present : List Session) :
    (noted attends broker present ((front ++ .request exchange :: back).map actionOf)).Perm
      (besides broker present (front ++ .request exchange :: back) ++ [session]) := by
  rcases Occurrence.allFit_append.mp fits with ⟨fitsFront, fitsJoin, fitsBack⟩
  rw [List.map_append, noted_append, noted_of_idle idleFront fitsFront, ← foldl_befall,
    List.map_cons, noted, besides_append]
  simp only [befall_eq, actionOf] at fitsBack
  simp only [actionOf, besides, befall_eq]
  rw [attends_of_fits fitsJoin, joins, noted_of_idle idleBack fitsBack]
  exact besides_concat stays _ _

/-- Where a session ends by one of the requests, it may as well be struck off behind the events. -/
theorem noted_of_leaving {moment : Nat} {reply : Reply (.leave reader)}
    (numbered : reader.member < broker.nextMember)
    (idleFront : ∀ made, .request made ∈ front → made.Idle)
    (idleBack : ∀ made, .request made ∈ back → made.Idle)
    (fits : Occurrence.AllFit broker (front ++ .request ⟨moment, .leave reader, reply⟩ :: back))
    (present : List Session) :
    noted attends broker present
        ((front ++ .request ⟨moment, .leave reader, reply⟩ :: back).map actionOf) =
      (besides broker present (front ++ .request ⟨moment, .leave reader, reply⟩ :: back)).filter
        fun session => session.reader ≠ reader := by
  rcases Occurrence.allFit_append.mp fits with ⟨fitsFront, _, fitsBack⟩
  rw [List.map_append, noted_append, noted_of_idle idleFront fitsFront, ← foldl_befall,
    List.map_cons, noted, besides_append]
  simp only [befall_eq, actionOf] at fitsBack
  simp only [actionOf, besides, befall_eq]
  have later : reader.member < ((front.foldl Occurrence.befall broker).step
      (.ask (.leave reader))).2.nextMember :=
    Nat.lt_of_lt_of_le numbered
      (Nat.le_trans (nextMember_le_foldl front broker) (nextMember_le_step _ _))
  rw [filter_besides later, ← noted_of_idle idleBack fitsBack]
  rfl

end Broker

/-- Where requests stand among all that comes to pass. -/
theorem Timeline.Comes.split_of_exchanges {Log : Type} [Transport Log]
    {occurred : List (Occurrence Log)} {front back : List Exchange} {exchange : Exchange}
    (made : occurred.filterMap Occurrence.exchange? = front ++ exchange :: back) :
    ∃ earlier later, occurred = earlier ++ .request exchange :: later ∧
      earlier.filterMap Occurrence.exchange? = front ∧
      later.filterMap Occurrence.exchange? = back := by
  rcases List.filterMap_eq_append_iff.mp made with ⟨earlier, rest, rfl, isFront, isRest⟩
  rcases List.filterMap_eq_cons_iff.mp isRest with ⟨gap, own, later, rfl, noRequest, isOwn, isBack⟩
  refine ⟨earlier ++ gap, later, ?_, ?_, isBack⟩
  · rw [Occurrence.exchange?_eq_some.mp isOwn, List.append_assoc]
  · rw [List.filterMap_append, isFront, List.filterMap_eq_nil_iff.mpr noRequest, List.append_nil]

end FrontierBus
