import FrontierBus.Proofs.Broker.Outages
import FrontierBus.Proofs.Broker.Passages
import FrontierBus.Proofs.Bus.Isolation

/-!
# Who is present

Sessions come and go by hand, and with the consumers that a bus opens, which join again as long as
that fails for a passing reason and end when they are closed or given up. Whoever keeps a list of
what was opened and not ended, by the answers alone, has the members of every group on it.
-/

namespace FrontierBus

open Broker

namespace Bus

open Timeline

variable {Log : Type} [Transport Log] {line : Timeline Log}

/-- Requests by which nobody comes or goes. -/
def AllIdle (made : List Exchange) : Prop :=
  ∀ exchange ∈ made, exchange.Idle

theorem allIdle_of_own {made : List Exchange}
    (own : ∀ exchange ∈ made, exchange.asked? = none ∨ exchange.Idle) : AllIdle made := by
  intro exchange isMade
  rcases own exchange isMade with look | idle
  · exact Exchange.idle_of_look look
  · exact idle

/-- What a consumer of a stream asks for: the partition that is named, if the stream is keyed. -/
def assignmentOf (stream : Stream) (partition : Option Nat) : Assignment :=
  .ofPartition (if stream.isKeyed then partition else none)

/-- Whoever asks for a consumer has one, and its session has come by one of the requests, or has
none, and nobody has come. -/
inductive Joins (topic group : String) (assignment : Assignment) (line : Timeline Log) :
    Except Fault Consumer × Timeline Log → Prop where
  | stayedOut {fault : Fault} {made : List Exchange} {ended : Timeline Log}
      (makes : line.Makes made ended) (idle : AllIdle made) :
      Joins topic group assignment line (.error fault, ended)
  | came {member moment : Nat} {reply : Reply (.join topic group assignment)}
      {front back : List Exchange} {ended : Timeline Log}
      (makes : line.Makes (front ++ ⟨moment, .join topic group assignment, reply⟩ :: back) ended)
      (answered : reply.answer = .ok member) (idleFront : AllIdle front) (idleBack : AllIdle back) :
      Joins topic group assignment line (.ok ⟨⟨topic, group, member⟩, false⟩, ended)

theorem Joins.behind {topic group : String} {assignment : Assignment} {checked : List Exchange}
    {between : Timeline Log} {result : Except Fault Consumer × Timeline Log}
    (makes : line.Makes checked between) (idle : AllIdle checked)
    (joins : Joins topic group assignment between result) :
    Joins topic group assignment line result := by
  cases joins with
  | stayedOut makesMore idleMore =>
      exact .stayedOut (makes.trans makesMore) (List.forall_mem_append.mpr ⟨idle, idleMore⟩)
  | came makesMore answered idleFront idleBack =>
      have both := makes.trans makesMore
      rw [← List.append_assoc] at both
      exact .came both answered (List.forall_mem_append.mpr ⟨idle, idleFront⟩) idleBack

/-- Whoever insists on joining has come by the last attempt, or not at all. -/
theorem joins_insist (bus : Bus) (topic group : String) (assignment : Assignment)
    (line : Timeline Log) :
    Joins topic group assignment line
      (match bus.insist (Timeline.ask (.join topic group assignment)) line with
        | (.error fault, line) => (.error fault, line)
        | (.ok member, line) => (.ok ⟨⟨topic, group, member⟩, false⟩, line)) := by
  have failsIdle : ∀ (line : Timeline Log) (fault : Fault),
      (line.ask (.join topic group assignment)).1 = .error fault →
      line.MakesOnly Exchange.Idle (line.ask (.join topic group assignment)).2 := by
    intro line fault failed
    refine makesOnly_ask line ?_
    have refused : (line.serve (.join topic group assignment)).1.answer = .error fault := failed
    intro present
    simp only [attendedBy, refused]
  rcases bus.insist_eq_last (Timeline.ask (.join topic group assignment)) failsIdle line with
    ⟨last, ⟨front, makes, own⟩, same⟩
  rw [same]
  have fails := failsIdle last
  have asks := makes_ask_looks (.join topic group assignment) last
  have answer : (last.ask (.join topic group assignment)).1 =
      (last.serve (.join topic group assignment)).1.answer := rfl
  generalize last.ask (.join topic group assignment) = asked at fails asks answer
  rcases asked with ⟨answered, ended⟩
  cases answered with
  | error fault =>
      rcases fails fault rfl with ⟨back, makesBack, ownBack⟩
      exact .stayedOut (makes.trans makesBack)
        (allIdle_of_own (List.forall_mem_append.mpr ⟨own, ownBack⟩))
  | ok member =>
      rcases asks with ⟨looks, asks, areLooks⟩
      exact .came (makes.trans asks) answer.symm (allIdle_of_own own)
        fun exchange isMade => Exchange.idle_of_look (areLooks exchange isMade)

theorem allIdle_of_checks {topic : String} {expected : Option Nat} {checked : List Exchange}
    {found : Except Fault Nat} (checks : Checks topic expected checked found) :
    AllIdle checked := by
  intro exchange isMade
  rcases checks.counts_only isMade with look | counts
  · exact Exchange.idle_of_look look
  · rcases exchange with ⟨moment, request, reply⟩
    cases counts
    exact fun _ => rfl

theorem joins_consumer (bus : Bus) (stream : Stream) (role : Role) (partition : Option Nat)
    (line : Timeline Log) :
    Joins (stream.topic bus.settings) (stream.group role bus.settings)
      (assignmentOf stream partition) line (bus.consumer stream role partition line) := by
  simp only [consumer, assignmentOf]
  generalize (if stream.isKeyed then partition else none) = wanted
  rcases bus.withLayout_cases stream _ line with
    ⟨checked, between, makes, ⟨fault, checks, refused⟩ | ⟨count, checks, goesOn⟩⟩
  · rw [refused]
    exact .stayedOut makes (allIdle_of_checks checks)
  · rw [goesOn]
    refine .behind makes (allIdle_of_checks checks) ?_
    have joins := bus.joins_insist (stream.topic bus.settings) (stream.group role bus.settings)
      (.ofPartition wanted) between
    cases wanted with
    | none => exact joins
    | some partition =>
        simp only
        split
        · exact .stayedOut (.nothing between) (List.forall_mem_nil _)
        · exact joins

end Bus

namespace Broker

/-- A run in which sessions come and go by hand and with the consumers that buses open, whatever
else is called; the sessions that were opened and not ended, as those who hold them know, and the
consumers that are held. -/
inductive Presence : List Action → List Session → List Consumer → Prop where
  | nobody : Presence [] [] []
  | acted {actions : List Action} {present : List Session} {held : List Consumer}
      (presence : Presence actions present held) (action : Action) :
      Presence (actions ++ [action]) (attends (empty.run actions) action present) held
  /-- Nobody else ends the session of a consumer before it is handed out. -/
  | opened {actions : List Action} {present : List Session} {held : List Consumer} {bus : Bus}
      {stream : Stream} {role : Role} {partition : Option Nat} {line : Timeline Broker}
      {occurred : List (Occurrence Broker)} {consumer : Consumer}
      (presence : Presence actions present held) (now : line.log = empty.run actions)
      (comes : line.Comes occurred (bus.consumer stream role partition line).2)
      (answered : (bus.consumer stream role partition line).1 = .ok consumer)
      (stays : ∀ action, .event action ∈ occurred → action.isLeaveOf consumer.reader = false) :
      Presence (actions ++ occurred.map actionOf)
        (besides (empty.run actions) present occurred ++
          [⟨consumer.reader, Bus.assignmentOf stream partition⟩]) (consumer :: held)
  | refused {actions : List Action} {present : List Session} {held : List Consumer} {bus : Bus}
      {stream : Stream} {role : Role} {partition : Option Nat} {line : Timeline Broker}
      {occurred : List (Occurrence Broker)} {fault : Fault}
      (presence : Presence actions present held) (now : line.log = empty.run actions)
      (comes : line.Comes occurred (bus.consumer stream role partition line).2)
      (answered : (bus.consumer stream role partition line).1 = .error fault) :
      Presence (actions ++ occurred.map actionOf) (besides (empty.run actions) present occurred)
        held
  /-- Whatever the close answers, and whether it is the first one or not. -/
  | closed {actions : List Action} {present : List Session} {held : List Consumer}
      {consumer : Consumer} {line : Timeline Broker} {occurred : List (Occurrence Broker)}
      (presence : Presence actions present held) (now : line.log = empty.run actions)
      (isHeld : consumer ∈ held) (comes : line.Comes occurred (consumer.close line).2.2) :
      Presence (actions ++ occurred.map actionOf)
        ((besides (empty.run actions) present occurred).filter
          fun session => session.reader ≠ consumer.reader)
        ((consumer.close line).2.1 :: held.erase consumer)
  | dropped {actions : List Action} {present : List Session} {held : List Consumer}
      {consumer : Consumer} {line : Timeline Broker} {occurred : List (Occurrence Broker)}
      (presence : Presence actions present held) (now : line.log = empty.run actions)
      (isHeld : consumer ∈ held) (comes : line.Comes occurred (consumer.drop line)) :
      Presence (actions ++ occurred.map actionOf)
        ((besides (empty.run actions) present occurred).filter
          fun session => session.reader ≠ consumer.reader) (held.erase consumer)
  /-- Anything else that is called neither lets a session in nor ends one. -/
  | called {actions : List Action} {present : List Session} {held : List Consumer}
      {line after : Timeline Broker} {occurred : List (Occurrence Broker)}
      (presence : Presence actions present held) (now : line.log = empty.run actions)
      (comes : line.Comes occurred after)
      (idle : ∀ exchange, .request exchange ∈ occurred → exchange.Idle) :
      Presence (actions ++ occurred.map actionOf) (besides (empty.run actions) present occurred)
        held

variable {actions : List Action} {present : List Session} {held kept : List Consumer}
  {consumer : Consumer} {line after : Timeline Broker}
  {occurred front back : List (Occurrence Broker)}

/-- The other calls of a consumer are calls by which nobody comes or goes. -/
theorem Presence.performed {call : Consumer.Call} (presence : Presence actions present held)
    (now : line.log = empty.run actions) (stays : call ≠ .close)
    (comes : line.Comes occurred (consumer.perform line call).2.2) :
    Presence (actions ++ occurred.map actionOf) (besides (empty.run actions) present occurred)
      held :=
  presence.called now comes
    (Timeline.idle_of_asksWithin (Timeline.asksWithin_consumer stays consumer line) comes)

/-- So are all calls of a producer. -/
theorem Presence.produced {call : Call} {producer : StreamProducer}
    (presence : Presence actions present held) (now : line.log = empty.run actions)
    (comes : line.Comes occurred (producer.perform call line).2.2) :
    Presence (actions ++ occurred.map actionOf) (besides (empty.run actions) present occurred)
      held :=
  presence.called now comes
    (Timeline.idle_of_asksWithin (Timeline.asksWithin_producer call producer line) comes)

theorem sessions_append (front back : List Action) :
    sessions (front ++ back) = noted attends (empty.run front) (sessions front) back :=
  noted_append empty [] front back

theorem allFit_of_now (comes : line.Comes occurred after) (now : line.log = empty.run actions) :
    Occurrence.AllFit (empty.run actions) occurred := by
  rw [← now]
  exact comes.allFit

/-- The list has just those who are present. The consumers that are held have numbers that were
given out, and the sessions of those that are closed are not on the list. -/
structure Tally (actions : List Action) (present : List Session) (held : List Consumer) : Prop where
  listed : present.Perm (sessions actions)
  numbered : ∀ consumer ∈ held, consumer.reader.member < (empty.run actions).nextMember
  ended : ∀ consumer ∈ held, consumer.closed = true →
    ∀ session ∈ present, session.reader ≠ consumer.reader

namespace Tally

theorem nobody : Tally [] [] [] where
  listed := .refl _
  numbered := List.forall_mem_nil _
  ended := List.forall_mem_nil _

/-- A closed consumer is not taken for a session that came after it. -/
theorem ended_of_new {session : Session} (tally : Tally actions present held)
    (isHeld : consumer ∈ held) (isClosed : consumer.closed = true)
    (isNew : session ∈ present ∨ (empty.run actions).nextMember ≤ session.reader.member) :
    session.reader ≠ consumer.reader := by
  rcases isNew with old | new
  · exact tally.ended consumer isHeld isClosed session old
  · intro same
    rw [same] at new
    exact absurd (tally.numbered consumer isHeld) (Nat.not_lt.mpr new)

theorem acted (tally : Tally actions present held) (action : Action) :
    Tally (actions ++ [action]) (attends (empty.run actions) action present) held where
  listed := by
    rw [sessions_concat]
    exact attends_perm tally.listed
  numbered := by
    intro consumer isHeld
    rw [run_concat]
    exact Nat.lt_of_lt_of_le (tally.numbered consumer isHeld) (nextMember_le_step _ action)
  ended := fun _ isHeld isClosed _ isPresent =>
    tally.ended_of_new isHeld isClosed (mem_attends isPresent)

theorem numbered_later (tally : Tally actions present held) (isHeld : consumer ∈ held)
    (occurred : List (Occurrence Broker)) :
    consumer.reader.member < (empty.run (actions ++ occurred.map actionOf)).nextMember := by
  rw [run_occurred]
  exact Nat.lt_of_lt_of_le (tally.numbered consumer isHeld) (nextMember_le_foldl occurred _)

theorem idle (tally : Tally actions present held)
    (idle : ∀ exchange, .request exchange ∈ occurred → exchange.Idle)
    (fits : Occurrence.AllFit (empty.run actions) occurred) :
    Tally (actions ++ occurred.map actionOf) (besides (empty.run actions) present occurred)
      held where
  listed := by
    rw [sessions_append, noted_of_idle idle fits]
    exact besides_perm tally.listed _ occurred
  numbered := fun _ isHeld => tally.numbered_later isHeld occurred
  ended := fun _ isHeld isClosed _ isPresent =>
    tally.ended_of_new isHeld isClosed (mem_besides isPresent)

/-- A session that has come by one of the requests is put on the list. -/
theorem opened {moment : Nat} {topic group : String} {assignment : Assignment}
    {reply : Reply (.join topic group assignment)} {member : Nat}
    (tally : Tally actions present held) (answered : reply.answer = .ok member)
    (idleFront : ∀ made, .request made ∈ front → made.Idle)
    (idleBack : ∀ made, .request made ∈ back → made.Idle)
    (stays : ∀ action, .event action ∈ back → action.isLeaveOf ⟨topic, group, member⟩ = false)
    (isOccurred : occurred =
      front ++ .request ⟨moment, .join topic group assignment, reply⟩ :: back)
    (fits : Occurrence.AllFit (empty.run actions) occurred) :
    Tally (actions ++ occurred.map actionOf)
      (besides (empty.run actions) present occurred ++ [⟨⟨topic, group, member⟩, assignment⟩])
      (⟨⟨topic, group, member⟩, false⟩ :: held) := by
  let session : Session := ⟨⟨topic, group, member⟩, assignment⟩
  have joins : ∀ present, attendedBy present (.join topic group assignment) reply.answer =
      present ++ [session] := by
    intro present
    simp only [attendedBy, answered, session]
  have listed : (besides (empty.run actions) present occurred ++ [session]).Perm
      (sessions (actions ++ occurred.map actionOf)) := by
    rw [sessions_append]
    rw [isOccurred] at fits ⊢
    have came := noted_of_joining joins idleFront idleBack stays fits (sessions actions)
    exact ((besides_perm tally.listed _ _).append_right _).trans came.symm
  have isNext : (empty.run actions).nextMember ≤ member := by
    rw [isOccurred] at fits
    have fitsJoin := (Occurrence.allFit_append.mp fits).2.1
    have isAnswer : reply = ((front.foldl Occurrence.befall (empty.run actions)).serve
      (.join topic group assignment)).1 := fitsJoin
    rw [isAnswer] at answered
    rw [(group_of_join answered).2]
    exact nextMember_le_foldl front _
  refine ⟨listed, ?_, ?_⟩
  · intro consumer isHeld
    rcases List.mem_cons.mp isHeld with rfl | before
    · exact (inOrder_run _).below _
        (listed.subset (List.mem_append_right _ List.mem_cons_self))
    · exact tally.numbered_later before occurred
  · intro consumer isHeld isClosed session isPresent
    rcases List.mem_cons.mp isHeld with rfl | before
    · cases isClosed
    · apply tally.ended_of_new before isClosed
      rcases List.mem_append.mp isPresent with old | new
      · exact mem_besides old
      · rw [List.mem_singleton.mp new]
        exact .inr isNext

/-- The session of a consumer that is closed or dropped is struck off the list, where those that are
held then were held before or have ended. -/
theorem struck (tally : Tally actions present held)
    (listed : ((besides (empty.run actions) present occurred).filter
      fun session => session.reader ≠ consumer.reader).Perm
        (sessions (actions ++ occurred.map actionOf)))
    (isHeld : consumer ∈ held)
    (isKept : ∀ other ∈ kept, other ∈ held ∨ other.reader = consumer.reader) :
    Tally (actions ++ occurred.map actionOf)
      ((besides (empty.run actions) present occurred).filter
        fun session => session.reader ≠ consumer.reader) kept where
  listed := listed
  numbered := by
    intro other among
    rcases isKept other among with before | same
    · exact tally.numbered_later before occurred
    · rw [same]
      exact tally.numbered_later isHeld occurred
  ended := by
    intro other among isClosed session isPresent
    rcases List.mem_filter.mp isPresent with ⟨isBeside, notStruck⟩
    rcases isKept other among with before | same
    · exact tally.ended_of_new before isClosed (mem_besides isBeside)
    · rw [same]
      simpa using notStruck

/-- While a consumer that is closed already is closed again or dropped, nothing is struck off. -/
theorem listed_of_closed (tally : Tally actions present held) (isHeld : consumer ∈ held)
    (isClosed : consumer.closed = true)
    (idle : ∀ exchange, .request exchange ∈ occurred → exchange.Idle)
    (fits : Occurrence.AllFit (empty.run actions) occurred) :
    ((besides (empty.run actions) present occurred).filter
      fun session => session.reader ≠ consumer.reader).Perm
        (sessions (actions ++ occurred.map actionOf)) := by
  rw [List.filter_eq_self.mpr]
  · exact (tally.idle idle fits).listed
  · intro session isBeside
    simpa using tally.ended_of_new isHeld isClosed (mem_besides isBeside)

theorem listed_of_leaving {moment : Nat} {reply : Reply (.leave consumer.reader)}
    (tally : Tally actions present held) (isHeld : consumer ∈ held)
    (idleFront : ∀ made, .request made ∈ front → made.Idle)
    (idleBack : ∀ made, .request made ∈ back → made.Idle)
    (isOccurred : occurred = front ++ .request ⟨moment, .leave consumer.reader, reply⟩ :: back)
    (fits : Occurrence.AllFit (empty.run actions) occurred) :
    ((besides (empty.run actions) present occurred).filter
      fun session => session.reader ≠ consumer.reader).Perm
        (sessions (actions ++ occurred.map actionOf)) := by
  rw [sessions_append]
  rw [isOccurred] at fits ⊢
  rw [noted_of_leaving (tally.numbered consumer isHeld) idleFront idleBack fits]
  exact (besides_perm tally.listed _ _).filter _

end Tally

theorem idle_of_exchanges {made : List Exchange} (idle : Bus.AllIdle made)
    (areMade : occurred.filterMap Occurrence.exchange? = made) :
    ∀ exchange, .request exchange ∈ occurred → exchange.Idle := by
  intro exchange isMade
  apply idle
  rw [← areMade]
  exact Occurrence.mem_exchanges.mpr isMade

theorem idle_of_comes {made : List Exchange} (comes : line.Comes occurred after)
    (makes : line.Makes made after) (idle : Bus.AllIdle made) :
    ∀ exchange, .request exchange ∈ occurred → exchange.Idle :=
  idle_of_exchanges idle (comes.makes.since_eq.symm.trans makes.since_eq)

/-- Where nothing is asked for, nobody comes or goes by requests. -/
theorem idle_of_still (comes : line.Comes occurred line) :
    ∀ exchange, .request exchange ∈ occurred → exchange.Idle :=
  idle_of_comes comes (.nothing line) (List.forall_mem_nil _)

theorem tally_of_joins {topic group : String} {assignment : Assignment}
    {result : Except Fault Consumer × Timeline Broker} (tally : Tally actions present held)
    (joins : Bus.Joins topic group assignment line result) (now : line.log = empty.run actions)
    (comes : line.Comes occurred result.2) (answered : result.1 = .ok consumer)
    (stays : ∀ action, .event action ∈ occurred → action.isLeaveOf consumer.reader = false) :
    Tally (actions ++ occurred.map actionOf)
      (besides (empty.run actions) present occurred ++ [⟨consumer.reader, assignment⟩])
      (consumer :: held) := by
  cases joins with
  | stayedOut => cases answered
  | came makes joined idleFront idleBack =>
      cases answered
      rcases Timeline.Comes.split_of_exchanges (comes.makes.since_eq.symm.trans makes.since_eq) with
        ⟨earlier, later, isOccurred, areEarlier, areLater⟩
      have fits := allFit_of_now comes now
      refine tally.opened joined (idle_of_exchanges idleFront areEarlier)
        (idle_of_exchanges idleBack areLater) ?_ isOccurred fits
      intro action happens
      apply stays action
      rw [isOccurred]
      exact List.mem_append_right _ (List.mem_cons_of_mem _ happens)

theorem tally_of_refused {topic group : String} {assignment : Assignment} {fault : Fault}
    {result : Except Fault Consumer × Timeline Broker} (tally : Tally actions present held)
    (joins : Bus.Joins topic group assignment line result) (now : line.log = empty.run actions)
    (comes : line.Comes occurred result.2) (answered : result.1 = .error fault) :
    Tally (actions ++ occurred.map actionOf) (besides (empty.run actions) present occurred)
      held := by
  cases joins with
  | came => cases answered
  | stayedOut makes idle =>
      exact tally.idle (idle_of_comes comes makes idle) (allFit_of_now comes now)

theorem tally_of_close (tally : Tally actions present held) (isHeld : consumer ∈ held)
    (now : line.log = empty.run actions) (comes : line.Comes occurred (consumer.close line).2.2) :
    Tally (actions ++ occurred.map actionOf)
      ((besides (empty.run actions) present occurred).filter
        fun session => session.reader ≠ consumer.reader)
      ((consumer.close line).2.1 :: held.erase consumer) := by
  have fits := allFit_of_now comes now
  have isKept : ∀ other ∈ (consumer.close line).2.1 :: held.erase consumer,
      other ∈ held ∨ other.reader = consumer.reader := by
    intro other among
    rcases List.mem_cons.mp among with rfl | before
    · refine .inr ?_
      simp only [Consumer.close]
      split
      · rfl
      · rfl
    · exact .inl (List.mem_of_mem_erase before)
  refine tally.struck ?_ isHeld isKept
  cases isClosed : consumer.closed with
  | true =>
      simp only [Consumer.close, isClosed, if_true] at comes
      exact tally.listed_of_closed isHeld isClosed (idle_of_still comes) fits
  | false =>
      rcases Consumer.of_comes_close isClosed comes with
        ⟨moment, reply, later, released, front, between, behind, isOccurred, frontAside,
          betweenAside, behindAside, _⟩
      have isSplit : occurred = (front ++ .request ⟨moment, .commit consumer.reader, reply⟩ ::
          between) ++ .request ⟨later, .leave consumer.reader, released⟩ :: behind := by
        rw [isOccurred, List.append_assoc, List.cons_append]
      refine tally.listed_of_leaving isHeld ?_ ?_ isSplit fits
      · intro made isMade
        rcases List.mem_append.mp isMade with inFront | rest
        · exact Occurrence.idle_of_aside frontAside inFront
        · rcases List.mem_cons.mp rest with isCommit | inBetween
          · cases isCommit
            exact fun _ => rfl
          · exact Occurrence.idle_of_aside betweenAside inBetween
      · exact fun made isMade => Occurrence.idle_of_aside behindAside isMade

theorem tally_of_drop (tally : Tally actions present held) (isHeld : consumer ∈ held)
    (now : line.log = empty.run actions) (comes : line.Comes occurred (consumer.drop line)) :
    Tally (actions ++ occurred.map actionOf)
      ((besides (empty.run actions) present occurred).filter
        fun session => session.reader ≠ consumer.reader) (held.erase consumer) := by
  have fits := allFit_of_now comes now
  refine tally.struck ?_ isHeld fun other among => .inl (List.mem_of_mem_erase among)
  cases isClosed : consumer.closed with
  | true =>
      simp only [Consumer.drop, isClosed, if_true] at comes
      exact tally.listed_of_closed isHeld isClosed (idle_of_still comes) fits
  | false =>
      simp only [Consumer.drop, isClosed] at comes
      rcases Timeline.makes_ask_looks (.leave consumer.reader) line with ⟨looks, makes, areLooks⟩
      have made := comes.makes.since_eq.symm.trans makes.since_eq
      rw [← List.nil_append (_ :: looks)] at made
      rcases Timeline.Comes.split_of_exchanges made with
        ⟨earlier, later, isOccurred, areEarlier, areLater⟩
      refine tally.listed_of_leaving isHeld (idle_of_exchanges (List.forall_mem_nil _) areEarlier)
        (idle_of_exchanges ?_ areLater) isOccurred fits
      exact fun exchange isMade => Exchange.idle_of_look (areLooks exchange isMade)

theorem tally_of_presence (presence : Presence actions present held) :
    Tally actions present held := by
  induction presence with
  | nobody => exact .nobody
  | acted _ action tally => exact tally.acted action
  | @opened _ _ _ bus stream role partition line _ _ _ now comes answered stays tally =>
      exact tally_of_joins tally (bus.joins_consumer stream role partition line) now comes answered
        stays
  | @refused _ _ _ bus stream role partition line _ _ _ now comes answered tally =>
      exact tally_of_refused tally (bus.joins_consumer stream role partition line) now comes
        answered
  | closed _ now isHeld comes tally => exact tally_of_close tally isHeld now comes
  | dropped _ now isHeld comes tally => exact tally_of_drop tally isHeld now comes
  | called _ now comes idle tally => exact tally.idle idle (allFit_of_now comes now)

/-- A static session is turned away from a broker that can be reached, because its partition is
owned, just if a static session of that partition is present; else it is let in. -/
theorem join_static {topic group : String} {partition : Nat}
    (reached : (empty.run actions).Reachable)
    (inside : partition < (empty.run actions).width topic) :
    let answer := ((empty.run actions).step (.ask (.join topic group (.static partition)))).1
    (answer = .error (.alreadyOwned topic group partition) ↔
      ∃ session ∈ sessions actions, session.reader.topic = topic ∧ session.reader.group = group ∧
        session.assignment = .static partition) ∧
      (answer = .error (.alreadyOwned topic group partition) ∨ ∃ id, answer = .ok id) := by
  dsimp only
  have attended := attended_run actions topic group
  generalize empty.run actions = broker at reached inside attended ⊢
  cases exist : broker.topic? topic with
  | none => simp [width, exist] at inside
  | some found =>
      rw [width_eq_of_topic? exist] at inside
      have answer : (broker.step (.ask (.join topic group (.static partition)))).1 =
          (broker.join topic group (.static partition)).1 := rfl
      have isOwned : (broker.group topic group).isOwned partition = true ↔
          ∃ session ∈ sessions actions, session.reader.topic = topic ∧
            session.reader.group = group ∧ session.assignment = .static partition := by
        rw [Group.isOwned_eq_any, attended, List.any_map, List.any_filter, List.any_eq_true]
        simp only [Function.comp_apply, Session.isOf, Bool.and_eq_true, decide_eq_true_eq,
          and_assoc]
        rfl
      rw [answer, join, reachingTopic_of_reachable reached, exist, ← isOwned,
        group_eq_of_topic? exist]
      simp only [if_neg (Nat.not_le.mpr inside)]
      split
      · rename_i owned
        simp [owned]
      · rename_i free
        simp [free]

/-- Whatever is opened, closed, dropped, refused or tried again: at each step of the run a group has
as many members as sessions were let in and have not left; as those who hold them know, these are
the sessions that were opened and not ended, which have different numbers; and a static session is
turned away from a broker that can be reached, because its partition is owned, just if one of them
has asked for that partition, and else it is let in. -/
theorem memberCount_of_presence (presence : Presence actions present held) :
    (∀ earlier, earlier <+: actions → ∀ topic group,
      (empty.run earlier).memberCount topic group =
        (sessions earlier).countP (Session.isOf topic group)) ∧
    present.Perm (sessions actions) ∧
    (∀ topic group, (empty.run actions).memberCount topic group =
      present.countP (Session.isOf topic group)) ∧
    (present.map fun session => session.reader.member).Nodup ∧
    ∀ topic group partition, (empty.run actions).Reachable →
      partition < (empty.run actions).width topic →
        let answer := ((empty.run actions).step (.ask (.join topic group (.static partition)))).1
        (answer = .error (.alreadyOwned topic group partition) ↔
          ∃ session ∈ present, session.reader.topic = topic ∧ session.reader.group = group ∧
            session.assignment = .static partition) ∧
          (answer = .error (.alreadyOwned topic group partition) ∨ ∃ id, answer = .ok id) := by
  have listed := (tally_of_presence presence).listed
  refine ⟨fun earlier _ => memberCount_run earlier, listed, ?_, ?_, ?_⟩
  · intro topic group
    rw [memberCount_run, listed.countP_eq]
  · have distinct := (inOrder_run actions).ascending.imp Nat.ne_of_lt
    exact (listed.map _).nodup_iff.mpr distinct
  · intro topic group partition reached inside answer
    simp only [listed.mem_iff]
    exact join_static reached inside

end Broker

namespace Bus

open Timeline

variable {Log : Type} [Transport Log]

/-- Whoever insists on a request leaves a chronicle. -/
theorem exists_comes_insist (bus : Bus) {Answer : Type} {request : Request}
    (question : Timeline Log → Except Fault Answer × Timeline Log)
    (asks : ∀ line, (question line).2 = (line.ask request).2) (line : Timeline Log) :
    ∃ occurred, line.Comes occurred (bus.insist question line).2 := by
  have passes : ∀ line : Timeline Log, ∃ occurred, line.Comes occurred (question line).2 := by
    intro line
    rw [asks]
    rcases comes_ask request line with ⟨occurred, comes, _⟩
    exact ⟨_, comes⟩
  rcases bus.settings.connectRetry.attempts_eq_last
    (fun before after : Timeline Log => ∃ occurred, before.Comes occurred after)
    (fun line => ⟨[], .nothing line⟩)
    (fun _ _ _ ⟨front, first⟩ ⟨back, second⟩ => ⟨front ++ back, first.append second⟩)
    (fun line _ _ => passes line)
    (fun moment line => (comes_pauseUntil moment line).imp fun _ => And.left) _ 1 line with
    ⟨last, ⟨front, leads⟩, same⟩
  rcases passes last with ⟨back, comes⟩
  refine ⟨front ++ back, leads.append ?_⟩
  rw [insist, Backoff.retry, same]
  exact comes

/-- What leaves a chronicle once the layout is in order leaves one with the question for it. -/
theorem exists_comes_withLayout (bus : Bus) (stream : Stream) {Answer : Type}
    {operation : Nat → Timeline Log → Except Fault Answer × Timeline Log}
    (operates : ∀ (count : Nat) (line : Timeline Log),
      ∃ occurred, line.Comes occurred (operation count line).2)
    (line : Timeline Log) :
    ∃ occurred, line.Comes occurred (bus.withLayout stream operation line).2 := by
  have checks := bus.exists_comes_insist
    (Timeline.ask (.partitionCount (stream.topic bus.settings))) (fun _ => rfl) line
  have sameLine := congrArg Prod.snd (bus.partitionCount_eq stream line)
  simp only at sameLine
  rw [← sameLine] at checks
  rcases checks with ⟨front, checks⟩
  simp only [withLayout]
  generalize bus.partitionCount stream line = checked at checks
  rcases checked with ⟨found, between⟩
  cases found with
  | error fault => exact ⟨front, checks⟩
  | ok count =>
      rcases operates count between with ⟨back, comes⟩
      exact ⟨front ++ back, checks.append comes⟩

/-- Whoever asks for a consumer leaves a chronicle. -/
theorem exists_comes_consumer (bus : Bus) (stream : Stream) (role : Role) (partition : Option Nat)
    (line : Timeline Log) :
    ∃ occurred, line.Comes occurred (bus.consumer stream role partition line).2 := by
  apply bus.exists_comes_withLayout
  intro count line
  generalize (if stream.isKeyed then partition else none) = wanted
  have came : ∃ occurred, line.Comes occurred
      (match bus.insist (Timeline.ask (.join (stream.topic bus.settings)
          (stream.group role bus.settings) (.ofPartition wanted))) line with
        | (.error fault, line) => ((.error fault : Except Fault Consumer), line)
        | (.ok member, line) =>
          (.ok ⟨⟨stream.topic bus.settings, stream.group role bus.settings, member⟩, false⟩,
            line)).2 := by
    rcases bus.exists_comes_insist
      (Timeline.ask (.join (stream.topic bus.settings) (stream.group role bus.settings)
        (.ofPartition wanted))) (fun _ => rfl) line with ⟨occurred, joins⟩
    refine ⟨occurred, ?_⟩
    generalize bus.insist (Timeline.ask (.join (stream.topic bus.settings)
      (stream.group role bus.settings) (.ofPartition wanted))) line = asked at joins ⊢
    rcases asked with ⟨answer, ended⟩
    cases answer with
    | error fault => exact joins
    | ok member => exact joins
  cases wanted with
  | none => exact came
  | some partition =>
      simp only
      split
      · exact ⟨[], .nothing line⟩
      · exact came

/-- Whoever asks for a producer leaves a chronicle. -/
theorem exists_comes_producer (bus : Bus) (stream : Stream) (line : Timeline Log) :
    ∃ occurred, line.Comes occurred (bus.producer stream line).2 := by
  apply bus.exists_comes_withLayout
  intro count line
  rcases bus.exists_comes_insist
    (Timeline.ask (.openProducer (stream.topic bus.settings)
      bus.settings.connection)) (fun _ => rfl) line with ⟨occurred, asks⟩
  refine ⟨occurred, ?_⟩
  generalize bus.insist (Timeline.ask (.openProducer (stream.topic bus.settings)
    bus.settings.connection)) line = asked at asks ⊢
  rcases asked with ⟨answer, ended⟩
  cases answer with
  | error fault => exact asks
  | ok _ =>
      cases stream.partitioning bus.settings with
      | none => exact asks
      | some partitioning => exact asks

end Bus

namespace Broker

/-- The first request for a partition of its own is refused and made again; a second consumer is
kept out while the first one is held. -/
theorem memberCount_of_presence_keptOut :
    let line : Timeline Broker := .start (empty.run [.createTopic "frontier-todo" 2, .failNext 1])
    let opened := twoLanes.consumer .feed .writer (some 0) line
    let again := twoLanes.consumer .feed .writer (some 0) opened.2
    let group := twoLanes.settings.feedGroup
    again.1 = .error (.alreadyOwned "frontier-todo" group 0) ∧
      ∃ actions present held, Presence actions present held ∧ again.2.log = empty.run actions ∧
        again.2.log.memberCount "frontier-todo" group =
          present.countP (Session.isOf "frontier-todo" group) ∧
        ∃ session ∈ present, session.reader.topic = "frontier-todo" ∧
          session.reader.group = group ∧ session.assignment = .static 0 := by
  intro line opened again group
  have keptOut : again.1 = .error (.alreadyOwned "frontier-todo" group 0) := by decide +kernel
  have isOpened : opened.1 = .ok ⟨⟨"frontier-todo", group, 0⟩, false⟩ := by decide +kernel
  rcases twoLanes.exists_comes_consumer .feed .writer (some 0) line with ⟨first, opens⟩
  rcases twoLanes.exists_comes_consumer .feed .writer (some 0) opened.2 with ⟨second, opensAgain⟩
  have begun := (Presence.nobody.acted (.createTopic "frontier-todo" 2)).acted (.failNext 1)
  have held := begun.opened rfl opens isOpened fun action happens => by
    cases opens.mem_upcoming happens
  have now : opened.2.log =
      empty.run ([.createTopic "frontier-todo" 2, .failNext 1] ++ first.map actionOf) := by
    rw [run_occurred]
    exact opens.log_eq
  have later : again.2.log = empty.run ([.createTopic "frontier-todo" 2, .failNext 1] ++
      first.map actionOf ++ second.map actionOf) := by
    rw [run_occurred, ← now]
    exact opensAgain.log_eq
  have refused : Presence ([.createTopic "frontier-todo" 2, .failNext 1] ++
      first.map actionOf ++ second.map actionOf) _ _ := held.refused now opensAgain keptOut
  have told := memberCount_of_presence refused
  rw [← later] at told
  refine ⟨keptOut, _, _, _, refused, later, told.2.2.1 "frontier-todo" group, ?_⟩
  apply (told.2.2.2.2 "frontier-todo" group 0 ?_ (by decide +kernel)).1.mp
  · decide +kernel
  · exact reachable_iff.mpr (by decide +kernel)

end Broker

end FrontierBus
