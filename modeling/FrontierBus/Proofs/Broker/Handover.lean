import FrontierBus.Proofs.Broker.Occurrences
import FrontierBus.Proofs.Broker.Reading

/-!
# Handing partitions over

Workers take turns at a partition: each asks for it, pulls for a while, and closes. What all of them
are handed is then what a single reader would be handed, without a gap and without a repetition. The
invariant is that the owner of a partition stands, or the next one will start, behind all that was
handed out of it; it rests on every session checking off before it ends.
-/

namespace FrontierBus.Broker

/-- An action of a session of a group, or one that makes a session of it. -/
def Action.touches (topic group : String) : Action → Bool
  | .ask (.join name groupName _) => name = topic && groupName = group
  | .ask (.poll reader _ _) => reader.topic = topic && reader.group = group
  | .ask (.commit reader) => reader.topic = topic && reader.group = group
  | .ask (.leave reader) => reader.topic = topic && reader.group = group
  | _ => false

/-- A session has checked off what it has read: since a commit of it that succeeded it has not
polled. -/
inductive Settled (reader : Reader) : List Action → Prop where
  | now {actions : List Action}
      (answered : ((empty.run actions).step (.ask (.commit reader))).1 = .ok ()) :
      Settled reader (actions ++ [.ask (.commit reader)])
  | later {actions : List Action} {action : Action} (settled : Settled reader actions)
      (noPoll : action.isPollOf reader = false) : Settled reader (actions ++ [action])

/-- A run in which a group that has no checkpoints at first is made of workers, each with a partition
of its own, and the messages that were returned to them. Calls of consumers to pull and to close
are made one at a time; where calls of several consumers overlap, the requests that they consist of
are told instead. A session ends only when it has checked off what it has read. -/
inductive Worked (topic group : String) : List Action → List Message → Prop where
  | start {actions : List Action} (nobody : ((empty.run actions).group topic group).members = [])
      (fresh : ∀ partition, (empty.run actions).checkpoint? topic group partition = none) :
      Worked topic group actions []
  | beside {actions : List Action} {returned : List Message} {action : Action}
      (worked : Worked topic group actions returned)
      (untouched : action.touches topic group = false) :
      Worked topic group (actions ++ [action]) returned
  | joined {actions : List Action} {returned : List Message} (partition : Nat)
      (worked : Worked topic group actions returned) :
      Worked topic group (actions ++ [.ask (.join topic group (.static partition))]) returned
  | pulled {actions : List Action} {returned : List Message} {consumer : Consumer}
      {limit patience : Nat} {line : Timeline Broker} {occurred : List (Occurrence Broker)}
      (worked : Worked topic group actions returned)
      (member : consumer.reader.topic = topic ∧ consumer.reader.group = group)
      (present : line.log = empty.run actions)
      (alone : ∀ action ∈ line.upcoming.map Prod.snd, action.touches topic group = false)
      (comes : line.Comes occurred (consumer.pull limit patience line).2) :
      Worked topic group (actions ++ occurred.map actionOf)
        (returned ++ (consumer.pull limit patience line).1.toOption.getD [])
  | closed {actions : List Action} {returned : List Message} {consumer : Consumer}
      {line : Timeline Broker} {occurred : List (Occurrence Broker)}
      (worked : Worked topic group actions returned)
      (member : consumer.reader.topic = topic ∧ consumer.reader.group = group)
      (present : line.log = empty.run actions)
      (alone : ∀ action ∈ line.upcoming.map Prod.snd, action.touches topic group = false)
      (comes : line.Comes occurred (consumer.close line).2.2)
      (answered : (consumer.close line).1 = .ok ()) :
      Worked topic group (actions ++ occurred.map actionOf) returned
  | polled {actions : List Action} {returned : List Message} (id limit patience : Nat)
      (worked : Worked topic group actions returned) :
      Worked topic group (actions ++ [.ask (.poll ⟨topic, group, id⟩ limit patience)])
        (returned ++
          handedBy ((empty.run actions).step (.ask (.poll ⟨topic, group, id⟩ limit patience))).1)
  | committed {actions : List Action} {returned : List Message} (id : Nat)
      (worked : Worked topic group actions returned) :
      Worked topic group (actions ++ [.ask (.commit ⟨topic, group, id⟩)]) returned
  | left {actions : List Action} {returned : List Message} {id : Nat}
      (worked : Worked topic group actions returned)
      (settled : Settled ⟨topic, group, id⟩ actions) :
      Worked topic group (actions ++ [.ask (.leave ⟨topic, group, id⟩)]) returned

variable {actions : List Action} {action : Action} {topic group : String} {partition id : Nat}
  {returned : List Message}

theorem Settled.append {reader : Reader} {more : List Action} (settled : Settled reader actions)
    (noPoll : ∀ action ∈ more, action.isPollOf reader = false) :
    Settled reader (actions ++ more) := by
  induction more using List.reverseRecOn with
  | nil => simpa using settled
  | append_singleton more action hypothesis =>
      rw [← List.append_assoc]
      apply Settled.later
      · apply hypothesis
        intro other present
        exact noPoll other (List.mem_append_left _ present)
      · apply noPoll
        simp

theorem isPollOf_of_untouched {reader : Reader}
    (member : reader.topic = topic ∧ reader.group = group)
    (untouched : action.touches topic group = false) : action.isPollOf reader = false := by
  cases action with
  | ask request =>
      cases request with
      | poll poller _ _ =>
          simp only [Action.isPollOf, decide_eq_false_iff_not]
          rintro rfl
          simp [Action.touches, member] at untouched
      | _ => rfl
  | _ => rfl

/-- Asides of a broker on which nothing touches a group do not touch it either. -/
theorem untouched_of_aside {occurred : List (Occurrence Broker)} (aside : Timeline.Aside occurred)
    (alone : ∀ action, .event action ∈ occurred → action.touches topic group = false) :
    ∀ action ∈ occurred.map actionOf, action.touches topic group = false := by
  intro action present
  rcases List.mem_map.mp present with ⟨occurrence, happens, rfl⟩
  cases occurrence with
  | event action => exact alone action happens
  | request exchange =>
      have isAside := aside _ happens
      rcases exchange with ⟨moment, request, reply⟩
      cases request with
      | offsets => rfl
      | _ => simp [Occurrence.isAside] at isAside

theorem group_of_untouched (untouched : action.touches topic group = false) (before : Broker) :
    (before.step action).2.group topic group = before.group topic group := by
  cases groupStep before action topic group with
  | kept changed => exact changed
  | joined => simp [Action.touches] at untouched
  | polled => simp [Action.touches] at untouched
  | committed => simp [Action.touches] at untouched
  | left => simp [Action.touches] at untouched

/-- After a commit a session stands at the checkpoint of what it owns. -/
theorem standing_of_commit
    (answered : ((empty.run actions).step (.ask (.commit ⟨topic, group, id⟩))).1 = .ok ())
    (owned : partition ∈ (empty.run actions).assigned ⟨topic, group, id⟩) :
    let committed := ((empty.run actions).step (.ask (.commit ⟨topic, group, id⟩))).2
    (committed.group topic group).standing id partition =
      (committed.group topic group).startOffset partition := by
  intro committed
  have fit := wellFormed_run actions topic group
  rw [assigned_eq] at owned
  simp only [committed]
  rw [group_of_commit answered, Group.standing_commit fit owned, Group.startOffset_commit fit,
    if_pos owned]

/-- A session that is settled stands at the checkpoint of the partition that it asked for. -/
theorem standing_of_settled (settled : Settled ⟨topic, group, id⟩ actions)
    (wants : ((empty.run actions).group topic group).wanted? id = some (.static partition)) :
    ((empty.run actions).group topic group).standing id partition =
      ((empty.run actions).group topic group).startOffset partition := by
  induction settled with
  | @now actions answered =>
      rw [run_concat] at wants ⊢
      apply standing_of_commit answered
      rw [group_of_commit answered, Group.wanted?_commit] at wants
      rw [assigned_eq]
      exact Group.mem_assigned_of_wanted? wants _
  | @later actions action _ noPoll hypothesis =>
      rw [run_concat] at wants ⊢
      have fit := wellFormed_run actions topic group
      cases groupStep (empty.run actions) action topic group with
      | kept changed =>
          rw [changed] at wants ⊢
          exact hypothesis wants
      | @joined assignment admits changed _ =>
          rw [changed] at wants ⊢
          rw [Group.standing_enlist]
          rw [Group.wanted?_enlist] at wants
          cases before : ((empty.run actions).group topic group).wanted? id with
          | none =>
              apply Group.standing_of_not_member
              simpa [Group.wanted?] using before
          | some wanted =>
              rw [before, Option.some_or] at wants
              exact hypothesis (before.trans wants)
      | @polled reader _ _ _ _ _ _ _ changed =>
          have different : id ≠ reader := by
            intro same
            simp [Action.isPollOf, same] at noPoll
          rw [changed] at wants ⊢
          rw [Group.wanted?_setCursors] at wants
          rw [Group.standing_setCursors_of_ne different]
          exact hypothesis wants
      | @committed committer answered changed =>
          rw [changed] at wants ⊢
          rw [Group.wanted?_commit] at wants
          have owned := Group.mem_assigned_of_wanted? wants ((empty.run actions).width topic)
          rw [Group.standing_commit fit owned, Group.startOffset_commit fit]
          split
          · rename_i alsoOwned
            rw [fit.owner_unique alsoOwned owned]
          · exact hypothesis wants
      | @left gone changed =>
          rw [changed] at wants ⊢
          rw [Group.wanted?_dismiss] at wants
          split at wants
          · simp at wants
          · rename_i different
            rw [Group.standing_dismiss different]
            exact hypothesis wants

/-- What was returned from each partition is the beginning of it, and its owner stands, or the next
one will start, behind it. -/
structure HandedOver (topic group : String) (actions : List Action) (returned : List Message) :
    Prop where
  isStatic : ∀ id, ((empty.run actions).group topic group).wanted? id ≠ some .dynamic
  inOrder : ∀ partition, returned.filter (fun message => message.partition = partition) <+:
    (empty.run actions).messages topic partition
  standing_eq : ∀ id partition,
    ((empty.run actions).group topic group).wanted? id = some (.static partition) →
      ((empty.run actions).group topic group).standing id partition =
        (returned.filter fun message => message.partition = partition).length
  startOffset_eq : ∀ partition,
    (∀ id, ((empty.run actions).group topic group).wanted? id ≠ some (.static partition)) →
      ((empty.run actions).group topic group).startOffset partition =
        (returned.filter fun message => message.partition = partition).length

namespace HandedOver

theorem initial (nobody : ((empty.run actions).group topic group).members = [])
    (fresh : ∀ partition, (empty.run actions).checkpoint? topic group partition = none) :
    HandedOver topic group actions [] := by
  have noMember : ∀ id, ((empty.run actions).group topic group).wanted? id = none := by
    intro id
    simp [Group.wanted?, Group.member?, nobody]
  constructor
  · intro id
    simp [noMember]
  · intro partition
    exact List.nil_prefix
  · intro id partition wants
    simp [noMember] at wants
  · intro partition _
    have noCheckpoint := fresh partition
    rw [checkpoint?] at noCheckpoint
    simp [Group.startOffset, noCheckpoint]

theorem inOrder_step (handed : HandedOver topic group actions returned) (action : Action)
    (partition : Nat) :
    returned.filter (fun message => message.partition = partition) <+:
      (empty.run (actions ++ [action])).messages topic partition := by
  rw [run_concat]
  exact (handed.inOrder partition).trans (messages_step _ action topic partition)

theorem kept (handed : HandedOver topic group actions returned)
    (changed : ((empty.run actions).step action).2.group topic group =
      (empty.run actions).group topic group) :
    HandedOver topic group (actions ++ [action]) returned := by
  rw [← run_concat] at changed
  refine ⟨?_, handed.inOrder_step action, ?_, ?_⟩
  · rw [changed]
    exact handed.isStatic
  · rw [changed]
    exact handed.standing_eq
  · rw [changed]
    exact handed.startOffset_eq

/-- A worker that joins starts behind all that was returned. -/
theorem joined (handed : HandedOver topic group actions returned) (wanted : Nat) :
    HandedOver topic group (actions ++ [.ask (.join topic group (.static wanted))]) returned := by
  cases groupStep (empty.run actions) (.ask (.join topic group (.static wanted))) topic group with
  | kept changed => exact handed.kept changed
  | joined admits changed _ =>
      have fit := wellFormed_run actions topic group
      have newcomer := fit.not_member
      rw [← run_concat] at changed
      refine ⟨?_, handed.inOrder_step _, ?_, ?_⟩
      · intro id
        rw [changed, Group.wanted?_enlist]
        cases before : ((empty.run actions).group topic group).wanted? id with
        | none =>
            rw [Option.none_or]
            split
            · simp
            · simp
        | some assignment =>
            rw [Option.some_or, ← before]
            exact handed.isStatic id
      · intro id partition wants
        rw [changed, Group.wanted?_enlist] at wants
        rw [changed, Group.standing_enlist]
        cases before : ((empty.run actions).group topic group).wanted? id with
        | none =>
            rw [before, Option.none_or] at wants
            split at wants
            · simp only [Option.some.injEq, Assignment.static.injEq] at wants
              have nobody : ((empty.run actions).group topic group).member? id = none := by
                simpa [Group.wanted?] using before
              rw [Group.standing_of_not_member nobody]
              apply handed.startOffset_eq
              intro other otherWants
              rcases Group.wanted?_eq_some.mp otherWants with ⟨member, found, isStatic⟩
              have present := Group.mem_members_of_member? found
              exact admits.not_static (by rw [wants]) present isStatic
            · simp at wants
        | some assignment =>
            rw [before, Option.some_or] at wants
            exact handed.standing_eq id partition (before.trans wants)
      · intro partition nobody
        rw [changed]
        apply handed.startOffset_eq
        intro id wants
        apply nobody id
        rw [changed, Group.wanted?_enlist, wants]
        rfl

/-- A batch that its session is handed continues what was returned from the partition that the
session owns. -/
theorem continues {found : Topic} {member : Member} {limit : Nat}
    (handed : HandedOver topic group actions returned)
    (exist : (empty.run actions).topic? topic = some found)
    (live : ((empty.run actions).group topic group).member? id = some member)
    (wants : ((empty.run actions).group topic group).wanted? id = some (.static partition)) :
    let batch := batchFor found ((empty.run actions).group topic group) member limit
    let taken := (returned ++ batch.1).filter fun message => message.partition = partition
    taken <+: (empty.run actions).messages topic partition ∧
      (((empty.run actions).group topic group).setCursors id batch.2).standing id partition =
        taken.length := by
  intro batch taken
  have owned := Group.mem_assigned_of_wanted? wants found.count
  have beginning := handed.inOrder partition
  rw [messages_eq_of_topic? exist] at beginning ⊢
  simp only [taken]
  rw [List.filter_append]
  exact batchFor_continues live limit owned beginning (handed.standing_eq id partition wants)

/-- A poll goes on where its session stands. -/
theorem polled (handed : HandedOver topic group actions returned) (id limit patience : Nat) :
    HandedOver topic group (actions ++ [.ask (.poll ⟨topic, group, id⟩ limit patience)])
      (returned ++ handedBy
        ((empty.run actions).step (.ask (.poll ⟨topic, group, id⟩ limit patience))).1) := by
  rcases poll_cases ⟨topic, group, id⟩ limit patience (empty.run actions) with
    ⟨fault, failed, same⟩ | ⟨found, member, exist, live, answered, changed⟩
  · rw [failed]
    simp only [handedBy, List.append_nil]
    apply handed.kept
    exact group_congr same topic group
  · rw [answered, handedBy_handedOut]
    rw [← run_concat] at changed
    have ofOthers : ∀ partition,
        ((empty.run actions).group topic group).wanted? id ≠ some (.static partition) →
        (returned ++ (batchFor found ((empty.run actions).group topic group) member limit).1).filter
            (fun message => message.partition = partition) =
          returned.filter fun message => message.partition = partition := by
      intro partition notWanted
      rw [List.filter_append, filter_batchFor_of_not_owned live limit, List.append_nil]
      intro owned
      exact notWanted (Group.wanted?_of_mem_assigned (handed.isStatic id) owned)
    refine ⟨?_, ?_, ?_, ?_⟩
    · intro other
      rw [changed, Group.wanted?_setCursors]
      exact handed.isStatic other
    · intro partition
      by_cases wants : ((empty.run actions).group topic group).wanted? id =
          some (.static partition)
      · rw [run_concat]
        exact (handed.continues exist live wants).1.trans (messages_step _ _ topic partition)
      · rw [ofOthers partition wants]
        exact handed.inOrder_step _ partition
    · intro other partition wants
      rw [changed, Group.wanted?_setCursors] at wants
      rw [changed]
      by_cases same : other = id
      · rw [same] at wants ⊢
        exact (handed.continues exist live wants).2
      · rw [Group.standing_setCursors_of_ne same, ofOthers partition]
        · exact handed.standing_eq other partition wants
        · intro alsoWants
          exact same ((wellFormed_run actions topic group).wanted?_unique wants alsoWants)
    · intro partition nobody
      rw [changed] at nobody
      simp only [Group.wanted?_setCursors] at nobody
      rw [changed, ofOthers partition (nobody id)]
      exact handed.startOffset_eq partition nobody

/-- A session that checks off stays where it stands, and so does every other. -/
theorem committed (handed : HandedOver topic group actions returned) (id : Nat) :
    HandedOver topic group (actions ++ [.ask (.commit ⟨topic, group, id⟩)]) returned := by
  cases groupStep (empty.run actions) (.ask (.commit ⟨topic, group, id⟩)) topic group with
  | kept changed => exact handed.kept changed
  | committed answered changed =>
      have fit := wellFormed_run actions topic group
      rw [← run_concat] at changed
      refine ⟨?_, handed.inOrder_step _, ?_, ?_⟩
      · intro other
        rw [changed, Group.wanted?_commit]
        exact handed.isStatic other
      · intro other partition wants
        rw [changed, Group.wanted?_commit] at wants
        have owned := Group.mem_assigned_of_wanted? wants ((empty.run actions).width topic)
        rw [changed, Group.standing_commit fit owned]
        exact handed.standing_eq other partition wants
      · intro partition nobody
        rw [changed] at nobody
        simp only [Group.wanted?_commit] at nobody
        rw [changed, Group.startOffset_commit fit, if_neg]
        · exact handed.startOffset_eq partition nobody
        · intro owned
          exact nobody id (Group.wanted?_of_mem_assigned (handed.isStatic id) owned)

/-- When a session that is settled ends, the next one will start where it stood. -/
theorem left (handed : HandedOver topic group actions returned)
    (settled : Settled ⟨topic, group, id⟩ actions) :
    HandedOver topic group (actions ++ [.ask (.leave ⟨topic, group, id⟩)]) returned := by
  cases groupStep (empty.run actions) (.ask (.leave ⟨topic, group, id⟩)) topic group with
  | kept changed => exact handed.kept changed
  | left changed =>
      rw [← run_concat] at changed
      refine ⟨?_, handed.inOrder_step _, ?_, ?_⟩
      · intro other
        rw [changed, Group.wanted?_dismiss]
        split
        · simp
        · exact handed.isStatic other
      · intro other partition wants
        rw [changed, Group.wanted?_dismiss] at wants
        split at wants
        · simp at wants
        · rename_i different
          rw [changed, Group.standing_dismiss different]
          exact handed.standing_eq other partition wants
      · intro partition nobody
        rw [changed]
        by_cases wants : ((empty.run actions).group topic group).wanted? id =
            some (.static partition)
        · have stood := standing_of_settled settled wants
          rw [handed.standing_eq id partition wants] at stood
          exact stood.symm
        · apply handed.startOffset_eq
          intro other otherWants
          have different : other ≠ id := by
            intro same
            exact wants (same ▸ otherWants)
          apply nobody other
          rw [changed, Group.wanted?_dismiss, if_neg different]
          exact otherWants

/-- A poll of a session returns its messages to it, and what is no poll of it touches nothing. -/
theorem befallen (handed : HandedOver topic group actions returned) {reader : Reader}
    (member : reader.topic = topic ∧ reader.group = group) {occurrence : Occurrence Broker}
    (fits : occurrence.Fits (empty.run actions)) (own : occurrence.isPollOrAside reader = true)
    (alone : ∀ action, occurrence = .event action → action.touches topic group = false) :
    HandedOver topic group (actions ++ [actionOf occurrence])
      (returned ++ occurrence.messages) := by
  cases occurrence with
  | event action =>
      simp only [Occurrence.messages, List.append_nil]
      exact handed.kept (group_of_untouched (alone action rfl) _)
  | request exchange =>
      rcases exchange with ⟨moment, request, reply⟩
      cases request with
      | poll poller limit patience =>
          have isReader : poller = reader := by
            simpa [Occurrence.isPollOrAside, Exchange.isPollOf, Occurrence.isAside] using own
          rcases reader with ⟨readerTopic, readerGroup, id⟩
          rcases member with ⟨rfl, rfl⟩
          subst isReader
          have answered : reply =
              (Transport.serve (.poll _ limit patience) (empty.run actions)).1 := fits
          subst answered
          exact handed.polled id limit patience
      | offsets name groupName count =>
          simp only [Occurrence.messages, Exchange.messages, List.append_nil]
          exact handed.kept (group_of_untouched rfl _)
      | _ => simp [Occurrence.isPollOrAside, Exchange.isPollOf, Occurrence.isAside] at own

/-- What comes to pass while a session only polls is returned to it. -/
theorem occurred (handed : HandedOver topic group actions returned) {reader : Reader}
    (member : reader.topic = topic ∧ reader.group = group) {occurred : List (Occurrence Broker)}
    (fit : Occurrence.AllFit (empty.run actions) occurred)
    (own : ∀ occurrence ∈ occurred, occurrence.isPollOrAside reader = true)
    (alone : ∀ action, .event action ∈ occurred → action.touches topic group = false) :
    HandedOver topic group (actions ++ occurred.map actionOf)
      (returned ++ occurred.flatMap Occurrence.messages) := by
  induction occurred generalizing actions returned with
  | nil => simpa using handed
  | cons occurrence occurred hypothesis =>
      rcases fit with ⟨fitsFirst, fitRest⟩
      have first := handed.befallen member fitsFirst (own occurrence List.mem_cons_self)
        fun action same => alone action (same ▸ List.mem_cons_self)
      have moved := run_occurred actions [occurrence]
      simp only [List.map_cons, List.map_nil, List.foldl_cons, List.foldl_nil] at moved
      rw [← moved] at fitRest
      have rest := hypothesis first fitRest
        (fun other present => own other (List.mem_cons_of_mem _ present))
        (fun action happens => alone action (List.mem_cons_of_mem _ happens))
      simpa [List.append_assoc] using rest

theorem untouched (handed : HandedOver topic group actions returned) {more : List Action}
    (untouched : ∀ action ∈ more, action.touches topic group = false) :
    HandedOver topic group (actions ++ more) returned := by
  induction more using List.reverseRecOn with
  | nil => simpa using handed
  | append_singleton more action hypothesis =>
      have before := hypothesis fun other present => untouched other (List.mem_append_left _ present)
      rw [← List.append_assoc]
      apply before.kept
      apply group_of_untouched
      apply untouched
      simp

/-- A consumer that closes leaves its partition to the next one. -/
theorem closed (handed : HandedOver topic group actions returned) {consumer : Consumer}
    {line : Timeline Broker} {occurred : List (Occurrence Broker)}
    (member : consumer.reader.topic = topic ∧ consumer.reader.group = group)
    (present : line.log = empty.run actions)
    (alone : ∀ action, .event action ∈ occurred → action.touches topic group = false)
    (comes : line.Comes occurred (consumer.close line).2.2)
    (answered : (consumer.close line).1 = .ok ()) :
    HandedOver topic group (actions ++ occurred.map actionOf) returned := by
  rcases consumer with ⟨⟨readerTopic, readerGroup, id⟩, isClosed⟩
  rcases member with ⟨rfl, rfl⟩
  cases isClosed with
  | true =>
      have noRequest := comes.exchanges_eq (.nothing line)
      have aside := Timeline.Aside.nothing.of_exchanges noRequest
      exact handed.untouched (untouched_of_aside aside alone)
  | false =>
      have fit := comes.allFit
      rcases Consumer.of_comes_close rfl comes with ⟨moment, reply, later, released, front,
        between, behind, rfl, frontAside, betweenAside, behindAside, isAnswer⟩
      have frontAlone := untouched_of_aside frontAside fun action happens =>
        alone action (by simp [happens])
      have betweenAlone := untouched_of_aside betweenAside fun action happens =>
        alone action (by simp [happens])
      have behindAlone := untouched_of_aside behindAside fun action happens =>
        alone action (by simp [happens])
      have committed := (handed.untouched frontAlone).committed id
      have settled : Settled ⟨readerTopic, readerGroup, id⟩ (actions ++ front.map actionOf ++
          [.ask (.commit ⟨readerTopic, readerGroup, id⟩)]) := by
        apply Settled.now
        have served := (Occurrence.allFit_append.mp fit).2.1
        rw [run_occurred, ← present]
        have isReply : reply = (Transport.serve (.commit ⟨readerTopic, readerGroup, id⟩)
            (front.foldl Occurrence.befall line.log)).1 := served
        rw [answered, isReply] at isAnswer
        exact isAnswer
      have stillSettled := settled.append fun action present =>
        isPollOf_of_untouched ⟨rfl, rfl⟩ (betweenAlone action present)
      have ended := ((committed.untouched betweenAlone).left stillSettled).untouched behindAlone
      simpa [actionOf, List.append_assoc] using ended

end HandedOver

theorem handedOver_of_worked (worked : Worked topic group actions returned) :
    HandedOver topic group actions returned := by
  induction worked with
  | start nobody fresh => exact .initial nobody fresh
  | beside _ untouched handed => exact handed.kept (group_of_untouched untouched _)
  | joined partition _ handed => exact handed.joined partition
  | polled id limit patience _ handed => exact handed.polled id limit patience
  | committed id _ handed => exact handed.committed id
  | left _ settled handed => exact handed.left settled
  | pulled _ member present alone comes handed =>
      have fit := comes.allFit
      rw [present] at fit
      have returns := Consumer.of_comes_pull comes
      rw [← returns.2]
      apply handed.occurred member fit returns.1
      intro action happens
      exact alone action (comes.mem_upcoming happens)
  | closed _ member present alone comes answered handed =>
      apply handed.closed member present ?_ comes answered
      intro action happens
      exact alone action (comes.mem_upcoming happens)

/-- The owner of a partition goes on behind what was returned from it. -/
theorem HandedOver.position_eq (handed : HandedOver topic group actions returned)
    (owned : partition ∈ (empty.run actions).assigned ⟨topic, group, id⟩) :
    (empty.run actions).position ⟨topic, group, id⟩ partition =
      .ok (returned.filter fun message => message.partition = partition).length := by
  have wants : ((empty.run actions).group topic group).wanted? id = some (.static partition) := by
    rw [assigned_eq] at owned
    exact Group.wanted?_of_mem_assigned (handed.isStatic id) owned
  have stands := handed.standing_eq id partition wants
  simp only [position]
  rw [if_pos (by simpa using owned), effectivePosition_eq]
  exact congrArg Except.ok stands

/-- Whoever is admitted is a new member. -/
theorem group_of_join {before : Broker} {assignment : Assignment}
    (answered : (before.step (.ask (.join topic group assignment))).1 = .ok id) :
    (before.step (.ask (.join topic group assignment))).2.group topic group =
        (before.group topic group).enlist before.nextMember assignment ∧ id = before.nextMember := by
  have answer : before.step (.ask (.join topic group assignment)) =
      before.join topic group assignment := rfl
  rw [answer] at answered ⊢
  rcases join_cases topic group assignment before with
    ⟨found, exist, _, admitted⟩ | ⟨fault, left, refused⟩
  · rw [admitted] at answered ⊢
    cases answered
    refine ⟨?_, rfl⟩
    rw [group_setTopic, if_pos rfl, Topic.group_setGroup, if_pos rfl, group_eq_of_topic? exist]
  · rw [refused] at answered
    cases answered

/-- However workers take turns at the partitions of a topic, what was returned to all of them from a
partition is the beginning of it, in order and without a repetition. Its owner goes on behind it,
and so does whoever is the next to be admitted to it. -/
theorem returned_of_worked (worked : Worked topic group actions returned) (partition : Nat) :
    let broker := empty.run actions
    let taken := returned.filter fun message => message.partition = partition
    taken = (broker.messages topic partition).take taken.length ∧
      taken.map Message.offset = List.range taken.length ∧
      (∀ id, partition ∈ broker.assigned ⟨topic, group, id⟩ →
        broker.position ⟨topic, group, id⟩ partition = .ok taken.length) ∧
      ∀ id, (broker.step (.ask (.join topic group (.static partition)))).1 = .ok id →
        (broker.step (.ask (.join topic group (.static partition)))).2.position
          ⟨topic, group, id⟩ partition = .ok taken.length := by
  intro broker taken
  have handed := handedOver_of_worked worked
  have beginning := List.prefix_iff_eq_take.mp (handed.inOrder partition)
  refine ⟨beginning, ?_, ?_, ?_⟩
  · have offsets := (handed.inOrder partition).map Message.offset
    have atMost := (handed.inOrder partition).length_le
    rw [map_offset_messages, List.prefix_iff_eq_take, List.length_map, List.take_range,
      Nat.min_eq_left atMost] at offsets
    exact offsets
  · intro id owned
    exact handed.position_eq owned
  · intro id answered
    have next := handed.joined partition
    rcases group_of_join answered with ⟨changed, isNew⟩
    have wants : (((broker.step (.ask (.join topic group (.static partition)))).2).group topic
        group).wanted? id = some (.static partition) := by
      have newcomer := (wellFormed_run actions topic group).not_member
      rw [changed, Group.wanted?_enlist, isNew]
      simp [Group.wanted?, broker, newcomer]
    rw [← run_concat]
    apply next.position_eq
    rw [assigned_eq, run_concat]
    exact Group.mem_assigned_of_wanted? wants _

/-- A worker is handed the first of two records and closes, and another one takes its place. -/
def twoShifts : List Action :=
  [.createTopic "t" 1, .append "t" [⟨some 0, none, ⟨#[97]⟩⟩, ⟨some 0, none, ⟨#[98]⟩⟩],
    .ask (.join "t" "g" (.static 0)), .ask (.poll ⟨"t", "g", 0⟩ 1 0),
    .ask (.commit ⟨"t", "g", 0⟩), .ask (.leave ⟨"t", "g", 0⟩), .ask (.join "t" "g" (.static 0))]

theorem position_after_twoShifts :
    Worked "t" "g" twoShifts [⟨0, 0, none, ⟨#[97]⟩⟩] ∧
      (empty.run twoShifts).position ⟨"t", "g", 1⟩ 0 = .ok 1 := by
  have opened : Worked "t" "g" (twoShifts.take 2) [] :=
    .start (by decide +kernel) (fun _ => rfl)
  have polled : Worked "t" "g" (twoShifts.take 4) [⟨0, 0, none, ⟨#[97]⟩⟩] := by
    have handed : handedBy ((empty.run (twoShifts.take 3)).step
        (.ask (.poll ⟨"t", "g", 0⟩ 1 0))).1 = [⟨0, 0, none, ⟨#[97]⟩⟩] := by decide +kernel
    have returned := (opened.joined 0).polled 0 1 0
    exact handed ▸ returned
  have closed : Worked "t" "g" (twoShifts.take 6) [⟨0, 0, none, ⟨#[97]⟩⟩] :=
    (polled.committed 0).left (.now (by decide +kernel))
  have worked : Worked "t" "g" twoShifts [⟨0, 0, none, ⟨#[97]⟩⟩] := closed.joined 0
  exact ⟨worked, (returned_of_worked worked 0).2.2.1 1 (by decide +kernel)⟩

end FrontierBus.Broker
