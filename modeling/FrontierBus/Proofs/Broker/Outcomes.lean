import FrontierBus.Proofs.Broker.Arrivals

/-!
# Outcomes of a delivery

A delivery is reported record by record. Just the records that are reported as stored are put into
the topic, each behind what its partition held before and behind the earlier ones of the delivery;
one that names a partition that is not there is passed over.
-/

namespace FrontierBus

/-- The records whose own outcome is a success. -/
def acceptedOf (records : List Record) (outcomes : List (Except Fault Unit)) : List Record :=
  ((records.zip outcomes).filter fun pair => pair.2.isOk).map Prod.fst

/-- The records of a delivery that the report acknowledges. -/
def Report.accepted (records : List Record) (report : Report) : List Record :=
  acceptedOf records report.outcomes

theorem acceptedOf_cons (record : Record) (records : List Record) (outcome : Except Fault Unit)
    (outcomes : List (Except Fault Unit)) :
    acceptedOf (record :: records) (outcome :: outcomes) =
      (if outcome.isOk then [record] else []) ++ acceptedOf records outcomes := by
  simp only [acceptedOf, List.zip_cons_cons, List.filter_cons]
  split
  · rfl
  · rfl

theorem Report.accepted_uniform_error (records : List Record) (fault : Fault) :
    accepted records (uniform records.length (.error fault)) = [] := by
  let outcomes : List (Except Fault Unit) := List.replicate records.length (.error fault)
  have none : ∀ pair ∈ records.zip outcomes, ¬ pair.2.isOk = true := by
    intro pair paired isOk
    rw [List.eq_of_mem_replicate (List.of_mem_zip paired).2] at isOk
    cases isOk
  simp only [accepted, acceptedOf, uniform]
  rw [List.filter_eq_nil_iff.mpr none]
  rfl

namespace Broker

namespace Topic

/-- From one topic to a later one these records went to these places, in this order. -/
structure Lays (before : Topic) (entries : List (Record × Nat)) (after : Topic) : Prop where
  placed : ∀ entry ∈ entries, Placed before.count entry
  grown : ∀ partition, (after.records partition).toList =
    (before.records partition).toList ++ laidIn partition entries

variable {before between after : Topic} {front back : List (Record × Nat)}

theorem Lays.nothing (topic : Topic) : topic.Lays [] topic where
  placed := by simp
  grown := by simp [laidIn]

theorem Lays.append (first : before.Lays front between) (second : between.Lays back after)
    (sameCount : between.count = before.count) : before.Lays (front ++ back) after where
  placed := by
    intro entry present
    rcases List.mem_append.mp present with inFront | inBack
    · exact first.placed entry inFront
    · exact sameCount ▸ second.placed entry inBack
  grown := by
    intro partition
    rw [second.grown, first.grown, List.append_assoc, laidIn_append]

/-- A record is stored if it fits, and else it is passed over. -/
theorem append_lays (name : String) {topic : Topic} (positive : 0 < topic.count)
    (record : Record) :
    ∃ entries, entries.map Prod.fst = (if (topic.append name record).1.isOk then [record] else []) ∧
      topic.Lays entries (topic.append name record).2 := by
  by_cases fits : record.Fits topic.count
  · rcases append_of_fits name positive fits with ⟨stored, place, placed, grown⟩
    refine ⟨[(record, place)], ?_, ⟨?_, grown⟩⟩
    · rw [stored]
      rfl
    · simpa using placed
  · cases target : record.partition with
    | none => simp [Record.Fits, target] at fits
    | some partition =>
        have outside : ¬ partition < topic.count := by simpa [Record.Fits, target] using fits
        simp only [append, target]
        rw [if_neg outside]
        exact ⟨[], rfl, .nothing topic⟩

/-- What each record adds to entries, if it is stored, a list of records adds one after the other:
those that have a success of their own. -/
theorem appendAll_adds (name : String) {Inv : List (Record × Nat) → Topic → Prop}
    (adds : ∀ (entries : List (Record × Nat)) (topic : Topic) (record : Record),
      Inv entries topic → ∃ more,
        more.map Prod.fst = (if (topic.append name record).1.isOk then [record] else []) ∧
          Inv (entries ++ more) (topic.append name record).2)
    {entries : List (Record × Nat)} {topic : Topic} (holds : Inv entries topic)
    (records : List Record) :
    ∃ more, more.map Prod.fst = acceptedOf records (topic.appendAll name records).1 ∧
      Inv (entries ++ more) (topic.appendAll name records).2 := by
  induction records generalizing entries topic with
  | nil =>
      refine ⟨[], rfl, ?_⟩
      rw [List.append_nil]
      exact holds
  | cons record records hypothesis =>
      rcases adds entries topic record holds with ⟨first, isFirst, between⟩
      rcases hypothesis between with ⟨rest, areRest, after⟩
      refine ⟨first ++ rest, ?_, ?_⟩
      · simp only [appendAll]
        rw [acceptedOf_cons, List.map_append, isFirst, areRest]
      · rw [← List.append_assoc]
        exact after

theorem length_appendAll (name : String) (topic : Topic) (records : List Record) :
    (topic.appendAll name records).1.length = records.length := by
  induction records generalizing topic with
  | nil => rfl
  | cons record records hypothesis => simp [appendAll, hypothesis]

/-- Just the records that are stored have a success. -/
theorem appendAll_lays (name : String) {topic : Topic} (positive : 0 < topic.count)
    (records : List Record) :
    ∃ entries, entries.map Prod.fst = acceptedOf records (topic.appendAll name records).1 ∧
      topic.Lays entries (topic.appendAll name records).2 := by
  let Inv (entries : List (Record × Nat)) (after : Topic) : Prop :=
    after.count = topic.count ∧ topic.Lays entries after
  have adds : ∀ (entries : List (Record × Nat)) (after : Topic) (record : Record),
      Inv entries after → ∃ more,
        more.map Prod.fst = (if (after.append name record).1.isOk then [record] else []) ∧
          Inv (entries ++ more) (after.append name record).2 := by
    rintro entries after record ⟨sameCount, lays⟩
    have stillCount := (Extends.append name after record).keeps.count_eq
    rcases append_lays name (sameCount ▸ positive) record with ⟨more, isMore, laysMore⟩
    exact ⟨more, isMore, stillCount.trans sameCount, lays.append laysMore sameCount⟩
  have begun : Inv [] topic := ⟨rfl, .nothing topic⟩
  rcases appendAll_adds name adds begun records with ⟨entries, areAccepted, _, lays⟩
  exact ⟨entries, areAccepted, lays⟩

end Topic

/-- A delivery has put just the records that its report acknowledges into its topic, in their order
and behind what was there, and nothing into any other. -/
structure Delivered (name : String) (records : List Record) (before : Broker) (report : Report)
    (after : Broker) : Prop where
  outcome_each : report.outcomes.length = records.length
  stored : ∃ entries : List (Record × Nat), entries.map Prod.fst = report.accepted records ∧
    (∀ entry ∈ entries, Topic.Placed (before.width name) entry) ∧ ∀ topic partition,
      (after.messages topic partition).map Message.stored =
        (before.messages topic partition).map Message.stored ++
          if topic = name then Topic.laidIn partition entries else []
  /-- Where the broker cannot be reached, nothing is put anywhere. -/
  unreached : ∀ fault, before.interruption.1 = some fault →
    report = .uniform records.length (.error fault) ∧ after.topics = before.topics

variable {before after : Broker} {name : String} {records : List Record} {fault : Fault}

theorem interruption_of_reached (reached : before.interruption.1 = none) :
    before.interruption = (none, before) := by
  rcases interruption_cases before with calm | ⟨fault, left, interrupted⟩
  · exact calm
  · rw [interrupted] at reached
    cases reached

/-- A delivery that is turned down as a whole puts nothing anywhere. -/
theorem Delivered.nothing (topics_eq : after.topics = before.topics)
    (unreached : ∀ other, before.interruption.1 = some other → other = fault) :
    Delivered name records before (.uniform records.length (.error fault)) after where
  outcome_each := by simp [Report.uniform]
  stored := by
    refine ⟨[], (Report.accepted_uniform_error records fault).symm, by simp, ?_⟩
    intro topic partition
    rw [messages_congr topics_eq]
    simp [Topic.laidIn]
  unreached := by
    intro other interrupted
    rw [unreached other interrupted]
    exact ⟨rfl, topics_eq⟩

/-- Whatever is delivered, just the records that are reported as stored are stored, in a topic that
has partitions. -/
theorem delivered_deliver (positive : ∀ found, before.topic? name = some found → 0 < found.count)
    (records : List Record) :
    Delivered name records before (before.deliver name records).1
      (before.deliver name records).2 := by
  cases interrupted : before.interruption with
  | mk fault? later =>
      cases fault? with
      | some fault =>
          simp only [deliver, interrupted]
          apply Delivered.nothing (unavailable_of_interruption interrupted).2
          intro other isOther
          rw [interrupted] at isOther
          exact (Option.some.inj isOther).symm
      | none =>
          have reached : before.interruption.1 = none := by rw [interrupted]
          have notRefused : ∀ fault, before.interruption.1 ≠ some fault := by simp [reached]
          rw [interruption_of_reached reached] at interrupted
          cases interrupted
          simp only [deliver, interruption_of_reached reached]
          cases exist : before.topic? name with
          | none =>
              exact .nothing rfl fun other isOther => absurd isOther (notRefused other)
          | some found =>
              rcases Topic.appendAll_lays name (positive found exist) records with
                ⟨entries, isAccepted, lays⟩
              refine ⟨Topic.length_appendAll name found records, ⟨entries, isAccepted, ?_, ?_⟩, ?_⟩
              · rw [width_eq_of_topic? exist]
                exact lays.placed
              · intro topic partition
                rw [messages_of_setTopic rfl]
                split
                · rename_i here
                  rw [here, messages_eq_of_topic? exist, Topic.map_stored_messages,
                    Topic.map_stored_messages]
                  exact lays.grown partition
                · rw [List.append_nil]
                  exact congrArg _ (messages_congr rfl topic partition)
              · exact fun fault isFault => absurd isFault (notRefused fault)

end Broker

end FrontierBus
