import FrontierBus.Proofs.Broker.Deliveries
import FrontierBus.Proofs.Broker.Occurrences
import Mathlib.Data.List.Perm.Subperm

/-!
# What a journal lays down

The requests of a journal are those of one producer and of watches; what anyone else does is an event
in it. Every delivery is reported at once and is all or nothing, so the deliveries put into the
partitions what their reports acknowledge, each record once and in order.
-/

namespace FrontierBus

/-- What the report on a delivery says of each record, if there is one. -/
def Exchange.outcomes : Exchange → List (Except Fault Unit)
  | ⟨_, .deliver _ _, reply⟩ => match reply.answer with
    | some report => report.outcomes
    | none => []
  | _ => []

/-- The records of a delivery that its report acknowledges. -/
def Exchange.stored (exchange : Exchange) : List Record :=
  match exchange.request with
  | .deliver _ records =>
    ((records.zip exchange.outcomes).filter fun pair => pair.2.isOk).map Prod.fst
  | _ => []

/-- If it is a delivery, it is one to a topic, of records that fit it. -/
def Exchange.Suits (topic : String) (count : Nat) (exchange : Exchange) : Prop :=
  match exchange.request with
  | .deliver name records => name = topic ∧ ∀ record ∈ records, record.Fits count
  | _ => True

/-- Every delivery among the requests is one to a topic, of records that fit it. -/
def Suited (topic : String) (count : Nat) (made : List Exchange) : Prop :=
  ∀ exchange ∈ made, exchange.Suits topic count

/-- The records that the reports on the deliveries among the requests acknowledge. -/
def storedBy (made : List Exchange) : List Record :=
  made.flatMap Exchange.stored

theorem Exchange.stored_of_not_delivery {exchange : Exchange}
    (notDelivery : exchange.isDelivery = false) : exchange.stored = [] := by
  rcases exchange with ⟨moment, request, reply⟩
  cases request with
  | deliver => simp [isDelivery] at notDelivery
  | _ => rfl

/-- A report that says the same of all records acknowledges all of them or none. -/
theorem Exchange.stored_of_uniform {topic : String} {records : List Record} {moment : Nat}
    {reply : Reply (.deliver topic records)} {outcome : Except Fault Unit}
    (answered : reply.answer = some (.uniform records.length outcome)) :
    Exchange.stored ⟨moment, .deliver topic records, reply⟩ =
      if outcome.isOk then records else [] := by
  have paired : records.map (fun record => (record, outcome)) =
      records.zip (List.replicate records.length outcome) :=
    List.zip_of_prod (by simp [Function.comp_def]) (by simp [Function.comp_def])
  simp only [stored, outcomes, answered, Report.uniform]
  rw [← paired]
  split
  · rename_i isOk
    simp [List.filter_map, Function.comp_def, isOk]
  · rename_i notOk
    simp [List.filter_map, Function.comp_def, notOk]

theorem Suited.of_sublist {topic : String} {count : Nat} {made fewer : List Exchange}
    (suited : Suited topic count made) (among : fewer.Sublist made) : Suited topic count fewer :=
  fun exchange present => suited exchange (among.subset present)

theorem Suited.append {topic : String} {count : Nat} {front back : List Exchange}
    (first : Suited topic count front) (second : Suited topic count back) :
    Suited topic count (front ++ back) := by
  intro exchange present
  rcases List.mem_append.mp present with inFront | inBack
  · exact first exchange inFront
  · exact second exchange inBack

theorem storedBy_append (front back : List Exchange) :
    storedBy (front ++ back) = storedBy front ++ storedBy back := by
  simp [storedBy]

theorem storedBy_of_quiet {made : List Exchange} (quiet : Timeline.Quiet made) :
    storedBy made = [] := by
  rw [storedBy, List.flatMap_eq_nil_iff]
  intro exchange present
  exact Exchange.stored_of_not_delivery (quiet exchange present)

theorem suited_of_quiet {topic : String} {count : Nat} {made : List Exchange}
    (quiet : Timeline.Quiet made) : Suited topic count made := by
  intro exchange present
  have notDelivery := quiet exchange present
  rcases exchange with ⟨moment, request, reply⟩
  cases request with
  | deliver => simp [Exchange.isDelivery] at notDelivery
  | _ => trivial

/-- Records are to be delivered. -/
def Occurrence.isDelivery {Log : Type} [Transport Log] : Occurrence Log → Bool
  | .request exchange => exchange.isDelivery
  | .event _ => false

/-- Whoever waits has nothing delivered. -/
theorem Occurrence.isDelivery_of_isAside {Log : Type} [Transport Log]
    {occurrence : Occurrence Log} (aside : occurrence.isAside = true) :
    occurrence.isDelivery = false := by
  cases occurrence with
  | event _ => rfl
  | request exchange =>
      rcases exchange with ⟨moment, request, reply⟩
      cases request with
      | deliver => cases aside
      | _ => rfl

namespace Broker

/-- The messages that the deliveries of a journal have put into a partition, in the order of their
offsets. -/
def delivered (topic : String) (partition : Nat) (broker : Broker) :
    List (Occurrence Broker) → List Message
  | [] => []
  | occurrence :: journal =>
    let after := occurrence.befall broker
    let own := (after.messages topic partition).drop (broker.messages topic partition).length
    (if occurrence.isDelivery then own else []) ++ delivered topic partition after journal

variable {topic : String} {count : Nat} {broker : Broker} {occurrence : Occurrence Broker}
  {front back journal : List (Occurrence Broker)} {entries others : List (Record × Nat)}

theorem delivered_append (topic : String) (partition : Nat) (broker : Broker)
    (front back : List (Occurrence Broker)) :
    broker.delivered topic partition (front ++ back) =
      broker.delivered topic partition front ++
        (front.foldl Occurrence.befall broker).delivered topic partition back := by
  induction front generalizing broker with
  | nil => rfl
  | cons occurrence front hypothesis => simp [delivered, hypothesis]

theorem delivered_of_quiet (quiet : ∀ occurrence ∈ journal, occurrence.isDelivery = false)
    (topic : String) (partition : Nat) (broker : Broker) :
    broker.delivered topic partition journal = [] := by
  induction journal generalizing broker with
  | nil => rfl
  | cons occurrence journal hypothesis =>
      rw [List.forall_mem_cons] at quiet
      simp [delivered, quiet.1, hypothesis quiet.2]

theorem messages_befall (broker : Broker) (occurrence : Occurrence Broker) (topic : String)
    (partition : Nat) :
    broker.messages topic partition <+: (occurrence.befall broker).messages topic partition := by
  rw [befall_eq]
  exact messages_step broker (actionOf occurrence) topic partition

/-- What is delivered comes behind what was there, in the order of the partition. -/
theorem messages_append_delivered_sublist (topic : String) (partition : Nat) (broker : Broker)
    (journal : List (Occurrence Broker)) :
    (broker.messages topic partition ++ broker.delivered topic partition journal).Sublist
      ((journal.foldl Occurrence.befall broker).messages topic partition) := by
  induction journal generalizing broker with
  | nil => simp [delivered]
  | cons occurrence journal hypothesis =>
      have later := hypothesis (occurrence.befall broker)
      have grown := messages_befall broker occurrence topic partition
      simp only [delivered, List.foldl_cons]
      split
      · rw [← List.append_assoc, List.prefix_iff_eq_append.mp grown]
        exact later
      · exact (grown.sublist.append_right _).trans later

/-- The deliveries of a journal have laid down entries: the records that are acknowledged, in order,
each in a partition. -/
structure Laid (topic : String) (count : Nat) (broker : Broker)
    (journal : List (Occurrence Broker)) (entries : List (Record × Nat)) : Prop where
  isStored : entries.map Prod.fst = storedBy (journal.filterMap Occurrence.exchange?)
  placed : ∀ entry ∈ entries, Topic.Placed count entry
  delivered_eq : ∀ partition, (broker.delivered topic partition journal).map Message.stored =
    Topic.laidIn partition entries

namespace Laid

theorem append (first : Laid topic count broker front entries)
    (second : Laid topic count (front.foldl Occurrence.befall broker) back others) :
    Laid topic count broker (front ++ back) (entries ++ others) where
  isStored := by
    rw [List.map_append, first.isStored, second.isStored, List.filterMap_append, storedBy_append]
  placed := by
    intro entry present
    rcases List.mem_append.mp present with inFront | inBack
    · exact first.placed entry inFront
    · exact second.placed entry inBack
  delivered_eq := by
    intro partition
    rw [delivered_append, List.map_append, first.delivered_eq, second.delivered_eq,
      Topic.laidIn_append]

theorem beside (notDelivery : occurrence.isDelivery = false) :
    Laid topic count broker [occurrence] [] where
  isStored := by
    cases occurrence with
    | event action => rfl
    | request exchange =>
        have nothing : exchange.stored = [] := Exchange.stored_of_not_delivery notDelivery
        simp [Occurrence.exchange?, storedBy, nothing]
  placed := by simp
  delivered_eq := by
    intro partition
    simp [delivered, notDelivery, Topic.laidIn]

theorem uniform {moment : Nat} {records : List Record} {outcome : Except Fault Unit}
    (answered : (broker.deliver topic records).1 = .uniform records.length outcome)
    (isStored : entries.map Prod.fst = if outcome.isOk then records else [])
    (placed : ∀ entry ∈ entries, Topic.Placed count entry)
    (grown : ∀ partition,
      ((broker.deliver topic records).2.messages topic partition).map Message.stored =
        (broker.messages topic partition).map Message.stored ++ Topic.laidIn partition entries) :
    Laid topic count broker
      [.request ⟨moment, .deliver topic records, ⟨0, some (broker.deliver topic records).1⟩⟩]
      entries where
  isStored := by
    have acknowledged : Exchange.stored
        ⟨moment, .deliver topic records, ⟨0, some (broker.deliver topic records).1⟩⟩ =
          if outcome.isOk then records else [] :=
      Exchange.stored_of_uniform (congrArg some answered)
    rw [isStored, ← acknowledged]
    simp [Occurrence.exchange?, storedBy]
  placed := placed
  delivered_eq := by
    intro partition
    have own : broker.delivered topic partition [.request
        ⟨moment, .deliver topic records, ⟨0, some (broker.deliver topic records).1⟩⟩] =
          ((broker.deliver topic records).2.messages topic partition).drop
            (broker.messages topic partition).length := List.append_nil _
    rw [own, List.map_drop, grown, List.drop_left' (List.length_map _)]

/-- A delivery of records that fit lays all of them down or none. -/
theorem delivery (offers : broker.Offers topic count) {records : List Record}
    (fits : ∀ record ∈ records, record.Fits count) (moment : Nat) :
    ∃ entries, Laid topic count broker
      [.request ⟨moment, .deliver topic records, ⟨0, some (broker.deliver topic records).1⟩⟩]
      entries := by
  rcases deliver_of_offers offers fits with
    ⟨cause, missed, topics_eq⟩ | ⟨stored, entries, isRecords, placed, grown⟩
  · refine ⟨[], .uniform missed rfl (by simp) ?_⟩
    intro partition
    rw [messages_congr topics_eq, Topic.laidIn]
    simp
  · exact ⟨entries, .uniform stored isRecords placed grown⟩

end Laid

/-- A request that is answered as the broker answers it is no delivery, or one that is reported at
once. -/
theorem delivery_of_fits {exchange : Exchange}
    (fits : Occurrence.Fits broker (.request exchange)) (suits : exchange.Suits topic count) :
    exchange.isDelivery = false ∨
      ∃ moment records, (∀ record ∈ records, record.Fits count) ∧
        exchange = ⟨moment, .deliver topic records, ⟨0, some (broker.deliver topic records).1⟩⟩ := by
  rcases exchange with ⟨moment, request, reply⟩
  cases request with
  | deliver name records =>
      rcases suits with ⟨rfl, recordsFit⟩
      have answered : reply = ⟨0, some (broker.deliver name records).1⟩ := fits
      exact Or.inr ⟨moment, records, recordsFit, by rw [answered]⟩
  | _ => exact Or.inl rfl

/-- Whatever comes to pass on a broker with the topic, it lays down what it acknowledges. -/
theorem laid_of_fits (offers : broker.Offers topic count) (fits : occurrence.Fits broker)
    (suits : ∀ exchange, occurrence.exchange? = some exchange → exchange.Suits topic count) :
    ∃ entries, Laid topic count broker [occurrence] entries := by
  cases occurrence with
  | event action => exact ⟨[], .beside rfl⟩
  | request exchange =>
      rcases delivery_of_fits fits (suits exchange rfl) with
        notDelivery | ⟨moment, records, recordsFit, rfl⟩
      · exact ⟨[], .beside notDelivery⟩
      · exact Laid.delivery offers recordsFit moment

theorem Offers.befall (offers : broker.Offers topic count) (occurrence : Occurrence Broker) :
    (occurrence.befall broker).Offers topic count := by
  rw [befall_eq]
  exact offers.step _

/-- On a broker with the topic, the deliveries of a journal lay down what their reports
acknowledge. -/
theorem laid_of_allFit (offers : broker.Offers topic count)
    (fit : Occurrence.AllFit broker journal)
    (suited : Suited topic count (journal.filterMap Occurrence.exchange?)) :
    ∃ entries, Laid topic count broker journal entries := by
  induction journal generalizing broker with
  | nil => exact ⟨[], ⟨rfl, by simp, fun _ => rfl⟩⟩
  | cons occurrence journal hypothesis =>
      rcases fit with ⟨fits, fitRest⟩
      have suitedRest : Suited topic count (journal.filterMap Occurrence.exchange?) :=
        suited.of_sublist ((List.sublist_cons_self occurrence journal).filterMap _)
      have suits : ∀ exchange, occurrence.exchange? = some exchange →
          exchange.Suits topic count := fun exchange isExchange =>
        suited exchange (List.mem_filterMap.mpr ⟨occurrence, List.mem_cons_self, isExchange⟩)
      rcases laid_of_fits offers fits suits with ⟨entries, laid⟩
      rcases hypothesis (offers.befall occurrence) fitRest suitedRest with ⟨others, rest⟩
      exact ⟨entries ++ others, laid.append rest⟩

/-- Each request of a journal is answered by a broker with the topic. -/
theorem fits_of_mem (offers : broker.Offers topic count) (fit : Occurrence.AllFit broker journal)
    (present : occurrence ∈ journal) :
    ∃ serving : Broker, serving.Offers topic count ∧ occurrence.Fits serving := by
  induction journal generalizing broker with
  | nil => cases present
  | cons first journal hypothesis =>
      rcases fit with ⟨fits, fitRest⟩
      rcases List.mem_cons.mp present with rfl | later
      · exact ⟨broker, offers, fits⟩
      · exact hypothesis (offers.befall first) fitRest later

/-- A record is only turned down because the broker cannot be reached. -/
theorem unavailable_of_allFit (offers : broker.Offers topic count)
    (fit : Occurrence.AllFit broker journal)
    (suited : Suited topic count (journal.filterMap Occurrence.exchange?)) {exchange : Exchange}
    (made : .request exchange ∈ journal) {fault : Fault} (failed : .error fault ∈ exchange.outcomes) :
    ∃ cause, fault = .unavailable cause := by
  have suits := suited exchange (Occurrence.mem_exchanges.mpr made)
  rcases fits_of_mem offers fit made with ⟨serving, stillOffers, fits⟩
  rcases delivery_of_fits fits suits with notDelivery | ⟨moment, records, recordsFit, rfl⟩
  · rcases exchange with ⟨moment, request, reply⟩
    cases request with
    | deliver => simp [Exchange.isDelivery] at notDelivery
    | _ => cases failed
  · simp only [Exchange.outcomes] at failed
    rcases deliver_of_offers stillOffers recordsFit with ⟨cause, missed, _⟩ | ⟨stored, _⟩
    · rw [missed] at failed
      have same := List.eq_of_mem_replicate failed
      cases same
      exact ⟨cause, rfl⟩
    · rw [stored] at failed
      cases List.eq_of_mem_replicate failed

theorem filter_mem_of_sublist {messages own : List Message} (distinct : messages.Nodup)
    (among : own.Sublist messages) : messages.filter (fun message => message ∈ own) = own := by
  have all : (own.filter fun message => message ∈ own) = own := by simp
  have inside := among.filter fun message => message ∈ own
  rw [all] at inside
  have noMore : (messages.filter fun message => message ∈ own).length ≤ own.length := by
    apply List.Subperm.length_le
    apply List.Nodup.subperm (distinct.filter _)
    intro message present
    simpa using (List.mem_filter.mp present).2
  exact (inside.eq_of_length_le noMore).symm

/-- If all entries under a key lie in one partition, those in a partition are a beginning of the entries
under the key. -/
theorem laidIn_of_together {partition : Nat} {entries : List (Record × Nat)} {key : ByteArray}
    (together : ∀ entry ∈ entries, ∀ other ∈ entries, entry.1.key = some key →
      other.1.key = some key → entry.2 = other.2) :
    (Topic.laidIn partition entries).filter (fun stored => stored.key = some key) <+:
      ((entries.map Prod.fst).filter fun record => record.key = some key).map Record.stored := by
  have inPartition : (Topic.laidIn partition entries).filter (fun stored => stored.key = some key) =
      ((entries.filter fun entry => entry.1.key = some key).filter
        fun entry => entry.2 = partition).map fun entry => entry.1.stored := by
    rw [Topic.laidIn, List.filter_map, List.filter_filter, List.filter_filter]
    congr 2
    funext entry
    exact Bool.and_comm _ _
  have anywhere : ((entries.map Prod.fst).filter fun record => record.key = some key).map
      Record.stored = (entries.filter fun entry => entry.1.key = some key).map
        fun entry => entry.1.stored := by
    rw [List.filter_map, List.map_map]
    rfl
  rw [inPartition, anywhere]
  by_cases elsewhere : ∀ entry ∈ entries.filter (fun entry => entry.1.key = some key),
      entry.2 ≠ partition
  · have none : (entries.filter fun entry => entry.1.key = some key).filter
        (fun entry => entry.2 = partition) = [] := by
      rw [List.filter_eq_nil_iff]
      simpa using elsewhere
    rw [none]
    exact List.nil_prefix
  · push Not at elsewhere
    rcases elsewhere with ⟨first, isUnder, rfl⟩
    rcases List.mem_filter.mp isUnder with ⟨firstPresent, firstUnder⟩
    rw [List.filter_eq_self.mpr]
    intro entry present
    rcases List.mem_filter.mp present with ⟨entryPresent, entryUnder⟩
    have same := together entry entryPresent first firstPresent (by simpa using entryUnder)
      (by simpa using firstUnder)
    simpa using same

/-- A message is told from the others of its partition by its offset. -/
theorem messages_nodup (broker : Broker) (topic : String) (partition : Nat) :
    (broker.messages topic partition).Nodup := by
  apply List.Nodup.of_map Message.offset
  rw [map_offset_messages]
  exact List.nodup_range

/-- If what is laid down under a key lies in one partition, whoever has seen the beginning of a
partition has seen a beginning of it. -/
theorem Laid.inOrder_of_seen (laid : Laid topic count broker journal entries) {partition : Nat}
    {seen : List Message} {key : ByteArray}
    (read : seen <+: (journal.foldl Occurrence.befall broker).messages topic partition)
    (together : ∀ entry ∈ entries, ∀ other ∈ entries, entry.1.key = some key →
      other.1.key = some key → entry.2 = other.2) :
    (seen.filter fun message => message ∈ broker.delivered topic partition journal ∧
      message.key = some key).map Message.stored <+:
        ((entries.map Prod.fst).filter fun record => record.key = some key).map Record.stored := by
  let own := broker.delivered topic partition journal
  let messages := (journal.foldl Occurrence.befall broker).messages topic partition
  have among : own.Sublist messages := (List.sublist_append_right _ _).trans
    (messages_append_delivered_sublist topic partition broker journal)
  have all : (messages.filter fun message => message ∈ own ∧ message.key = some key).map
      Message.stored = (Topic.laidIn partition entries).filter fun stored => stored.key = some key := by
    have isLaid : own.map Message.stored = Topic.laidIn partition entries :=
      laid.delivered_eq partition
    rw [← isLaid, List.filter_map]
    conv_rhs => rw [← filter_mem_of_sublist (messages_nodup _ topic partition) among]
    rw [List.filter_filter]
    congr 2
    funext message
    exact (Bool.decide_and _ _).trans (Bool.and_comm _ _)
  have seenFirst := (read.filter fun message => message ∈ own ∧ message.key = some key).map
    Message.stored
  rw [all] at seenFirst
  exact seenFirst.trans (laidIn_of_together together)

end Broker

end FrontierBus
