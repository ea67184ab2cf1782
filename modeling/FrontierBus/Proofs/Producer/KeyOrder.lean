import FrontierBus.Proofs.Producer.Reports
import FrontierBus.Script

/-!
# The order of acknowledgements

Records that share a key are sent in one order, and acknowledged in this order as long as every
report acknowledges them in turn. A report that acknowledges a record and not an earlier one with
the same key is believed: the later record leaves the buffer, and the earlier one is delivered again
behind it.
-/

namespace FrontierBus

/-- Among the records under a key, none is acknowledged behind one that is not. -/
def Report.InTurn (key : ByteArray) : List Record → List (Except Fault Unit) → Prop
  | [], _ | _, [] => True
  | _ :: records, .ok _ :: outcomes => InTurn key records outcomes
  | record :: records, .error _ :: outcomes =>
    if record.key = some key then
      ∀ pair ∈ records.zip outcomes, pair.1.key = some key → pair.2.isOk = false
    else InTurn key records outcomes

/-- The report on a delivery that has come by a moment acknowledges the records under a key in
turn. -/
def Exchange.InTurn (key : ByteArray) (moment : Nat) : Exchange → Prop
  | ⟨start, .deliver _ records, reply⟩ =>
    Report.InTurn key records (Ledger.outcomesBy moment start reply)
  | _ => True

/-- If it is a delivery, there is a report with one outcome for each record. -/
def Exchange.answersEach : Exchange → Bool
  | ⟨_, .deliver _ records, reply⟩ => match reply.answer with
    | some report => report.outcomes.length = records.length
    | none => false
  | _ => true

namespace Ledger

/-- The places of the entries under a key. -/
def under (key : ByteArray) (entries : List (Record × Nat)) : List Nat :=
  (entries.filter fun entry => entry.1.key = some key).map Prod.snd

/-- The places of the records under a key, in the order in which they were sent. -/
def sentUnder (ledger : Ledger) (key : ByteArray) : List Nat :=
  under key ledger.taken.zipIdx

/-- The places of the acknowledged records under a key, in the order in which they were
acknowledged. -/
def acknowledgedUnder (ledger : Ledger) (key : ByteArray) : List Nat :=
  ledger.acknowledged.filter fun place => (ledger.sentUnder key).contains place

/-- The records under a key are acknowledged in the order in which they were sent: none before an
earlier one. -/
def InOrder (ledger : Ledger) (key : ByteArray) : Prop :=
  ledger.acknowledgedUnder key <+: ledger.sentUnder key

variable {ledger between after : Ledger} {key : ByteArray} {records : List Record}
  {entries : List (Record × Nat)} {outcomes : List (Except Fault Unit)} {place : Nat}

theorem mem_under : place ∈ under key entries ↔
    ∃ entry ∈ entries, entry.1.key = some key ∧ entry.2 = place := by
  simp [under, and_assoc]

/-- The places of the entries under a key that have a success of their own. -/
def servedUnder (key : ByteArray) (entries : List (Record × Nat))
    (outcomes : List (Except Fault Unit)) : List Nat :=
  ((entries.zip outcomes).filter fun pair => pair.2.isOk && pair.1.1.key = some key).map
    fun pair => pair.1.2

theorem servedUnder_cons_ok (entry : Record × Nat) (entries : List (Record × Nat))
    (outcomes : List (Except Fault Unit)) :
    servedUnder key (entry :: entries) (.ok () :: outcomes) =
      if entry.1.key = some key then entry.2 :: servedUnder key entries outcomes
      else servedUnder key entries outcomes := by
  split
  · rename_i isUnder
    simp [servedUnder, Except.isOk, Except.toBool, isUnder]
  · rename_i notUnder
    simp [servedUnder, Except.isOk, Except.toBool, notUnder]

theorem servedUnder_cons_error (entry : Record × Nat) (entries : List (Record × Nat))
    (fault : Fault) (outcomes : List (Except Fault Unit)) :
    servedUnder key (entry :: entries) (.error fault :: outcomes) =
      servedUnder key entries outcomes := by
  simp [servedUnder, Except.isOk, Except.toBool]

theorem under_cons (entry : Record × Nat) (entries : List (Record × Nat)) :
    under key (entry :: entries) =
      if entry.1.key = some key then entry.2 :: under key entries else under key entries := by
  split
  · rename_i isUnder
    simp [under, isUnder]
  · rename_i notUnder
    simp [under, notUnder]

theorem servedUnder_eq_nil_iff :
    servedUnder key entries outcomes = [] ↔
      ∀ pair ∈ (entries.map Prod.fst).zip outcomes,
        pair.1.key = some key → pair.2.isOk = false := by
  simp only [servedUnder]
  rw [List.map_eq_nil_iff, List.filter_eq_nil_iff, List.zip_map_left, List.forall_mem_map]
  apply forall_congr'
  intro pair
  apply imp_congr_right
  intro _
  cases outcome : pair.2.isOk with
  | true => simp [outcome]
  | false => simp [outcome]

theorem mem_of_mem_servedUnder (isServed : place ∈ servedUnder key entries outcomes) :
    place ∈ entries.map Prod.snd := by
  rcases List.mem_map.mp isServed with ⟨⟨entry, outcome⟩, paired, rfl⟩
  exact List.mem_map_of_mem (List.of_mem_zip (List.mem_of_mem_filter paired)).1

/-- A report acknowledges a beginning of the entries under a key exactly if it does so in turn. -/
theorem servedUnder_prefix_iff (distinct : (entries.map Prod.snd).Nodup) :
    servedUnder key entries outcomes <+: under key entries ↔
      Report.InTurn key (entries.map Prod.fst) outcomes := by
  induction entries generalizing outcomes with
  | nil => simp [servedUnder, Report.InTurn]
  | cons entry entries hypothesis =>
      rw [List.map_cons, List.nodup_cons] at distinct
      rw [List.map_cons]
      cases outcomes with
      | nil => simp [servedUnder, Report.InTurn]
      | cons outcome outcomes =>
          have rest : servedUnder key entries outcomes <+: under key entries ↔
              Report.InTurn key (entries.map Prod.fst) outcomes := hypothesis distinct.2
          rw [under_cons]
          cases outcome with
          | ok _ =>
              rw [servedUnder_cons_ok, Report.InTurn, ← rest]
              split
              · exact List.cons_prefix_cons.trans (and_iff_right rfl)
              · exact Iff.rfl
          | error fault =>
              rw [servedUnder_cons_error, Report.InTurn]
              split
              · rw [← servedUnder_eq_nil_iff, List.prefix_cons_iff]
                constructor
                · rintro (nothing | ⟨served, isServed, _⟩)
                  · exact nothing
                  · have among : entry.2 ∈ servedUnder key entries outcomes := by
                      rw [isServed]
                      exact List.mem_cons_self
                    exact absurd (mem_of_mem_servedUnder among) distinct.1
                · exact Or.inl
              · exact rest

theorem under_sublist (key : ByteArray) (entries : List (Record × Nat)) :
    (under key entries).Sublist (entries.map Prod.snd) :=
  List.filter_sublist.map _

theorem sentUnder_nodup (ledger : Ledger) (key : ByteArray) : (ledger.sentUnder key).Nodup := by
  apply List.Nodup.sublist (under_sublist key _)
  rw [List.zipIdx_map_snd]
  exact List.nodup_range'

theorem under_pending (ledger : Ledger) (key : ByteArray) :
    under key ledger.pending =
      (ledger.sentUnder key).filter fun place => !ledger.acknowledged.contains place := by
  simp only [under, sentUnder, pending]
  rw [List.filter_filter, List.filter_map, List.filter_filter]
  congr 2
  funext entry
  exact Bool.and_comm _ _

/-- As long as the records under a key are acknowledged in order, the pending ones are the rest. -/
theorem sentUnder_eq_append (inOrder : ledger.InOrder key) :
    ledger.sentUnder key = ledger.acknowledgedUnder key ++ under key ledger.pending := by
  rcases inOrder with ⟨rest, isRest⟩
  have distinct := ledger.sentUnder_nodup key
  rw [← isRest] at distinct
  have disjoint := (List.nodup_append'.mp distinct).2.2
  rw [under_pending]
  conv_rhs => rw [← isRest]
  rw [List.filter_append, List.filter_eq_nil_iff.mpr, List.filter_eq_self.mpr, List.nil_append,
    isRest]
  · intro place inRest
    have notAcknowledged : place ∉ ledger.acknowledged := by
      intro isAcknowledged
      apply disjoint _ inRest
      rw [acknowledgedUnder, List.mem_filter]
      refine ⟨isAcknowledged, ?_⟩
      rw [← isRest]
      simp [inRest]
    simpa using notAcknowledged
  · intro place among
    have isAcknowledged := (List.mem_filter.mp among).1
    simpa using isAcknowledged

theorem mem_sentUnder_iff {entry : Record × Nat} (present : entry ∈ ledger.taken.zipIdx) :
    entry.2 ∈ ledger.sentUnder key ↔ entry.1.key = some key := by
  rw [sentUnder, mem_under]
  constructor
  · rintro ⟨other, otherPresent, isUnder, samePlace⟩
    have isThere := List.mem_zipIdx_iff_getElem?.mp present
    have otherThere := List.mem_zipIdx_iff_getElem?.mp otherPresent
    rw [samePlace, isThere, Option.some.injEq] at otherThere
    rw [otherThere]
    exact isUnder
  · intro isUnder
    exact ⟨entry, present, isUnder, rfl⟩

theorem acknowledgedUnder_acknowledge (ledger : Ledger) (key : ByteArray)
    (outcomes : List (Except Fault Unit)) :
    (ledger.acknowledge outcomes).acknowledgedUnder key =
      ledger.acknowledgedUnder key ++ servedUnder key ledger.pending outcomes := by
  change (ledger.acknowledged ++ served ledger.pending outcomes).filter
    (fun place => (ledger.sentUnder key).contains place) = _
  rw [List.filter_append]
  congr 1
  simp only [served, servedUnder]
  rw [List.filter_map, List.filter_filter]
  congr 1
  apply List.filter_congr
  rintro ⟨entry, outcome⟩ paired
  have isPending := (List.of_mem_zip paired).1
  have isUnder : entry.2 ∈ ledger.sentUnder key ↔ entry.1.key = some key :=
    mem_sentUnder_iff (List.mem_of_mem_filter isPending)
  simp [isUnder, Bool.and_comm]

/-- A report keeps the order exactly if it acknowledges what is outstanding in turn. -/
theorem inOrder_acknowledge_iff (ledger : Ledger) (key : ByteArray)
    (outcomes : List (Except Fault Unit)) :
    (ledger.acknowledge outcomes).InOrder key ↔
      ledger.InOrder key ∧ Report.InTurn key ledger.outstanding outcomes := by
  have served : servedUnder key ledger.pending outcomes <+: under key ledger.pending ↔
      Report.InTurn key ledger.outstanding outcomes := servedUnder_prefix_iff ledger.pending_nodup
  simp only [InOrder]
  rw [acknowledgedUnder_acknowledge]
  change _ <+: ledger.sentUnder key ↔ _
  constructor
  · intro both
    have inOrder : ledger.InOrder key := (List.prefix_append _ _).trans both
    refine ⟨inOrder, ?_⟩
    rw [sentUnder_eq_append inOrder, List.prefix_append_right_inj] at both
    exact served.mp both
  · rintro ⟨inOrder, inTurn⟩
    rw [sentUnder_eq_append inOrder, List.prefix_append_right_inj]
    exact served.mpr inTurn

/-- Records that are taken do not disturb the order of those before them, for none of them is
acknowledged yet. -/
theorem inOrder_take_iff (ledger : Ledger) (key : ByteArray) (records : List Record) :
    (ledger.take records).InOrder key ↔ ledger.InOrder key := by
  let fresh := under key (records.zipIdx ledger.taken.length)
  have sent : (ledger.take records).sentUnder key = ledger.sentUnder key ++ fresh := by
    simp [sentUnder, under, fresh, List.zipIdx_append]
  have notBefore : ∀ place ∈ fresh, ledger.taken.length ≤ place := by
    intro place isFresh
    rcases mem_under.mp isFresh with ⟨entry, isNew, _, rfl⟩
    exact List.le_snd_of_mem_zipIdx isNew
  have same : (ledger.take records).acknowledgedUnder key = ledger.acknowledgedUnder key := by
    simp only [acknowledgedUnder]
    rw [sent]
    apply List.filter_congr
    intro place isAcknowledged
    have before := ledger.acknowledged_lt place isAcknowledged
    have notFresh : place ∉ fresh := by
      intro isFresh
      have behind := notBefore place isFresh
      omega
    simp [notFresh]
  simp only [InOrder]
  rw [same, sent]
  constructor
  · intro beginning
    rcases List.prefix_or_prefix_of_prefix beginning (List.prefix_append _ fresh) with
      done | ⟨beyond, longer⟩
    · exact done
    · rw [← longer, List.prefix_append_right_inj] at beginning
      cases beyond with
      | nil => simp [← longer]
      | cons place beyond =>
          have isFresh : place ∈ fresh := beginning.mem List.mem_cons_self
          have among : place ∈ ledger.acknowledgedUnder key := by
            rw [← longer]
            simp
          have before := ledger.acknowledged_lt place (List.mem_of_mem_filter among)
          have behind := notBefore place isFresh
          omega
  · intro beginning
    exact beginning.trans (List.prefix_append _ _)

variable {topic : String} {deadline patience moment : Nat} {front back made : List Exchange}

theorem inTurn_of_not_delivery {exchange : Exchange} (notDelivery : exchange.isDelivery = false) :
    exchange.InTurn key moment := by
  rcases exchange with ⟨start, request, reply⟩
  cases request with
  | deliver => simp [Exchange.isDelivery] at notDelivery
  | _ => trivial

/-- Requests keep the order exactly if every report on a delivery among them is in turn. -/
theorem Settles.inOrder_iff (settles : Settles topic deadline ledger made after)
    (told : Told deadline moment made) (key : ByteArray) :
    after.InOrder key ↔ ledger.InOrder key ∧ ∀ exchange ∈ made, exchange.InTurn key moment := by
  induction settles with
  | done => simp
  | aside notDelivery rest hypothesis =>
      have later := hypothesis fun exchange present => told exchange (List.mem_cons_of_mem _ present)
      rw [later, List.forall_mem_cons]
      simp [inTurn_of_not_delivery notDelivery]
  | @delivered ledger _ start reply made rest hypothesis =>
      have later := hypothesis fun exchange present => told exchange (List.mem_cons_of_mem _ present)
      have same : outcomesBy deadline start reply = outcomesBy moment start reply :=
        told _ List.mem_cons_self
      rw [later, inOrder_acknowledge_iff, List.forall_mem_cons, same, and_assoc]
      exact Iff.rfl

end Ledger

namespace Producer

variable {Log : Type} [Transport Log] {topic : String} {connection : Connection}
  {ledger : Ledger} {producer changed ready : Producer} {line between ended : Timeline Log}
  {key : ByteArray}

/-- From one timeline to a later one requests were made that a ledger flushes, and they keep the
order of a key exactly if every report that has come by the end, or, if all have come, by a later
moment, is in turn. -/
def Orders (topic : String) (connection : Connection) (key : ByteArray) (ledger : Ledger)
    (line : Timeline Log) (allCame : Prop) (changed : Producer) (ended : Timeline Log) : Prop :=
  ∃ (made : List Exchange) (after : Ledger), line.Makes made ended ∧ line.now ≤ ended.now ∧
    ledger.Flushes topic connection.maxBlock made after ∧ changed.Keeps topic connection after ∧
    ∀ moment, (moment = ended.now ∨ allCame ∧ ended.now ≤ moment) →
      (after.InOrder key ↔ ledger.InOrder key ∧ ∀ exchange ∈ made, exchange.InTurn key moment)

theorem orders_nothing (keeps : producer.Keeps topic connection ledger) (key : ByteArray)
    (allCame : Prop) (line : Timeline Log) :
    Orders topic connection key ledger line allCame producer line := by
  refine ⟨[], ledger, .nothing line, Nat.le_refl _, .nothing _ _ _, keeps, ?_⟩
  intro moment _
  simp

theorem orders_flush (keeps : producer.Keeps topic connection ledger) (key : ByteArray)
    (line : Timeline Log) :
    Orders topic connection key ledger line ((producer.flush line).1 = .ok ())
      (producer.flush line).2.1 (producer.flush line).2.2 := by
  simp only [flush]
  split
  · exact orders_nothing keeps key _ line
  · have inTime : (line.reckon (line.now + producer.connection.maxBlock)).now ≤
        line.now + producer.connection.maxBlock := Nat.le_add_right _ _
    rcases deliveries_delivered keeps (line.now + producer.connection.maxBlock)
      (producer.backoff.maxAttempts - 1) 1
      (line.reckon (line.now + producer.connection.maxBlock)) with
      ⟨reply, rest, after, makes, settles, kept⟩
    rcases deliveries_hears producer (producer.backoff.maxAttempts - 1) 1 inTime with ⟨made, hears⟩
    have sameMade := hears.makes.since_eq.symm.trans makes.since_eq
    subst sameMade
    have flushes := settles
    rw [keeps.connection_eq] at flushes
    refine ⟨_, after, makes, hears.line_le, .started flushes, kept, ?_⟩
    rintro moment (rfl | ⟨answered, notBefore⟩)
    · exact settles.inOrder_iff hears.told key
    · exact settles.inOrder_iff (hears.toldLater answered moment notBefore) key

theorem orders_tries {answer : Except Fault Unit} (keeps : producer.Keeps topic connection ledger)
    (key : ByteArray) (tries : producer.Tries line answer changed ended) :
    Orders topic connection key ledger line (answer = .ok ()) changed ended := by
  cases tries with
  | nothing => exact orders_nothing keeps key _ line
  | flushed => exact orders_flush keeps key line

/-- A call keeps the order of a key exactly if every report that has come when it ends is in turn. -/
theorem inOrder_course_iff {call : Call} {records : List Record} {answer : Except Fault Unit}
    (keeps : producer.Keeps topic connection ledger)
    (course : producer.Course line call records answer changed ended) (key : ByteArray) :
    ∃ (made : List Exchange) (after : Ledger), line.Makes made ended ∧
      ledger.Follows topic connection.maxBlock ⟨call, records, answer, made⟩ after ∧
      changed.Keeps topic connection after ∧
      (after.InOrder key ↔
        ledger.InOrder key ∧ ∀ exchange ∈ made, exchange.InTurn key ended.now) := by
  cases course with
  | refused fault =>
      exact ⟨[], ledger, .nothing line, .flushed rfl (.nothing _ _ _), keeps, by simp⟩
  | again isClosed =>
      exact ⟨[], ledger, .nothing line, .flushed rfl (.nothing _ _ _), keeps, by simp⟩
  | flushed nothingTaken =>
      rcases orders_flush keeps key line with ⟨made, after, makes, _, flushes, kept, ordered⟩
      refine ⟨made, after, makes, .flushed ?_ flushes, kept, ordered _ (Or.inl rfl)⟩
      simp only [Episode.accepted]
      split
      · rename_i answered
        exact nothingTaken answered
      · rfl
  | took _ room behind =>
      rcases orders_tries keeps key room with
        ⟨front, between, makes, _, flushes, kept, ordered⟩
      rcases orders_tries (kept.hold records) key behind with
        ⟨back, after, makesBack, notBefore, flushesBack, keptBack, orderedBack⟩
      refine ⟨front ++ back, after, makes.trans makesBack, .sent flushes flushesBack, keptBack, ?_⟩
      rw [orderedBack _ (Or.inl rfl), Ledger.inOrder_take_iff,
        ordered ended.now (Or.inr ⟨rfl, notBefore⟩), List.forall_mem_append, and_assoc]
  | closed answered =>
      rcases orders_flush keeps key line with ⟨made, after, makes, _, flushes, kept, ordered⟩
      rcases Timeline.makes_ask (.closeProducer (producer.flush line).2.1.topic) (fun _ _ => rfl)
        (producer.flush line).2.2 with ⟨closing, asks, quiet⟩
      refine ⟨made ++ closing, after, makes.trans asks, .flushed rfl (flushes.append_quiet quiet),
        ⟨kept.topic_eq, kept.connection_eq, kept.held_eq⟩, ?_⟩
      have notBefore := Timeline.now_le_ask (.closeProducer (producer.flush line).2.1.topic)
        (producer.flush line).2.2
      have noMore : ∀ exchange ∈ closing, ∀ moment, exchange.InTurn key moment := by
        intro exchange present moment
        exact Ledger.inTurn_of_not_delivery (quiet exchange present)
      rw [ordered _ (Or.inr ⟨answered, notBefore⟩), List.forall_mem_append]
      constructor
      · rintro ⟨inOrder, inTurn⟩
        exact ⟨inOrder, inTurn, fun exchange present => noMore exchange present _⟩
      · rintro ⟨inOrder, inTurn, _⟩
        exact ⟨inOrder, inTurn⟩

end Producer

namespace StreamProducer

variable {Log : Type} [Transport Log]

/-- Every report that has come when its call ends acknowledges the records under a key in turn. -/
def InTurn (key : ByteArray) (producer : StreamProducer) : List (Call × Timeline Log) → Prop
  | [] => True
  | (call, line) :: steps =>
    let (_, changed, ended) := producer.perform call line
    (∀ exchange ∈ line.since ended, exchange.InTurn key ended.now) ∧ changed.InTurn key steps

variable {topic : String} {connection : Connection} {producer : StreamProducer} {ledger : Ledger}

theorem inOrder_performAll_iff (keeps : producer.core.Keeps topic connection ledger)
    (steps : List (Call × Timeline Log)) (key : ByteArray) :
    ∃ after, ledger.FollowsAll topic connection.maxBlock (producer.performAll steps).2 after ∧
      (producer.performAll steps).1.core.Keeps topic connection after ∧
      (after.InOrder key ↔ ledger.InOrder key ∧ producer.InTurn key steps) := by
  induction steps generalizing producer ledger with
  | nil => exact ⟨ledger, .done ledger, keeps, by simp [InTurn]⟩
  | cons step steps hypothesis =>
      rcases step with ⟨call, line⟩
      rcases Producer.inOrder_course_iff keeps (course_perform call producer line) key with
        ⟨made, between, makes, follows, kept, ordered⟩
      rcases hypothesis kept with ⟨after, followsRest, keptRest, orderedRest⟩
      rw [← makes.since_eq] at follows ordered
      refine ⟨after, .called follows followsRest, keptRest, ?_⟩
      rw [orderedRest, ordered, InTurn, and_assoc]

/-- After any calls the records under a key are acknowledged in the order in which they were sent, and
none before an earlier one, exactly if every report that has come when its call ended acknowledged
those that it was about in turn. -/
theorem inOrder_iff_inTurn (topic : String) (connection : Connection)
    (routing : Option (Partitioning × Nat)) (steps : List (Call × Timeline Log))
    (key : ByteArray) :
    ∃ ledger : Ledger,
      Ledger.empty.FollowsAll topic connection.maxBlock
        ((create topic connection routing).performAll steps).2 ledger ∧
      ledger.taken =
        (((create topic connection routing).performAll steps).2.map Episode.accepted).flatten ∧
      ((create topic connection routing).performAll steps).1.core.buffer.toList =
        ledger.outstanding ∧
      (ledger.InOrder key ↔ (create topic connection routing).InTurn key steps) := by
  rcases inOrder_performAll_iff (create_keeps topic connection routing) steps key with
    ⟨ledger, follows, kept, ordered⟩
  refine ⟨ledger, follows, ?_, kept.held_eq, ?_⟩
  · rw [follows.taken_eq]
    rfl
  · rw [ordered]
    exact and_iff_right (List.prefix_refl _)

/-- Two records are sent under one key and delivered once. Of each delivery the log turns the first
record down, for a passing reason, and stores the second. -/
def overtaking : List (Call × Timeline Script) :=
  let skipping : Script :=
    { partitionCount := [], join := [], openProducer := [], openProbe := [], poll := []
      position := [], committed := [], commit := [], offsets := [], assigned := []
      deliver := [.report 0 [.error (.unavailable (.reported "busy")), .ok ()]] }
  [(.send ⟨#[107]⟩ [⟨#[97]⟩, ⟨#[98]⟩], .start skipping), (.flush, .start skipping)]

/-- The later of two records under one key is acknowledged and the earlier one is not, although every
report had one outcome for each record. -/
theorem held_back_after_overtaking :
    let run := (create "t" { Connection.standard with retries := 0 }
      (some (.fingerprint, 1))).performAll overtaking
    let earlier : Record := ⟨some 0, some ⟨#[107]⟩, ⟨#[97]⟩⟩
    let later : Record := ⟨some 0, some ⟨#[107]⟩, ⟨#[98]⟩⟩
    (∀ episode ∈ run.2, ∀ exchange ∈ episode.made, exchange.answersEach = true) ∧
      (run.2.map Episode.accepted).flatten = [earlier, later] ∧
      run.1.core.buffer.toList = [earlier] := by
  decide +kernel

end StreamProducer

end FrontierBus
