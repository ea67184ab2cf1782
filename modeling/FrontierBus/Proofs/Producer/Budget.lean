import FrontierBus.Proofs.Producer.Draining
import FrontierBus.Script

/-!
# The budget of a producer

A producer delivers what it holds back before it takes records that would not fit beside it. What is
held back beyond the budget therefore stems from a single send: one whose own records, which nobody
adds up against the budget, are more than it allows.
-/

namespace FrontierBus

theorem Record.sizeOfAll_le_of_sublist {fewer records : List Record}
    (among : fewer.Sublist records) : sizeOfAll fewer ≤ sizeOfAll records := by
  induction among with
  | slnil => exact Nat.le_refl _
  | cons record _ hypothesis =>
      simp only [sizeOfAll]
      omega
  | cons_cons record _ hypothesis =>
      simp only [sizeOfAll]
      omega

theorem Report.unacknowledged_sublist (records : List Record)
    (outcomes : List (Except Fault Unit)) :
    (unacknowledged records outcomes).Sublist records := by
  fun_induction unacknowledged records outcomes with
  | case1 => exact List.Sublist.refl _
  | case2 => exact List.Sublist.refl _
  | case3 record records outcome outcomes hypothesis => exact hypothesis.cons record
  | case4 record records fault outcomes hypothesis => exact hypothesis.cons_cons record

namespace Producer

variable {Log : Type} [Transport Log] {producer changed last : Producer} {line : Timeline Log}
  {records : List Record}

/-- A producer holds back part of what another one does, with the same limits. -/
structure Sheds (producer changed : Producer) : Prop where
  connection_eq : changed.connection = producer.connection
  held_sublist : changed.buffer.toList.Sublist producer.buffer.toList

theorem Sheds.refl (producer : Producer) : producer.Sheds producer :=
  ⟨rfl, List.Sublist.refl _⟩

theorem Sheds.trans (first : producer.Sheds changed) (second : changed.Sheds last) :
    producer.Sheds last :=
  ⟨second.connection_eq.trans first.connection_eq, second.held_sublist.trans first.held_sublist⟩

theorem settle_sheds (producer : Producer) (report : Report) :
    producer.Sheds (producer.settle report).2 := by
  refine ⟨rfl, ?_⟩
  have kept := Report.unacknowledged_sublist producer.buffer.toList report.outcomes
  simpa [settle, Buffer.ofRecords, Buffer.toList] using kept

theorem deliverBy_sheds (deadline : Nat) (producer : Producer) (line : Timeline Log) :
    producer.Sheds (producer.deliverBy deadline line).2.1 := by
  simp only [deliverBy]
  split
  · exact .refl producer
  · rename_i report _
    have settled := settle_sheds producer report
    split
    · split
      · rename_i isChanged
        rwa [isChanged] at settled
      · rename_i isChanged
        rwa [isChanged] at settled
    · exact .refl producer

theorem deliveries_sheds (deadline spare attempt : Nat) (producer : Producer)
    (line : Timeline Log) :
    producer.Sheds (producer.deliveries deadline spare attempt line).2.1 := by
  fun_induction deliveries deadline spare attempt producer line with
  | case5 attempt producer line fault changed later delivered _ spare next _ _ hypothesis =>
      have first := deliverBy_sheds deadline producer line
      rw [delivered] at first
      exact first.trans hypothesis
  | case1 spare attempt producer line changed later delivered
  | case2 spare attempt producer line changed later delivered
  | case3 attempt producer line fault changed later delivered
  | case4 attempt producer line fault changed later delivered
  | case6 spare attempt producer line fault changed later delivered =>
      have first := deliverBy_sheds deadline producer line
      rw [delivered] at first
      exact first

theorem flush_sheds (producer : Producer) (line : Timeline Log) :
    producer.Sheds (producer.flush line).2.1 := by
  simp only [flush]
  split
  · exact .refl producer
  · exact deliveries_sheds _ _ _ producer _

theorem close_sheds (producer : Producer) (line : Timeline Log) :
    producer.Sheds (producer.close line).2.1 := by
  have flushed := flush_sheds producer line
  simp only [close]
  split
  · exact .refl producer
  · split
    · rename_i result
      rwa [result] at flushed
    · rename_i result
      rw [result] at flushed
      exact ⟨flushed.connection_eq, flushed.held_sublist⟩

theorem accept_sheds (records : List Record) (producer : Producer) (line : Timeline Log) :
    (producer.hold records).Sheds (producer.accept records line).2.1 := by
  simp only [accept]
  split
  · exact flush_sheds _ line
  · exact .refl _

theorem Sheds.bytes_le (sheds : producer.Sheds changed) :
    changed.buffer.bytes ≤ producer.buffer.bytes := by
  rw [changed.buffer.bytes_eq, producer.buffer.bytes_eq]
  exact Record.sizeOfAll_le_of_sublist sheds.held_sublist

/-- A send that fails takes nothing. After one that does not, what is held back keeps to the budget
or is all its own, for a producer that holds nothing back takes whatever it is given. -/
theorem held_of_send (records : List Record) (producer : Producer) (line : Timeline Log) :
    ((producer.send records line).1.isOk = false ∧
        producer.Sheds (producer.send records line).2.1) ∨
      (producer.send records line).1 = .ok () ∧
        (producer.send records line).2.1.connection = producer.connection ∧
        ((producer.send records line).2.1.buffer.bytes ≤ producer.connection.bufferMemory ∨
          (producer.send records line).2.1.buffer.toList.Sublist records) := by
  have takesAll : ∀ (ready : Producer) (later : Timeline Log),
      ready.connection = producer.connection → ready.buffer.toList = [] →
      (ready.accept records later).1 = .ok () ∧
        (ready.accept records later).2.1.connection = producer.connection ∧
        (ready.accept records later).2.1.buffer.toList.Sublist records := by
    intro ready later sameConnection nothing
    have sheds := accept_sheds records ready later
    have held := sheds.held_sublist
    rw [toList_hold, nothing, List.nil_append] at held
    exact ⟨(accept_tries records ready later).1, sheds.connection_eq.trans sameConnection, held⟩
  simp only [send]
  split
  · exact Or.inl ⟨rfl, .refl producer⟩
  · split
    · exact Or.inl ⟨rfl, .refl producer⟩
    · split
      · have flushed := flush_sheds producer line
        have emptied : (producer.flush line).1 = .ok () →
            (producer.flush line).2.1.buffer.toList = [] := toList_of_flush_ok
        split
        · rename_i result
          rw [result] at flushed
          exact Or.inl ⟨rfl, flushed⟩
        · rename_i result
          rw [result] at flushed emptied
          rcases takesAll _ _ flushed.connection_eq (emptied rfl) with ⟨answered, same, own⟩
          exact Or.inr ⟨answered, same, Or.inr own⟩
      · rename_i noFlush
        by_cases nothing : producer.buffer.toList = []
        · rcases takesAll producer line rfl nothing with ⟨answered, same, own⟩
          exact Or.inr ⟨answered, same, Or.inr own⟩
        · have notEmpty : producer.buffer.isEmpty = false := by
            simpa [Buffer.isEmpty, Buffer.toList] using nothing
          have room : producer.buffer.bytes + Record.sizeOfAll records ≤
              producer.connection.bufferMemory := by
            simpa [notEmpty] using noFlush
          have sheds := accept_sheds records producer line
          exact Or.inr ⟨(accept_tries records producer line).1, sheds.connection_eq,
            Or.inl (Nat.le_trans sheds.bytes_le room)⟩

/-- All that is held back was sent by one call, and the calls since have taken nothing. -/
def FromOne (producer : Producer) (episodes : List Episode) : Prop :=
  ∃ (front : List Episode) (own : Episode) (back : List Episode),
    episodes = front ++ own :: back ∧ (∀ later ∈ back, later.accepted = []) ∧
      producer.buffer.toList.Sublist own.accepted

/-- After the calls so far, what is held back keeps to a budget or is from one of them alone. -/
structure Within (connection : Connection) (episodes : List Episode) (producer : Producer) :
    Prop where
  connection_eq : producer.connection = connection
  budget : producer.buffer.bytes ≤ connection.bufferMemory ∨ producer.FromOne episodes

variable {connection : Connection} {episodes : List Episode} {episode : Episode}

theorem Within.shed (within : producer.Within connection episodes)
    (nothingTaken : episode.accepted = []) (sheds : producer.Sheds changed) :
    changed.Within connection (episodes ++ [episode]) where
  connection_eq := sheds.connection_eq.trans within.connection_eq
  budget := by
    rcases within.budget with keeps | ⟨front, own, back, rfl, quiet, held⟩
    · exact Or.inl (Nat.le_trans sheds.bytes_le keeps)
    · refine Or.inr ⟨front, own, back ++ [episode], by simp, ?_, sheds.held_sublist.trans held⟩
      intro later present
      rcases List.mem_append.mp present with among | last
      · exact quiet later among
      · rw [List.mem_singleton.mp last]
        exact nothingTaken

theorem Within.send (within : producer.Within connection episodes) (call : Call)
    (records : List Record) (made : List Exchange) (line : Timeline Log) :
    (producer.send records line).2.1.Within connection
      (episodes ++ [⟨call, records, (producer.send records line).1, made⟩]) := by
  rcases held_of_send records producer line with ⟨fails, sheds⟩ | ⟨answered, same, held⟩
  · exact within.shed (by simp [Episode.accepted, fails]) sheds
  · refine ⟨same.trans within.connection_eq, ?_⟩
    rw [← within.connection_eq]
    rcases held with keeps | own
    · exact Or.inl keeps
    · refine Or.inr ⟨episodes, _, [], rfl, by simp, ?_⟩
      simpa [Episode.accepted, answered, Except.isOk, Except.toBool] using own

end Producer

namespace StreamProducer

variable {Log : Type} [Transport Log] {producer : StreamProducer} {connection : Connection}
  {episodes : List Episode}

theorem within_perform (within : producer.core.Within connection episodes) (call : Call)
    (made : List Exchange) (line : Timeline Log) :
    (producer.perform call line).2.1.core.Within connection
      (episodes ++ [⟨call, producer.records call, (producer.perform call line).1, made⟩]) := by
  have nothingSent : ∀ (other : Call) (answer : Except Fault Unit),
      producer.records other = [] →
      Episode.accepted ⟨other, producer.records other, answer, made⟩ = [] := by
    intro other answer nothing
    simp [Episode.accepted, nothing]
  cases call with
  | send key messages =>
      cases producer with
      | plain core => exact within.send (.send key messages) _ made line
      | keyed routing => exact within.send (.send key messages) _ made line
  | flush =>
      have sheds := Producer.flush_sheds producer.core line
      cases producer with
      | plain core => exact within.shed (nothingSent .flush _ rfl) sheds
      | keyed routing => exact within.shed (nothingSent .flush _ rfl) sheds
  | close =>
      have sheds := Producer.close_sheds producer.core line
      cases producer with
      | plain core => exact within.shed (nothingSent .close _ rfl) sheds
      | keyed routing => exact within.shed (nothingSent .close _ rfl) sheds

theorem within_performAll (within : producer.core.Within connection episodes)
    (steps : List (Call × Timeline Log)) :
    (producer.performAll steps).1.core.Within connection
      (episodes ++ (producer.performAll steps).2) := by
  induction steps generalizing producer episodes with
  | nil => simpa [performAll] using within
  | cons step steps hypothesis =>
      rcases step with ⟨call, line⟩
      have first := within_perform within call (line.since (producer.perform call line).2.2) line
      have rest := hypothesis first
      rw [List.append_assoc] at rest
      exact rest

theorem within_create (topic : String) (connection : Connection)
    (routing : Option (Partitioning × Nat)) :
    (create topic connection routing).core.Within connection [] := by
  cases routing with
  | none => exact ⟨rfl, Or.inl (Nat.zero_le _)⟩
  | some routing => exact ⟨rfl, Or.inl (Nat.zero_le _)⟩

/-- After any calls a producer keeps to its budget, unless all that it holds back was taken by one
call to send, the latest that took any, whose own records go beyond the budget. -/
theorem beyond_budget_of_one_send (topic : String) (connection : Connection)
    (routing : Option (Partitioning × Nat)) (steps : List (Call × Timeline Log)) :
    let run := (create topic connection routing).performAll steps
    run.1.core.buffer.bytes ≤ connection.bufferMemory ∨
      ∃ (front : List Episode) (own : Episode) (back : List Episode),
        run.2 = front ++ own :: back ∧ (∀ later ∈ back, later.accepted = []) ∧
          connection.bufferMemory < Record.sizeOfAll own.accepted ∧
          run.1.core.buffer.toList.Sublist own.accepted := by
  intro run
  by_cases keeps : run.1.core.buffer.bytes ≤ connection.bufferMemory
  · exact Or.inl keeps
  · rcases (within_performAll (within_create topic connection routing) steps).budget with
      within | ⟨front, own, back, made, quiet, held⟩
    · exact absurd within keeps
    · have notMore : run.1.core.buffer.bytes ≤ Record.sizeOfAll own.accepted := by
        rw [Buffer.bytes_eq]
        exact Record.sizeOfAll_le_of_sublist held
      exact Or.inr ⟨front, own, back, made, quiet,
        Nat.lt_of_lt_of_le (Nat.lt_of_not_le keeps) notMore, held⟩

/-- Two records of two octets each are sent together to a log that does not answer for now. -/
def overfull : List (Call × Timeline Script) :=
  let busy : Script :=
    { partitionCount := [], join := [], openProducer := [], openProbe := [], poll := []
      position := [], committed := [], commit := [], offsets := [], assigned := []
      deliver := [.uniform 0 (.error (.unavailable (.reported "busy")))] }
  [(.send .empty [⟨#[97, 97]⟩, ⟨#[98, 98]⟩], .start busy)]

/-- A producer with a budget of three octets, which passes the check of connections, takes four and
holds them back. -/
theorem beyond_budget_after_overfull :
    let connection : Connection :=
      { Connection.standard with batchSize := 3, bufferMemory := 3, retries := 0 }
    let run := (create "t" connection none).performAll overfull
    connection.check (fun _ => true) = .ok () ∧
      run.2.map Episode.answer = [.ok ()] ∧
      ¬ run.1.core.buffer.bytes ≤ connection.bufferMemory := by
  decide +kernel

end StreamProducer

end FrontierBus
