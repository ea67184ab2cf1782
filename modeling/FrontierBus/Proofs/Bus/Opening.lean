import FrontierBus.Proofs.Broker.Deliveries
import FrontierBus.Proofs.Broker.Occurrences
import FrontierBus.Proofs.Bus.Layout
import FrontierBus.Proofs.Producer.Calls

/-!
# Opening on a broker

A bus that opens a producer has asked for the layout of its topic. So the topic is there, with the
number of partitions that the producer routes by, and it stays.
-/

namespace FrontierBus

/-- An operation that is tried again keeps what each attempt and each wait keeps, and an answer of it
is an answer of an attempt. -/
theorem Backoff.attempts_spec {World : Type} [Clock World] {Answer : Type} (policy : Backoff)
    (Inv : World → Prop) (Says : Answer → World → Prop)
    {operation : World → Except Fault Answer × World}
    (tries : ∀ world, Inv world → Inv (operation world).2 ∧
      ∀ answer, (operation world).1 = .ok answer → Says answer (operation world).2)
    (waits : ∀ moment world, Inv world → Inv (Clock.pauseUntil moment world))
    (spare attempt : Nat) (world : World) (holds : Inv world) :
    Inv (policy.attempts operation spare attempt world).2 ∧
      ∀ answer, (policy.attempts operation spare attempt world).1 = .ok answer →
        Says answer (policy.attempts operation spare attempt world).2 := by
  rcases policy.attempts_eq_last (fun before after => Inv before → Inv after)
    (fun _ => id) (fun _ _ _ first second => second ∘ first)
    (fun world _ _ holds => (tries world holds).1) waits spare attempt world with
    ⟨last, leads, same⟩
  rw [same]
  exact tries last (leads holds)

namespace Broker

variable {line : Timeline Broker} {topic : String} {count : Nat}

/-- Whoever is told the number of partitions of a topic can rely on it. -/
theorem offers_of_partitionCount (reached : Reached line.log)
    (answered : (line.ask (.partitionCount topic)).1 = .ok count) :
    (line.ask (.partitionCount topic)).2.log.Offers topic count := by
  apply (Offers.lasting topic count).ask
  apply Offers.step
  have answer : (line.log.partitionCount topic).1 = .ok count := answered
  rcases reached with ⟨actions, isRun⟩
  simp only [Broker.partitionCount] at answer
  rcases reachingTopic_cases topic _ line.log with ⟨found, exist, served⟩ | ⟨fault, left, refused⟩
  · rw [served] at answer
    cases answer
    have positive : 0 < found.count := by
      rw [isRun] at exist
      exact count_pos_run actions exist
    exact ⟨positive, found, exist, rfl⟩
  · rw [refused] at answer
    cases answer

end Broker

namespace Bus

open Broker

variable {bus : Bus} {stream : Stream} {line : Timeline Broker}

/-- What an operation that opens something says is said by its last attempt. -/
theorem insist_spec (bus : Bus) {Answer : Type} {Inv : Broker → Prop}
    (Says : Answer → Broker → Prop)
    (operation : Timeline Broker → Except Fault Answer × Timeline Broker) (lasting : Lasting Inv)
    (tries : ∀ line, Inv line.log → Inv (operation line).2.log ∧
      ∀ answer, (operation line).1 = .ok answer → Says answer (operation line).2.log)
    (holds : Inv line.log) :
    Inv (bus.insist operation line).2.log ∧
      ∀ answer, (bus.insist operation line).1 = .ok answer →
        Says answer (bus.insist operation line).2.log := by
  have waits : ∀ (moment : Nat) (line : Timeline Broker), Inv line.log →
      Inv (Clock.pauseUntil moment line).log := by
    intro moment line holds
    exact lasting.pauseUntil holds moment
  exact bus.settings.connectRetry.attempts_spec (fun line => Inv line.log)
    (fun answer line => Says answer line.log) tries waits _ 1 line holds

/-- A layout that is found to be in order is that of the topic. -/
theorem offers_of_layout (reached : Reached line.log) {count : Nat}
    (answered : (bus.partitionCount stream line).1 = .ok count) :
    (bus.partitionCount stream line).2.log.Offers (stream.topic bus.settings) count := by
  have asks := (bus.insist_spec
    (fun count broker => broker.Offers (stream.topic bus.settings) count)
    (Timeline.ask (.partitionCount (stream.topic bus.settings))) Reached.lasting
    (fun line reached => ⟨Reached.lasting.ask (Reached.lasting _ _ reached),
      fun count answered => offers_of_partitionCount reached answered⟩) reached).2
  simp only [partitionCount] at answered ⊢
  generalize bus.insist (Timeline.ask (.partitionCount (stream.topic bus.settings))) line = asked
    at asks answered ⊢
  rcases asked with ⟨answer, later⟩
  cases answer with
  | error fault => cases answered
  | ok actual =>
      have offers := asks actual rfl
      cases wanted : stream.partitions bus.settings with
      | none =>
          simp only [wanted] at answered ⊢
          cases answered
          exact offers
      | some expected =>
          simp only [wanted] at answered ⊢
          split at answered
          · rename_i same
            cases answered
            rw [if_pos same]
            exact offers
          · cases answered

/-- A producer that a bus opens holds nothing back yet, and routes among the partitions that its topic
has. -/
theorem offers_of_producer {producer : StreamProducer} (reached : Reached line.log)
    (opens : (bus.producer stream line).1 = .ok producer) :
    ∃ count, (bus.producer stream line).2.log.Offers (stream.topic bus.settings) count ∧
      producer = .create (stream.topic bus.settings) bus.settings.connection
        ((stream.partitioning bus.settings).map fun partitioning => (partitioning, count)) := by
  have layout : ∀ count, (bus.partitionCount stream line).1 = .ok count →
      (bus.partitionCount stream line).2.log.Offers (stream.topic bus.settings) count :=
    fun count => offers_of_layout reached
  simp only [Bus.producer, withLayout] at opens ⊢
  generalize bus.partitionCount stream line = checked at layout opens ⊢
  rcases checked with ⟨answer, later⟩
  cases answer with
  | error fault => cases opens
  | ok count =>
      have offers := layout count rfl
      have asks := (bus.insist_spec (fun _ broker => broker.Offers (stream.topic bus.settings) count)
        (Timeline.ask (.openProducer (stream.topic bus.settings)
          bus.settings.connection)) (Offers.lasting _ count)
        (fun line offers => ⟨(Offers.lasting _ count).ask (offers.step _),
          fun _ _ => (Offers.lasting _ count).ask (offers.step _)⟩) offers).1
      refine ⟨count, ?_⟩
      simp only at opens ⊢
      generalize bus.insist (Timeline.ask (.openProducer (stream.topic bus.settings)
        bus.settings.connection)) later = asked at asks opens ⊢
      rcases asked with ⟨answer, opened⟩
      cases answer with
      | error fault => cases opens
      | ok _ =>
          cases routing : stream.partitioning bus.settings with
          | none =>
              simp only [routing] at opens ⊢
              cases opens
              exact ⟨asks, rfl⟩
          | some partitioning =>
              simp only [routing] at opens ⊢
              cases opens
              exact ⟨asks, rfl⟩

end Bus

end FrontierBus
