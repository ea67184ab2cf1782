import FrontierBus.Proofs.Timeline.Chronicle

/-!
# Requests of one's own

Of the requests that the past records, those of the watches are no one else's. Without them a stretch
of time is told by the requests that someone has made in it.
-/

namespace FrontierBus

/-- The request, unless it is the look of a watch. -/
def Exchange.asked? (exchange : Exchange) : Option Request :=
  match exchange.request with
  | .offsets .. => none
  | request => some request

/-- A request is one's own, or it is a look. -/
theorem Exchange.asked?_cases (exchange : Exchange) :
    exchange.asked? = some exchange.request ∨
      exchange.asked? = none ∧ ∃ topic group count, exchange.request = .offsets topic group count := by
  rcases exchange with ⟨moment, request, reply⟩
  cases request with
  | offsets topic group count => exact .inr ⟨rfl, topic, group, count, rfl⟩
  | _ => exact .inl rfl

namespace Timeline

variable {Log : Type} [Transport Log] {before between after line : Timeline Log}
  {front back requests : List Request} {occurred : List (Occurrence Log)}

/-- The requests made from one timeline to a later one, the first one first, without the looks of
watches. -/
def asked (before after : Timeline Log) : List Request :=
  (before.since after).filterMap Exchange.asked?

/-- From one timeline to a later one just these requests are made, in this order, and watches look. -/
def Asks (before : Timeline Log) (requests : List Request) (after : Timeline Log) : Prop :=
  ∃ made, before.Makes made after ∧ made.filterMap Exchange.asked? = requests

theorem Asks.asked_eq (asks : before.Asks requests after) : before.asked after = requests := by
  rcases asks with ⟨made, makes, isAsked⟩
  rw [asked, makes.since_eq]
  exact isAsked

theorem Asks.nothing (line : Timeline Log) : line.Asks [] line :=
  ⟨[], .nothing line, rfl⟩

theorem Asks.trans (first : before.Asks front between) (second : between.Asks back after) :
    before.Asks (front ++ back) after := by
  rcases first with ⟨made, makes, rfl⟩
  rcases second with ⟨more, makesMore, rfl⟩
  exact ⟨made ++ more, makes.trans makesMore, List.filterMap_append⟩

/-- Whoever waits asks nothing. -/
theorem asks_of_aside (comes : before.Comes occurred after) (aside : Aside occurred) :
    before.Asks [] after := by
  refine ⟨_, comes.makes, ?_⟩
  rw [List.filterMap_eq_nil_iff]
  intro exchange made
  have isAside := aside _ (Occurrence.mem_exchanges.mp made)
  rcases exchange with ⟨moment, request, reply⟩
  cases request with
  | offsets => rfl
  | _ => simp [Occurrence.isAside] at isAside

theorem asks_pauseUntil (moment : Nat) (line : Timeline Log) :
    line.Asks [] (line.pauseUntil moment) := by
  rcases comes_pauseUntil moment line with ⟨occurred, comes, aside⟩
  exact asks_of_aside comes aside

theorem Asks.wait (asks : before.Asks requests after) (moment : Nat) :
    before.Asks requests (after.pauseUntil moment) := by
  have waits := asks.trans (asks_pauseUntil moment after)
  rwa [List.append_nil] at waits

theorem asks_serve (request : Request) (line : Timeline Log)
    (own : ∀ (moment : Nat) (reply : Reply request),
      Exchange.asked? ⟨moment, request, reply⟩ = some request) :
    line.Asks [request] (line.serve request).2 := by
  refine ⟨_, makes_serve request line, ?_⟩
  rw [List.filterMap_cons, own]
  rfl

theorem asks_ask (request : Request) (line : Timeline Log)
    (own : ∀ (moment : Nat) (reply : Reply request),
      Exchange.asked? ⟨moment, request, reply⟩ = some request) :
    line.Asks [request] (line.ask request).2 :=
  (asks_serve request line own).wait _

end Timeline

end FrontierBus
