import FrontierBus.Proofs.Timeline.Past

/-!
# The chronicle of a timeline

Between two points of a timeline requests are made and events happen, in one order, and nothing else
touches the log. The past records the requests and not where the events fall among them; the
chronicle puts both into the order in which the log has seen them.
-/

namespace FrontierBus

/-- Something that comes to pass on a timeline. -/
inductive Occurrence (Log : Type) [Transport Log] where
  | request (exchange : Exchange)
  | event (event : Transport.Event Log)

namespace Occurrence

variable {Log : Type} [Transport Log]

/-- The request that is made, if it is one. -/
def exchange? : Occurrence Log → Option Exchange
  | request exchange => some exchange
  | event _ => none

/-- The event that happens, if it is one. -/
def event? : Occurrence Log → Option (Transport.Event Log)
  | request _ => none
  | event happening => some happening

/-- The log after it. -/
def befall (log : Log) : Occurrence Log → Log
  | request exchange => (Transport.serve exchange.request log).2
  | event happening => (Transport.happen happening log).2

/-- A request is answered as the log answers it. -/
def Fits (log : Log) : Occurrence Log → Prop
  | request exchange => exchange.reply = (Transport.serve exchange.request log).1
  | event _ => True

/-- Every request is answered as the log answers it that has seen all that comes before. -/
def AllFit (log : Log) : List (Occurrence Log) → Prop
  | [] => True
  | occurrence :: occurred => occurrence.Fits log ∧ AllFit (occurrence.befall log) occurred

/-- Whoever waits has no part in it: an event, or the look of a watch. -/
def isAside : Occurrence Log → Bool
  | request exchange => match exchange.request with
    | .offsets .. => true
    | _ => false
  | event _ => true

theorem allFit_append {log : Log} {front back : List (Occurrence Log)} :
    AllFit log (front ++ back) ↔ AllFit log front ∧ AllFit (front.foldl befall log) back := by
  induction front generalizing log with
  | nil => simp [AllFit]
  | cons occurrence front hypothesis => simp [AllFit, hypothesis, and_assoc]

theorem exchange?_eq_some {occurrence : Occurrence Log} {exchange : Exchange} :
    occurrence.exchange? = some exchange ↔ occurrence = .request exchange := by
  cases occurrence with
  | request made => simp [exchange?]
  | event _ => simp [exchange?]

theorem mem_exchanges {exchange : Exchange} {occurred : List (Occurrence Log)} :
    exchange ∈ occurred.filterMap exchange? ↔ .request exchange ∈ occurred := by
  simp [exchange?_eq_some]

end Occurrence

namespace Timeline

variable {Log : Type} [Transport Log] {before between after line : Timeline Log}
  {front back occurred : List (Occurrence Log)}

/-- These things come to pass from one timeline to a later one, the first one first. In between only
the clock and the watches may change. -/
inductive Comes : Timeline Log → List (Occurrence Log) → Timeline Log → Prop where
  | still {before after : Timeline Log} (log_eq : after.log = before.log)
      (past_eq : after.past = before.past) (upcoming_eq : after.upcoming = before.upcoming)
      (happened_eq : after.happened = before.happened) : Comes before [] after
  | asked (request : Request) (line : Timeline Log) :
      Comes line [.request ⟨line.now, request, (line.serve request).1⟩] (line.serve request).2
  | befell {line : Timeline Log} {moment : Nat} {event : Transport.Event Log}
      {upcoming : List (Nat × Transport.Event Log)}
      (ahead : line.upcoming = (moment, event) :: upcoming) :
      Comes line [.event event] line.takeEvent
  | append {before between after : Timeline Log} {front back : List (Occurrence Log)}
      (first : Comes before front between) (second : Comes between back after) :
      Comes before (front ++ back) after

/-- What comes to pass while one waits. -/
def Aside (occurred : List (Occurrence Log)) : Prop :=
  ∀ occurrence ∈ occurred, occurrence.isAside = true

theorem Aside.nothing : Aside ([] : List (Occurrence Log)) := by
  intro occurrence present
  cases present

theorem Aside.append (frontAside : Aside front) (backAside : Aside back) :
    Aside (front ++ back) := by
  intro occurrence present
  rcases List.mem_append.mp present with inFront | inBack
  · exact frontAside occurrence inFront
  · exact backAside occurrence inBack

/-- Only requests can be more than asides, so asides are told by the requests among them. -/
theorem Aside.of_exchanges {others : List (Occurrence Log)} (aside : Aside others)
    (same : occurred.filterMap Occurrence.exchange? = others.filterMap Occurrence.exchange?) :
    Aside occurred := by
  intro occurrence present
  cases occurrence with
  | event _ => rfl
  | request exchange =>
      have made := Occurrence.mem_exchanges.mpr present
      rw [same] at made
      exact aside _ (Occurrence.mem_exchanges.mp made)

/-- Whoever waits delivers nothing. -/
theorem Aside.quiet (aside : Aside occurred) :
    Quiet (occurred.filterMap Occurrence.exchange?) := by
  intro exchange made
  have isAside := aside _ (Occurrence.mem_exchanges.mp made)
  rcases exchange with ⟨moment, request, reply⟩
  cases request with
  | offsets => rfl
  | _ => simp [Occurrence.isAside] at isAside

namespace Comes

theorem nothing (line : Timeline Log) : line.Comes [] line :=
  .still rfl rfl rfl rfl

theorem reckoned (moment : Nat) (line : Timeline Log) : line.Comes [] (line.reckon moment) :=
  .still rfl rfl rfl rfl

theorem cons {occurrence : Occurrence Log} (first : before.Comes [occurrence] between)
    (second : between.Comes back after) : before.Comes (occurrence :: back) after := by
  have both := first.append second
  rwa [List.singleton_append] at both

theorem log_eq (comes : before.Comes occurred after) :
    after.log = occurred.foldl Occurrence.befall before.log := by
  induction comes with
  | still log_eq => exact log_eq
  | asked => rfl
  | befell ahead => simp [takeEvent, ahead, Occurrence.befall]
  | append _ _ first second => rw [List.foldl_append, ← first, second]

theorem allFit (comes : before.Comes occurred after) : Occurrence.AllFit before.log occurred := by
  induction comes with
  | still => exact trivial
  | asked => exact ⟨rfl, trivial⟩
  | befell => exact ⟨trivial, trivial⟩
  | append firstComes _ first second =>
      rw [firstComes.log_eq] at second
      exact Occurrence.allFit_append.mpr ⟨first, second⟩

/-- The requests of the chronicle are those that the past has recorded. -/
theorem makes (comes : before.Comes occurred after) :
    before.Makes (occurred.filterMap Occurrence.exchange?) after := by
  induction comes with
  | still _ past_eq => exact past_eq
  | asked request line => exact makes_serve request line
  | @befell line _ _ _ ahead =>
      have quiet : line.takeEvent.past = line.past := by simp [takeEvent, ahead]
      exact quiet
  | append _ _ first second =>
      rw [List.filterMap_append]
      exact first.trans second

/-- The requests do not depend on how the events are put between them. -/
theorem exchanges_eq {others : List (Occurrence Log)} (comes : before.Comes occurred after)
    (otherwise : before.Comes others after) :
    occurred.filterMap Occurrence.exchange? = others.filterMap Occurrence.exchange? := by
  rw [← comes.makes.since_eq, otherwise.makes.since_eq]

/-- The events of the chronicle are those that lay ahead and do so no more. -/
theorem upcoming_eq (comes : before.Comes occurred after) :
    before.upcoming.map Prod.snd =
      occurred.filterMap Occurrence.event? ++ after.upcoming.map Prod.snd := by
  induction comes with
  | still _ _ upcoming_eq => simp [upcoming_eq]
  | asked request line => rfl
  | befell ahead => simp [takeEvent, ahead, Occurrence.event?]
  | append _ _ first second => rw [first, second, List.filterMap_append, List.append_assoc]

theorem mem_upcoming (comes : before.Comes occurred after) {event : Transport.Event Log}
    (happens : .event event ∈ occurred) : event ∈ before.upcoming.map Prod.snd := by
  rw [comes.upcoming_eq]
  apply List.mem_append_left
  exact List.mem_filterMap.mpr ⟨.event event, happens, rfl⟩

end Comes

/-- A turn is the look of a watch or an event. -/
theorem comes_take (turn : Turn) (line : Timeline Log) :
    ∃ occurred, line.Comes occurred (line.take turn) ∧ Aside occurred := by
  cases turn with
  | event =>
      change ∃ occurred, line.Comes occurred line.takeEvent ∧ Aside occurred
      cases ahead : line.upcoming with
      | nil =>
          have same : line.takeEvent = line := by simp [takeEvent, ahead]
          rw [same]
          exact ⟨[], .nothing line, .nothing⟩
      | cons entry upcoming =>
          refine ⟨_, .befell ahead, ?_⟩
          intro occurrence present
          rw [List.mem_singleton.mp present]
          rfl
  | look index =>
      change ∃ occurred, line.Comes occurred (line.takeLook index) ∧ Aside occurred
      cases isThere : line.watches[index]? with
      | none =>
          have same : line.takeLook index = line := by simp [takeLook, isThere]
          rw [same]
          exact ⟨[], .nothing line, .nothing⟩
      | some watch =>
          have moved : line.Comes [] (line.moveTo watch.due) := .still rfl rfl rfl rfl
          have asks := Comes.asked watch.request (line.moveTo watch.due)
          have looked : ((line.moveTo watch.due).serve watch.request).2.Comes []
              (line.takeLook index) := by
            apply Comes.still
            all_goals simp [takeLook, isThere, look]
          have all := (moved.append asks).append looked
          refine ⟨_, all, ?_⟩
          intro occurrence present
          simp only [List.nil_append, List.append_nil, List.mem_singleton] at present
          rw [present]
          rfl

/-- While one waits, events happen and watches look. -/
theorem comes_pauseUntil (moment : Nat) (line : Timeline Log) :
    ∃ occurred, line.Comes occurred (line.pauseUntil moment) ∧ Aside occurred := by
  fun_induction pauseUntil moment line with
  | case1 line => exact ⟨[], .still rfl rfl rfl rfl, .nothing⟩
  | case2 line turn _ hypothesis =>
      rcases comes_take turn line with ⟨front, first, frontAside⟩
      rcases hypothesis with ⟨back, second, backAside⟩
      exact ⟨front ++ back, first.append second, frontAside.append backAside⟩

/-- So it is when turns are taken that are due. -/
theorem comes_takeDue (count : Nat) (line : Timeline Log) :
    ∃ occurred, line.Comes occurred (line.takeDue count) ∧ Aside occurred := by
  fun_induction takeDue count line with
  | case1 line => exact ⟨[], .nothing line, .nothing⟩
  | case2 _ line => exact ⟨[], .nothing line, .nothing⟩
  | case3 _ line turn _ hypothesis =>
      rcases comes_take turn line with ⟨front, first, frontAside⟩
      rcases hypothesis with ⟨back, second, backAside⟩
      exact ⟨front ++ back, first.append second, frontAside.append backAside⟩

theorem comes_gap (usual : Nat) (line : Timeline Log) :
    ∃ occurred, line.Comes occurred (line.gap usual) ∧ Aside occurred := by
  unfold gap
  split
  · exact comes_takeDue usual line
  · rename_i count gaps _
    have begins : line.Comes [] (line.plan gaps) := .still rfl rfl rfl rfl
    rcases comes_takeDue count (line.plan gaps) with ⟨occurred, comes, aside⟩
    exact ⟨occurred, begins.append comes, aside⟩

theorem comes_awaitArrival (seen moment : Nat) (line : Timeline Log) :
    ∃ occurred, line.Comes occurred (line.awaitArrival seen moment).2 ∧ Aside occurred := by
  fun_induction awaitArrival seen moment line with
  | case1 line => exact ⟨[], .still rfl rfl rfl rfl, .nothing⟩
  | case2 line _ turn _ hypothesis =>
      rcases comes_take turn line with ⟨front, first, frontAside⟩
      rcases hypothesis with ⟨back, second, backAside⟩
      exact ⟨front ++ back, first.append second, frontAside.append backAside⟩
  | case3 line => exact comes_gap _ line

/-- Whoever waits for an arrival has left a gap first. -/
theorem comes_gap_awaitArrival (seen moment : Nat) (line : Timeline Log) :
    ∃ occurred, line.Comes occurred ((line.gap 0).awaitArrival seen moment).2 ∧
      Aside occurred := by
  rcases comes_gap 0 line with ⟨front, first, frontAside⟩
  rcases comes_awaitArrival seen moment (line.gap 0) with ⟨back, second, backAside⟩
  exact ⟨front ++ back, first.append second, frontAside.append backAside⟩

/-- Waiting for an answer: the request is made first. -/
theorem comes_ask (request : Request) (line : Timeline Log) :
    ∃ occurred, line.Comes
        (.request ⟨line.now, request, (line.serve request).1⟩ :: occurred) (line.ask request).2 ∧
      Aside occurred := by
  rcases comes_pauseUntil ((line.serve request).2.now + (line.serve request).1.delay)
    (line.serve request).2 with ⟨occurred, waits, aside⟩
  exact ⟨occurred, (Comes.asked request line).cons waits, aside⟩

/-- A turn until a moment is due by then. -/
theorem due_le_of_nextTurn {moment : Nat} {turn : Turn} (next : line.nextTurn moment = some turn) :
    (turn = .event ∧ ∃ due, line.nextEvent = some due ∧ due ≤ moment) ∨
      ∃ index due, turn = .look index ∧ nextLook 0 line.watches = some (index, due) ∧
        due ≤ moment := by
  unfold nextTurn at next
  grind

theorem now_take_event {due : Nat} (isNext : line.nextEvent = some due) :
    (line.take .event).now = max line.now due := by
  simp only [nextEvent, Option.map_eq_some_iff] at isNext
  rcases isNext with ⟨⟨moment, event⟩, isFirst, rfl⟩
  cases ahead : line.upcoming with
  | nil => simp [ahead] at isFirst
  | cons first rest =>
      rw [ahead, List.head?_cons, Option.some.injEq] at isFirst
      subst isFirst
      simp only [take, takeEvent, ahead]

theorem now_take_look {index due : Nat} (isNext : nextLook 0 line.watches = some (index, due)) :
    (line.take (.look index)).now = max line.now due := by
  rcases nextLook_spec isNext with ⟨place, watch, placed, isThere, _, isDue⟩
  have same : index = place := by omega
  subst same
  rw [← isDue]
  simp [take, takeLook, isThere, look, serve, moveTo]

theorem now_take {moment : Nat} {turn : Turn} (next : line.nextTurn moment = some turn) :
    line.now ≤ (line.take turn).now ∧ (line.take turn).now ≤ max line.now moment := by
  rcases due_le_of_nextTurn next with ⟨rfl, due, isNext, inTime⟩ | ⟨index, due, rfl, isNext, inTime⟩
  · rw [now_take_event isNext]
    omega
  · rw [now_take_look isNext]
    omega

theorem now_pauseUntil (moment : Nat) (line : Timeline Log) :
    (line.pauseUntil moment).now = max line.now moment := by
  fun_induction pauseUntil moment line with
  | case1 => rfl
  | case2 line turn next hypothesis =>
      have turned := now_take next
      rw [hypothesis]
      omega

/-- In a gap no time passes. -/
theorem now_takeDue (count : Nat) (line : Timeline Log) : (line.takeDue count).now = line.now := by
  fun_induction takeDue count line with
  | case1 => rfl
  | case2 => rfl
  | case3 count line turn next hypothesis =>
      have turned := now_take next
      omega

theorem now_gap (usual : Nat) (line : Timeline Log) : (line.gap usual).now = line.now := by
  unfold gap
  split
  · exact now_takeDue usual line
  · exact now_takeDue _ _

theorem now_le_ask (request : Request) (line : Timeline Log) :
    line.now ≤ (line.ask request).2.now := by
  have moved := now_pauseUntil ((line.serve request).2.now + (line.serve request).1.delay)
    (line.serve request).2
  have sameMoment : (line.serve request).2.now = line.now := rfl
  simp only [ask]
  omega

end Timeline

end FrontierBus
