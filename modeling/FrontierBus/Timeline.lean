import FrontierBus.Request

/-!
# Timelines

A timeline is a log together with a clock, the events that lie ahead, and the watches that look at
the lag of a group again and again. Requests are made at the present moment and recorded. Waiting
moves the clock; whatever is due until then takes its turn, in the order of time.

The steps of a poll are not taken in one go: in the gaps between them others go on, and some of
what is due by then takes its turn. How much that is in each gap is written down beforehand, so what
holds of every timeline holds whatever goes on in the gaps.
-/

namespace FrontierBus

/-- A watch over the lag of a group. Its last look was asked for in the past and is complete at
`arrival`; until then the lags from before are shown. -/
structure Watch where
  topic : String
  group : String
  partitions : Nat
  interval : Nat
  interval_pos : 0 < interval
  before : LagSnapshot
  latest : LagSnapshot
  arrival : Nat
  running : Bool

namespace Watch

/-- When the watch looks again. -/
def due (watch : Watch) : Nat :=
  watch.arrival + watch.interval

/-- What the watch shows at a moment. -/
def snapshot (watch : Watch) (now : Nat) : LagSnapshot :=
  if now < watch.arrival then watch.before else watch.latest

/-- The request that a look makes. -/
def request (watch : Watch) : Request :=
  .offsets watch.topic watch.group watch.partitions

/-- The watch after a look at `now`, given the answer and its delay. A failed look changes nothing
of what is shown. -/
def looked (watch : Watch) (now : Nat) (delay : Nat)
    (answer : Except Fault (List PartitionOffsets)) : Watch :=
  let shown := watch.snapshot now
  { watch with
    before := shown
    latest := match answer with
      | .ok offsets => .ofOffsets (now + delay) offsets
      | .error _ => shown
    arrival := now + delay }

/-- How many moments until `moment` the watch, if it is running, still has ahead. -/
def room (moment : Nat) (watch : Watch) : Nat :=
  if watch.running then moment + 1 - watch.due else 0

theorem room_le_of_due_lt (moment : Nat) {watch changed : Watch}
    (running : watch.running = true) (later : watch.due < changed.due) :
    changed.room moment ≤ watch.room moment ∧
      (watch.due ≤ moment → changed.room moment < watch.room moment) := by
  simp only [room, running, if_true]
  split <;> omega

end Watch

/-- A request that was made, when, and what came of it. -/
structure Exchange where
  moment : Nat
  request : Request
  reply : Reply request

/-- A log in time. -/
structure Timeline (Log : Type) [Transport Log] where
  now : Nat
  log : Log
  /-- The events ahead, in the order in which they happen. -/
  upcoming : List (Nat × Transport.Event Log)
  /-- The events that have happened and what they told, the latest first. -/
  happened : List ((event : Transport.Event Log) × Transport.Outcome event)
  watches : List Watch
  /-- The requests that were made, the latest first. -/
  past : List Exchange
  /-- How many turns are taken in each of the gaps to come, of those that are due by then. In the
  gaps behind the last of these numbers things take their usual course. -/
  gaps : List Nat
  /-- A moment was asked for that has no number. The call that asked has panicked, and nothing is
  seen of what the timeline comes to from then on. -/
  panicked : Bool

namespace Timeline

variable {Log : Type} [Transport Log]

/-- A log at the beginning of time, with nothing ahead. -/
def start (log : Log) : Timeline Log :=
  ⟨0, log, [], [], [], [], [], false⟩

/-- Asks for the number of a moment, to measure time by it. -/
def reckon (moment : Nat) (line : Timeline Log) : Timeline Log :=
  { line with panicked := line.panicked || decide (Moment.last < moment) }

@[simp] theorem now_reckon (moment : Nat) (line : Timeline Log) :
    (line.reckon moment).now = line.now := rfl

/-- What is seen of the result of a call: nothing, if it has panicked. -/
def told {Answer : Type} (result : Answer × Timeline Log) : Option (Answer × Timeline Log) :=
  if result.2.panicked then none else some result

/-- Makes a request, without waiting for the answer. -/
def serve (request : Request) (line : Timeline Log) : Reply request × Timeline Log :=
  let (reply, log) := Transport.serve request line.log
  (reply, { line with log, past := ⟨line.now, request, reply⟩ :: line.past })

/-- The clock at a moment, or where it stands if that has passed. -/
def moveTo (moment : Nat) (line : Timeline Log) : Timeline Log :=
  { line with now := max line.now moment }

/-- The first of the events ahead happens. -/
def takeEvent (line : Timeline Log) : Timeline Log :=
  match line.upcoming with
  | [] => line
  | (moment, event) :: upcoming =>
    let (outcome, log) := Transport.happen event line.log
    { line with
      now := max line.now moment
      log
      upcoming
      happened := ⟨event, outcome⟩ :: line.happened }

/-- A watch looks. -/
def look (watch : Watch) (line : Timeline Log) : Watch × Timeline Log :=
  let (reply, line) := line.serve watch.request
  (watch.looked line.now reply.delay reply.answer, line)

/-- The watch with an index looks. -/
def takeLook (index : Nat) (line : Timeline Log) : Timeline Log :=
  match line.watches[index]? with
  | none => line
  | some watch =>
    let (watch, line) := look watch (line.moveTo watch.due)
    { line with watches := line.watches.set index watch }

/-- What takes a turn. -/
inductive Turn where
  | event
  | look (index : Nat)
  deriving Repr, DecidableEq

/-- The running watch that looks first, and when; of several the one that was set up first. -/
def nextLook : (index : Nat) → List Watch → Option (Nat × Nat)
  | _, [] => none
  | index, watch :: watches =>
    let later := nextLook (index + 1) watches
    if watch.running then
      match later with
      | some (other, due) => if due < watch.due then some (other, due) else some (index, watch.due)
      | none => some (index, watch.due)
    else later

/-- When the first of the events ahead happens. -/
def nextEvent (line : Timeline Log) : Option Nat :=
  line.upcoming.head?.map Prod.fst

/-- What takes the next turn until a moment; an event comes before a look at the same moment. -/
def nextTurn (moment : Nat) (line : Timeline Log) : Option Turn :=
  match line.nextEvent, nextLook 0 line.watches with
  | none, none => none
  | some due, none => if due ≤ moment then some .event else none
  | none, some (index, due) => if due ≤ moment then some (.look index) else none
  | some due, some (index, lookDue) =>
    if due ≤ lookDue then (if due ≤ moment then some .event else none)
    else if lookDue ≤ moment then some (.look index) else none

/-- The timeline after a turn. -/
def take (turn : Turn) (line : Timeline Log) : Timeline Log :=
  match turn with
  | .event => line.takeEvent
  | .look index => line.takeLook index

/-- How many moments until `moment` the running watches still have ahead, counted for each. -/
def lookRoom (moment : Nat) : List Watch → Nat
  | [] => 0
  | watch :: watches => watch.room moment + lookRoom moment watches

/-- A bound on the turns that can be taken until a moment. -/
def turnRoom (moment : Nat) (line : Timeline Log) : Nat :=
  line.upcoming.length + lookRoom moment line.watches

theorem nextLook_spec {watches : List Watch} {start index : Nat} {due : Nat}
    (next : nextLook start watches = some (index, due)) :
    ∃ place watch, index = start + place ∧ watches[place]? = some watch ∧
      watch.running = true ∧ watch.due = due := by
  induction watches generalizing start with
  | nil => simp [nextLook] at next
  | cons first rest hypothesis =>
    have behind (found : nextLook (start + 1) rest = some (index, due)) :
        ∃ place watch, index = start + place ∧ (first :: rest)[place]? = some watch ∧
          watch.running = true ∧ watch.due = due := by
      obtain ⟨place, watch, placed, found, running, isDue⟩ := hypothesis found
      exact ⟨place + 1, watch, by omega, by simpa using found, running, isDue⟩
    have here (running : first.running = true) (found : (start, first.due) = (index, due)) :
        ∃ place watch, index = start + place ∧ (first :: rest)[place]? = some watch ∧
          watch.running = true ∧ watch.due = due := by
      simp only [Prod.mk.injEq] at found
      exact ⟨0, first, by omega, by simp, running, found.2⟩
    simp only [nextLook] at next
    split at next
    · rename_i running
      split at next
      · rename_i other otherDue found
        split at next
        · exact behind (found.trans next)
        · exact here running (Option.some.inj next)
      · exact here running (Option.some.inj next)
    · exact behind next

theorem lookRoom_set (moment : Nat) {watches : List Watch} {place : Nat}
    {watch : Watch} (changed : Watch) (found : watches[place]? = some watch) :
    lookRoom moment (watches.set place changed) + watch.room moment =
      lookRoom moment watches + changed.room moment := by
  induction watches generalizing place with
  | nil => simp at found
  | cons first rest hypothesis =>
    cases place with
    | zero =>
      simp only [List.getElem?_cons_zero, Option.some.injEq] at found
      subst found
      simp only [List.set_cons_zero, lookRoom]
      omega
    | succ place =>
      have same := hypothesis (by simpa using found)
      simp only [List.set_cons_succ, lookRoom]
      omega

theorem look_due (watch : Watch) (line : Timeline Log) :
    (look watch line).1.due =
      line.now + (line.serve watch.request).1.delay + watch.interval := rfl

theorem turnRoom_event_lt {moment due : Nat} {line : Timeline Log}
    (next : line.nextEvent = some due) :
    (line.take .event).turnRoom moment < line.turnRoom moment := by
  simp only [nextEvent, Option.map_eq_some_iff] at next
  obtain ⟨first, isFirst, _⟩ := next
  cases ahead : line.upcoming with
  | nil => simp [ahead] at isFirst
  | cons event rest => simp [take, takeEvent, turnRoom, ahead]

theorem turnRoom_look {moment due index : Nat} {line : Timeline Log}
    (next : nextLook 0 line.watches = some (index, due)) :
    (line.take (.look index)).turnRoom moment ≤ line.turnRoom moment ∧
      (due ≤ moment → (line.take (.look index)).turnRoom moment < line.turnRoom moment) := by
  obtain ⟨place, watch, placed, isThere, running, isDue⟩ := nextLook_spec next
  obtain rfl : index = place := by omega
  let looked := (look watch (line.moveTo watch.due)).1
  have later : watch.due < looked.due := by
    have positive := watch.interval_pos
    simp only [looked, look_due, moveTo]
    omega
  have fewer := Watch.room_le_of_due_lt moment running later
  have changed := lookRoom_set moment looked isThere
  simp only [take, takeLook, isThere, turnRoom, look, serve, moveTo, looked] at changed fewer ⊢
  omega

theorem turnRoom_take_lt {moment : Nat} {line : Timeline Log} {turn : Turn}
    (next : line.nextTurn moment = some turn) :
    (line.take turn).turnRoom moment < line.turnRoom moment := by
  unfold nextTurn at next
  split at next
  · simp at next
  · rename_i event _
    split at next
    · obtain rfl := Option.some.inj next
      exact turnRoom_event_lt event
    · simp at next
  · rename_i looks
    split at next
    · obtain rfl := Option.some.inj next
      exact (turnRoom_look looks).2 (by assumption)
    · simp at next
  · rename_i event looks
    split at next
    · split at next
      · obtain rfl := Option.some.inj next
        exact turnRoom_event_lt event
      · simp at next
    · split at next
      · obtain rfl := Option.some.inj next
        exact (turnRoom_look looks).2 (by assumption)
      · simp at next

theorem eq_event_or_look_of_nextTurn {moment : Nat} {line : Timeline Log} {turn : Turn}
    (next : line.nextTurn moment = some turn) :
    (turn = .event ∧ ∃ due, line.nextEvent = some due) ∨
      ∃ index due, turn = .look index ∧ nextLook 0 line.watches = some (index, due) := by
  unfold nextTurn at next
  grind

/-- Turns until one moment leave no more turns to take until another. -/
theorem turnRoom_take_le (bound : Nat) {moment : Nat} {line : Timeline Log} {turn : Turn}
    (next : line.nextTurn moment = some turn) :
    (line.take turn).turnRoom bound ≤ line.turnRoom bound := by
  rcases eq_event_or_look_of_nextTurn next with ⟨rfl, due, isNext⟩ | ⟨index, due, rfl, isNext⟩
  · exact Nat.le_of_lt (turnRoom_event_lt isNext)
  · exact (turnRoom_look isNext).1

/-- Waits until a moment. Whatever is due until then, that moment included, takes its turn. -/
def pauseUntil (moment : Nat) (line : Timeline Log) : Timeline Log :=
  match _next : line.nextTurn moment with
  | none => line.moveTo moment
  | some turn => pauseUntil moment (line.take turn)
termination_by line.turnRoom moment
decreasing_by exact turnRoom_take_lt _next

instance : Clock (Timeline Log) where
  now := Timeline.now
  pauseUntil := pauseUntil

/-- Makes a request and waits for the answer. -/
def ask (request : Request) (line : Timeline Log) : request.Answer × Timeline Log :=
  let (reply, line) := line.serve request
  (reply.answer, line.pauseUntil (line.now + reply.delay))

/-- Takes turns that are due, at most so many. -/
def takeDue : (count : Nat) → Timeline Log → Timeline Log
  | 0, line => line
  | count + 1, line =>
    match line.nextTurn line.now with
    | none => line
    | some turn => takeDue count (line.take turn)

/-- The timeline with other numbers for the gaps to come. -/
def plan (gaps : List Nat) (line : Timeline Log) : Timeline Log :=
  { line with gaps }

/-- A gap between the steps of a poll, in which usually so many turns are taken. -/
def gap (usual : Nat) (line : Timeline Log) : Timeline Log :=
  match line.gaps with
  | [] => line.takeDue usual
  | count :: gaps => (line.plan gaps).takeDue count

/-- A bound on the turns that can be taken until a moment, and on the gaps that are written down. -/
def stepRoom (moment : Nat) (line : Timeline Log) : Nat :=
  line.gaps.length + line.turnRoom moment

theorem gaps_take (turn : Turn) (line : Timeline Log) : (line.take turn).gaps = line.gaps := by
  cases turn with
  | event =>
    simp only [take, takeEvent]
    split <;> rfl
  | look index =>
    simp only [take, takeLook]
    split <;> rfl

theorem stepRoom_take_lt {moment : Nat} {line : Timeline Log} {turn : Turn}
    (next : line.nextTurn moment = some turn) :
    (line.take turn).stepRoom moment < line.stepRoom moment := by
  simp only [stepRoom, gaps_take]
  have fewer := turnRoom_take_lt next
  omega

theorem stepRoom_takeDue_le (bound count : Nat) (line : Timeline Log) :
    (line.takeDue count).stepRoom bound ≤ line.stepRoom bound := by
  fun_induction takeDue count line with
  | case1 => exact Nat.le_refl _
  | case2 => exact Nat.le_refl _
  | case3 count line turn next hypothesis =>
    simp only [stepRoom, gaps_take] at hypothesis ⊢
    have fewer := turnRoom_take_le bound next
    omega

/-- A gap has its number among those written down, or takes its usual course. -/
theorem gap_cases (usual bound : Nat) (line : Timeline Log) :
    line.gap usual = line.takeDue usual ∨
      (line.gap usual).stepRoom bound < line.stepRoom bound := by
  unfold gap
  split
  · exact .inl rfl
  · rename_i count gaps written
    have fewer := stepRoom_takeDue_le bound count (line.plan gaps)
    simp only [stepRoom, turnRoom, plan, written, List.length_cons] at fewer ⊢
    exact .inr (by omega)

theorem stepRoom_gap_le (usual bound : Nat) (line : Timeline Log) :
    (line.gap usual).stepRoom bound ≤ line.stepRoom bound := by
  rcases gap_cases usual bound line with usually | fewer
  · rw [usually]
    exact stepRoom_takeDue_le bound usual line
  · exact Nat.le_of_lt fewer

/-- Waits until there are other arrivals than those seen, but not longer than until a moment; says
whether there are. In the gap until the waiter goes on, usually all that is due takes its turn. -/
def awaitArrival (seen moment : Nat) (line : Timeline Log) : Bool × Timeline Log :=
  if Transport.arrivals line.log = seen then
    match _next : line.nextTurn moment with
    | none => (false, line.moveTo moment)
    | some turn => awaitArrival seen moment (line.take turn)
  else (true, line.gap (line.turnRoom line.now))
termination_by line.turnRoom moment
decreasing_by exact turnRoom_take_lt _next

theorem stepRoom_awaitArrival {seen moment : Nat} {line later : Timeline Log}
    (arrived : line.awaitArrival seen moment = (true, later)) :
    later.stepRoom moment ≤ line.stepRoom moment ∧
      (Transport.arrivals line.log = seen → later.stepRoom moment < line.stepRoom moment) := by
  fun_induction awaitArrival seen moment line with
  | case1 => simp at arrived
  | case2 line same turn next hypothesis =>
    have fewer := stepRoom_take_lt next
    have noMore := (hypothesis arrived).1
    omega
  | case3 line different =>
    obtain rfl := (Prod.mk.inj arrived).2
    exact ⟨stepRoom_gap_le _ moment line, fun same => absurd same different⟩

theorem stepRoom_serve (request : Request) (moment : Nat) (line : Timeline Log) :
    (line.serve request).2.stepRoom moment = line.stepRoom moment := rfl

/-- Whoever is woken after a poll has left something behind: a turn, or a gap. -/
theorem stepRoom_of_woken {reader : Reader} {limit patience moment : Nat}
    {line later : Timeline Log}
    (arrived : ((((line.gap 0).serve (.poll reader limit patience)).2.gap 0).awaitArrival
      (Transport.arrivals line.log) moment) = (true, later)) :
    later.stepRoom moment < line.stepRoom moment := by
  have waited := stepRoom_awaitArrival arrived
  have polled := stepRoom_serve (.poll reader limit patience) moment (line.gap 0)
  have first := stepRoom_gap_le 0 moment line
  have second := stepRoom_gap_le 0 moment ((line.gap 0).serve (.poll reader limit patience)).2
  rcases gap_cases 0 moment line with firstUsual | firstLess
  · rcases gap_cases 0 moment ((line.gap 0).serve (.poll reader limit patience)).2 with
      secondUsual | secondLess
    · have same : Transport.arrivals
          (((line.gap 0).serve (.poll reader limit patience)).2.gap 0).log =
            Transport.arrivals line.log := by
        rw [secondUsual, firstUsual]
        exact Transport.arrivals_poll reader limit patience line.log
      have fewer := waited.2 same
      omega
    · omega
  · omega

/-- Polls for a session until there are messages, at most until a deadline. What arrives from the
beginning of a poll on is not missed, whether it comes before the log is read or after: a poll that
finds nothing is repeated as soon as there are other arrivals than at its beginning. -/
def pollUntil (reader : Reader) (limit : Nat) (patience : Nat) (deadline : Nat)
    (line : Timeline Log) : Except Fault (List Message) × Timeline Log :=
  let seen := Transport.arrivals line.log
  let asked := (line.gap 0).serve (.poll reader limit patience)
  let answered := asked.2.pauseUntil (asked.2.now + asked.1.delay)
  match asked.1.answer with
  | .error fault => (.error fault, answered)
  | .ok (some messages) => (.ok messages, answered)
  | .ok none =>
    match _arrived : (asked.2.gap 0).awaitArrival seen deadline with
    | (false, later) => (.ok [], later)
    | (true, later) => pollUntil reader limit patience deadline later
termination_by line.stepRoom deadline
decreasing_by exact stepRoom_of_woken _arrived

/-- Polls for a session until there are messages, at most for a span of time. -/
def poll (reader : Reader) (limit : Nat) (patience : Nat) (line : Timeline Log) :
    Except Fault (List Message) × Timeline Log :=
  let deadline := line.now + patience
  let line := if Transport.setsDeadline reader line.log then line.reckon deadline else line
  line.pollUntil reader limit patience deadline

end Timeline

end FrontierBus
