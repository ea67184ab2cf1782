import FrontierBus.Admission
import FrontierBus.Proofs.Admission.Lookups
import FrontierBus.Proofs.Timeline.Chronicle
import Mathlib.Data.List.Chain

/-!
# The looks of a watch

A watch looks again one interval after its last look was complete, whatever came of that one. At
each moment it shows what the latest success among the looks that are complete by then told. Nothing
that goes on beside it on its timeline changes that, and once it is told to stop it looks no more.
-/

namespace FrontierBus

/-- A look of a watch: when it was asked for, how long it took, and what came of it. -/
structure Look where
  moment : Nat
  delay : Nat
  answer : Except Fault (List PartitionOffsets)

namespace Look

/-- When the look is complete. -/
def arrival (look : Look) : Nat :=
  look.moment + look.delay

/-- What the look has told by a moment, and when: nothing if it is not complete by then, or
failed. -/
def toldBy (moment : Nat) (look : Look) : Option (Nat × List PartitionOffsets) :=
  if look.arrival ≤ moment then look.answer.toOption.map fun offsets => (look.arrival, offsets)
  else none

/-- What the latest success among the looks that are complete by a moment told, and when. -/
def latestBy (moment : Nat) (looks : List Look) : Option (Nat × List PartitionOffsets) :=
  (looks.filterMap (toldBy moment)).getLast?

theorem latestBy_of_complete {looks : List Look} {arrival moment other : Nat}
    (complete : ∀ look ∈ looks, look.arrival ≤ arrival) (arrived : arrival ≤ moment)
    (otherArrived : arrival ≤ other) : latestBy moment looks = latestBy other looks := by
  simp only [latestBy]
  congr 1
  apply List.filterMap_congr
  intro look present
  have isComplete := complete look present
  simp only [toldBy]
  rw [if_pos (by omega), if_pos (by omega)]

theorem latestBy_concat (moment : Nat) (looks : List Look) (look : Look) :
    latestBy moment (looks ++ [look]) = (look.toldBy moment).or (latestBy moment looks) := by
  simp only [latestBy, List.filterMap_append]
  cases told : look.toldBy moment with
  | none => simp [told]
  | some offsets => simp [told]

theorem latestBy_append_of_failed {looks more : List Look} {moment : Nat}
    (failed : ∀ look ∈ more, ∃ fault, look.answer = .error fault) :
    latestBy moment (looks ++ more) = latestBy moment looks := by
  have nothing : more.filterMap (toldBy moment) = [] := by
    apply List.filterMap_eq_nil_iff.mpr
    intro look present
    rcases failed look present with ⟨fault, isError⟩
    simp [toldBy, isError, Except.toOption]
  rw [latestBy, List.filterMap_append, nothing, List.append_nil, latestBy]

end Look

namespace Watch

variable {watch : Watch} {looks : List Look} {now moment : Nat}

/-- A watch has looked thus, and from now on, until it looks again, it shows at each moment what
they have told by then. -/
structure Shows (looks : List Look) (now : Nat) (watch : Watch) : Prop where
  last_eq : ∀ last ∈ looks.getLast?, watch.arrival = last.arrival
  complete : ∀ look ∈ looks, look.arrival ≤ watch.arrival
  chained : looks.IsChain fun look next => next.moment = look.arrival + watch.interval
  snapshot_eq : ∀ moment, now ≤ moment →
    watch.snapshot moment = .shown (Look.latestBy moment looks)

namespace Shows

theorem later (shows : watch.Shows looks now) (notBefore : now ≤ moment) :
    watch.Shows looks moment where
  last_eq := shows.last_eq
  complete := shows.complete
  chained := shows.chained
  snapshot_eq := fun other isLater => shows.snapshot_eq other (Nat.le_trans notBefore isLater)

/-- When a watch looks again its earlier looks are complete, so from then on only the new one can
add to what they have told. -/
theorem looked (shows : watch.Shows looks now) (notBefore : now ≤ moment)
    (arrived : watch.arrival ≤ moment)
    (inTurn : ∀ last ∈ looks.getLast?, moment = last.arrival + watch.interval) (delay : Nat)
    (answer : Except Fault (List PartitionOffsets)) :
    (watch.looked moment delay answer).Shows (looks ++ [⟨moment, delay, answer⟩]) moment where
  last_eq := by
    intro last isLast
    rw [List.getLast?_concat, Option.mem_some_iff] at isLast
    rw [← isLast]
    rfl
  complete := by
    intro look present
    change look.arrival ≤ moment + delay
    rcases List.mem_append.mp present with before | isNew
    · have isComplete := shows.complete look before
      omega
    · rw [List.mem_singleton.mp isNew]
      exact Nat.le_refl _
  chained := by
    refine List.isChain_append.mpr ⟨shows.chained, List.isChain_singleton _, ?_⟩
    intro last isLast next isNext
    rw [List.head?_cons, Option.mem_some_iff] at isNext
    rw [← isNext]
    exact inTurn last isLast
  snapshot_eq := by
    intro other isLater
    have before := shows.snapshot_eq moment notBefore
    have same := Look.latestBy_of_complete shows.complete (Nat.le_trans arrived isLater) arrived
    rw [Look.latestBy_concat, same]
    simp only [snapshot, Watch.looked] at before ⊢
    rw [before, Look.toldBy]
    change (if other < moment + delay then _ else _) = LagSnapshot.shown
      (Option.or (if moment + delay ≤ other then _ else none) _)
    by_cases isComplete : moment + delay ≤ other
    · rw [if_neg (by omega), if_pos isComplete]
      cases answer with
      | ok offsets => rfl
      | error fault => rfl
    · rw [if_pos (by omega), if_neg isComplete]
      rfl

end Shows

end Watch

namespace Timeline

variable {Log : Type} [Transport Log] {line before after : Timeline Log} {watch : Watch}
  {index moment : Nat} {looks more : List Look}

/-- The look that a watch makes if it looks now. -/
def glance (watch : Watch) (line : Timeline Log) : Look :=
  let (reply, _) := line.serve watch.request
  ⟨line.now, reply.delay, reply.answer⟩

/-- From one timeline to a later one the watch with an index looks thus. Whatever else goes on, by
requests, events, the clock or other watches, leaves it alone. -/
inductive Observes (index : Nat) : Timeline Log → List Look → Timeline Log → Prop where
  | beside {before after : Timeline Log} (now_eq : after.now = before.now)
      (watches_eq : after.watches = before.watches) : Observes index before [] after
  | waited {line : Timeline Log} {moment : Nat} (idle : line.nextTurn moment = none) :
      Observes index line [] (line.moveTo moment)
  | turned {line : Timeline Log} {moment : Nat} {turn : Turn}
      (next : line.nextTurn moment = some turn) (other : turn ≠ .look index) :
      Observes index line [] (line.take turn)
  | looked {line : Timeline Log} {moment : Nat} {watch : Watch}
      (next : line.nextTurn moment = some (.look index))
      (found : line.watches[index]? = some watch) :
      Observes index line [(line.moveTo watch.due).glance watch] (line.take (.look index))
  | joined (watch : Watch) (line : Timeline Log) :
      Observes index line [] { line with watches := line.watches ++ [watch] }
  | cancelled {admission : Admission} (line : Timeline Log) (other : admission.watch ≠ index) :
      Observes index line [] (admission.cancel line)
  | append {before between after : Timeline Log} {front back : List Look}
      (first : Observes index before front between) (second : Observes index between back after) :
      Observes index before (front ++ back) after

theorem shows_look {now : Nat} (shows : watch.Shows looks now) (notBefore : now ≤ line.now)
    (arrived : watch.arrival ≤ line.now)
    (inTurn : ∀ last ∈ looks.getLast?, line.now = last.arrival + watch.interval) :
    (look watch line).1.Shows (looks ++ [line.glance watch]) line.now :=
  shows.looked notBefore arrived inTurn _ _

theorem exists_nextLook {watches : List Watch} {start place : Nat}
    (found : watches[place]? = some watch) (running : watch.running = true) :
    ∃ first due, nextLook start watches = some (first, due) ∧ due ≤ watch.due := by
  induction watches generalizing start place with
  | nil => simp at found
  | cons other rest hypothesis =>
      simp only [nextLook]
      cases place with
      | zero =>
          rw [List.getElem?_cons_zero, Option.some.injEq] at found
          subst found
          rw [if_pos running]
          split
          · split
            · rename_i earlier
              exact ⟨_, _, rfl, Nat.le_of_lt earlier⟩
            · exact ⟨_, _, rfl, Nat.le_refl _⟩
          · exact ⟨_, _, rfl, Nat.le_refl _⟩
      | succ place =>
          rw [List.getElem?_cons_succ] at found
          have later : ∃ first due, nextLook (start + 1) rest = some (first, due) ∧
              due ≤ watch.due := hypothesis found
          rcases later with ⟨first, due, isNext, notLater⟩
          rw [isNext]
          simp only
          split
          · split
            · exact ⟨_, _, rfl, notLater⟩
            · exact ⟨_, _, rfl, by omega⟩
          · exact ⟨_, _, rfl, notLater⟩

/-- No turn goes past the moment at which a watch is due. -/
theorem now_take_le_due {turn : Turn} (next : line.nextTurn moment = some turn)
    (found : line.watches[index]? = some watch) (running : watch.running = true)
    (onTime : line.now ≤ watch.due) : (line.take turn).now ≤ watch.due := by
  rcases exists_nextLook found running with ⟨first, due, isLook, notLater⟩
  unfold nextTurn at next
  rw [isLook] at next
  cases isEvent : line.nextEvent with
  | none =>
      simp only [isEvent] at next
      split at next
      · rw [← Option.some.inj next, now_take_look isLook]
        omega
      · cases next
  | some eventDue =>
      simp only [isEvent] at next
      split at next
      · split at next
        · rw [← Option.some.inj next, now_take_event isEvent]
          omega
        · cases next
      · split at next
        · rw [← Option.some.inj next, now_take_look isLook]
          omega
        · cases next

/-- While nothing takes a turn no watch is due. -/
theorem lt_due_of_idle (idle : line.nextTurn moment = none)
    (found : line.watches[index]? = some watch) (running : watch.running = true) :
    moment < watch.due := by
  rcases exists_nextLook found running with ⟨first, due, isLook, notLater⟩
  unfold nextTurn at idle
  rw [isLook] at idle
  cases isEvent : line.nextEvent with
  | none =>
      simp only [isEvent] at idle
      split at idle
      · cases idle
      · omega
  | some eventDue =>
      simp only [isEvent] at idle
      split at idle
      · split at idle
        · cases idle
        · omega
      · split at idle
        · cases idle
        · omega

theorem watches_take_of_ne {turn : Turn} (other : turn ≠ .look index) :
    (line.take turn).watches[index]? = line.watches[index]? := by
  cases turn with
  | event =>
      simp only [take, takeEvent]
      split
      · rfl
      · rfl
  | look place =>
      have elsewhere : place ≠ index := by
        intro same
        exact other (congrArg Turn.look same)
      simp only [take, takeLook]
      split
      · rfl
      · exact List.getElem?_set_ne elsewhere

theorem watches_take_look (found : line.watches[index]? = some watch) :
    (line.take (.look index)).watches[index]? =
      some (look watch (line.moveTo watch.due)).1 := by
  have inside := (List.getElem?_eq_some_iff.mp found).1
  simp only [take, takeLook, found]
  exact List.getElem?_set_self inside

theorem watches_cancel_of_ne {admission : Admission} (other : admission.watch ≠ index) :
    (admission.cancel line).watches[index]? = line.watches[index]? :=
  List.getElem?_modify_ne _ _ other

theorem running_of_nextTurn (next : line.nextTurn moment = some (.look index)) :
    ∃ watch, line.watches[index]? = some watch ∧ watch.running = true ∧
      (line.take (.look index)).now = max line.now watch.due := by
  rcases due_le_of_nextTurn next with ⟨notLook, _⟩ | ⟨place, due, isPlace, isNext, _⟩
  · cases notLook
  · obtain rfl := Turn.look.inj isPlace
    have turned := now_take_look isNext
    rcases nextLook_spec isNext with ⟨offset, watch, placed, found, running, rfl⟩
    rw [Nat.zero_add] at placed
    rw [placed] at turned ⊢
    exact ⟨watch, found, running, turned⟩

namespace Observes

theorem now_le (observes : before.Observes index more after) : before.now ≤ after.now := by
  induction observes with
  | beside now_eq _ => exact Nat.le_of_eq now_eq.symm
  | waited _ => exact Nat.le_max_left _ _
  | turned next _ => exact (now_take next).1
  | looked next _ => exact (now_take next).1
  | joined => exact Nat.le_refl _
  | cancelled => exact Nat.le_refl _
  | append _ _ first second => exact Nat.le_trans first second

theorem of_stopped (observes : before.Observes index more after)
    (found : before.watches[index]? = some watch) (stopped : watch.running = false) :
    more = [] ∧ after.watches[index]? = some watch := by
  induction observes with
  | beside _ watches_eq => exact ⟨rfl, by rw [watches_eq, found]⟩
  | waited _ => exact ⟨rfl, found⟩
  | turned _ other => exact ⟨rfl, by rw [watches_take_of_ne other, found]⟩
  | looked next _ =>
      rcases running_of_nextTurn next with ⟨same, isThere, running, _⟩
      rw [found, Option.some.injEq] at isThere
      rw [isThere, running] at stopped
      cases stopped
  | joined newcomer line =>
      have inside := (List.getElem?_eq_some_iff.mp found).1
      exact ⟨rfl, by rw [List.getElem?_append_left inside, found]⟩
  | cancelled line other => exact ⟨rfl, by rw [watches_cancel_of_ne other, found]⟩
  | append _ _ first second =>
      rcases first found with ⟨nothing, foundThen⟩
      rcases second foundThen with ⟨nothingMore, foundLater⟩
      exact ⟨by rw [nothing, nothingMore, List.append_nil], foundLater⟩

end Observes

/-- Whoever waits sees a watch look whenever it is due. -/
theorem observes_pauseUntil (index moment : Nat) (line : Timeline Log) :
    ∃ looks, line.Observes index looks (line.pauseUntil moment) := by
  fun_induction pauseUntil moment line with
  | case1 line idle => exact ⟨[], .waited idle⟩
  | case2 line turn next hypothesis =>
      rcases hypothesis with ⟨later, observed⟩
      by_cases own : turn = .look index
      · rw [own] at next
        rcases running_of_nextTurn next with ⟨watch, found, _, _⟩
        subst own
        exact ⟨_, (Observes.looked next found).append observed⟩
      · exact ⟨_, (Observes.turned next own).append observed⟩

/-- The watch with an index is running, has looked thus, and is not late. -/
structure Tracks (index interval : Nat) (looks : List Look) (watch : Watch)
    (line : Timeline Log) : Prop where
  found : line.watches[index]? = some watch
  running : watch.running = true
  interval_eq : watch.interval = interval
  shows : watch.Shows looks line.now
  onTime : line.now ≤ watch.due

namespace Tracks

variable {interval : Nat}

theorem unchanged (tracks : before.Tracks index interval looks watch)
    (found : after.watches[index]? = some watch) (notBefore : before.now ≤ after.now)
    (onTime : after.now ≤ watch.due) : after.Tracks index interval looks watch :=
  ⟨found, tracks.running, tracks.interval_eq, tracks.shows.later notBefore, onTime⟩

/-- A watch that is not late looks exactly when it is due. -/
theorem looked (tracks : line.Tracks index interval looks watch)
    (next : line.nextTurn moment = some (.look index)) :
    (line.take (.look index)).Tracks index interval
      (looks ++ [(line.moveTo watch.due).glance watch])
      (look watch (line.moveTo watch.due)).1 := by
  have isDue : (line.moveTo watch.due).now = watch.due := Nat.max_eq_right tracks.onTime
  rcases running_of_nextTurn next with ⟨same, isThere, _, turned⟩
  rw [tracks.found, Option.some.injEq] at isThere
  rw [← isThere] at turned
  have sameMoment : (line.take (.look index)).now = (line.moveTo watch.due).now := turned
  have shows : (look watch (line.moveTo watch.due)).1.Shows
      (looks ++ [(line.moveTo watch.due).glance watch]) (line.moveTo watch.due).now := by
    apply shows_look tracks.shows
    · rw [isDue]
      exact tracks.onTime
    · rw [isDue]
      exact Nat.le_add_right _ _
    · intro last isLast
      rw [isDue, ← tracks.shows.last_eq last isLast]
      rfl
  rw [← sameMoment] at shows
  refine ⟨watches_take_look tracks.found, tracks.running, tracks.interval_eq, shows, ?_⟩
  rw [look_due, sameMoment, Nat.add_assoc]
  exact Nat.le_add_right _ _

/-- A watch that is running keeps to its intervals, whatever comes of its looks. -/
theorem observes (observes : before.Observes index more after)
    (tracks : before.Tracks index interval looks watch) :
    ∃ changed, after.Tracks index interval (looks ++ more) changed := by
  induction observes generalizing looks watch with
  | beside now_eq watches_eq =>
      rw [List.append_nil]
      refine ⟨watch, tracks.unchanged ?_ (Nat.le_of_eq now_eq.symm) ?_⟩
      · rw [watches_eq, tracks.found]
      · rw [now_eq]
        exact tracks.onTime
  | waited idle =>
      rw [List.append_nil]
      have notDue := lt_due_of_idle idle tracks.found tracks.running
      refine ⟨watch, tracks.unchanged tracks.found (Nat.le_max_left _ _) ?_⟩
      exact Nat.max_le.mpr ⟨tracks.onTime, Nat.le_of_lt notDue⟩
  | turned next other =>
      rw [List.append_nil]
      refine ⟨watch, tracks.unchanged ?_ (now_take next).1 ?_⟩
      · rw [watches_take_of_ne other, tracks.found]
      · exact now_take_le_due next tracks.found tracks.running tracks.onTime
  | @looked line moment same next found =>
      rw [tracks.found, Option.some.injEq] at found
      rw [← found]
      exact ⟨_, tracks.looked next⟩
  | joined newcomer line =>
      rw [List.append_nil]
      have inside := (List.getElem?_eq_some_iff.mp tracks.found).1
      refine ⟨watch, tracks.unchanged ?_ (Nat.le_refl _) tracks.onTime⟩
      rw [List.getElem?_append_left inside, tracks.found]
  | cancelled line other =>
      rw [List.append_nil]
      refine ⟨watch, tracks.unchanged ?_ (Nat.le_refl _) tracks.onTime⟩
      rw [watches_cancel_of_ne other, tracks.found]
  | append _ _ first second =>
      rcases first tracks with ⟨between, tracksThen⟩
      rw [← List.append_assoc]
      exact second tracksThen

end Tracks

end Timeline

end FrontierBus
