import FrontierBus.Proofs.Timeline.Looks
import FrontierBus.Script

/-!
# What an admission answers

An admission answers every question from the latest success among its complete looks, the one
before the watch was set up included. It looks again one interval after each look, failed or not,
until it is stopped; from then on its answers stay the same.
-/

namespace FrontierBus.Admission

variable {Log : Type} [Transport Log] {admission : Admission} {line : Timeline Log}
  {known : Option (Nat × List PartitionOffsets)} {watch : Watch} {looks : List Look}

/-- All answers are given from these entries, which were told at a moment, or from nothing. -/
structure Answers (known : Option (Nat × List PartitionOffsets)) (admission : Admission)
    (line : Timeline Log) : Prop where
  snapshot_eq : admission.snapshot line = .shown known
  refreshedAt_eq : (admission.snapshot line).refreshedAt = known.map Prod.fst
  lag_eq : ∀ partition, (admission.snapshot line).lag? partition =
    ((((known.map Prod.snd).getD []).filter fun entry => entry.partition = partition).getLast?).map
      PartitionOffsets.lag
  mem_availableBelow : ∀ threshold partition,
    partition ∈ admission.availableBelow threshold line ↔
      ∃ lag, (admission.snapshot line).lag? partition = some lag ∧ lag < threshold
  ascending : ∀ threshold, (admission.availableBelow threshold line).Pairwise (· < ·)
  grows : ∀ threshold greater, threshold ≤ greater →
    (admission.availableBelow threshold line).Sublist (admission.availableBelow greater line)
  isAvailable_iff : ∀ partition,
    admission.isAvailable partition line = true ↔ partition ∈ admission.available line

theorem answers_of_snapshot (snapshot_eq : admission.snapshot line = .shown known) :
    Answers known admission line := by
  have ascending : LagSnapshot.Ascending (admission.snapshot line).lags := by
    rw [snapshot_eq]
    exact LagSnapshot.ascending_lags known
  have below := LagSnapshot.mem_below_iff ascending
  refine ⟨snapshot_eq, ?_, ?_, below, ?_, ?_, ?_⟩
  · rw [snapshot_eq]
    exact LagSnapshot.refreshedAt_shown known
  · rw [snapshot_eq]
    exact LagSnapshot.lag?_shown known
  · exact LagSnapshot.below_pairwise_lt ascending
  · intro threshold greater notLess
    exact LagSnapshot.below_sublist _ notLess
  · intro partition
    rw [available, availableBelow, below, isAvailable]
    cases found : (admission.snapshot line).lag? partition with
    | none => simp
    | some lag => simp

theorem answers_of_shows {now : Nat} (found : line.watches[admission.watch]? = some watch)
    (shows : watch.Shows looks now) (notBefore : now ≤ line.now) :
    Answers (Look.latestBy line.now looks) admission line := by
  apply answers_of_snapshot
  simp only [snapshot, found]
  exact shows.snapshot_eq line.now notBefore

theorem shows_blindWatch (topic group : String) (partitions interval now : Nat)
    (interval_pos : 0 < interval) :
    (blindWatch topic group partitions interval interval_pos).Shows [] now where
  last_eq := by simp
  complete := by simp
  chained := List.isChain_nil
  snapshot_eq := by
    intro moment _
    exact ite_self _

/-- The first look is complete when the watch is set up. -/
theorem tracks_start (topic group : String) (partitions interval : Nat)
    (interval_pos : 0 < interval) (threshold : Nat) (line : Timeline Log) :
    let watch := blindWatch topic group partitions interval interval_pos
    let admission := (start watch threshold line).1
    let started := (start watch threshold line).2
    started.Tracks admission.watch interval [line.glance watch] (Timeline.look watch line).1 := by
  intro watch admission started
  have blind : watch.Shows [] line.now := shows_blindWatch ..
  have shows : (Timeline.look watch line).1.Shows [line.glance watch] line.now := by
    apply Timeline.shows_look blind
    · exact Nat.le_refl _
    · exact Nat.zero_le _
    · simp
  have arrived : (start watch threshold line).2.now =
      max line.now (Timeline.look watch line).1.arrival := Timeline.now_pauseUntil _ _
  have afterwards : line.now ≤ (Timeline.look watch line).1.arrival := Nat.le_add_right _ _
  refine ⟨?_, rfl, rfl, shows.later ?_, ?_⟩
  · exact List.getElem?_concat_length
  · change line.now ≤ (start watch threshold line).2.now
    omega
  · change (start watch threshold line).2.now ≤ _
    rw [arrived, Watch.due]
    omega

theorem watches_stop (found : line.watches[admission.watch]? = some watch)
    (running : watch.running = true) :
    (admission.stop line).watches[admission.watch]? = some { watch with running := false } ∧
      (admission.stop line).now = max line.now watch.arrival := by
  have cancelled : (admission.cancel line).watches[admission.watch]? =
      some { watch with running := false } := by
    rw [cancel, List.getElem?_modify_eq, found]
    rfl
  have isStop : admission.stop line = (admission.cancel line).pauseUntil watch.arrival := by
    simp only [stop, found, running, if_true]
  rw [isStop]
  rcases (admission.cancel line).observes_pauseUntil admission.watch watch.arrival with
    ⟨looks, observes⟩
  exact ⟨(observes.of_stopped cancelled rfl).2, Timeline.now_pauseUntil _ _⟩

/-- Whoever has stopped a watch has waited for the look under way, and it was the last one. So what
the looks have told by then is final. -/
theorem answers_of_stop {interval : Nat} {later : Timeline Log} {more : List Look}
    (tracks : line.Tracks admission.watch interval looks watch)
    (observes : (admission.stop line).Observes admission.watch more later) :
    more = [] ∧ Answers (Look.latestBy (admission.stop line).now looks) admission later := by
  rcases watches_stop tracks.found tracks.running with ⟨found, stoppedAt⟩
  rcases observes.of_stopped found rfl with ⟨nothing, foundLater⟩
  have afterwards := observes.now_le
  have shows : { watch with running := false }.Shows looks line.now :=
    ⟨tracks.shows.last_eq, tracks.shows.complete, tracks.shows.chained, tracks.shows.snapshot_eq⟩
  have final : Look.latestBy (admission.stop line).now looks = Look.latestBy later.now looks := by
    apply Look.latestBy_of_complete tracks.shows.complete
    · omega
    · omega
  refine ⟨nothing, ?_⟩
  rw [final]
  apply answers_of_shows foundLater shows
  omega

/-- Let `looks` be the looks that are made between the start and the present, and `all` these and
the first one. Readers are answered from the latest success that is complete, so failures change
nothing; each look comes one interval after the one before, and none is left out, whatever came of
the others; and after a stop nothing changes any more. -/
theorem snapshot_of_observes (topic group : String) (partitions interval : Nat)
    (interval_pos : 0 < interval) (threshold : Nat) (line : Timeline Log) :
    let watch := blindWatch topic group partitions interval interval_pos
    let admission := (start watch threshold line).1
    let started := (start watch threshold line).2
    ∀ looks present, started.Observes admission.watch looks present →
      let all := line.glance watch :: looks
      Answers (Look.latestBy present.now all) admission present ∧
      (∀ more later, present.Observes admission.watch more later →
        (∀ look ∈ more, ∃ fault, look.answer = .error fault) →
        Answers (Look.latestBy later.now all) admission later) ∧
      all.IsChain (fun look next => next.moment = look.arrival + interval) ∧
      (∀ last ∈ all.getLast?, present.now ≤ last.arrival + interval) ∧
      (∀ moment, ∃ more, present.Observes admission.watch more (present.pauseUntil moment)) ∧
      ∀ more later, (admission.stop present).Observes admission.watch more later →
        more = [] ∧ Answers (Look.latestBy (admission.stop present).now all) admission later := by
  intro watch admission started looks present observes all
  have atStart := tracks_start topic group partitions interval interval_pos threshold line
  rcases atStart.observes observes with ⟨changed, tracks⟩
  refine ⟨?_, ?_, ?_, ?_, ?_, ?_⟩
  · exact answers_of_shows tracks.found tracks.shows (Nat.le_refl _)
  · intro more later observesMore failed
    rcases tracks.observes observesMore with ⟨changedMore, tracksMore⟩
    rw [← Look.latestBy_append_of_failed failed]
    exact answers_of_shows tracksMore.found tracksMore.shows (Nat.le_refl _)
  · rw [← tracks.interval_eq]
    exact tracks.shows.chained
  · intro last isLast
    rw [← tracks.interval_eq, ← tracks.shows.last_eq last isLast]
    exact tracks.onTime
  · intro moment
    exact present.observes_pauseUntil admission.watch moment
  · intro more later observesLater
    exact answers_of_stop tracks observesLater

/-- The lags are told in disorder and one of them twice, then they cannot be told, and then they
are told again. -/
def unevenLags : Timeline Script :=
  .start
    { partitionCount := [], join := [], openProducer := [], openProbe := [], poll := []
      position := [], committed := [], commit := [], deliver := [], assigned := []
      offsets := [⟨2, .ok [⟨1, 9, none⟩, ⟨0, 4, some 3⟩, ⟨1, 5, some 2⟩]⟩,
        ⟨3, .error (.unavailable .injected)⟩, ⟨4, .ok [⟨1, 8, none⟩, ⟨0, 2, none⟩]⟩] }

/-- The second look fails, and the third one is under way when the watch is stopped. -/
theorem snapshot_of_unevenLags :
    let watch := blindWatch "t" "g" 2 10 (by decide)
    let admission := (start watch 5 unevenLags).1
    let started := (start watch 5 unevenLags).2
    let failed := started.take (.look admission.watch)
    let present := (failed.take (.look admission.watch)).moveTo 27
    let later := (admission.stop present).moveTo 100
    admission.available present = [0, 1] ∧ admission.available later = [0] ∧
      Answers (some (2, [⟨1, 9, none⟩, ⟨0, 4, some 3⟩, ⟨1, 5, some 2⟩])) admission present ∧
      Answers (some (29, [⟨1, 8, none⟩, ⟨0, 2, none⟩])) admission later := by
  intro watch admission started failed present later
  have found := (tracks_start "t" "g" 2 10 (by decide) 5 unevenLags).found
  have second : started.Observes admission.watch _ failed :=
    .looked (by decide +kernel : started.nextTurn 27 = _) found
  have third : failed.Observes admission.watch _ (failed.take (.look admission.watch)) :=
    .looked (by decide +kernel : failed.nextTurn 27 = _) (Timeline.watches_take_look found)
  have waited : (failed.take (.look admission.watch)).Observes admission.watch [] present :=
    .waited (by decide +kernel)
  have rested : (admission.stop present).Observes admission.watch [] later :=
    .waited (by decide +kernel)
  rcases snapshot_of_observes "t" "g" 2 10 (by decide) 5 unevenLags _ present
    ((second.append third).append waited) with ⟨answers, _, _, _, _, stopped⟩
  have answersLater := (stopped [] later rested).2
  refine ⟨by decide +kernel, by decide +kernel, ?_, ?_⟩
  · convert answers using 1
    decide +kernel
  · convert answersLater using 1
    decide +kernel

end FrontierBus.Admission
