import FrontierBus.Proofs.Broker.Outcomes
import FrontierBus.Proofs.Broker.Refusals

/-!
# Outages

Most requests look whether the broker can be reached before they do anything. While it is connected,
each look uses up one of the failures that are left, and the request fails as long as there was one;
while it is disconnected every look fails and uses up none.
-/

namespace FrontierBus

/-- What a request is answered with if the other side cannot be reached. -/
def Request.unreached (cause : Outage) : (request : Request) → request.Answer
  | .partitionCount _ => .error (.unavailable cause)
  | .join .. => .error (.unavailable cause)
  | .openProducer .. => .error (.unavailable cause)
  | .openProbe .. => .error (.unavailable cause)
  | .poll .. => .error (.unavailable cause)
  | .position .. => .error (.unavailable cause)
  | .committed .. => .error (.unavailable cause)
  | .commit _ => .error (.unavailable cause)
  | .leave _ => ()
  | .deliver _ records => some (.uniform records.length (.error (.unavailable cause)))
  | .closeProducer _ => ()
  | .offsets .. => .error (.unavailable cause)

/-- An answer tells of a fault, as a whole or for some record. -/
def Request.Tells (fault : Fault) : (request : Request) → request.Answer → Prop
  | .deliver .., answer => ∃ report, answer = some report ∧ .error fault ∈ report.outcomes
  | request, answer => request.fault? answer = some fault

namespace Broker

/-- A request looks whether the broker can be reached. Sessions know by themselves where they stand
and that they are closed, and end without a look. -/
def looksFor (broker : Broker) : Request → Bool
  | .position .. | .leave _ | .closeProducer _ => false
  | .poll reader _ _ => (broker.member? reader).isSome
  | _ => true

/-- How often an action looks whether the broker can be reached. A passing producer does so when it
opens, and again when it delivers. -/
def Action.looks (broker : Broker) : Action → Nat
  | .append topic _ => if (broker.openOn topic).1.isOk then 2 else 1
  | .ask request => if broker.looksFor request then 1 else 0
  | _ => 0

/-- How often a run looks whether the broker can be reached, while it is connected. -/
def looksAlong : Broker → List Action → Nat
  | _, [] => 0
  | broker, action :: actions =>
    (if broker.connected then action.looks broker else 0) +
      looksAlong (broker.step action).2 actions

/-- Nothing is in the way of requests. -/
def Reachable (broker : Broker) : Prop :=
  broker.interruption.1 = none

variable {broker : Broker} {request : Request} {cause : Outage} {later : Broker}

theorem interruption_of_disconnected (disconnected : broker.connected = false) :
    broker.interruption = (some (.unavailable .disconnected), broker) := by
  simp [interruption, disconnected]

theorem interruption_of_failing {left : Nat} (connected : broker.connected = true)
    (failing : broker.failuresLeft = left + 1) :
    broker.interruption =
      (some (.unavailable .injected), { broker with failuresLeft := left }) := by
  simp [interruption, connected, failing]

theorem reachable_iff :
    broker.Reachable ↔ broker.connected = true ∧ broker.failuresLeft = 0 := by
  simp only [Reachable, interruption]
  cases broker.connected with
  | false => simp
  | true =>
      cases broker.failuresLeft with
      | zero => simp
      | succ left => simp

section Interrupted

variable (interrupted : broker.interruption = (some (.unavailable cause), later))

include interrupted

theorem reaching_of_interrupted {Answer : Type} (question : Broker → Except Fault Answer × Broker) :
    reaching question broker = (.error (.unavailable cause), later) := by
  simp [reaching, interrupted]

theorem reachingTopic_of_interrupted {Answer : Type} (name : String)
    (question : Topic → Broker → Except Fault Answer × Broker) :
    reachingTopic name question broker = (.error (.unavailable cause), later) :=
  reaching_of_interrupted interrupted _

/-- A request that looks in vain is answered by the outage. -/
theorem step_of_interrupted (looks : broker.looksFor request = true) :
    broker.step (.ask request) = (request.unreached cause, later) := by
  cases request with
  | partitionCount name => exact reachingTopic_of_interrupted interrupted name _
  | join name group assignment => exact reachingTopic_of_interrupted interrupted name _
  | openProducer name _ => exact reachingTopic_of_interrupted interrupted name _
  | openProbe name _ => exact reachingTopic_of_interrupted interrupted name _
  | poll reader limit patience =>
      rcases Option.isSome_iff_exists.mp looks with ⟨member, live⟩
      change broker.poll reader limit = _
      simp only [poll, live]
      exact reachingTopic_of_interrupted interrupted reader.topic _
  | position => cases looks
  | committed => exact reaching_of_interrupted interrupted _
  | commit => exact reaching_of_interrupted interrupted _
  | leave => cases looks
  | deliver name records =>
      have answer : broker.step (.ask (.deliver name records)) =
          (some (broker.deliver name records).1, (broker.deliver name records).2) := rfl
      rw [answer, deliver, interrupted]
      rfl
  | closeProducer => cases looks
  | offsets name group count => exact reachingTopic_of_interrupted interrupted name _

end Interrupted

/-- The faults of records that reach a topic are refusals. -/
theorem Topic.refused_of_appendAll {name : String} {topic : Topic} {records : List Record}
    {fault : Fault} (failed : .error fault ∈ (topic.appendAll name records).1) :
    ∃ refusal, fault = .refused refusal := by
  induction records generalizing topic with
  | nil => cases failed
  | cons record records hypothesis =>
      simp only [appendAll] at failed
      rcases List.mem_cons.mp failed with first | rest
      · simp only [append] at first
        split at first
        · cases first
        · split at first
          · cases first
          · cases first
            exact ⟨_, rfl⟩
      · exact hypothesis rest

section Reached

variable (reached : broker.Reachable)

include reached

theorem reaching_of_reachable {Answer : Type} (question : Broker → Except Fault Answer × Broker) :
    reaching question broker = question broker := by
  simp [reaching, interruption_of_reached reached]

theorem reachingTopic_of_reachable {Answer : Type} (name : String)
    (question : Topic → Broker → Except Fault Answer × Broker) :
    reachingTopic name question broker =
      match broker.topic? name with
      | none => (.error (.unknownTopic name), broker)
      | some topic => question topic broker :=
  reaching_of_reachable reached _

theorem fault_of_reachingTopic {Answer : Type} {name : String} {fault : Fault}
    {question : Topic → Broker → Except Fault Answer × Broker}
    (failed : (reachingTopic name question broker).1 = .error fault) :
    fault = .unknownTopic name ∨ ∃ found, (question found broker).1 = .error fault := by
  rw [reachingTopic_of_reachable reached] at failed
  split at failed
  · cases failed
    exact Or.inl rfl
  · exact Or.inr ⟨_, failed⟩

/-- A request that reaches the broker is not answered by an outage. -/
theorem not_tells_of_reachable (request : Request) (cause : Outage) :
    ¬ request.Tells (.unavailable cause) (broker.step (.ask request)).1 := by
  intro tells
  cases request with
  | partitionCount name =>
      rcases fault_of_reachingTopic reached (faultOf?_eq_some.mp tells) with isUnknown | ⟨_, failed⟩
      · cases isUnknown
      · cases failed
  | join name group assignment =>
      rcases fault_of_reachingTopic reached (faultOf?_eq_some.mp tells) with
        isUnknown | ⟨found, failed⟩
      · cases isUnknown
      · cases assignment with
        | dynamic => cases failed
        | static partition =>
            simp only at failed
            split at failed
            · cases failed
            · split at failed
              · cases failed
              · cases failed
  | openProducer name _ | openProbe name _ =>
      rcases fault_of_reachingTopic reached (faultOf?_eq_some.mp tells) with isUnknown | ⟨_, failed⟩
      · cases isUnknown
      · cases failed
  | poll reader limit patience =>
      have failed : (broker.poll reader limit).1 = .error (.unavailable cause) :=
        faultOf?_eq_some.mp tells
      simp only [poll] at failed
      split at failed
      · cases failed
      · rcases fault_of_reachingTopic reached failed with isUnknown | ⟨_, handsOut⟩
        · cases isUnknown
        · cases handsOut
  | position reader partition =>
      have failed : broker.position reader partition = .error (.unavailable cause) :=
        faultOf?_eq_some.mp tells
      simp only [position] at failed
      split at failed
      · cases failed
      · cases failed
  | committed reader partition =>
      have failed := faultOf?_eq_some.mp tells
      change (broker.committed reader partition).1 = _ at failed
      rw [committed, reaching_of_reachable reached] at failed
      cases failed
  | commit reader =>
      have failed := faultOf?_eq_some.mp tells
      change (broker.commit reader).1 = _ at failed
      rw [commit, reaching_of_reachable reached] at failed
      cases failed
  | leave => cases tells
  | deliver name records =>
      rcases tells with ⟨report, isReport, failed⟩
      change some (broker.deliver name records).1 = some report at isReport
      rw [Option.some.injEq, deliver, interruption_of_reached reached] at isReport
      simp only at isReport
      split at isReport
      · rw [← isReport, Report.uniform] at failed
        cases List.eq_of_mem_replicate failed
      · rw [← isReport] at failed
        rcases Topic.refused_of_appendAll failed with ⟨refusal, isRefused⟩
        cases isRefused
  | closeProducer => cases tells
  | offsets name group count =>
      rcases fault_of_reachingTopic reached (faultOf?_eq_some.mp tells) with
        isUnknown | ⟨found, failed⟩
      · cases isUnknown
      · simp only [Topic.offsets] at failed
        split at failed
        · cases failed
        · cases failed

end Reached

/-- Whether the broker is connected, and how many failures are left, stays as it is. -/
structure SameReach (before after : Broker) : Prop where
  connected_eq : after.connected = before.connected
  failuresLeft_eq : after.failuresLeft = before.failuresLeft

theorem SameReach.refl (broker : Broker) : broker.SameReach broker :=
  ⟨rfl, rfl⟩

theorem sameReach_updateGroup (broker : Broker) (reader : Reader)
    (change : Nat → Group → Group) : broker.SameReach (broker.updateGroup reader change) := by
  simp only [updateGroup]
  split
  · exact .refl broker
  · exact ⟨rfl, rfl⟩

theorem sameReach_reachingTopic (reached : broker.Reachable) {Answer : Type} {name : String}
    {question : Topic → Broker → Except Fault Answer × Broker}
    (same : ∀ found, broker.SameReach (question found broker).2) :
    broker.SameReach (reachingTopic name question broker).2 := by
  rw [reachingTopic_of_reachable reached]
  split
  · exact .refl broker
  · exact same _

theorem sameReach_deliver (reached : broker.Reachable) (name : String) (records : List Record) :
    broker.SameReach (broker.deliver name records).2 := by
  rw [deliver, interruption_of_reached reached]
  simp only
  split
  · exact .refl broker
  · exact ⟨rfl, rfl⟩

/-- A request that reaches the broker, or does not look, uses up no failure. -/
theorem sameReach_step (request : Request)
    (served : broker.looksFor request = true → broker.Reachable) :
    broker.SameReach (broker.step (.ask request)).2 := by
  cases request with
  | partitionCount name => exact sameReach_reachingTopic (served rfl) fun _ => .refl broker
  | join name group assignment =>
      apply sameReach_reachingTopic (served rfl)
      intro found
      cases assignment with
      | dynamic => exact ⟨rfl, rfl⟩
      | static partition =>
          simp only
          split
          · exact .refl broker
          · split
            · exact .refl broker
            · exact ⟨rfl, rfl⟩
  | openProducer name _ | openProbe name _ =>
      exact sameReach_reachingTopic (served rfl) fun _ => .refl broker
  | poll reader limit patience =>
      change broker.SameReach (broker.poll reader limit).2
      simp only [poll]
      split
      · exact .refl broker
      · rename_i member live
        refine sameReach_reachingTopic (served ?_) fun _ => ⟨rfl, rfl⟩
        simp [looksFor, live]
  | position => exact .refl broker
  | committed reader partition =>
      change broker.SameReach (broker.committed reader partition).2
      rw [committed, reaching_of_reachable (served rfl)]
      exact .refl broker
  | commit reader =>
      change broker.SameReach (broker.commit reader).2
      rw [commit, reaching_of_reachable (served rfl)]
      exact sameReach_updateGroup broker reader fun count group => group.commit count reader.member
  | leave reader =>
      exact sameReach_updateGroup broker reader fun _ group => group.dismiss reader.member
  | deliver name records => exact sameReach_deliver (served rfl) name records
  | closeProducer => exact .refl broker
  | offsets name group count => exact sameReach_reachingTopic (served rfl) fun _ => .refl broker

/-- A request that looks uses up one of the failures that are left while the broker is connected,
and none else. -/
theorem failuresLeft_ask (request : Request) (broker : Broker) :
    (broker.step (.ask request)).2.failuresLeft =
      broker.failuresLeft -
        (if broker.connected then Action.looks broker (.ask request) else 0) := by
  by_cases looks : broker.looksFor request = true
  · simp only [Action.looks, looks, if_true]
    cases connected : broker.connected with
    | false =>
        rw [step_of_interrupted (interruption_of_disconnected connected) looks]
        simp
    | true =>
        cases failing : broker.failuresLeft with
        | zero =>
            have reached := reachable_iff.mpr ⟨connected, failing⟩
            rw [(sameReach_step request fun _ => reached).failuresLeft_eq, failing, Nat.zero_sub]
        | succ left =>
            rw [step_of_interrupted (interruption_of_failing connected failing) looks]
            simp
  · simp only [Action.looks, looks]
    rw [(sameReach_step request fun isLook => absurd isLook looks).failuresLeft_eq]
    simp

/-- A passing producer looks once, and once more if it gets as far as to deliver. -/
theorem failuresLeft_append (name : String) (records : List Record) (broker : Broker) :
    (broker.step (.append name records)).2.failuresLeft =
      broker.failuresLeft -
        (if broker.connected then Action.looks broker (.append name records) else 0) := by
  cases connected : broker.connected with
  | false =>
      have turnedAway : broker.openOn name = (.error (.unavailable .disconnected), broker) :=
        reachingTopic_of_interrupted (interruption_of_disconnected connected) name _
      simp [step, turnedAway]
  | true =>
      cases failing : broker.failuresLeft with
      | zero =>
          have reached := reachable_iff.mpr ⟨connected, failing⟩
          have opens : broker.openOn name =
              match broker.topic? name with
              | none => (.error (.unknownTopic name), broker)
              | some _ => (.ok (), broker) := reachingTopic_of_reachable reached name _
          simp only [step, opens]
          cases broker.topic? name with
          | none => simp [failing]
          | some found => simp [(sameReach_deliver reached name records).failuresLeft_eq, failing]
      | succ left =>
          have turnedAway : broker.openOn name =
              (.error (.unavailable .injected), { broker with failuresLeft := left }) :=
            reachingTopic_of_interrupted (interruption_of_failing connected failing) name _
          simp [step, turnedAway, Action.looks, Except.isOk, Except.toBool]

theorem failuresLeft_createTopic (name : String) (count : Nat) (broker : Broker) :
    (broker.createTopic name count).2.failuresLeft = broker.failuresLeft := by
  simp only [createTopic]
  split
  · rfl
  · split
    · rfl
    · rfl

/-- An action sets how many requests are to fail. -/
def Action.setsFailures : Action → Bool
  | .failNext _ => true
  | _ => false

theorem failuresLeft_step {action : Action} (unset : action.setsFailures = false)
    (broker : Broker) :
    (broker.step action).2.failuresLeft =
      broker.failuresLeft - (if broker.connected then action.looks broker else 0) := by
  cases action with
  | createTopic name count =>
      change (broker.createTopic name count).2.failuresLeft = _
      simp [failuresLeft_createTopic, Action.looks]
  | failNext => cases unset
  | append name records => exact failuresLeft_append name records broker
  | ask request => exact failuresLeft_ask request broker
  | disconnect | reconnect | readWatermark | readCheckpoint | countMembers =>
      simp [step, Action.looks]

theorem failuresLeft_run {actions : List Action}
    (unset : ∀ action ∈ actions, action.setsFailures = false) (broker : Broker) :
    (broker.run actions).failuresLeft = broker.failuresLeft - broker.looksAlong actions := by
  induction actions generalizing broker with
  | nil => rfl
  | cons action actions hypothesis =>
      rw [List.forall_mem_cons] at unset
      have once := failuresLeft_step unset.1 broker
      have rest := hypothesis unset.2 (broker.step action).2
      rw [once, Nat.sub_sub] at rest
      exact rest

/-- What becomes of a request that looks whether the broker can be reached, where `spent` of the
first `allowed` looks have been made before. -/
structure Answered (broker : Broker) (request : Request) (allowed spent : Nat) : Prop where
  /-- Failures are left: the request uses up one and does nothing else. -/
  fails : broker.connected = true → spent < allowed →
    broker.step (.ask request) =
      (request.unreached .injected, { broker with failuresLeft := allowed - (spent + 1) })
  /-- None are left: whatever the answer is, it tells of no outage. -/
  served : broker.connected = true → allowed ≤ spent →
    (∀ cause, ¬ request.Tells (.unavailable cause) (broker.step (.ask request)).1) ∧
      (broker.step (.ask request)).2.failuresLeft = 0
  /-- While the broker is disconnected the request fails and uses up nothing. -/
  disconnected : broker.connected = false →
    broker.step (.ask request) = (request.unreached .disconnected, broker)

theorem answered_of_failuresLeft {allowed spent : Nat} {request : Request}
    (left_eq : broker.failuresLeft = allowed - spent) (looks : broker.looksFor request = true) :
    broker.Answered request allowed spent where
  fails := by
    intro connected some_left
    have failing : broker.failuresLeft = (allowed - (spent + 1)) + 1 := by omega
    exact step_of_interrupted (interruption_of_failing connected failing) looks
  served := by
    intro connected none_left
    have failing : broker.failuresLeft = 0 := by omega
    have reached := reachable_iff.mpr ⟨connected, failing⟩
    refine ⟨not_tells_of_reachable reached request, ?_⟩
    rw [(sameReach_step request fun _ => reached).failuresLeft_eq, failing]
  disconnected := fun connected =>
    step_of_interrupted (interruption_of_disconnected connected) looks

/-- On every broker that a run leads to: whatever is answered by a fault has changed nothing that
anyone could tell, and the rounds of a poll that waits and fails in the end have not either. A
delivery puts just the records that it acknowledges into its topic. After a setting of how many
requests are to fail, just so many of those that look while the broker is connected do fail. -/
theorem intact_of_refused (actions : List Action) :
    let broker := empty.run actions
    (∀ action fault, action.fault? (broker.step action).1 = some fault →
      broker.Intact (broker.step action).2) ∧
    (∀ (line : Timeline Broker) (reader : Reader) (limit patience : Nat) (fault : Fault)
        (front back : List (Occurrence Broker)) (exchange : Exchange), line.log = broker →
      (line.poll reader limit patience).1 = .error fault →
      line.Comes (front ++ .request exchange :: back) (line.poll reader limit patience).2 →
        let before := front.foldl Occurrence.befall broker
        before.Intact ((Occurrence.request exchange).befall before)) ∧
    (∀ name records, Delivered name records broker (broker.deliver name records).1
      (broker.deliver name records).2) ∧
    ∀ allowed later, (∀ action ∈ later, action.setsFailures = false) →
      let start := (broker.step (.failNext allowed)).2
      let now := start.run later
      now.failuresLeft = allowed - start.looksAlong later ∧
        ∀ request, now.looksFor request = true →
          now.Answered request allowed (start.looksAlong later) := by
  intro broker
  refine ⟨fun _ _ => intact_of_fault, ?_, ?_, ?_⟩
  · intro line reader limit patience fault front back exchange present failed comes
    have own := intact_of_failedPoll failed comes
    rwa [present] at own
  · intro name records
    exact delivered_deliver (fun found exist => count_pos_run actions exist) records
  · intro allowed later unset start now
    have left_eq : now.failuresLeft = allowed - start.looksAlong later :=
      failuresLeft_run unset start
    exact ⟨left_eq, fun request looks => answered_of_failuresLeft left_eq looks⟩

/-- A waiting poll is woken by a record, finds the broker failing when it looks again, and has
changed nothing; the failure is used up then. -/
theorem intact_of_refused_secondRound :
    let reader : Reader := ⟨"t", "g", 0⟩
    let broker := empty.run [.createTopic "t" 1, .ask (.join "t" "g" (.static 0))]
    let line : Timeline Broker :=
      { Timeline.start broker with
        upcoming := [(1, .append "t" [⟨none, none, .empty⟩]), (1, .failNext 1)] }
    (line.poll reader 1 5).1 = .error (.unavailable .injected) ∧
      (line.poll reader 1 5).2.log.failuresLeft = 0 ∧
      (line.since (line.poll reader 1 5).2).length = 2 ∧
      ∃ occurred, line.Comes occurred (line.poll reader 1 5).2 ∧
        ∀ front exchange back, occurred = front ++ .request exchange :: back →
          (front.foldl Occurrence.befall broker).Intact
            ((Occurrence.request exchange).befall (front.foldl Occurrence.befall broker)) := by
  intro reader broker line
  have failed : (line.poll reader 1 5).1 = .error (.unavailable .injected) := by decide +kernel
  rcases Timeline.polls_poll reader 1 5 line with ⟨occurred, comes, _⟩
  refine ⟨failed, by decide +kernel, by decide +kernel, occurred, comes, ?_⟩
  intro front exchange back isOccurred
  rw [isOccurred] at comes
  exact (intact_of_refused _).2.1 line reader 1 5 _ front back exchange rfl failed comes

end Broker

end FrontierBus
