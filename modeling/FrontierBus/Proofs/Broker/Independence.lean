import FrontierBus.Proofs.Broker.Likeness

/-!
# Independent groups

What the consumers of some groups do is no concern of the others: without it everyone else is told
the same, and the topics have the same records. Only the numbers of the sessions are others. It takes
that no request is made to fail, since it is whoever comes next that fails then.
-/

namespace FrontierBus

namespace Request

/-- The request with another number for its session. -/
def rename (rename : Nat → Nat) : Request → Request
  | .poll reader limit patience => .poll (reader.rename rename) limit patience
  | .position reader partition => .position (reader.rename rename) partition
  | .committed reader partition => .committed (reader.rename rename) partition
  | .commit reader => .commit (reader.rename rename)
  | .leave reader => .leave (reader.rename rename)
  | request => request

/-- The request concerns a group that is kept, or no group. -/
def concerns (kept : String → String → Bool) : Request → Bool
  | .join topic group _ => kept topic group
  | .poll reader _ _ => kept reader.topic reader.group
  | .position reader _ => kept reader.topic reader.group
  | .committed reader _ => kept reader.topic reader.group
  | .commit reader => kept reader.topic reader.group
  | .leave reader => kept reader.topic reader.group
  | .offsets topic group _ => kept topic group
  | _ => true

/-- The request opens a session of a consumer or is made in one. -/
def isOfConsumer : Request → Bool
  | .join .. => true
  | .poll .. => true
  | .position .. => true
  | .committed .. => true
  | .commit _ => true
  | .leave _ => true
  | _ => false

end Request

namespace Broker

namespace Action

/-- The action with another number for its session. -/
def rename (rename : Nat → Nat) : Action → Action
  | .ask request => .ask (request.rename rename)
  | action => action

/-- The action concerns a group that is kept, or no group. -/
def concerns (kept : String → String → Bool) : Action → Bool
  | .readCheckpoint topic group _ => kept topic group
  | .countMembers topic group => kept topic group
  | .ask request => request.concerns kept
  | _ => true

/-- The action is one of a consumer. -/
def isOfConsumer : Action → Bool
  | .ask request => request.isOfConsumer
  | _ => false

/-- What remains of a run without the consumers of the groups that are not kept. -/
def remains (kept : String → String → Bool) (action : Action) : Bool :=
  action.concerns kept || !action.isOfConsumer

end Action

/-- An action with what it told its author. -/
abbrev Entry := (action : Action) × action.Outcome

/-- The entry with another number for its session. -/
def Entry.rename (rename : Nat → Nat) : Entry → Entry
  | ⟨.ask (.join topic group assignment), answer⟩ =>
    ⟨.ask (.join topic group assignment), Except.map rename answer⟩
  | ⟨.ask (.poll reader limit patience), answer⟩ =>
    ⟨.ask (.poll (reader.rename rename) limit patience), answer⟩
  | ⟨.ask (.position reader partition), answer⟩ =>
    ⟨.ask (.position (reader.rename rename) partition), answer⟩
  | ⟨.ask (.committed reader partition), answer⟩ =>
    ⟨.ask (.committed (reader.rename rename) partition), answer⟩
  | ⟨.ask (.commit reader), answer⟩ => ⟨.ask (.commit (reader.rename rename)), answer⟩
  | ⟨.ask (.leave reader), answer⟩ => ⟨.ask (.leave (reader.rename rename)), answer⟩
  | entry => entry

/-- The number of the session that an action has opened, if it has opened one. -/
def Entry.opened? : Entry → Option Nat
  | ⟨.ask (.join ..), answer⟩ => Except.toOption answer
  | _ => none

/-- What happens in a run and what is told. -/
def transcript : Broker → List Action → List Entry
  | _, [] => []
  | broker, action :: actions =>
    ⟨action, (broker.step action).1⟩ :: transcript (broker.step action).2 actions

variable {kept : String → String → Bool} {rename : Nat → Nat} {broker other : Broker}
  {action : Action}

theorem Matches.entry {result otherResult : action.Outcome × Broker}
    (same : Matches kept rename result otherResult) :
    (⟨action, otherResult.1⟩ : Entry) = ⟨action, result.1⟩ ∧
      Alike kept rename result.2 otherResult.2 :=
  ⟨congrArg (Sigma.mk action) same.1, same.2⟩

/-- A request that concerns a group that is kept, or none, is answered alike. -/
theorem request_alike (injective : Function.Injective rename)
    (alike : Alike kept rename broker other) {request : Request}
    (concerned : request.concerns kept = true)
    (numbered : ∀ id, Entry.opened? ⟨.ask request, (broker.step (.ask request)).1⟩ = some id →
      rename id = other.nextMember) :
    (⟨.ask (request.rename rename), (other.step (.ask (request.rename rename))).1⟩ : Entry) =
        Entry.rename rename ⟨.ask request, (broker.step (.ask request)).1⟩ ∧
      Alike kept rename (broker.step (.ask request)).2
        (other.step (.ask (request.rename rename))).2 := by
  cases request with
  | partitionCount topic =>
      exact Matches.entry (alike.question topic (fun topic => .ok topic.count) fun _ _ _ _ => rfl)
  | join topic group assignment =>
      have told := alike.join concerned assignment fun id answered =>
        numbered id (congrArg Except.toOption answered)
      exact ⟨congrArg (Sigma.mk (Action.ask (.join topic group assignment))) told.1, told.2⟩
  | openProducer topic connection =>
      exact Matches.entry (alike.question topic (fun _ => .ok ()) fun _ _ _ _ => rfl)
  | openProbe topic group =>
      exact Matches.entry (alike.question topic (fun _ => .ok ()) fun _ _ _ _ => rfl)
  | poll reader limit patience => exact Matches.entry (alike.poll injective concerned limit)
  | position reader partition =>
      exact Matches.entry ⟨alike.position injective concerned partition, alike⟩
  | committed reader partition => exact Matches.entry (alike.committed concerned partition)
  | commit reader => exact Matches.entry (alike.commit injective concerned)
  | leave reader => exact Matches.entry ⟨rfl, alike.leave injective concerned⟩
  | deliver topic records =>
      have told := alike.deliver topic records
      exact Matches.entry ⟨congrArg some told.1, told.2⟩
  | closeProducer topic => exact Matches.entry ⟨rfl, alike⟩
  | offsets topic group count =>
      exact Matches.entry (alike.offsets concerned count)

/-- An action that concerns a group that is kept, or none, is answered alike. -/
theorem action_alike (injective : Function.Injective rename)
    (alike : Alike kept rename broker other) (concerned : action.concerns kept = true)
    (calm : ∀ count, action ≠ .failNext count)
    (numbered : ∀ id, Entry.opened? ⟨action, (broker.step action).1⟩ = some id →
      rename id = other.nextMember) :
    (⟨action.rename rename, (other.step (action.rename rename)).1⟩ : Entry) =
        Entry.rename rename ⟨action, (broker.step action).1⟩ ∧
      Alike kept rename (broker.step action).2 (other.step (action.rename rename)).2 := by
  cases action with
  | createTopic topic count => exact Matches.entry (alike.createTopic topic count)
  | disconnect =>
      exact Matches.entry ⟨rfl, rfl, alike.calm, alike.otherCalm, alike.records_eq, alike.group_eq⟩
  | reconnect =>
      exact Matches.entry ⟨rfl, rfl, alike.calm, alike.otherCalm, alike.records_eq, alike.group_eq⟩
  | failNext count => exact absurd rfl (calm count)
  | append topic records => exact Matches.entry (alike.append topic records)
  | readWatermark topic partition =>
      exact Matches.entry ⟨alike.highWatermark? topic partition, alike⟩
  | readCheckpoint topic group partition =>
      exact Matches.entry ⟨alike.checkpoint? concerned partition, alike⟩
  | countMembers topic group => exact Matches.entry ⟨alike.memberCount concerned, alike⟩
  | ask request => exact request_alike injective alike concerned numbered

/-- What a consumer of another group does may befall one of the brokers alone. -/
theorem consumer_alike (alike : Alike kept rename broker other)
    (notConcerned : action.concerns kept = false) (isOfConsumer : action.isOfConsumer = true) :
    Alike kept rename (broker.step action).2 other := by
  cases action with
  | ask request =>
      cases request with
      | join topic group assignment => exact alike.join_left notConcerned assignment
      | poll reader limit patience => exact alike.poll_left notConcerned limit
      | position reader partition => exact alike
      | committed reader partition => exact alike.reaching_left alike
      | commit reader =>
          have left := alike.updateGroup_left notConcerned fun count group =>
            group.commit count reader.member
          exact alike.reaching_left left
      | leave reader =>
          exact alike.updateGroup_left notConcerned fun _ group => group.dismiss reader.member
      | _ => cases isOfConsumer
  | _ => cases isOfConsumer

/-- A look at another group changes nothing. -/
theorem look_alike (alike : Alike kept rename broker other)
    (notConcerned : action.concerns kept = false) (isLook : action.isOfConsumer = false) :
    action.rename rename = action ∧
      Alike kept rename (broker.step action).2 (other.step action).2 := by
  cases action with
  | readCheckpoint topic group partition => exact ⟨rfl, alike⟩
  | countMembers topic group => exact ⟨rfl, alike⟩
  | ask request =>
      cases request with
      | offsets topic group count =>
          have same := question_of_calm alike.calm topic fun topic' =>
            topic'.offsets topic group count
          have otherSame := question_of_calm alike.otherCalm topic fun topic' =>
            topic'.offsets topic group count
          refine ⟨rfl, ?_⟩
          change Alike kept rename (broker.offsets topic group count).2
            (other.offsets topic group count).2
          rw [Broker.offsets, same, otherSame]
          exact alike
      | _ => simp [Action.isOfConsumer, Request.isOfConsumer, Action.concerns, Request.concerns] at *
  | _ => cases notConcerned

/-- Whoever does not join leaves the next number as it is. -/
theorem nextMember_of_not_join
    (noJoin : ∀ topic group assignment, action ≠ .ask (.join topic group assignment)) :
    (broker.step action).2.nextMember = broker.nextMember := by
  have effect := effect_step action broker
  generalize (broker.step action).2 = after at effect
  cases effect with
  | joined => exact absurd rfl (noJoin _ _ _)
  | nothing _ nextMember_eq => exact nextMember_eq
  | created _ _ nextMember_eq => exact nextMember_eq
  | extended _ _ _ nextMember_eq => exact nextMember_eq
  | polled _ _ _ _ nextMember_eq => exact nextMember_eq
  | committed _ _ _ nextMember_eq => exact nextMember_eq
  | left _ _ nextMember_eq => exact nextMember_eq

/-- A session that is opened has the next number; otherwise the next number stays. -/
theorem nextMember_step (broker : Broker) (action : Action) :
    (Entry.opened? ⟨action, (broker.step action).1⟩ = none ∧
        (broker.step action).2.nextMember = broker.nextMember) ∨
      (Entry.opened? ⟨action, (broker.step action).1⟩ = some broker.nextMember ∧
        (broker.step action).2.nextMember = broker.nextMember + 1) := by
  cases action with
  | ask request =>
      cases request with
      | join topic group assignment =>
          change (Except.toOption (broker.join topic group assignment).1 = none ∧
              (broker.join topic group assignment).2.nextMember = broker.nextMember) ∨
            (Except.toOption (broker.join topic group assignment).1 = some broker.nextMember ∧
              (broker.join topic group assignment).2.nextMember = broker.nextMember + 1)
          rcases join_cases topic group assignment broker with
            ⟨found, exist, _, admitted⟩ | ⟨fault, left, refused⟩
          · rw [admitted]
            exact Or.inr ⟨rfl, rfl⟩
          · rw [refused]
            exact Or.inl ⟨rfl, rfl⟩
      | _ => exact Or.inl ⟨rfl, nextMember_of_not_join fun _ _ _ same => by cases same⟩
  | _ => exact Or.inl ⟨rfl, nextMember_of_not_join fun _ _ _ same => by cases same⟩

/-- What is told of groups that are kept, or of none. -/
def toldTo (kept : String → String → Bool) (entries : List Entry) : List Entry :=
  entries.filter fun entry => entry.1.concerns kept

/-- The numbers of the sessions of groups that are kept, in the order in which they are opened. -/
def opened (kept : String → String → Bool) (broker : Broker) (actions : List Action) : List Nat :=
  (toldTo kept (broker.transcript actions)).filterMap Entry.opened?

/-- A run without the consumers of groups that are not kept, with other numbers for its sessions. -/
def remaining (kept : String → String → Bool) (rename : Nat → Nat) (actions : List Action) :
    List Action :=
  (actions.filter (Action.remains kept)).map (Action.rename rename)

variable {actions : List Action}

theorem opened_cons (kept : String → String → Bool) (broker : Broker) (action : Action)
    (actions : List Action) :
    opened kept broker (action :: actions) =
      (if action.concerns kept then (Entry.opened? ⟨action, (broker.step action).1⟩).toList else []) ++
        opened kept (broker.step action).2 actions := by
  simp only [opened, toldTo, transcript, List.filter_cons]
  split
  · rw [List.filterMap_cons]
    cases Entry.opened? ⟨action, (broker.step action).1⟩ with
    | none => rfl
    | some id => rfl
  · rfl

/-- Numbers are given out in order, so no two sessions have the same. -/
theorem opened_spec (kept : String → String → Bool) (broker : Broker) (actions : List Action) :
    (opened kept broker actions).Pairwise (· < ·) ∧
      ∀ id ∈ opened kept broker actions, broker.nextMember ≤ id := by
  induction actions generalizing broker with
  | nil => simp [opened, transcript, toldTo]
  | cons action actions hypothesis =>
      rcases hypothesis (broker.step action).2 with ⟨sorted, notBefore⟩
      rw [opened_cons]
      rcases nextMember_step broker action with ⟨none, same⟩ | ⟨some, next⟩
      · rw [same] at notBefore
        simpa [none] using ⟨sorted, notBefore⟩
      · rw [some]
        split
        · refine ⟨List.pairwise_cons.mpr ⟨?_, sorted⟩, List.forall_mem_cons.mpr ⟨Nat.le_refl _, ?_⟩⟩
          · intro id later
            have behind := notBefore id later
            omega
          · intro id later
            have behind := notBefore id later
            omega
        · refine ⟨sorted, ?_⟩
          intro id later
          have behind := notBefore id later
          omega

@[simp]
theorem Action.concerns_rename (kept : String → String → Bool) (rename : Nat → Nat)
    (action : Action) : (action.rename rename).concerns kept = action.concerns kept := by
  cases action with
  | ask request =>
      cases request with
      | _ => rfl
  | _ => rfl

theorem Entry.opened?_rename (rename : Nat → Nat) (entry : Entry) :
    (entry.rename rename).opened? = entry.opened?.map rename := by
  rcases entry with ⟨action, answer⟩
  cases action with
  | ask request =>
      cases request with
      | join topic group assignment =>
          cases answer with
          | error fault => rfl
          | ok id => rfl
      | _ => rfl
  | _ => rfl

/-- The other numbers of sessions, in the order in which they are opened, are those from `next` on. -/
def Numbered (rename : Nat → Nat) (next : Nat) (ids : List Nat) : Prop :=
  ids.map rename = List.range' next ids.length

/-- An action that concerns a group that is kept, or none, is answered alike, and if it opens a session
the next number is used up on both brokers. -/
theorem concerned_step {ids : List Nat} (injective : Function.Injective rename)
    (alike : Alike kept rename broker other) (concerned : action.concerns kept = true)
    (calm : ∀ count, action ≠ .failNext count)
    (numbered : Numbered rename other.nextMember
      ((Entry.opened? ⟨action, (broker.step action).1⟩).toList ++ ids)) :
    (⟨action.rename rename, (other.step (action.rename rename)).1⟩ : Entry) =
        Entry.rename rename ⟨action, (broker.step action).1⟩ ∧
      Alike kept rename (broker.step action).2 (other.step (action.rename rename)).2 ∧
      Numbered rename (other.step (action.rename rename)).2.nextMember ids := by
  have others := nextMember_step other (action.rename rename)
  rcases nextMember_step broker action with ⟨nobody, _⟩ | ⟨somebody, _⟩
  · have unused : ∀ id, Entry.opened? ⟨action, (broker.step action).1⟩ = some id →
        rename id = other.nextMember := by
      intro id isOpened
      rw [nobody] at isOpened
      cases isOpened
    rcases action_alike injective alike concerned calm unused with ⟨told, after⟩
    rw [told, Entry.opened?_rename, nobody] at others
    rw [nobody] at numbered
    rcases others with ⟨_, same⟩ | ⟨absurdly, _⟩
    · exact ⟨told, after, same ▸ numbered⟩
    · cases absurdly
  · rw [somebody] at numbered
    have both : rename broker.nextMember :: ids.map rename =
        other.nextMember :: List.range' (other.nextMember + 1) ids.length := numbered
    rw [List.cons.injEq] at both
    have isNext : ∀ id, Entry.opened? ⟨action, (broker.step action).1⟩ = some id →
        rename id = other.nextMember := by
      intro id isOpened
      rw [somebody, Option.some.injEq] at isOpened
      rw [← isOpened]
      exact both.1
    rcases action_alike injective alike concerned calm isNext with ⟨told, after⟩
    rw [told, Entry.opened?_rename, somebody] at others
    rcases others with ⟨absurdly, _⟩ | ⟨_, next⟩
    · cases absurdly
    · rw [next]
      exact ⟨told, after, both.2⟩

/-- A look at another group opens no session. -/
theorem nextMember_of_look (isLook : action.isOfConsumer = false) :
    (broker.step action).2.nextMember = broker.nextMember := by
  apply nextMember_of_not_join
  rintro topic group assignment rfl
  cases isLook

/-- Two brokers that are alike tell the same in a run and in what remains of it, and are alike
afterwards. -/
theorem transcript_alike (injective : Function.Injective rename)
    (alike : Alike kept rename broker other) (calm : ∀ count, .failNext count ∉ actions)
    (numbered : Numbered rename other.nextMember (opened kept broker actions)) :
    toldTo kept (other.transcript (remaining kept rename actions)) =
        (toldTo kept (broker.transcript actions)).map (Entry.rename rename) ∧
      Alike kept rename (broker.run actions) (other.run (remaining kept rename actions)) := by
  induction actions generalizing broker other with
  | nil => exact ⟨rfl, alike⟩
  | cons action actions hypothesis =>
      have calmFirst : ∀ count, action ≠ .failNext count := by
        rintro count rfl
        exact calm count List.mem_cons_self
      have calmRest : ∀ count, .failNext count ∉ actions :=
        fun count later => calm count (List.mem_cons_of_mem _ later)
      rw [opened_cons] at numbered
      cases concerned : action.concerns kept with
      | true =>
          have isLeft : remaining kept rename (action :: actions) =
              action.rename rename :: remaining kept rename actions := by
            simp [remaining, Action.remains, concerned]
          rw [concerned, if_pos rfl] at numbered
          rcases concerned_step injective alike concerned calmFirst numbered with
            ⟨told, after, numberedRest⟩
          rcases hypothesis after calmRest numberedRest with ⟨toldRest, final⟩
          rw [isLeft]
          refine ⟨?_, final⟩
          simp only [toldTo, transcript, List.filter_cons, Action.concerns_rename, concerned, if_true,
            List.map_cons]
          rw [told]
          exact congrArg _ toldRest
      | false =>
          rw [concerned, if_neg Bool.false_ne_true, List.nil_append] at numbered
          cases consumes : action.isOfConsumer with
          | true =>
              have isLeft : remaining kept rename (action :: actions) =
                  remaining kept rename actions := by
                simp [remaining, Action.remains, concerned, consumes]
              have after := consumer_alike alike concerned consumes
              rcases hypothesis after calmRest numbered with ⟨toldRest, final⟩
              rw [isLeft]
              refine ⟨?_, final⟩
              simp only [toldTo, transcript, List.filter_cons, concerned]
              exact toldRest
          | false =>
              rcases look_alike alike concerned consumes with ⟨unnamed, after⟩
              have isLeft : remaining kept rename (action :: actions) =
                  action :: remaining kept rename actions := by
                simp [remaining, Action.remains, concerned, consumes, unnamed]
              rw [← nextMember_of_look consumes] at numbered
              rcases hypothesis after calmRest numbered with ⟨toldRest, final⟩
              rw [isLeft]
              refine ⟨?_, final⟩
              simp only [toldTo, transcript, List.filter_cons, concerned]
              exact toldRest

/-- The other number of a session that is the `n`th to be opened is `n`. Other numbers are put behind
all of these. -/
def numbering (ids : List Nat) (id : Nat) : Nat :=
  if id ∈ ids then ids.idxOf id else ids.length + id

theorem numbering_injective (ids : List Nat) : Function.Injective (numbering ids) := by
  intro first second same
  simp only [numbering] at same
  split at same
  · rename_i firstAmong
    have inside := List.idxOf_lt_length_of_mem firstAmong
    split at same
    · exact (List.idxOf_inj firstAmong).mp same
    · omega
  · split at same
    · rename_i secondAmong
      have inside := List.idxOf_lt_length_of_mem secondAmong
      omega
    · omega

theorem numbered_numbering {ids : List Nat} (distinct : ids.Nodup) :
    Numbered (numbering ids) 0 ids := by
  apply List.ext_getElem
  · simp
  · intro place inside _
    have isIndex := distinct.idxOf_getElem place (by simpa using inside)
    simp [numbering, isIndex]

theorem alike_empty (kept : String → String → Bool) (rename : Nat → Nat) :
    Alike kept rename empty empty :=
  ⟨rfl, rfl, rfl, fun _ => rfl, fun _ _ _ => rfl⟩

/-- Without the consumers of other groups, a run in which no request is made to fail tells everyone
else the same, but for the numbers of the sessions; the topics have the same records after it, and
the sessions the same partitions. -/
theorem toldTo_remaining (kept : String → String → Bool)
    (calm : ∀ count, .failNext count ∉ actions) :
    ∃ rename : Nat → Nat, Function.Injective rename ∧
      toldTo kept (empty.transcript (remaining kept rename actions)) =
        (toldTo kept (empty.transcript actions)).map (Entry.rename rename) ∧
      (∀ topic, (empty.run (remaining kept rename actions)).width topic =
          (empty.run actions).width topic ∧
        ∀ partition, (empty.run (remaining kept rename actions)).messages topic partition =
          (empty.run actions).messages topic partition) ∧
      ∀ reader, kept reader.topic reader.group = true →
        (empty.run (remaining kept rename actions)).assigned (reader.rename rename) =
          (empty.run actions).assigned reader := by
  let ids := opened kept empty actions
  have injective := numbering_injective ids
  have distinct : ids.Nodup := (opened_spec kept empty actions).1.imp fun less => Nat.ne_of_lt less
  rcases transcript_alike injective (alike_empty kept _) calm (numbered_numbering distinct) with
    ⟨told, alike⟩
  refine ⟨numbering ids, injective, told, ?_, ?_⟩
  · intro topic
    exact ⟨alike.width_eq topic, alike.messages_eq topic⟩
  · intro reader isKept
    exact alike.assigned injective isKept

/-- Consumers of two groups read one record, and one group checks it off. -/
def sideBySide : List Action :=
  [.createTopic "t" 1, .ask (.join "t" "other" .dynamic), .ask (.join "t" "own" .dynamic),
    .append "t" [⟨none, none, ⟨#[97]⟩⟩], .ask (.poll ⟨"t", "other", 0⟩ 1 0),
    .ask (.commit ⟨"t", "other", 0⟩), .ask (.poll ⟨"t", "own", 1⟩ 1 0),
    .ask (.offsets "t" "own" 1)]

theorem toldTo_sideBySide :
    let kept := fun _ group => group == "own"
    (toldTo kept (empty.transcript sideBySide)).length = 5 ∧
      ∃ rename, Function.Injective rename ∧
        toldTo kept (empty.transcript (remaining kept rename sideBySide)) =
          (toldTo kept (empty.transcript sideBySide)).map (Entry.rename rename) := by
  intro kept
  have calm : ∀ count, .failNext count ∉ sideBySide := by
    intro count
    simp [sideBySide]
  rcases toldTo_remaining kept calm with ⟨rename, injective, told, _⟩
  exact ⟨by decide +kernel, rename, injective, told⟩

end Broker

end FrontierBus
