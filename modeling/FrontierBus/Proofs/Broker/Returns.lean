import FrontierBus.Proofs.Broker.Portions

/-!
# Partitions that come back

A session is not told when it loses a partition or gets it back. It finds out when it reads, and
forgets then where it stood in what it does not own. So where it goes on after a partition has come
back depends on whether it has read while the partition was away.
-/

namespace FrontierBus.Broker

variable {reader : Reader} {partition : Nat} {broker before : Broker} {action : Action}
  {kept : Option Stretch} {actions early away back : List Action} {topic group : String} {id : Nat}

/-- The action is a poll of the session, and it is served. -/
def Action.isReadOf (reader : Reader) (broker : Broker) (action : Action) : Bool :=
  match action with
  | .ask (.poll poller limit patience) =>
    poller = reader && (broker.step (.ask (.poll poller limit patience))).1.isOk
  | _ => false

/-- The session reads along a run. -/
def reads (reader : Reader) (broker : Broker) (actions : List Action) : Bool :=
  noted (fun broker action known => known || action.isReadOf reader broker) broker false actions

theorem reads_concat (reader : Reader) (broker : Broker) (actions : List Action) (action : Action) :
    reads reader broker (actions ++ [action]) =
      (reads reader broker actions || action.isReadOf reader (broker.run actions)) :=
  noted_concat broker false actions action

/-- A partition that a session owned is taken from it, it does not own it along `away`, and has it
again since. It has not read since then. -/
structure Regains (reader : Reader) (partition : Nat) (early away back : List Action) : Prop where
  owned : partition ∈ (empty.run early).assigned reader
  isLost : away ≠ []
  lost : ∀ front, front <+: away → front ≠ [] →
    partition ∉ (empty.run (early ++ front)).assigned reader
  regained : ∀ front, front <+: back → front ≠ [] →
    partition ∈ (empty.run (early ++ away ++ front)).assigned reader
  isBack : back ≠ []
  unread : reads reader (empty.run (early ++ away)) back = false

theorem Action.isReadOf_eq_true :
    action.isReadOf reader broker = true ↔
      ∃ limit patience handed, action = .ask (.poll reader limit patience) ∧
        (broker.step (.ask (.poll reader limit patience))).1 = .ok handed := by
  constructor
  · intro read
    cases action with
    | ask request =>
        cases request with
        | poll poller limit patience =>
            simp only [isReadOf, Bool.and_eq_true, decide_eq_true_eq] at read
            rcases read with ⟨rfl, isOk⟩
            cases answered : (broker.step (.ask (.poll poller limit patience))).1 with
            | ok handed => exact ⟨limit, patience, handed, rfl, answered⟩
            | error fault =>
                rw [answered] at isOk
                cases isOk
        | _ => cases read
    | _ => cases read
  · rintro ⟨limit, patience, handed, rfl, answered⟩
    simp only [isReadOf, decide_true, Bool.true_and, answered]
    rfl

/-- A session keeps what it had of a partition as long as it does not read or leave. -/
theorem keeps_of_not_read (noRead : action.isReadOf reader broker = false)
    (stays : action.isLeaveOf reader = false) :
    keeps reader partition broker action kept = kept := by
  cases polls : action.isPollOf reader with
  | false => exact keeps_of_beside polls stays
  | true =>
      rcases Action.isPollOf_eq_true.mp polls with ⟨limit, patience, rfl⟩
      cases answered : (broker.step (.ask (.poll reader limit patience))).1 with
      | error fault => simp only [keeps, if_true, answered]
      | ok handed =>
          rw [Action.isReadOf_eq_true.mpr ⟨limit, patience, handed, rfl, answered⟩] at noRead
          cases noRead

/-- A session that reads gives up what it does not own. -/
theorem keeps_of_read (read : action.isReadOf reader broker = true)
    (notOwned : partition ∉ (broker.step action).2.assigned reader) :
    keeps reader partition broker action kept = none := by
  rcases Action.isReadOf_eq_true.mp read with ⟨limit, patience, handed, rfl, answered⟩
  rw [(kept_of_poll broker reader limit patience).2] at notOwned
  simp only [keeps, if_true, answered, if_neg notOwned]

/-- A session that has given a partition up keeps nothing of it until it reads. -/
theorem keeps_none_of_not_read (noRead : action.isReadOf reader broker = false) :
    keeps reader partition broker action none = none := by
  cases leaves : action.isLeaveOf reader with
  | false => exact keeps_of_not_read noRead leaves
  | true =>
      rw [Action.isLeaveOf_eq_true] at leaves
      subst leaves
      simp [keeps]

/-- If a session reads while a partition is away, it has given it up when the partition is still
away in the end. -/
theorem stretch?_of_reads
    (lost : ∀ front, front <+: away → front ≠ [] →
      partition ∉ (empty.run (early ++ front)).assigned reader)
    (read : reads reader (empty.run early) away = true) :
    stretch? reader partition (early ++ away) = none := by
  induction away using List.reverseRecOn with
  | nil => cases read
  | append_singleton away action hypothesis =>
      rw [← List.append_assoc, stretch?_concat]
      cases now : action.isReadOf reader (empty.run (early ++ away)) with
      | true =>
          apply keeps_of_read now
          rw [← run_concat, List.append_assoc]
          exact lost _ List.prefix_rfl (by simp)
      | false =>
          have before : reads reader (empty.run early) away = true := by
            rw [reads_concat, ← run_append, now, Bool.or_false] at read
            exact read
          rw [hypothesis (fun front beginning => lost front
            (beginning.trans (List.prefix_append away [action]))) before]
          exact keeps_none_of_not_read now

theorem wanted?_step_of_gone (gone : (before.group topic group).wanted? id = none)
    (numbered : id < before.nextMember) (action : Action) :
    ((before.step action).2.group topic group).wanted? id = none := by
  cases groupStep before action topic group with
  | kept changed => rw [changed, gone]
  | joined _ changed _ =>
      rw [changed, Group.wanted?_enlist, gone, if_neg (Nat.ne_of_gt numbered)]
      rfl
  | polled _ _ _ changed => rw [changed, Group.wanted?_setCursors, gone]
  | committed _ changed => rw [changed, Group.wanted?_commit, gone]
  | left changed =>
      rw [changed, Group.wanted?_dismiss]
      split
      · rfl
      · exact gone

/-- Whoever is gone does not come back under the same number. -/
theorem wanted?_run_of_gone (gone : (before.group topic group).wanted? id = none)
    (numbered : id < before.nextMember) (actions : List Action) :
    ((before.run actions).group topic group).wanted? id = none := by
  induction actions using List.reverseRecOn with
  | nil => exact gone
  | append_singleton actions action hypothesis =>
      rw [run_concat]
      have later := Nat.lt_of_lt_of_le numbered (nextMember_le_run before actions)
      exact wanted?_step_of_gone hypothesis later action

/-- If a session goes on without reading, it keeps what it had. -/
theorem stretch?_of_unread (numbered : reader.member < (empty.run early).nextMember)
    (live : ((empty.run (early ++ actions)).group reader.topic reader.group).wanted?
      reader.member ≠ none)
    (unread : reads reader (empty.run early) actions = false) :
    stretch? reader partition (early ++ actions) = stretch? reader partition early := by
  induction actions using List.reverseRecOn with
  | nil => rw [List.append_nil]
  | append_singleton actions action hypothesis =>
      rw [← List.append_assoc, run_concat] at live
      rw [reads_concat, ← run_append, Bool.or_eq_false_iff] at unread
      have stays : action.isLeaveOf reader = false := by
        rw [Bool.eq_false_iff]
        intro leaves
        rw [Action.isLeaveOf_eq_true] at leaves
        subst leaves
        rw [group_of_leave, Group.wanted?_dismiss, if_pos rfl] at live
        exact live rfl
      rw [← List.append_assoc, stretch?_concat, keeps_of_not_read unread.2 stays]
      refine hypothesis ?_ unread.1
      intro gone
      refine live (wanted?_step_of_gone gone ?_ action)
      rw [run_append]
      exact Nat.lt_of_lt_of_le numbered (nextMember_le_run _ actions)

/-- A session stands at the end of the stretch that it keeps, or else at the checkpoint. -/
theorem position_eq_place (owned : partition ∈ (empty.run actions).assigned reader) :
    (empty.run actions).position reader partition =
      .ok (((stretch? reader partition actions).map Stretch.place).getD
        (((empty.run actions).checkpoint? reader.topic reader.group partition).getD 0)) := by
  rw [position_of_owned owned, ← (follows_run actions reader partition).remembered_eq]
  rfl

theorem wanted?_of_owned (owned : partition ∈ broker.assigned reader) :
    (broker.group reader.topic reader.group).wanted? reader.member ≠ none := by
  intro gone
  rw [Group.wanted?, Option.map_eq_none_iff] at gone
  rw [assigned_eq, Group.assigned_of_member?_none gone] at owned
  cases owned

theorem numbered_of_owned (owned : partition ∈ (empty.run actions).assigned reader) :
    reader.member < (empty.run actions).nextMember := by
  rcases Option.ne_none_iff_exists'.mp (wanted?_of_owned owned) with ⟨assignment, wants⟩
  rcases Group.wanted?_eq_some.mp wants with ⟨member, live, _⟩
  rw [← Group.id_of_member? live]
  exact (wellFormed_run actions reader.topic reader.group).id_lt member
    (Group.mem_members_of_member? live)

namespace Regains

theorem owned_now (regains : Regains reader partition early away back) :
    partition ∈ (empty.run (early ++ away ++ back)).assigned reader :=
  regains.regained back List.prefix_rfl regains.isBack

/-- What the session keeps when the partition is back. -/
theorem stretch?_eq (regains : Regains reader partition early away back) :
    stretch? reader partition (early ++ away ++ back) =
      if reads reader (empty.run early) away then none else stretch? reader partition early := by
  have live := wanted?_of_owned regains.owned_now
  have numbered := numbered_of_owned regains.owned
  have numberedLater : reader.member < (empty.run (early ++ away)).nextMember := by
    rw [run_append]
    exact Nat.lt_of_lt_of_le numbered (nextMember_le_run _ away)
  rw [stretch?_of_unread numberedLater live regains.unread]
  split
  · rename_i read
    exact stretch?_of_reads regains.lost read
  · rename_i unread
    apply stretch?_of_unread numbered ?_ (Bool.eq_false_iff.mpr unread)
    intro gone
    rw [run_append] at live
    exact live (wanted?_run_of_gone gone numberedLater back)

end Regains

/-- A poll hands a session the messages of a partition from its position on. -/
theorem map_offset_portion {position : Nat} (owned : partition ∈ broker.assigned reader)
    (stands : broker.position reader partition = .ok position) (limit patience : Nat) :
    let messages :=
      portion (handedBy (broker.step (.ask (.poll reader limit patience))).1) partition
    messages.map Message.offset = List.range' position messages.length := by
  cases answered : (broker.step (.ask (.poll reader limit patience))).1 with
  | error fault => rfl
  | ok handed =>
      rcases (portioned_of_poll answered).goesOn partition owned with ⟨start, isStart, _, _, goesOn⟩
      rw [stands, Except.ok.injEq] at isStart
      rw [answered, ← isStart] at goesOn
      exact goesOn

/-- Both a query of its position and a poll find a session, in a partition that it has lost and got
back, at the checkpoint just if it has read while the partition was away, if it had kept nothing of
the partition before, or if it stood at the checkpoint anyway. If it has not read, it goes on behind
what it was given before the partition was taken from it. -/
theorem restarts_iff_reads (regains : Regains reader partition early away back) :
    let broker := empty.run (early ++ away ++ back)
    let checkpoint := (broker.checkpoint? reader.topic reader.group partition).getD 0
    ∃ start, broker.position reader partition = .ok start ∧
      (∀ limit patience,
        let messages :=
          portion (handedBy (broker.step (.ask (.poll reader limit patience))).1) partition
        messages.map Message.offset = List.range' start messages.length) ∧
      (start = checkpoint ↔ reads reader (empty.run early) away = true ∨
        ∀ stretch, stretch? reader partition early = some stretch → stretch.place = checkpoint) ∧
      (reads reader (empty.run early) away = false →
        ∀ stretch, stretch? reader partition early = some stretch → start = stretch.place) := by
  intro broker checkpoint
  have stands := position_eq_place regains.owned_now
  refine ⟨_, stands, map_offset_portion regains.owned_now stands, ?_⟩
  rw [regains.stretch?_eq]
  cases read : reads reader (empty.run early) away with
  | true => simp [checkpoint, broker]
  | false =>
      cases kept : stretch? reader partition early with
      | none => simp [checkpoint, broker]
      | some stretch => simp

/-- A session reads one of three records of a partition. -/
def beforeDetour : List Action :=
  [.createTopic "t" 2,
    .append "t" [⟨some 1, none, ⟨#[97]⟩⟩, ⟨some 1, none, ⟨#[98]⟩⟩, ⟨some 1, none, ⟨#[99]⟩⟩],
    .ask (.join "t" "g" .dynamic), .ask (.poll ⟨"t", "g", 0⟩ 1 0)]

/-- The session loses the partition to a newcomer. -/
def detour : List Action :=
  [.ask (.join "t" "g" .dynamic)]

/-- The newcomer leaves without having read. -/
def behindDetour : List Action :=
  [.ask (.leave ⟨"t", "g", 1⟩)]

theorem regains_detour : Regains ⟨"t", "g", 0⟩ 1 beforeDetour detour behindDetour where
  owned := by decide +kernel
  isLost := by decide
  lost := by
    intro front beginning something
    rw [beginning.eq_of_length_le (List.length_pos_iff.mpr something)]
    decide +kernel
  regained := by
    intro front beginning something
    rw [beginning.eq_of_length_le (List.length_pos_iff.mpr something)]
    decide +kernel
  isBack := by decide
  unread := by decide +kernel

/-- There is no checkpoint, but the session does not restart from the beginning. -/
theorem goes_on_behind_detour :
    Regains ⟨"t", "g", 0⟩ 1 beforeDetour detour behindDetour ∧
      (empty.run (beforeDetour ++ detour ++ behindDetour)).checkpoint? "t" "g" 1 = none ∧
      (empty.run (beforeDetour ++ detour ++ behindDetour)).position ⟨"t", "g", 0⟩ 1 = .ok 1 :=
  ⟨regains_detour, by decide +kernel, by decide +kernel⟩

theorem restarts_iff_reads_detour :
    let broker := empty.run (beforeDetour ++ detour ++ behindDetour)
    Regains ⟨"t", "g", 0⟩ 1 beforeDetour detour behindDetour ∧
      ∃ start, broker.position ⟨"t", "g", 0⟩ 1 = .ok start ∧
        (start = (broker.checkpoint? "t" "g" 1).getD 0 ↔
          reads ⟨"t", "g", 0⟩ (empty.run beforeDetour) detour = true ∨
            ∀ stretch, stretch? ⟨"t", "g", 0⟩ 1 beforeDetour = some stretch →
              stretch.place = (broker.checkpoint? "t" "g" 1).getD 0) := by
  intro broker
  rcases restarts_iff_reads regains_detour with ⟨start, stands, _, restarts, _⟩
  exact ⟨regains_detour, start, stands, restarts⟩

/-- Had the session read meanwhile, it would restart from the beginning. -/
example :
    let meanwhile : Action := .ask (.poll ⟨"t", "g", 0⟩ 1 0)
    (empty.run (beforeDetour ++ (detour ++ [meanwhile]) ++ behindDetour)).position
      ⟨"t", "g", 0⟩ 1 = .ok 0 := by
  decide +kernel

end FrontierBus.Broker
