import FrontierBus.Proofs.Broker.Handover
import FrontierBus.Proofs.Broker.Refusals

/-!
# Attendance

Who is present follows from what a run has answered: a session is let in with a number, and stays
until it leaves. The members of a group are the sessions of it that are present, in the order in
which they came, and no two sessions on the broker have the same number.
-/

namespace FrontierBus.Broker

section Notes

variable {Note : Type} {note : Broker → Action → Note → Note}

/-- What is known after a run if each action adds to it, as the broker finds it. -/
def noted (note : Broker → Action → Note → Note) : Broker → Note → List Action → Note
  | _, known, [] => known
  | broker, known, action :: actions =>
    noted note (broker.step action).2 (note broker action known) actions

theorem noted_append (broker : Broker) (known : Note) (front back : List Action) :
    noted note broker known (front ++ back) =
      noted note (broker.run front) (noted note broker known front) back := by
  induction front generalizing broker known with
  | nil => rfl
  | cons first front hypothesis => exact hypothesis (broker.step first).2 (note broker first known)

theorem noted_concat (broker : Broker) (known : Note) (actions : List Action) (action : Action) :
    noted note broker known (actions ++ [action]) =
      note (broker.run actions) action (noted note broker known actions) :=
  noted_append broker known actions [action]

end Notes

/-- A session leaves. -/
def Action.isLeaveOf (reader : Reader) : Action → Bool
  | .ask (.leave gone) => gone = reader
  | _ => false

theorem Action.isLeaveOf_eq_true {reader : Reader} {action : Action} :
    action.isLeaveOf reader = true ↔ action = .ask (.leave reader) := by
  constructor
  · intro leaves
    cases action with
    | ask request =>
        cases request with
        | leave gone =>
            have isReader : gone = reader := by simpa [isLeaveOf] using leaves
            rw [isReader]
        | _ => cases leaves
    | _ => cases leaves
  · rintro rfl
    simp [isLeaveOf]

/-- A consumer session that was let in, with what it asked for. -/
structure Session where
  reader : Reader
  assignment : Assignment
  deriving Repr, DecidableEq

/-- The session is one of a group on a topic. -/
def Session.isOf (topic group : String) (session : Session) : Bool :=
  session.reader.topic = topic && session.reader.group = group

/-- The number of a session, and what it asked for. -/
def Session.entry (session : Session) : Nat × Assignment :=
  (session.reader.member, session.assignment)

theorem Session.reader_eq_iff {session : Session} {reader : Reader}
    (here : session.isOf reader.topic reader.group = true) :
    session.reader = reader ↔ session.reader.member = reader.member := by
  rcases session with ⟨⟨topic, group, id⟩, assignment⟩
  rcases reader with ⟨readerTopic, readerGroup, other⟩
  simp only [isOf, Bool.and_eq_true, decide_eq_true_eq] at here
  simp [here.1, here.2]

/-- Who is present after a request, by its answer. -/
def attendedBy (present : List Session) : (request : Request) → request.Answer → List Session
  | .join topic group assignment, answer => match (answer : Except Fault Nat) with
    | .ok id => present ++ [⟨⟨topic, group, id⟩, assignment⟩]
    | .error _ => present
  | .leave reader, _ => present.filter fun session => session.reader ≠ reader
  | _, _ => present

/-- Who is present after an action, by what it is answered. -/
def attends (broker : Broker) (action : Action) (present : List Session) : List Session :=
  match action with
  | .ask request => attendedBy present request (broker.step (.ask request)).1
  | _ => present

/-- The sessions that a run has let in and that have not left. -/
def sessions (actions : List Action) : List Session :=
  noted attends empty [] actions

theorem sessions_concat (actions : List Action) (action : Action) :
    sessions (actions ++ [action]) = attends (empty.run actions) action (sessions actions) :=
  noted_concat empty [] actions action

@[simp]
theorem Group.roster_enlist (group : Group) (newcomer : Nat) (assignment : Assignment) :
    (group.enlist newcomer assignment).roster = group.roster ++ [(newcomer, assignment)] := by
  simp [roster, enlist]

@[simp]
theorem Group.roster_dismiss (group : Group) (gone : Nat) :
    (group.dismiss gone).roster = group.roster.filter fun entry => entry.1 ≠ gone := by
  simp [roster, dismiss, List.filter_map, Function.comp_def]

theorem Group.length_roster (group : Group) : group.roster.length = group.members.length := by
  simp [roster]

variable {before : Broker} {action : Action} {topic group : String} {assignment : Assignment}
  {reader : Reader} {present : List Session} {id : Nat}

/-- Whoever is let in takes a number. -/
theorem nextMember_of_join
    (answered : (before.step (.ask (.join topic group assignment))).1 = .ok id) :
    (before.step (.ask (.join topic group assignment))).2.nextMember = before.nextMember + 1 := by
  change (before.join topic group assignment).1 = .ok id at answered
  change (before.join topic group assignment).2.nextMember = _
  rcases join_cases topic group assignment before with ⟨_, _, _, admitted⟩ | ⟨_, _, refused⟩
  · rw [admitted]
    rfl
  · rw [refused] at answered
    cases answered

theorem group_of_leave (before : Broker) (reader : Reader) :
    (before.step (.ask (.leave reader))).2.group reader.topic reader.group =
      (before.group reader.topic reader.group).dismiss reader.member := by
  change (before.leave reader).group reader.topic reader.group = _
  simp only [leave, updateGroup]
  cases exist : before.topic? reader.topic with
  | none =>
      simp only [group_eq_empty exist]
      rfl
  | some found =>
      simp only
      rw [group_exchange exist, if_pos ⟨rfl, rfl⟩, group_eq_of_topic? exist]

/-- The sessions of a group that are present are its members. -/
def Attended (before : Broker) (topic group : String) (present : List Session) : Prop :=
  (before.group topic group).roster = (present.filter (Session.isOf topic group)).map Session.entry

theorem filter_isOf_attends (unchanged : action.changesRoster topic group = false) :
    (attends before action present).filter (Session.isOf topic group) =
      present.filter (Session.isOf topic group) := by
  cases action with
  | ask request =>
      cases request with
      | join name groupName assignment =>
          have elsewhere : ∀ id, Session.isOf topic group ⟨⟨name, groupName, id⟩, assignment⟩ =
              false := by
            intro id
            simpa [Session.isOf, Action.changesRoster] using unchanged
          simp only [attends, attendedBy]
          split
          · simp [elsewhere]
          · rfl
      | leave reader =>
          simp only [attends, attendedBy, List.filter_filter]
          apply List.filter_congr
          intro session _
          by_cases same : session.reader = reader
          · have elsewhere : session.isOf topic group = false := by
              simpa [Session.isOf, same, Action.changesRoster] using unchanged
            simp [elsewhere]
          · simp [same]
      | _ => rfl
  | _ => rfl

/-- Whether a session is let in or turned away, the members are those who are present. -/
theorem Attended.join (attended : Attended before topic group present) :
    Attended (before.step (.ask (.join topic group assignment))).2 topic group
      (attends before (.ask (.join topic group assignment)) present) := by
  simp only [attends]
  cases answered : (before.step (.ask (.join topic group assignment))).1 with
  | ok id =>
      rcases group_of_join answered with ⟨changed, isNext⟩
      rw [Attended, changed, Group.roster_enlist, attended, attendedBy, List.filter_append,
        List.map_append]
      simp [Session.isOf, Session.entry, isNext]
  | error fault =>
      have refused : (Action.ask (.join topic group assignment)).fault?
          (before.step (.ask (.join topic group assignment))).1 = some fault :=
        faultOf?_eq_some.mpr answered
      have intact := intact_of_fault refused
      rw [Attended, intact.roster_eq]
      exact attended

theorem Attended.leave {reader : Reader}
    (attended : Attended before reader.topic reader.group present) :
    Attended (before.step (.ask (.leave reader))).2 reader.topic reader.group
      (attends before (.ask (.leave reader)) present) := by
  rw [Attended, group_of_leave, Group.roster_dismiss, attended, List.filter_map]
  simp only [attends, attendedBy, List.filter_filter]
  congr 1
  apply List.filter_congr
  intro session _
  cases here : session.isOf reader.topic reader.group with
  | false => simp
  | true =>
      by_cases same : session.reader = reader
      · simp [same, Session.entry]
      · have otherNumber := mt (session.reader_eq_iff here).mpr same
        simp [same, otherNumber, Session.entry]

theorem Attended.step (attended : Attended before topic group present) (action : Action) :
    Attended (before.step action).2 topic group (attends before action present) := by
  cases changes : action.changesRoster topic group with
  | false =>
      rw [Attended, roster_of_unchanged changes, filter_isOf_attends changes]
      exact attended
  | true =>
      cases action with
      | ask request =>
          cases request with
          | join name groupName assignment =>
              have here : name = topic ∧ groupName = group := by
                simpa [Action.changesRoster] using changes
              rcases here with ⟨rfl, rfl⟩
              exact attended.join
          | leave reader =>
              have here : reader.topic = topic ∧ reader.group = group := by
                simpa [Action.changesRoster] using changes
              rcases here with ⟨rfl, rfl⟩
              exact attended.leave
          | _ => cases changes
      | _ => cases changes

theorem attended_run (actions : List Action) (topic group : String) :
    Attended (empty.run actions) topic group (sessions actions) := by
  induction actions using List.reverseRecOn with
  | nil => rfl
  | append_singleton actions action hypothesis =>
      rw [run_concat, sessions_concat]
      exact hypothesis.step action

/-- The sessions that are present have come in the order of their numbers, which are all below that
of the next one. -/
structure InOrder (next : Nat) (present : List Session) : Prop where
  ascending : (present.map fun session => session.reader.member).Pairwise (· < ·)
  below : ∀ session ∈ present, session.reader.member < next

theorem InOrder.step (inOrder : InOrder before.nextMember present) (action : Action) :
    InOrder (before.step action).2.nextMember (attends before action present) := by
  have kept : InOrder (before.step action).2.nextMember present :=
    ⟨inOrder.ascending, fun session isPresent =>
      Nat.lt_of_lt_of_le (inOrder.below session isPresent) (nextMember_le_step before action)⟩
  cases action with
  | ask request =>
      cases request with
      | join name groupName assignment =>
          simp only [attends]
          cases answered : (before.step (.ask (.join name groupName assignment))).1 with
          | error fault => exact kept
          | ok id =>
              have isNext : id = before.nextMember := (group_of_join answered).2
              have later := nextMember_of_join answered
              subst isNext
              constructor
              · rw [attendedBy, List.map_append, List.pairwise_append]
                refine ⟨inOrder.ascending, List.pairwise_singleton _ _, ?_⟩
                simpa using inOrder.below
              · intro session isPresent
                rw [later]
                rcases List.mem_append.mp isPresent with old | new
                · exact Nat.lt_succ_of_lt (inOrder.below session old)
                · rw [List.mem_singleton.mp new]
                  exact Nat.lt_succ_self _
      | leave reader =>
          exact ⟨inOrder.ascending.sublist (List.filter_sublist.map _), fun session isPresent =>
            kept.below session (List.mem_of_mem_filter isPresent)⟩
      | _ => exact kept
  | _ => exact kept

theorem inOrder_run (actions : List Action) :
    InOrder (empty.run actions).nextMember (sessions actions) := by
  induction actions using List.reverseRecOn with
  | nil => exact ⟨List.Pairwise.nil, by simp [sessions, noted]⟩
  | append_singleton actions action hypothesis =>
      rw [run_concat, sessions_concat]
      exact hypothesis.step action

/-- A group has as many members as sessions of it are present. -/
theorem memberCount_run (actions : List Action) (topic group : String) :
    (empty.run actions).memberCount topic group =
      (sessions actions).countP (Session.isOf topic group) := by
  rw [memberCount, ← Group.length_roster, attended_run actions topic group, List.length_map,
    List.countP_eq_length_filter]

variable {actions : List Action} {partition : Nat}

/-- A session with a member behind it is present. -/
theorem mem_sessions_of_member? {member : Member}
    (live : (empty.run actions).member? reader = some member) :
    ⟨reader, member.assignment⟩ ∈ sessions actions := by
  have listed : (member.id, member.assignment) ∈
      ((empty.run actions).group reader.topic reader.group).roster :=
    List.mem_map.mpr ⟨member, Group.mem_members_of_member? live, rfl⟩
  rw [attended_run actions reader.topic reader.group] at listed
  rcases List.mem_map.mp listed with ⟨session, isPresent, isEntry⟩
  rcases List.mem_filter.mp isPresent with ⟨among, here⟩
  rw [Session.entry, Prod.mk.injEq, Group.id_of_member? live] at isEntry
  have isReader : session.reader = reader := (session.reader_eq_iff here).mpr isEntry.1
  rw [← isReader, ← isEntry.2]
  exact among

/-- Whoever owns a partition is present. -/
theorem exists_session_of_owned (owned : partition ∈ (empty.run actions).assigned reader) :
    ∃ session ∈ sessions actions, session.reader = reader := by
  cases live : (empty.run actions).member? reader with
  | some member => exact ⟨_, mem_sessions_of_member? live, rfl⟩
  | none =>
      rw [assigned_eq, Group.assigned_of_member?_none live] at owned
      cases owned

end FrontierBus.Broker
