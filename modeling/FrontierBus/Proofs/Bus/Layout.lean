import FrontierBus.Bus
import FrontierBus.Proofs.Timeline.Asking
import FrontierBus.Script

/-!
# The layout of a topic

Whatever a bus opens, it first asks how many partitions the topic has, and goes on only if the number
is in order. It asks again while no number is told, so what is told once is what counts.
-/

namespace FrontierBus

/-- What comes of an operation that is tried again comes of its last attempt, made where attempts that
failed, and waits, have led. -/
theorem Backoff.attempts_eq_last {World : Type} [Clock World] {Answer : Type} (policy : Backoff)
    (Leads : World → World → Prop) {operation : World → Except Fault Answer × World}
    (still : ∀ world, Leads world world)
    (onward : ∀ before between after, Leads before between → Leads between after →
      Leads before after)
    (fails : ∀ world fault, (operation world).1 = .error fault → Leads world (operation world).2)
    (waits : ∀ moment world, Leads world (Clock.pauseUntil moment world))
    (spare attempt : Nat) (world : World) :
    ∃ last, Leads world last ∧
      policy.attempts operation spare attempt world = operation last := by
  induction spare generalizing attempt world with
  | zero => exact ⟨world, still world, rfl⟩
  | succ spare hypothesis =>
      have failed := fails world
      simp only [attempts]
      split
      · rename_i answer after result
        exact ⟨world, still world, result.symm⟩
      · rename_i fault after result
        rw [result] at failed
        split
        · rcases hypothesis (attempt + 1)
            (Clock.pauseUntil (Clock.now after + policy.delay attempt) after) with
            ⟨last, leads, same⟩
          exact ⟨last, onward _ _ _ (failed fault rfl) (onward _ _ _ (waits _ after) leads), same⟩
        · exact ⟨world, still world, result.symm⟩

theorem Partitioning.route_lt (partitioning : Partitioning) (key : ByteArray) {count : Nat}
    (positive : 0 < count) : partitioning.route key count < count := by
  rw [route, if_neg (Nat.pos_iff_ne_zero.mp positive)]
  exact Nat.mod_lt _ positive

namespace Request

/-- A session is to be opened. -/
def isOpening : Request → Bool
  | join .. | openProducer .. | openProbe .. => true
  | _ => false

/-- The number of partitions of a topic is asked for. -/
def isCount : Request → Bool
  | partitionCount _ => true
  | _ => false

end Request

namespace Exchange

/-- The number of partitions of a topic that is told. -/
def counted? (topic : String) : Exchange → Option Nat
  | ⟨_, .partitionCount name, reply⟩ => if name = topic then reply.answer.toOption else none
  | _ => none

/-- The number of partitions is asked for and not told. -/
def CountsInVain (topic : String) (exchange : Exchange) : Prop :=
  exchange.request = .partitionCount topic ∧ exchange.counted? topic = none

variable {topic : String} {count : Nat} {exchange : Exchange}

theorem counted?_eq (topic : String) (moment : Nat) (reply : Reply (.partitionCount topic)) :
    counted? topic ⟨moment, .partitionCount topic, reply⟩ = reply.answer.toOption :=
  if_pos rfl

theorem request_eq_of_counted? (counts : exchange.counted? topic = some count) :
    exchange.request = .partitionCount topic := by
  rcases exchange with ⟨moment, request, reply⟩
  cases request with
  | partitionCount name =>
      simp only [counted?] at counts
      split at counts
      · rename_i same
        exact congrArg Request.partitionCount same
      · cases counts
  | _ => cases counts

/-- Whatever tells no number has not told one, and whatever tells one is a question for it. -/
theorem counted?_of_inVain (inVain : exchange.asked? = none ∨ exchange.CountsInVain topic) :
    exchange.counted? topic = none := by
  rcases inVain with look | ⟨_, nothing⟩
  · rcases exchange with ⟨moment, request, reply⟩
    cases request with
    | offsets => rfl
    | _ => cases look
  · exact nothing

theorem not_isOpening_of_look (look : exchange.asked? = none) :
    exchange.request.isOpening = false ∧ exchange.request.isCount = false := by
  rcases exchange with ⟨moment, request, reply⟩
  cases request with
  | offsets => exact ⟨rfl, rfl⟩
  | _ => cases look

end Exchange

/-- A session that a bus is asked to open. -/
inductive Opening where
  | consumer (stream : Stream) (role : Role) (partition : Option Nat)
  | producer (stream : Stream)
  | admission

/-- What a bus has opened. -/
inductive Opened where
  | consumer (consumer : Consumer)
  | producer (producer : StreamProducer)
  | admission (admission : Admission)
  deriving DecidableEq

namespace Opening

/-- The stream whose layout matters. -/
def stream : Opening → Stream
  | consumer stream _ _ => stream
  | producer stream => stream
  | admission => .feed

/-- The partition that is asked for, if the stream lets one ask for it. -/
def partition? : Opening → Option Nat
  | consumer stream _ partition => if stream.isKeyed then partition else none
  | producer _ | admission => none

/-- The request that opens the session. -/
def request (settings : Settings) : Opening → Request
  | consumer stream role partition =>
      .join (stream.topic settings) (stream.group role settings)
        (.ofPartition (consumer stream role partition).partition?)
  | producer stream =>
      .openProducer (stream.topic settings) settings.connection
  | admission => .openProbe (Stream.feed.topic settings) (Stream.feed.group .writer settings)

end Opening

namespace Timeline

variable {Log : Type} [Transport Log] {before between after line : Timeline Log}
  {Own : Exchange → Prop} {request : Request}

/-- From one timeline to a later one such requests are made and no others, and watches look. -/
def MakesOnly (Own : Exchange → Prop) (before after : Timeline Log) : Prop :=
  ∃ made, before.Makes made after ∧ ∀ exchange ∈ made, exchange.asked? = none ∨ Own exchange

theorem MakesOnly.nothing (line : Timeline Log) : line.MakesOnly Own line :=
  ⟨[], .nothing line, List.forall_mem_nil _⟩

theorem MakesOnly.trans (first : before.MakesOnly Own between)
    (second : between.MakesOnly Own after) : before.MakesOnly Own after := by
  rcases first with ⟨front, makes, ownFront⟩
  rcases second with ⟨back, makesBack, ownBack⟩
  exact ⟨front ++ back, makes.trans makesBack, List.forall_mem_append.mpr ⟨ownFront, ownBack⟩⟩

theorem makes_looks_pauseUntil (moment : Nat) (line : Timeline Log) :
    ∃ made, line.Makes made (line.pauseUntil moment) ∧
      ∀ exchange ∈ made, exchange.asked? = none := by
  rcases asks_pauseUntil moment line with ⟨made, makes, nothing⟩
  exact ⟨made, makes, List.filterMap_eq_nil_iff.mp nothing⟩

theorem makesOnly_pauseUntil (moment : Nat) (line : Timeline Log) :
    line.MakesOnly Own (line.pauseUntil moment) := by
  rcases makes_looks_pauseUntil moment line with ⟨made, makes, looks⟩
  exact ⟨made, makes, fun exchange isMade => .inl (looks exchange isMade)⟩

/-- Waiting for an answer, there are only looks behind the request. -/
theorem makes_ask_looks (request : Request) (line : Timeline Log) :
    ∃ looks, line.Makes (⟨line.now, request, (line.serve request).1⟩ :: looks)
        (line.ask request).2 ∧ ∀ exchange ∈ looks, exchange.asked? = none := by
  rcases makes_looks_pauseUntil ((line.serve request).2.now + (line.serve request).1.delay)
    (line.serve request).2 with ⟨looks, waits, areLooks⟩
  exact ⟨looks, (makes_serve request line).trans waits, areLooks⟩

theorem makesOnly_ask (line : Timeline Log)
    (own : Own ⟨line.now, request, (line.serve request).1⟩) :
    line.MakesOnly Own (line.ask request).2 := by
  rcases makes_ask_looks request line with ⟨looks, makes, areLooks⟩
  refine ⟨_, makes, List.forall_mem_cons.mpr ⟨.inr own, ?_⟩⟩
  exact fun exchange isMade => .inl (areLooks exchange isMade)

end Timeline

section Splitting

variable {Item : Type} {item : Item} {first second front back : List Item}

/-- What stands in a list of two parts and not in the first part splits the second. -/
theorem split_of_notMem_left (same : first ++ second = front ++ item :: back)
    (notIn : item ∉ first) : ∃ rest, front = first ++ rest ∧ second = rest ++ item :: back := by
  rcases List.append_eq_append_iff.mp same with ⟨rest, isFront, isSecond⟩ | ⟨rest, isFirst, isBack⟩
  · exact ⟨rest, isFront, isSecond⟩
  · cases rest with
    | nil => exact ⟨[], by simpa using isFirst.symm, by simpa using isBack.symm⟩
    | cons other rest =>
        rw [List.cons_append, List.cons.injEq] at isBack
        rw [isFirst, isBack.1] at notIn
        exact absurd (List.mem_append_right _ List.mem_cons_self) notIn

/-- What stands in a list of two parts and not in the second part splits the first. -/
theorem split_of_notMem_right (same : first ++ second = front ++ item :: back)
    (notIn : item ∉ second) : ∃ rest, first = front ++ item :: rest ∧ back = rest ++ second := by
  rcases List.append_eq_append_iff.mp same with ⟨rest, isFront, isSecond⟩ | ⟨rest, isFirst, isBack⟩
  · rw [isSecond] at notIn
    exact absurd (List.mem_append_right _ List.mem_cons_self) notIn
  · cases rest with
    | nil =>
        rw [List.nil_append] at isBack
        rw [← isBack] at notIn
        exact absurd List.mem_cons_self notIn
    | cons other rest =>
        rw [List.cons_append, List.cons.injEq] at isBack
        rw [isBack.1]
        exact ⟨rest, isFirst, isBack.2⟩

end Splitting

namespace Bus

/-- What the number of partitions that was told means for whoever expects one. -/
def verdict (topic : String) (expected : Option Nat) (count : Nat) : Except Fault Nat :=
  match expected with
  | none => .ok count
  | some wanted => if wanted = count then .ok count else .error (.layoutMismatch topic wanted count)

theorem eq_of_verdict_ok {topic : String} {expected : Option Nat} {count told : Nat}
    (inOrder : verdict topic expected told = .ok count) :
    told = count ∧ ∀ wanted, expected = some wanted → wanted = count := by
  cases expected with
  | none =>
      cases inOrder
      exact ⟨rfl, fun wanted isWanted => (by cases isWanted)⟩
  | some other =>
      simp only [verdict] at inOrder
      split at inOrder
      · rename_i same
        cases inOrder
        refine ⟨rfl, fun wanted isWanted => ?_⟩
        rw [← same, Option.some.inj isWanted]
      · cases inOrder

/-- The requests of a check of a layout, and what comes of it: the number of partitions is asked for in
vain, or it is told once, at the end. -/
inductive Checks (topic : String) (expected : Option Nat) :
    List Exchange → Except Fault Nat → Prop where
  | untold {made : List Exchange} {fault : Fault}
      (inVain : ∀ exchange ∈ made, exchange.asked? = none ∨ exchange.CountsInVain topic) :
      Checks topic expected made (.error fault)
  | told {front back : List Exchange} {told : Exchange} {count : Nat}
      (inVain : ∀ exchange ∈ front, exchange.asked? = none ∨ exchange.CountsInVain topic)
      (counts : told.counted? topic = some count)
      (looks : ∀ exchange ∈ back, exchange.asked? = none) :
      Checks topic expected (front ++ told :: back) (verdict topic expected count)

variable {Log : Type} [Transport Log] {line : Timeline Log}

namespace Checks

variable {topic : String} {expected : Option Nat} {checked front back : List Exchange}
  {found : Except Fault Nat} {told exchange : Exchange} {count : Nat}

/-- A check only asks for the number of partitions. -/
theorem counts_only (checks : Checks topic expected checked found) (isMade : exchange ∈ checked) :
    exchange.asked? = none ∨ exchange.request = .partitionCount topic := by
  cases checks with
  | untold inVain => exact (inVain exchange isMade).imp_right And.left
  | told inVain counts looks =>
      rcases List.mem_append.mp isMade with inFront | inRest
      · exact (inVain exchange inFront).imp_right And.left
      · rcases List.mem_cons.mp inRest with rfl | inBack
        · exact .inr (Exchange.request_eq_of_counted? counts)
        · exact .inl (looks exchange inBack)

/-- The number that is told decides, and nothing is asked behind it. -/
theorem of_told (checks : Checks topic expected checked found)
    (isMade : checked = front ++ told :: back) (counts : told.counted? topic = some count) :
    found = verdict topic expected count ∧ ∀ exchange ∈ back, exchange.asked? = none := by
  have inVainNot (inVain : told.asked? = none ∨ told.CountsInVain topic) : False := by
    rw [Exchange.counted?_of_inVain inVain] at counts
    cases counts
  cases checks with
  | untold inVain =>
      rw [isMade] at inVain
      exact (inVainNot (inVain told (by simp))).elim
  | told inVain countsSo looks =>
      have notBefore := fun before => inVainNot (inVain told before)
      have notBehind := fun behind => inVainNot (.inl (looks told behind))
      rcases (List.append_cons_inj_of_notMem notBefore notBehind).mp isMade with ⟨_, rfl, rfl⟩
      rw [countsSo, Option.some.injEq] at counts
      rw [counts]
      exact ⟨rfl, looks⟩

/-- What a check asks opens nothing. -/
theorem not_isOpening (checks : Checks topic expected checked found) (isMade : exchange ∈ checked) :
    exchange.request.isOpening = false := by
  rcases checks.counts_only isMade with look | isCount
  · exact (Exchange.not_isOpening_of_look look).1
  · rw [isCount]
    rfl

/-- A number that is in order was told, and it is the expected one. -/
theorem of_ok (checks : Checks topic expected checked (.ok count)) :
    (∃ told ∈ checked, told.counted? topic = some count) ∧
      ∀ wanted, expected = some wanted → wanted = count := by
  generalize isFound : (.ok count : Except Fault Nat) = found at checks
  cases checks with
  | untold => cases isFound
  | @told _ _ told _ inVain counts looks =>
      rcases eq_of_verdict_ok isFound.symm with ⟨rfl, asExpected⟩
      exact ⟨⟨told, List.mem_append_right _ List.mem_cons_self, counts⟩, asExpected⟩

end Checks

/-- What comes of an operation that a bus insists on comes of its last attempt. -/
theorem insist_eq_last (bus : Bus) {Answer : Type} {Own : Exchange → Prop}
    (operation : Timeline Log → Except Fault Answer × Timeline Log)
    (fails : ∀ (line : Timeline Log) (fault : Fault), (operation line).1 = .error fault →
      line.MakesOnly Own (operation line).2) (line : Timeline Log) :
    ∃ last, line.MakesOnly Own last ∧ bus.insist operation line = operation last :=
  bus.settings.connectRetry.attempts_eq_last (Timeline.MakesOnly Own) .nothing
    (fun _ _ _ => .trans) fails Timeline.makesOnly_pauseUntil _ 1 line

theorem makesOnly_insist (bus : Bus) {Answer : Type} {Own : Exchange → Prop}
    (operation : Timeline Log → Except Fault Answer × Timeline Log)
    (makes : ∀ line : Timeline Log, line.MakesOnly Own (operation line).2) (line : Timeline Log) :
    line.MakesOnly Own (bus.insist operation line).2 := by
  have ends : ∃ last, line.MakesOnly Own last ∧ bus.insist operation line = operation last :=
    bus.insist_eq_last operation (fun line _ _ => makes line) line
  rcases ends with ⟨last, leads, same⟩
  rw [same]
  exact leads.trans (makes last)

/-- A question that is insisted on is all that is asked. -/
theorem asksOnly_insist (bus : Bus) {Answer : Type} {request : Request}
    (question : Timeline Log → Except Fault Answer × Timeline Log)
    (asks : ∀ line, (question line).2 = (line.ask request).2) (line : Timeline Log) :
    line.MakesOnly (fun exchange => exchange.request = request) (bus.insist question line).2 := by
  apply bus.makesOnly_insist
  intro line
  rw [asks]
  exact Timeline.makesOnly_ask line rfl

theorem partitionCount_eq (bus : Bus) (stream : Stream) (line : Timeline Log) :
    bus.partitionCount stream line =
      ((bus.insist (Timeline.ask (.partitionCount (stream.topic bus.settings))) line).1.bind
          (verdict (stream.topic bus.settings) (stream.partitions bus.settings)),
        (bus.insist (Timeline.ask (.partitionCount (stream.topic bus.settings))) line).2) := by
  simp only [partitionCount]
  generalize bus.insist (Timeline.ask (.partitionCount (stream.topic bus.settings))) line = asked
  rcases asked with ⟨answer, ended⟩
  cases answer with
  | error fault => rfl
  | ok count =>
      cases stream.partitions bus.settings with
      | none => rfl
      | some wanted =>
          simp only [Except.bind, verdict]
          split
          · rfl
          · rfl

/-- Whatever is answered, a bus checks the layout of a stream in this way. -/
theorem checks_partitionCount (bus : Bus) (stream : Stream) (line : Timeline Log) :
    ∃ made, line.Makes made (bus.partitionCount stream line).2 ∧
      Checks (stream.topic bus.settings) (stream.partitions bus.settings) made
        (bus.partitionCount stream line).1 := by
  rw [partitionCount_eq]
  generalize stream.topic bus.settings = topic
  have fails : ∀ (line : Timeline Log) (fault : Fault),
      (line.ask (.partitionCount topic)).1 = .error fault →
      line.MakesOnly (Exchange.CountsInVain topic) (line.ask (.partitionCount topic)).2 := by
    intro line fault failed
    refine Timeline.makesOnly_ask line ⟨rfl, ?_⟩
    rw [Exchange.counted?_eq]
    exact congrArg Except.toOption failed
  rcases bus.insist_eq_last (Timeline.ask (.partitionCount topic)) fails line with
    ⟨last, ⟨front, makes, inVain⟩, same⟩
  rw [same]
  cases answered : (last.ask (.partitionCount topic)).1 with
  | error fault =>
      rcases fails last fault answered with ⟨back, makesBack, inVainBack⟩
      exact ⟨front ++ back, makes.trans makesBack,
        .untold (List.forall_mem_append.mpr ⟨inVain, inVainBack⟩)⟩
  | ok count =>
      rcases Timeline.makes_ask_looks (.partitionCount topic) last with ⟨looks, asks, areLooks⟩
      refine ⟨_, makes.trans asks, .told inVain ?_ areLooks⟩
      rw [Exchange.counted?_eq]
      exact congrArg Except.toOption answered

/-- The first look of a watch is a look. -/
theorem makesOnly_start {Own : Exchange → Prop} (watch : Watch) (threshold : Nat)
    (line : Timeline Log) : line.MakesOnly Own (Admission.start watch threshold line).2 := by
  have looks : line.MakesOnly Own (Timeline.look watch line).2 := by
    refine ⟨_, Timeline.makes_serve watch.request line, ?_⟩
    exact List.forall_mem_singleton.mpr (.inl rfl)
  rcases looks.trans (Timeline.makesOnly_pauseUntil (Timeline.look watch line).1.arrival
    (Timeline.look watch line).2) with ⟨made, makes, own⟩
  exact ⟨made, makes, own⟩

/-- Opens a session. -/
def perform (bus : Bus) (opening : Opening) (line : Timeline Log) :
    Except Fault Opened × Timeline Log :=
  match opening with
  | .consumer stream role partition =>
    let (answer, line) := bus.consumer stream role partition line
    (answer.map .consumer, line)
  | .producer stream =>
    let (answer, line) := bus.producer stream line
    (answer.map .producer, line)
  | .admission =>
    let (answer, line) := bus.admission line
    (answer.map .admission, line)

/-- What comes of an operation that needs a layout: it is refused with the requests of the check, or
it goes on behind them. -/
theorem withLayout_cases (bus : Bus) (stream : Stream) {Answer : Type}
    (operation : Nat → Timeline Log → Except Fault Answer × Timeline Log) (line : Timeline Log) :
    ∃ checked between, line.Makes checked between ∧
      ((∃ fault, Checks (stream.topic bus.settings) (stream.partitions bus.settings) checked
          (.error fault) ∧ bus.withLayout stream operation line = (.error fault, between)) ∨
        ∃ count, Checks (stream.topic bus.settings) (stream.partitions bus.settings) checked
          (.ok count) ∧ bus.withLayout stream operation line = operation count between) := by
  rcases bus.checks_partitionCount stream line with ⟨checked, makes, checks⟩
  simp only [withLayout]
  generalize bus.partitionCount stream line = asked at makes checks ⊢
  rcases asked with ⟨found, between⟩
  refine ⟨checked, between, makes, ?_⟩
  cases found with
  | error fault => exact .inl ⟨fault, checks, rfl⟩
  | ok count => exact .inr ⟨count, checks, rfl⟩

/-- The requests of opening a session, those of the check and those behind it, the number that was
found, and the answer. If the number is in order, only the session is asked for; else nothing is. -/
structure Course (bus : Bus) (opening : Opening) (checked opened : List Exchange)
    (found : Except Fault Nat) (answer : Except Fault Opened) : Prop where
  checks : Checks (opening.stream.topic bus.settings) (opening.stream.partitions bus.settings)
    checked found
  own : ∀ exchange ∈ opened,
    exchange.asked? = none ∨ exchange.request = opening.request bus.settings
  inRange : opened ≠ [] → ∃ count, found = .ok count ∧
    ∀ partition, opening.partition? = some partition → partition < count
  passedOn : ∀ fault, found = .error fault → answer = .error fault
  routes : ∀ producer, answer = .ok (.producer (.keyed producer)) → found = .ok producer.partitions

/-- From one timeline to a later one the opening of a session takes its course. -/
def Takes (bus : Bus) (opening : Opening) (line : Timeline Log) (answer : Except Fault Opened)
    (ended : Timeline Log) : Prop :=
  ∃ checked opened found, line.Makes (checked ++ opened) ended ∧
    bus.Course opening checked opened found answer

/-- A refusal is a course without requests behind the check. -/
theorem takes_refused {bus : Bus} {opening : Opening} {checked : List Exchange}
    {found : Except Fault Nat} {fault : Fault} {ended : Timeline Log}
    (checks : Checks (opening.stream.topic bus.settings) (opening.stream.partitions bus.settings)
      checked found) (makes : line.Makes checked ended)
    (passedOn : ∀ cause, found = .error cause → cause = fault) :
    bus.Takes opening line (.error fault) ended := by
  refine ⟨checked, [], found, by rwa [List.append_nil], checks, List.forall_mem_nil _, ?_, ?_, ?_⟩
  · exact fun opens => absurd rfl opens
  · intro cause isFound
    rw [passedOn cause isFound]
  · intro producer isAnswer
    cases isAnswer

/-- An operation behind a check takes its course if it fails at once or asks for the session only. -/
theorem takes_withLayout (bus : Bus) (opening : Opening) {Answer : Type} (wrap : Answer → Opened)
    {operation : Nat → Timeline Log → Except Fault Answer × Timeline Log}
    (behind : ∀ count (between : Timeline Log),
      (∃ fault, operation count between = (.error fault, between)) ∨
        (∀ partition, opening.partition? = some partition → partition < count) ∧
        between.MakesOnly (fun exchange => exchange.request = opening.request bus.settings)
          (operation count between).2 ∧
        ∀ value producer, (operation count between).1 = .ok value →
          wrap value = .producer (.keyed producer) → producer.partitions = count)
    (line : Timeline Log) :
    bus.Takes opening line ((bus.withLayout opening.stream operation line).1.map wrap)
      (bus.withLayout opening.stream operation line).2 := by
  rcases bus.withLayout_cases opening.stream operation line with
    ⟨checked, between, makes, ⟨fault, checks, refused⟩ | ⟨count, checks, goesOn⟩⟩
  · rw [refused]
    refine takes_refused checks makes fun cause same => ?_
    cases same
    rfl
  · rw [goesOn]
    rcases behind count between with ⟨fault, fails⟩ | ⟨inRange, ⟨opened, opens, own⟩, routes⟩
    · rw [fails]
      refine takes_refused checks makes fun cause same => ?_
      cases same
    · refine ⟨checked, opened, _, makes.trans opens, checks, own, fun _ => ⟨count, rfl, inRange⟩,
        ?_, ?_⟩
      · intro fault same
        cases same
      · intro producer isProducer
        cases answered : (operation count between).1 with
        | error fault =>
            rw [answered] at isProducer
            cases isProducer
        | ok value =>
            rw [answered] at isProducer
            rw [routes value producer answered (Except.ok.inj isProducer)]

theorem takes_consumer (bus : Bus) (stream : Stream) (role : Role) (partition : Option Nat)
    (line : Timeline Log) :
    bus.Takes (.consumer stream role partition) line
      (bus.perform (.consumer stream role partition) line).1
      (bus.perform (.consumer stream role partition) line).2 := by
  apply bus.takes_withLayout (.consumer stream role partition) .consumer
  intro count between
  have isWanted : (Opening.consumer stream role partition).partition? =
      if stream.isKeyed then partition else none := rfl
  simp only [Opening.request, isWanted]
  generalize (if stream.isKeyed then partition else none) = wanted
  have opens := bus.asksOnly_insist (Timeline.ask (.join (stream.topic bus.settings)
    (stream.group role bus.settings) (.ofPartition wanted))) (fun _ => rfl) between
  generalize bus.insist (Timeline.ask (.join (stream.topic bus.settings)
    (stream.group role bus.settings) (.ofPartition wanted))) between = asked at opens ⊢
  rcases asked with ⟨answer, ended⟩
  cases wanted with
  | none =>
      refine .inr ⟨?_, ?_, ?_⟩
      · intro partition wants
        cases wants
      · cases answer with
        | error fault => exact opens
        | ok member => exact opens
      · intro value producer _ isKeyed
        cases isKeyed
  | some partition =>
      by_cases outside : count ≤ partition
      · exact .inl ⟨_, if_pos outside⟩
      · simp only [if_neg outside]
        refine .inr ⟨?_, ?_, ?_⟩
        · intro wanted wants
          cases wants
          exact Nat.lt_of_not_le outside
        · cases answer with
          | error fault => exact opens
          | ok member => exact opens
        · intro value producer _ isKeyed
          cases isKeyed

theorem takes_producer (bus : Bus) (stream : Stream) (line : Timeline Log) :
    bus.Takes (.producer stream) line (bus.perform (.producer stream) line).1
      (bus.perform (.producer stream) line).2 := by
  apply bus.takes_withLayout (.producer stream) .producer
  intro count between
  have opens := bus.asksOnly_insist (Timeline.ask (.openProducer (stream.topic bus.settings)
    bus.settings.connection)) (fun _ => rfl) between
  refine .inr ⟨fun _ wanted => (by cases wanted), ?_⟩
  simp only
  generalize bus.insist (Timeline.ask (.openProducer (stream.topic bus.settings)
    bus.settings.connection)) between = asked at opens ⊢
  rcases asked with ⟨answer, ended⟩
  cases answer with
  | error fault => exact ⟨opens, fun _ _ failed => (by cases failed)⟩
  | ok _ =>
      cases stream.partitioning bus.settings with
      | none =>
          refine ⟨opens, ?_⟩
          intro value producer isValue isKeyed
          cases isValue
          cases isKeyed
      | some partitioning =>
          refine ⟨opens, ?_⟩
          intro value producer isValue isKeyed
          cases isValue
          cases isKeyed
          rfl

theorem takes_admission (bus : Bus) (line : Timeline Log) :
    bus.Takes .admission line (bus.perform .admission line).1 (bus.perform .admission line).2 := by
  apply bus.takes_withLayout .admission .admission
  intro count between
  have opens := bus.asksOnly_insist (Timeline.ask (.openProbe (Stream.feed.topic bus.settings)
    (Stream.feed.group .writer bus.settings))) (fun _ => rfl) between
  refine .inr ⟨fun _ wanted => (by cases wanted), ?_, ?_⟩
  · simp only
    generalize bus.insist (Timeline.ask (.openProbe (Stream.feed.topic bus.settings)
      (Stream.feed.group .writer bus.settings))) between = asked at opens ⊢
    rcases asked with ⟨answer, ended⟩
    cases answer with
    | error fault => exact opens
    | ok _ => exact opens.trans (makesOnly_start _ bus.settings.maxNextRequests ended)
  · intro value producer _ isKeyed
    cases isKeyed

theorem takes_perform (bus : Bus) (opening : Opening) (line : Timeline Log) :
    bus.Takes opening line (bus.perform opening line).1 (bus.perform opening line).2 := by
  cases opening with
  | consumer stream role partition => exact bus.takes_consumer stream role partition line
  | producer stream => exact bus.takes_producer stream line
  | admission => exact bus.takes_admission line

theorem isOpening_request (settings : Settings) (opening : Opening) :
    (opening.request settings).isOpening = true := by
  cases opening with
  | consumer => rfl
  | producer => rfl
  | admission => rfl

namespace Course

variable {bus : Bus} {opening : Opening} {checked opened front back : List Exchange}
  {found : Except Fault Nat} {answer : Except Fault Opened} {exchange told : Exchange}
  {count wanted : Nat}

/-- Behind the check no number is told any more. -/
theorem counted?_of_mem_opened (course : bus.Course opening checked opened found answer)
    (isMade : exchange ∈ opened) (topic : String) : exchange.counted? topic = none := by
  rcases course.own exchange isMade with look | opens
  · exact Exchange.counted?_of_inVain (.inl look)
  · cases counts : exchange.counted? topic with
    | none => rfl
    | some count =>
        have isOpening := isOpening_request bus.settings opening
        rw [← opens, Exchange.request_eq_of_counted? counts] at isOpening
        cases isOpening

/-- A session is asked for behind an answer that told a number in order. -/
theorem told_of_isOpening (course : bus.Course opening checked opened found answer)
    (isMade : checked ++ opened = front ++ exchange :: back)
    (opens : exchange.request.isOpening = true) :
    exchange.request = opening.request bus.settings ∧
      ∃ told ∈ front, ∃ count, told.counted? (opening.stream.topic bus.settings) = some count ∧
        (∀ wanted, opening.stream.partitions bus.settings = some wanted → wanted = count) ∧
        ∀ partition, opening.partition? = some partition → partition < count := by
  have notChecked : exchange ∉ checked := by
    intro isChecked
    rw [course.checks.not_isOpening isChecked] at opens
    cases opens
  rcases split_of_notMem_left isMade notChecked with ⟨rest, rfl, rfl⟩
  refine ⟨?_, ?_⟩
  · rcases course.own exchange (List.mem_append_right _ List.mem_cons_self) with look | isRequest
    · rw [(Exchange.not_isOpening_of_look look).1] at opens
      cases opens
    · exact isRequest
  · rcases course.inRange (by simp) with ⟨count, rfl, inRange⟩
    rcases course.checks.of_ok with ⟨⟨told, isChecked, counts⟩, asExpected⟩
    exact ⟨told, List.mem_append_left _ isChecked, count, counts, asExpected, inRange⟩

/-- The number that is told decides, and is not asked for again. -/
theorem found_of_told (course : bus.Course opening checked opened found answer)
    (isMade : checked ++ opened = front ++ told :: back)
    (counts : told.counted? (opening.stream.topic bus.settings) = some count) :
    found = verdict (opening.stream.topic bus.settings)
        (opening.stream.partitions bus.settings) count ∧
      ∀ exchange ∈ back, exchange.request.isCount = false := by
  have notOpened : told ∉ opened := by
    intro isOpened
    rw [course.counted?_of_mem_opened isOpened] at counts
    cases counts
  rcases split_of_notMem_right isMade notOpened with ⟨rest, isChecked, rfl⟩
  rcases course.checks.of_told isChecked counts with ⟨isFound, looks⟩
  refine ⟨isFound, List.forall_mem_append.mpr ⟨?_, ?_⟩⟩
  · intro exchange inRest
    exact (Exchange.not_isOpening_of_look (looks exchange inRest)).2
  · intro exchange isOpened
    rcases course.own exchange isOpened with look | isRequest
    · exact (Exchange.not_isOpening_of_look look).2
    · rw [isRequest]
      cases opening with
      | consumer => rfl
      | producer => rfl
      | admission => rfl

/-- If another number than the expected one is told, nothing is opened. -/
theorem refused_of_told (course : bus.Course opening checked opened found answer)
    (isMade : checked ++ opened = front ++ told :: back)
    (counts : told.counted? (opening.stream.topic bus.settings) = some count)
    (expects : opening.stream.partitions bus.settings = some wanted) (differs : wanted ≠ count) :
    answer = .error (.layoutMismatch (opening.stream.topic bus.settings) wanted count) ∧
      ∀ exchange ∈ checked ++ opened, exchange.request.isOpening = false := by
  have isFound := (course.found_of_told isMade counts).1
  rw [expects, verdict, if_neg differs] at isFound
  have nothing : opened = [] := by
    by_contra opens
    rcases course.inRange opens with ⟨number, isOk, _⟩
    rw [isFound] at isOk
    cases isOk
  refine ⟨course.passedOn _ isFound, ?_⟩
  intro exchange isMade
  rw [nothing, List.append_nil] at isMade
  exact course.checks.not_isOpening isMade

end Course

/-- Whatever is answered, and however often it is asked again, a bus asks for a session only behind
an answer that told a number of partitions of its topic that is the expected one, if one is expected,
and beyond the partition that the session asks for. If another number is told, the bus answers with
both, opens nothing and does not ask for the number again. A producer that routes by keys routes among
just as many partitions as was told, and so, if there are any, always to one of them. -/
theorem opens_behind_layout {Log : Type} [Transport Log] (bus : Bus) (opening : Opening)
    (line : Timeline Log) :
    let topic := opening.stream.topic bus.settings
    let expected := opening.stream.partitions bus.settings
    let answer := (bus.perform opening line).1
    let made := line.since (bus.perform opening line).2
    (∀ front exchange back, made = front ++ exchange :: back →
      exchange.request.isOpening = true →
        exchange.request = opening.request bus.settings ∧
        ∃ told ∈ front, ∃ count, told.counted? topic = some count ∧
          (∀ wanted, expected = some wanted → wanted = count) ∧
          ∀ partition, opening.partition? = some partition → partition < count) ∧
    (∀ front told back count wanted, made = front ++ told :: back →
      told.counted? topic = some count → expected = some wanted → wanted ≠ count →
        answer = .error (.layoutMismatch topic wanted count) ∧
        (∀ exchange ∈ made, exchange.request.isOpening = false) ∧
        ∀ exchange ∈ back, exchange.request.isCount = false) ∧
    ∀ producer, answer = .ok (.producer (.keyed producer)) →
      (∃ told ∈ made, told.counted? topic = some producer.partitions) ∧
      (∀ told ∈ made, ∀ count, told.counted? topic = some count → count = producer.partitions) ∧
      (∀ wanted, expected = some wanted → wanted = producer.partitions) ∧
      (0 < producer.partitions → ∀ key, producer.partitionFor key < producer.partitions) := by
  intro topic expected answer made
  rcases bus.takes_perform opening line with ⟨checked, opened, found, makes, course⟩
  have isMade : made = checked ++ opened := makes.since_eq
  rw [isMade]
  refine ⟨?_, ?_, ?_⟩
  · intro front exchange back split opens
    exact course.told_of_isOpening split opens
  · intro front told back count wanted split counts expects differs
    rcases course.refused_of_told split counts expects differs with ⟨refused, nothing⟩
    exact ⟨refused, nothing, (course.found_of_told split counts).2⟩
  · intro producer isAnswer
    have isFound := course.routes producer isAnswer
    have checks := course.checks
    rw [isFound] at checks
    rcases checks.of_ok with ⟨⟨told, isChecked, counts⟩, asExpected⟩
    refine ⟨⟨told, List.mem_append_left _ isChecked, counts⟩, ?_, asExpected, ?_⟩
    · intro other isOther count counts
      rcases List.append_of_mem isOther with ⟨front, back, split⟩
      have sameFound := (course.found_of_told split counts).1
      rw [isFound] at sameFound
      exact (eq_of_verdict_ok sameFound.symm).1
    · intro positive key
      exact producer.partitioning.route_lt key positive

end Bus

/-- A bus whose feed has two partitions. -/
def twoLanes : Bus where
  settings := { Settings.standard with feedPartitions := 2 }
  valid := ⟨fun _ => true, by decide +kernel⟩

/-- A log that tells these numbers of partitions, one after the other; every producer can be
opened. -/
def telling (counts : List (Script.Entry Nat)) : Timeline Script :=
  .start
    { partitionCount := counts, join := [], openProducer := [], openProbe := [], poll := []
      position := [], committed := [], commit := [], deliver := [], offsets := [], assigned := [] }

/-- The number of partitions is told when it is asked for the second time; a wrong number is told at
once. -/
theorem opens_behind_layout_twoLanes :
    let opening : Opening := .producer .feed
    let late := telling [⟨0, .error (.unavailable .injected)⟩, ⟨0, .ok 2⟩]
    let wrong := telling [⟨0, .ok 3⟩]
    let made := late.since (twoLanes.perform opening late).2
    let mistaken := wrong.since (twoLanes.perform opening wrong).2
    (∃ front exchange back, made = front ++ exchange :: back ∧
      exchange.request.isOpening = true ∧
      ∃ told ∈ front, told.counted? "frontier-todo" = some 2) ∧
    (∃ told ∈ mistaken, told.counted? "frontier-todo" = some 3) ∧
    (twoLanes.perform opening wrong).1 = .error (.layoutMismatch "frontier-todo" 2 3) ∧
    ∃ producer, (twoLanes.perform opening late).1 = .ok (.producer (.keyed producer)) ∧
      ∀ key, producer.partitionFor key < 2 := by
  intro opening late wrong made mistaken
  have opensOne : ∃ exchange ∈ made, exchange.request.isOpening = true :=
    List.any_eq_true.mp (by decide +kernel)
  have tellsThree : ∃ told ∈ mistaken, told.counted? "frontier-todo" = some 3 := by
    have told : (mistaken.any fun told => told.counted? "frontier-todo" = some 3) = true := by
      decide +kernel
    simpa using told
  have isKeyed : (twoLanes.perform opening late).1 =
      .ok (.producer (.keyed ⟨.create "frontier-todo" .standard, .fingerprint, 2⟩)) := by
    decide +kernel
  rcases twoLanes.opens_behind_layout opening late with ⟨opens, _, routes⟩
  refine ⟨?_, tellsThree, ?_, _, isKeyed, (routes _ isKeyed).2.2.2 (by decide)⟩
  · rcases opensOne with ⟨exchange, isMade, isOpening⟩
    rcases List.append_of_mem isMade with ⟨front, back, split⟩
    rcases (opens front exchange back split isOpening).2 with
      ⟨told, inFront, count, counts, expected, _⟩
    rw [← expected 2 rfl] at counts
    exact ⟨front, exchange, back, split, isOpening, told, inFront, counts⟩
  · rcases tellsThree with ⟨told, isMade, counts⟩
    rcases List.append_of_mem isMade with ⟨front, back, split⟩
    rcases twoLanes.opens_behind_layout opening wrong with ⟨_, mismatch, _⟩
    exact (mismatch front told back 3 2 split counts rfl (by decide)).1

end FrontierBus
