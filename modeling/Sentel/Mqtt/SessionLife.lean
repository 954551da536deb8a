import Sentel.Mqtt.Rounds

namespace Sentel
namespace Mqtt

open Library Base Queue Event SessionMgr Auth SessionM

/-!
# The life of a session

A session is reported once when its connection is accepted and once when it
ends.  If it ends with an error, the will of the accepted CONNECT packet is
published before its end is reported.

The rounds of the main loop are run in surroundings that may be different
ones in every round, so that authentication and the queue service may answer in
any way.  The session alone is carried from round to round.  The will of a
CONNECT packet is set before its client has a queue.  A client that gets no
queue is therefore never accepted and has its will published all the same, and
this is the only way in which a life can go wrong.
-/

/-- What a round of the main loop meets: its surroundings and its input. -/
structure Moment where
  host : Host
  broker : Broker
  input : Input

/-- A round of the main loop with the session that it starts from. -/
structure LifeRound where
  moment : Moment
  session : MqttSession

namespace LifeRound

def scene (round : LifeRound) : Scene where
  session := round.session
  packet := newMqttPacket
  broker := round.moment.broker

def received (round : LifeRound) : Run Scene Effect GoString Unit :=
  receive round.moment.host round.moment.input round.scene

def run (round : LifeRound) : Run Scene Effect GoString (Option GoString) :=
  handleInput round.moment.host round.moment.input round.scene

end LifeRound

/-- The rounds of the main loop, up to the one that ends it. -/
def sessionRounds : List Moment -> MqttSession -> List LifeRound
  | [], _ => []
  | moment :: later, session =>
    let round : LifeRound := ⟨moment, session⟩
    round :: match round.run.outcome with
      | .ok none =>
        if round.run.state.session.sessionState = .disconnected then []
        else sessionRounds later round.run.state.session
      | _ => []

/-! ## The events of a life -/

def isTopicPublish : BrokerEvent -> Bool
  | .topicPublish _ => true
  | _ => false

def isLifeEvent : BrokerEvent -> Bool
  | .sessionCreate _ => true
  | .sessionDestroy _ => true
  | .topicPublish _ => true
  | _ => false

def lifeEvents (effects : List Effect) : List BrokerEvent :=
  (notified effects).filter isLifeEvent

def willEvent (scene : Scene) (will : Message) : BrokerEvent :=
  .topicPublish
    { brokerID := scene.broker.brokerId
      clientID := scene.session.clientID
      productID := scene.session.productID
      topic := will.topic
      payload := will.payload
      qos := will.qos
      retain := will.retain }

def destroyEvent (scene : Scene) : BrokerEvent :=
  .sessionDestroy { clientId := scene.session.clientID, brokerId := scene.broker.brokerId }

namespace LifeRound

def trace (round : LifeRound) : List BrokerEvent :=
  (lifeEvents round.received.effects).filter
      (fun event => ¬ (round.moment.input.isPublish ∧ isTopicPublish event)) ++
    (lifeEvents round.run.effects).drop (lifeEvents round.received.effects).length

def acceptedRequest (round : LifeRound) : Option ConnectRequest :=
  match round.moment.input with
  | .packet packet =>
    if packetType packet = CONNECT ∧ round.received.state.session.sessionState = .connected then
      match (readConnect { round.scene with packet := packet }).outcome with
      | .ok request => some request
      | _ => none
    else none
  | _ => none

/-- A CONNECT packet with a will that is refused a queue. -/
def LosesQueue (round : LifeRound) : Prop :=
  exists packet, round.moment.input = .packet packet ∧ packetType packet = CONNECT ∧
    Mqtt.LosesQueue round.moment.host { round.scene with packet := packet }

end LifeRound

def willOf (rounds : List LifeRound) : Option Message :=
  (rounds.findSome? LifeRound.acceptedRequest).bind ConnectRequest.willMsg

/-- The events that are due when the main loop has ended: the will and the end of
the session after an error, its end alone after a DISCONNECT packet. -/
def dueEvents (will : Option Message) (rounds : List LifeRound) : List BrokerEvent :=
  match rounds.getLast? with
  | none => []
  | some last =>
    match last.run.outcome with
    | .ok (some _) => will.toList.map (willEvent last.run.state) ++ [destroyEvent last.run.state]
    | .ok none =>
      if last.run.state.session.sessionState = .disconnected then
        [destroyEvent last.run.state]
      else []
    | _ => []

def creates (rounds : List LifeRound) : List BrokerEvent :=
  (rounds.flatMap LifeRound.trace).filter isSessionCreate

/-- The wills and the ends that are reported. -/
def endings (rounds : List LifeRound) : List BrokerEvent :=
  (rounds.flatMap LifeRound.trace).filter (fun event => ¬ isSessionCreate event)

/-- The session is reported at most once, its end and its will are reported when
they are due and at no other time, what counts as accepted has been acknowledged,
and the session does not leave the disconnected state. -/
structure LivesOnce (rounds : List LifeRound) : Prop where
  created : (creates rounds).length ≤ 1
  ended : endings rounds = dueEvents (willOf rounds) rounds
  acknowledged : forall round, round ∈ rounds -> round.session.conn = some reliableConn ->
    forall request, round.acceptedRequest = some request ->
      exists ack, Effect.write CONNACK [CONNACK, 2, ack, CONNACK_ACCEPTED] ∈ round.received.effects
  settled : forall round, round ∈ rounds -> round.session.sessionState ≠ .disconnected ∧
    (round.received.state.session.sessionState = .disconnected ->
      round.run.state.session.sessionState = .disconnected)

/-! ## The events of one round -/

theorem lifeEvents_append (first second : List Effect) :
    lifeEvents (first ++ second) = lifeEvents first ++ lifeEvents second := by
  rw [lifeEvents, notified, List.filterMap_append, List.filter_append]
  rfl

theorem lifeEvents_cons (effect : Effect) (later : List Effect) :
    lifeEvents (effect :: later) = lifeEvents [effect] ++ lifeEvents later :=
  lifeEvents_append [effect] later

theorem mem_lifeEvents {effects : List Effect} {event : BrokerEvent} :
    event ∈ lifeEvents effects ↔ Effect.notify event ∈ effects ∧ isLifeEvent event = true := by
  rw [lifeEvents, List.mem_filter, mem_notified]

theorem lifeEvents_plain {effects : List Effect}
    (plain : forall effect, effect ∈ effects -> Plain effect) : lifeEvents effects = [] := by
  rw [List.eq_nil_iff_forall_not_mem]
  intro event member
  rcases mem_lifeEvents.mp member with ⟨member, life⟩
  have allowed := plain _ member
  cases event with
  | sessionCreate _ | sessionDestroy _ | topicPublish _ => exact allowed
  | sessionResume _ | topicSubscribe _ | topicUnsubscribe _ => cases life

variable {scene : Scene} {life : Life} {will : Option Message} {round : LifeRound}

theorem lifeEvents_disconnect (reason : Option GoString)
    (running : scene.session.sessionState ≠ .disconnected) (opened : scene.session.conn ≠ none) :
    lifeEvents (disconnect reason scene).effects =
      (reason.bind (fun _ => scene.session.willMsg)).toList.map (willEvent scene) ++
        [destroyEvent scene] := by
  have will : lifeEvents (publishWill reason scene.session scene).effects =
      (reason.bind (fun _ => scene.session.willMsg)).toList.map (willEvent scene) := by
    unfold publishWill
    cases reason with
    | none => rfl
    | some reason => cases scene.session.willMsg <;> rfl
  have rest : lifeEvents ((if scene.session.aliveTimer then [Effect.stopTimer] else []) ++
      [.closeConn, .closeAvailableChan, .closePacketChan]) = [] := by
    cases scene.session.aliveTimer <;> rfl
  rw [disconnect_eq reason running opened, lifeEvents_append, will, lifeEvents_cons, rest]
  rfl

namespace LifeRound

variable {round : LifeRound}

theorem run_of_ok (returned : round.received.outcome = .ok ()) :
    round.run = ⟨round.received.effects, .ok none, round.received.state⟩ :=
  handleInput_returned returned

theorem run_of_stuck (notOk : round.received.outcome ≠ .ok ())
    (notError : forall reason, round.received.outcome ≠ .error reason) :
    round.run.effects = round.received.effects ∧ round.run.state = round.received.state ∧
      forall answer, round.run.outcome ≠ .ok answer :=
  handleInput_stopped notOk notError

theorem trace_of_same (same : round.run.effects = round.received.effects) :
    round.trace = (lifeEvents round.received.effects).filter
      (fun event => ¬ (round.moment.input.isPublish ∧ isTopicPublish event)) := by
  rw [trace, same, List.drop_length, List.append_nil]

theorem trace_of_append {later : List Effect}
    (more : round.run.effects = round.received.effects ++ later) :
    round.trace = (lifeEvents round.received.effects).filter
      (fun event => ¬ (round.moment.input.isPublish ∧ isTopicPublish event)) ++
        lifeEvents later := by
  rw [trace, more, lifeEvents_append, List.drop_left]

theorem ownEvents_served (serves : forall effect, effect ∈ round.received.effects ->
      Serves round.moment.input effect) :
    (lifeEvents round.received.effects).filter
      (fun event => ¬ (round.moment.input.isPublish ∧ isTopicPublish event)) = [] := by
  rw [List.filter_eq_nil_iff]
  intro event member
  rcases mem_lifeEvents.mp member with ⟨member, life⟩
  rcases serves _ member with plain | ⟨publish, published, same⟩
  · have silent := @lifeEvents_plain [.notify event] (by
      intro effect only
      rw [List.mem_singleton.mp only]
      exact plain)
    have listed := mem_lifeEvents.mpr ⟨List.mem_singleton_self (Effect.notify event), life⟩
    rw [silent] at listed
    exact absurd listed List.not_mem_nil
  · cases same
    simp [publish, isTopicPublish]

theorem acceptedRequest_some {request : ConnectRequest}
    (accepts : round.acceptedRequest = some request) :
    exists packet, round.moment.input = .packet packet ∧ packetType packet = CONNECT ∧
      round.received.state.session.sessionState = .connected ∧
      (readConnect { round.scene with packet := packet }).outcome = .ok request := by
  rw [acceptedRequest] at accepts
  cases same : round.moment.input with
  | failure reason | available t =>
    rw [same] at accepts
    cases accepts
  | packet packet =>
    simp only [same] at accepts
    by_cases connects : packetType packet = CONNECT ∧
        round.received.state.session.sessionState = .connected
    · rw [if_pos connects] at accepts
      cases read : (readConnect { round.scene with packet := packet }).outcome with
      | ok found =>
        rw [read] at accepts
        cases accepts
        exact ⟨packet, rfl, connects.1, connects.2, read⟩
      | error reason | panic cause | diverges =>
        rw [read] at accepts
        cases accepts
    · rw [if_neg connects] at accepts
      cases accepts

theorem acceptedRequest_none (unchanged : round.session.sessionState ≠ .new ∨
      round.received.state.session.sessionState ≠ .connected) : round.acceptedRequest = none := by
  cases accepts : round.acceptedRequest with
  | none => rfl
  | some request =>
    rcases acceptedRequest_some accepts with ⟨packet, _, _, connected, read⟩
    exact unchanged.elim (fun old => absurd (readConnect_new read) old)
      (fun other => absurd connected other)

theorem settles (gone : round.received.state.session.sessionState = .disconnected) :
    round.run.state.session.sessionState = .disconnected := by
  by_cases failed : exists reason, round.received.outcome = .error reason
  · rcases failed with ⟨reason, failed⟩
    have run : round.run = _ := handleInput_disconnected failed gone
    rw [run]
    exact gone
  · by_cases returned : round.received.outcome = .ok ()
    · rw [run_of_ok returned]
      exact gone
    · rw [(run_of_stuck returned (fun reason error => failed ⟨reason, error⟩)).2.1]
      exact gone

inductive Outcome (round : LifeRound) : Life -> Option Life -> Prop
  | goesOn {life : Life} (returned : round.run.outcome = .ok none)
      (alive : Alive life round.run.state) (trace : round.trace = [])
      (accepts : round.acceptedRequest = none) (keeps : ¬ round.LosesQueue) :
      Outcome round life (some life)
  | enters {request : ConnectRequest} {event : SessionCreateEvent}
      (alive : Alive (.connected request.willMsg) round.run.state)
      (trace : round.trace = [.sessionCreate event])
      (accepts : round.acceptedRequest = some request) (keeps : ¬ round.LosesQueue)
      (notError : forall reason, round.run.outcome ≠ .ok (some reason)) :
      Outcome round .new (some (.connected request.willMsg))
  | stops {life : Life} (stuck : forall answer, round.run.outcome ≠ .ok answer)
      (trace : round.trace = []) (keeps : ¬ round.LosesQueue) : Outcome round life none
  | leaves {life : Life} (returned : round.run.outcome = .ok none)
      (gone : round.run.state.session.sessionState = .disconnected)
      (trace : round.trace = [destroyEvent round.run.state])
      (keeps : ¬ round.LosesQueue) : Outcome round life none
  | fails {life : Life} {reason : GoString} (returned : round.run.outcome = .ok (some reason))
      (trace : round.trace =
        life.will.toList.map (willEvent round.run.state) ++ [destroyEvent round.run.state])
      (accepts : round.acceptedRequest = none) (keeps : ¬ round.LosesQueue) :
      Outcome round life none
  | loses {reason : GoString} {will : Message} (returned : round.run.outcome = .ok (some reason))
      (trace : round.trace = [willEvent round.run.state will, destroyEvent round.run.state])
      (accepts : round.acceptedRequest = none) (loses : round.LosesQueue) :
      Outcome round .new none

variable {reason : GoString}

theorem trace_failed (failed : round.received.outcome = .error reason)
    (running : round.received.state.session.sessionState ≠ .disconnected)
    (opened : round.received.state.session.conn ≠ none)
    (serves : forall effect, effect ∈ round.received.effects -> Serves round.moment.input effect) :
    round.run.outcome = .ok (some reason) ∧
      round.trace = round.received.state.session.willMsg.toList.map (willEvent round.run.state) ++
        [destroyEvent round.run.state] := by
  have run : round.run = _ := handleInput_disconnects failed running opened
  have effects : round.run.effects =
      round.received.effects ++ (disconnect (some reason) round.received.state).effects := by
    rw [run]
    rfl
  rw [trace_of_append effects, ownEvents_served serves, lifeEvents_disconnect _ running opened, run]
  exact ⟨rfl, rfl⟩

theorem outcome_served {life : Life} (alive : Alive life round.received.state)
    (serves : forall effect, effect ∈ round.received.effects -> Serves round.moment.input effect)
    (accepts : round.acceptedRequest = none) (keeps : ¬ round.LosesQueue) :
    exists after, round.Outcome life after := by
  by_cases failed : exists reason, round.received.outcome = .error reason
  · rcases failed with ⟨reason, failed⟩
    rcases round.trace_failed failed alive.running alive.opened serves with ⟨outcome, trace⟩
    rw [alive.will] at trace
    exact ⟨none, .fails outcome trace accepts keeps⟩
  · by_cases returned : round.received.outcome = .ok ()
    · have run := round.run_of_ok returned
      refine ⟨some life, .goesOn (by rw [run]) (by rw [run]; exact alive) ?_ accepts keeps⟩
      rw [trace_of_same (by rw [run]), ownEvents_served serves]
    · have stuck := round.run_of_stuck returned (fun reason error => failed ⟨reason, error⟩)
      refine ⟨none, .stops stuck.2.2 ?_ keeps⟩
      rw [trace_of_same stuck.1, ownEvents_served serves]

theorem outcome_failsWith {will : Option Message} (fails : FailsWith will reason round.received) :
    round.run.outcome = .ok (some reason) ∧
      round.trace = will.toList.map (willEvent round.run.state) ++ [destroyEvent round.run.state] ∧
      round.acceptedRequest = none := by
  have running : round.received.state.session.sessionState ≠ .disconnected := by
    rw [fails.state]
    exact SessionState.noConfusion
  have unaccepted : round.received.state.session.sessionState ≠ .connected := by
    rw [fails.state]
    exact SessionState.noConfusion
  rcases round.trace_failed fails.outcome running fails.opened
    (fun effect member => .inl (fails.effects effect member)) with ⟨outcome, trace⟩
  rw [fails.will] at trace
  exact ⟨outcome, trace, acceptedRequest_none (.inr unaccepted)⟩

theorem destroyEvent_kept (scene : Scene) :
    [destroyEvent scene].filter
      (fun event => ¬ (round.moment.input.isPublish ∧ isTopicPublish event)) =
        [destroyEvent scene] := by
  simp [destroyEvent, isTopicPublish]

theorem outcome_left {life : Life} {before : Scene}
    (state : before.session.sessionState = .disconnecting) (opened : before.session.conn ≠ none)
    (received : round.received = disconnect none before) (keeps : ¬ round.LosesQueue) :
    round.Outcome life none := by
  have running : before.session.sessionState ≠ .disconnected := by
    rw [state]
    exact SessionState.noConfusion
  have ended := disconnect_eq none running opened
  have run := round.run_of_ok (by rw [received, ended])
  have events : lifeEvents round.received.effects = [destroyEvent before] := by
    rw [received, lifeEvents_disconnect none running opened]
    rfl
  refine .leaves (by rw [run]) ?_ ?_ keeps
  · rw [run, received, ended]
    rfl
  · rw [trace_of_same (by rw [run]), events, destroyEvent_kept, run, received, ended]
    rfl

theorem outcome_banned {effects : List Effect} {before : Scene}
    (plain : forall effect, effect ∈ effects -> Plain effect) (alive : Alive .new before)
    (received : round.received = ⟨effects ++ (disconnect (some reason) before).effects,
      .error reason, (disconnect (some reason) before).state⟩)
    (keeps : ¬ round.LosesQueue) : round.Outcome .new none := by
  have ended := disconnect_eq (some reason) alive.running alive.opened
  have state : round.received.state = before.ended := by rw [received, ended]
  have gone : round.received.state.session.sessionState = .disconnected := by
    rw [state]
    rfl
  have run : round.run = ⟨round.received.effects, .ok (some reason), before.ended⟩ := by
    have failed : round.received.outcome = .error reason := by rw [received]
    rw [← state]
    exact handleInput_disconnected failed gone
  have events : lifeEvents round.received.effects = [destroyEvent before] := by
    rw [received, lifeEvents_append, lifeEvents_plain plain,
      lifeEvents_disconnect (some reason) alive.running alive.opened, Option.bind_some, alive.will]
    rfl
  refine .fails (by rw [run]) ?_ (acceptedRequest_none (.inr ?_)) keeps
  · rw [trace_of_same (by rw [run]), events, destroyEvent_kept, run]
    rfl
  · rw [gone]
    exact SessionState.noConfusion

theorem outcome_accepted {packet : MqttPacket} (same : round.moment.input = .packet packet)
    (connect : packetType packet = CONNECT) {request : ConnectRequest}
    (read : (readConnect { round.scene with packet := packet }).outcome = .ok request)
    {earlier later : List Effect} {event : SessionCreateEvent}
    (effects : round.received.effects = earlier ++ .notify (.sessionCreate event) :: later)
    (before : forall effect, effect ∈ earlier -> Plain effect)
    (after : forall effect, effect ∈ later -> Plain effect)
    (notError : forall reason, round.received.outcome ≠ .error reason)
    (alive : Alive (.connected request.willMsg) round.received.state) (keeps : ¬ round.LosesQueue) :
    round.Outcome .new (some (.connected request.willMsg)) := by
  have accepts : round.acceptedRequest = some request := by
    simp only [acceptedRequest, same, connect, true_and, read]
    exact if_pos alive.state
  have events : lifeEvents round.received.effects = [.sessionCreate event] := by
    rw [effects, lifeEvents_append, lifeEvents_plain before, lifeEvents_cons,
      lifeEvents_plain after]
    rfl
  have trace : round.run.effects = round.received.effects ->
      round.trace = [.sessionCreate event] := by
    intro unchanged
    rw [trace_of_same unchanged, events]
    simp [isTopicPublish]
  by_cases returned : round.received.outcome = .ok ()
  · have run := round.run_of_ok returned
    refine .enters (by rw [run]; exact alive) (trace (by rw [run])) accepts keeps ?_
    rw [run]
    exact fun _ => nofun
  · have stuck := round.run_of_stuck returned notError
    exact .enters (by rw [stuck.2.1]; exact alive) (trace stuck.1) accepts keeps
      (fun reason => stuck.2.2 _)

theorem outcome {life : Life} (alive : Alive life round.scene) :
    exists after, round.Outcome life after := by
  by_cases loses : round.LosesQueue
  · have lost := loses
    rcases lost with ⟨packet, same, connect, lost⟩
    rcases receive_loses alive connect lost with ⟨rfl, will, reason, fails⟩
    rw [← same] at fails
    rcases round.outcome_failsWith fails with ⟨returned, trace, accepts⟩
    exact ⟨none, .loses returned trace accepts loses⟩
  · have unchanged : Alive life round.received.state -> round.acceptedRequest = none := by
      intro still
      cases life with
      | new => exact acceptedRequest_none (.inr (by rw [still.state]; exact SessionState.noConfusion))
      | connected will =>
        have state : round.session.sessionState = .connected := alive.state
        exact acceptedRequest_none (.inl (by rw [state]; exact SessionState.noConfusion))
    cases Mqtt.received round.moment.host round.moment.input alive with
    | served effects still => exact round.outcome_served still effects (unchanged still) loses
    | crashed effects notOk notError =>
      have stuck := round.run_of_stuck notOk notError
      have events : lifeEvents round.received.effects = [] := lifeEvents_plain effects
      refine ⟨none, .stops stuck.2.2 ?_ loses⟩
      rw [trace_of_same stuck.1, events]
      rfl
    | left before state opened run => exact ⟨none, round.outcome_left state opened run loses⟩
    | banned effects plain before aliveBefore reason run =>
      exact ⟨none, round.outcome_banned plain aliveBefore run loses⟩
    | refused same connect request openable reason fails lost =>
      have noWill : request.willMsg = none := by
        by_contra hasWill
        exact loses ⟨_, same, connect, lost.mpr hasWill⟩
      rw [noWill] at fails
      rcases round.outcome_failsWith fails with ⟨returned, trace, accepts⟩
      exact ⟨none, .fails returned trace accepts loses⟩
    | accepted same connect request openable keeps earlier later event effects before after
        notError connected =>
        exact ⟨_, round.outcome_accepted same connect openable.1 effects before after notError
          connected loses⟩

end LifeRound

/-! ## All rounds -/

inductive Course : Life -> List LifeRound -> Prop
  | unfinished {life : Life} : Course life []
  | ends {life : Life} {round : LifeRound} (outcome : round.Outcome life none) : Course life [round]
  | continues {life after : Life} {round : LifeRound} {later : List LifeRound}
      (outcome : round.Outcome life (some after)) (rest : Course after later) :
      Course life (round :: later)

theorem sessionRounds_goesOn {moment : Moment} {later : List Moment} {session : MqttSession}
    (returned : (LifeRound.mk moment session).run.outcome = .ok none)
    (running : (LifeRound.mk moment session).run.state.session.sessionState ≠ .disconnected) :
    sessionRounds (moment :: later) session = ⟨moment, session⟩ ::
      sessionRounds later (LifeRound.mk moment session).run.state.session := by
  simp only [sessionRounds, returned, if_neg running]

theorem sessionRounds_ends {moment : Moment} {later : List Moment} {session : MqttSession}
    (ends : (LifeRound.mk moment session).run.outcome = .ok none ->
      (LifeRound.mk moment session).run.state.session.sessionState = .disconnected) :
    sessionRounds (moment :: later) session = [⟨moment, session⟩] := by
  rw [sessionRounds]
  cases outcome : (LifeRound.mk moment session).run.outcome with
  | ok answer =>
    cases answer with
    | none => simp only [if_pos (ends outcome)]
    | some reason => rfl
  | error reason | panic cause | diverges => rfl

theorem sessionRounds_course (moments : List Moment) (alive : Alive life scene) :
    Course life (sessionRounds moments scene.session) := by
  induction moments generalizing life scene with
  | nil => exact .unfinished
  | cons moment later ih =>
    rcases @LifeRound.outcome ⟨moment, scene.session⟩ _ (alive.elsewhere rfl) with ⟨after, outcome⟩
    have whole := outcome
    cases outcome with
    | goesOn returned still =>
      rw [sessionRounds_goesOn returned still.running]
      exact .continues whole (ih still)
    | enters connected =>
      by_cases returned : (LifeRound.mk moment scene.session).run.outcome = .ok none
      · rw [sessionRounds_goesOn returned connected.running]
        exact .continues whole (ih connected)
      · rw [sessionRounds_ends (fun again => absurd again returned)]
        exact .continues whole .unfinished
    | stops stuck =>
      rw [sessionRounds_ends (fun returned => absurd returned (stuck none))]
      exact .ends whole
    | leaves _ gone =>
      rw [sessionRounds_ends (fun _ => gone)]
      exact .ends whole
    | fails returned | loses returned =>
      rw [sessionRounds_ends (fun none => nomatch returned.symm.trans none)]
      exact .ends whole

theorem dueEvents_stuck (stuck : forall answer, round.run.outcome ≠ .ok answer) :
    dueEvents will [round] = [] := by
  cases outcome : round.run.outcome with
  | ok answer => exact absurd outcome (stuck answer)
  | error reason | panic cause | diverges => simp only [dueEvents, List.getLast?_singleton, outcome]

theorem dueEvents_cons (later : List LifeRound)
    (running : round.run.state.session.sessionState ≠ .disconnected)
    (notError : forall reason, round.run.outcome ≠ .ok (some reason)) :
    dueEvents will (round :: later) = dueEvents will later := by
  cases later with
  | cons next rest => rfl
  | nil =>
    by_cases returned : round.run.outcome = .ok none
    · simp only [dueEvents, List.getLast?_singleton, returned, if_neg running, List.getLast?_nil]
    · rw [dueEvents_stuck]
      · rfl
      · intro answer outcome
        cases answer with
        | none => exact returned outcome
        | some reason => exact notError reason outcome

theorem dueEvents_left (returned : round.run.outcome = .ok none)
    (gone : round.run.state.session.sessionState = .disconnected) :
    dueEvents will [round] = [destroyEvent round.run.state] := by
  simp only [dueEvents, List.getLast?_singleton, returned, if_pos gone]

theorem dueEvents_failed {reason : GoString} (returned : round.run.outcome = .ok (some reason)) :
    dueEvents will [round] =
      will.toList.map (willEvent round.run.state) ++ [destroyEvent round.run.state] := by
  simp only [dueEvents, List.getLast?_singleton, returned]

def Life.dueWill (rounds : List LifeRound) : Life -> Option Message
  | .new => willOf rounds
  | .connected will => will

def Life.creations : Life -> Nat
  | .new => 1
  | .connected _ => 0

theorem creates_cons (round : LifeRound) (later : List LifeRound) :
    creates (round :: later) = round.trace.filter isSessionCreate ++ creates later := by
  rw [creates, List.flatMap_cons, List.filter_append]
  rfl

theorem endings_cons (round : LifeRound) (later : List LifeRound) :
    endings (round :: later) =
      round.trace.filter (fun event => ¬ isSessionCreate event) ++ endings later := by
  rw [endings, List.flatMap_cons, List.filter_append]
  rfl

theorem willOf_cons_none (later : List LifeRound) (accepts : round.acceptedRequest = none) :
    willOf (round :: later) = willOf later := by
  rw [willOf, List.findSome?_cons, accepts]
  rfl

theorem willOf_cons_some {request : ConnectRequest} (later : List LifeRound)
    (accepts : round.acceptedRequest = some request) :
    willOf (round :: later) = request.willMsg := by
  rw [willOf, List.findSome?_cons, accepts]
  rfl

theorem Life.dueWill_cons_none (later : List LifeRound) (life : Life)
    (accepts : round.acceptedRequest = none) :
    life.dueWill (round :: later) = life.dueWill later := by
  cases life with
  | new => exact willOf_cons_none later accepts
  | connected will => rfl

namespace Course

variable {life : Life} {rounds : List LifeRound}

theorem creates_length_le (course : Course life rounds) :
    (creates rounds).length ≤ life.creations := by
  induction course with
  | unfinished => exact Nat.zero_le _
  | @ends life round outcome =>
    have none : (creates [round]).length = 0 := by
      cases outcome with
      | stops _ trace | leaves _ _ trace =>
        rw [creates_cons, trace]
        rfl
      | fails _ trace =>
        rw [creates_cons, trace]
        cases life.will <;> rfl
      | loses _ trace =>
        rw [creates_cons, trace]
        rfl
    rw [none]
    exact Nat.zero_le _
  | continues outcome rest ih =>
    cases outcome with
    | goesOn _ _ trace =>
      rw [creates_cons, trace]
      exact ih
    | enters _ trace =>
      rw [creates_cons, trace, List.length_append]
      exact Nat.add_le_add_left ih 1

theorem endings_eq (course : Course life rounds)
    (keeps : forall round, round ∈ rounds -> ¬ round.LosesQueue) :
    endings rounds = dueEvents (life.dueWill rounds) rounds := by
  induction course with
  | unfinished => rfl
  | @ends life round outcome =>
    cases outcome with
    | stops stuck trace =>
      rw [endings_cons, trace, dueEvents_stuck stuck]
      rfl
    | leaves returned gone trace =>
      rw [endings_cons, trace, dueEvents_left returned gone]
      rfl
    | fails returned trace accepts =>
      have will : life.dueWill [round] = life.will := by
        rw [life.dueWill_cons_none [] accepts]
        cases life <;> rfl
      rw [endings_cons, trace, dueEvents_failed returned, will]
      cases life.will <;> rfl
    | loses _ _ _ loses => exact absurd loses (keeps _ (List.mem_singleton_self _))
  | @continues life after round later outcome rest ih =>
    have keepsLater : forall round, round ∈ later -> ¬ round.LosesQueue :=
      fun round member => keeps round (List.mem_cons_of_mem _ member)
    cases outcome with
    | goesOn returned alive trace accepts =>
      rw [endings_cons, trace,
        dueEvents_cons later alive.running (fun _ error => nomatch returned.symm.trans error),
        life.dueWill_cons_none later accepts]
      exact ih keepsLater
    | enters alive trace accepts _ notError =>
      rw [endings_cons, trace, dueEvents_cons later alive.running notError, Life.dueWill,
        willOf_cons_some later accepts]
      exact ih keepsLater

theorem endings_of_loses (course : Course life rounds) {lost : LifeRound} (member : lost ∈ rounds)
    (loses : lost.LosesQueue) :
    life = .new ∧ (endings rounds).length = 2 ∧ (dueEvents (willOf rounds) rounds).length = 1 := by
  induction course with
  | unfinished => exact absurd member List.not_mem_nil
  | ends outcome =>
    have same := List.mem_singleton.mp member
    subst same
    cases outcome with
    | stops _ _ keeps | leaves _ _ _ keeps | fails _ _ _ keeps => exact absurd loses keeps
    | loses returned trace accepts =>
      rw [endings_cons, trace, willOf_cons_none [] accepts, dueEvents_failed returned]
      exact ⟨rfl, rfl, rfl⟩
  | @continues life after round later outcome rest ih =>
    cases outcome with
    | goesOn returned alive trace accepts keeps =>
      rw [endings_cons, trace,
        dueEvents_cons later alive.running (fun _ error => nomatch returned.symm.trans error),
        willOf_cons_none later accepts]
      rcases List.mem_cons.mp member with rfl | member
      · exact absurd loses keeps
      · exact ih member
    | enters _ _ _ keeps =>
      rcases List.mem_cons.mp member with rfl | member
      · exact absurd loses keeps
      · exact absurd (ih member).1 nofun

end Course

theorem sessionRounds_alive (moments : List Moment) (alive : Alive life scene)
    (member : round ∈ sessionRounds moments scene.session) :
    exists life, Alive life round.scene := by
  induction moments generalizing life scene with
  | nil => exact absurd member List.not_mem_nil
  | cons moment later ih =>
    have first : Alive life (LifeRound.mk moment scene.session).scene := alive.elsewhere rfl
    by_cases continues : (LifeRound.mk moment scene.session).run.outcome = .ok none ∧
        (LifeRound.mk moment scene.session).run.state.session.sessionState ≠ .disconnected
    · rw [sessionRounds_goesOn continues.1 continues.2] at member
      rcases List.mem_cons.mp member with rfl | member
      · exact ⟨life, first⟩
      · rcases LifeRound.outcome first with ⟨after, outcome⟩
        cases outcome with
        | goesOn _ still => exact ih still member
        | enters connected => exact ih connected member
        | stops stuck => exact absurd continues.1 (stuck none)
        | leaves _ gone => exact absurd gone continues.2
        | fails returned | loses returned => exact nomatch returned.symm.trans continues.1
    · rw [sessionRounds_ends (fun returned => not_not.mp (not_and.mp continues returned)),
        List.mem_singleton] at member
      subst member
      exact ⟨life, first⟩

theorem LifeRound.acknowledges (alive : Alive life round.scene)
    (opened : round.session.conn = some reliableConn) {request : ConnectRequest}
    (accepts : round.acceptedRequest = some request) :
    exists ack, Effect.write CONNACK [CONNACK, 2, ack, CONNACK_ACCEPTED] ∈
      round.received.effects := by
  rcases acceptedRequest_some accepts with ⟨packet, same, connect, connected, read⟩
  have new := readConnect_new read
  rw [alive.state] at new
  cases life with
  | connected will => cases new
  | new =>
    rw [received, same] at connected ⊢
    exact receive_acknowledges alive connect opened connected

/-- A session lives once exactly if no CONNECT packet with a will is refused a
queue. -/
theorem livesOnce_iff (id : ConnId) (conn : Connection) (authNeed : Bool)
    (moments : List Moment) :
    LivesOnce (sessionRounds moments (newMqttSession id conn authNeed)) ↔
      forall round, round ∈ sessionRounds moments (newMqttSession id conn authNeed) ->
        ¬ round.LosesQueue := by
  let scene : Scene := ⟨newMqttSession id conn authNeed, newMqttPacket, newBroker []⟩
  have alive : Alive .new scene := ⟨rfl, rfl, Option.some_ne_none conn⟩
  have course := sessionRounds_course moments alive
  constructor
  · intro lives round member loses
    rcases course.endings_of_loses member loses with ⟨_, two, one⟩
    rw [lives.ended, one] at two
    cases two
  · intro keeps
    refine ⟨course.creates_length_le, course.endings_eq keeps, ?_, ?_⟩
    · intro round member opened request accepts
      rcases sessionRounds_alive moments alive member with ⟨life, alive⟩
      exact round.acknowledges alive opened accepts
    · intro round member
      rcases sessionRounds_alive moments alive member with ⟨life, alive⟩
      exact ⟨alive.running, LifeRound.settles⟩

def willConnect : MqttPacket :=
  let body := shortField (ascii "MQTT") ++ [4, 0xC6, 0, 0] ++
    shortField (ascii "c|timestamp=1") ++ shortField (ascii "w") ++ shortField (ascii "x") ++
    shortField (ascii "d&p") ++ shortField []
  { newMqttPacket with
    command := CONNECT
    remainingLength := body.length
    payload := ⟨body, []⟩ }

def occupiedMoment : Moment where
  host := quietHost
  broker := { newBroker (ascii "b") with
    queueService := (newQueueService.newQueue (ascii "c") false (.ok ())).2 }
  input := .packet willConnect

/-- The client is refused a queue, and its will is published all the same. -/
theorem refused_client_publishes_will :
    ¬ LivesOnce (sessionRounds [occupiedMoment] (newMqttSession 1 reliableConn false)) := by
  intro lives
  exact absurd lives.ended (by decide +kernel)

end Mqtt
end Sentel
