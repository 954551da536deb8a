import Sentel.Concurrency.System
import Sentel.Mqtt.Rounds

namespace Sentel
namespace Concurrency

open Library Base Queue Event SessionMgr Auth Mqtt

/-!
# How a session closes

A round of the main loop closes nothing and leaves the session running, or it
closes the connection, the channel for data and the channel for packets, in this
order and as the last thing before the main loop returns.  A session process is
therefore always in one of a few phases, which say what is still open and what
the main loop has left to do.
-/

/-! ## What a round closes -/

def Closing : Effect -> Prop
  | .closeConn => True
  | .closeAvailableChan => True
  | .closePacketChan => True
  | _ => False

def closings : List Effect := [.closeConn, .closeAvailableChan, .closePacketChan]

theorem not_closing_of_plain {effect : Effect} (plain : Plain effect) : ¬ Closing effect := by
  intro closing
  cases effect with
  | closeConn | closeAvailableChan | closePacketChan => exact plain
  | notify event | write command bytes | accessQueue | startTimer | stopTimer => exact closing

theorem not_closing_of_serves {input : Input} {effect : Effect} (serves : Serves input effect) :
    ¬ Closing effect := by
  rcases serves with plain | ⟨_, event, rfl⟩
  · exact not_closing_of_plain plain
  · exact id

theorem disconnect_closes {scene : Scene} (reason : Option GoString)
    (running : scene.session.sessionState ≠ .disconnected) (opened : scene.session.conn ≠ none) :
    exists before, (disconnect reason scene).effects = before ++ closings ∧
      forall effect, effect ∈ before -> ¬ Closing effect := by
  let ended : Effect := .notify (.sessionDestroy
    { clientId := scene.session.clientID, brokerId := scene.broker.brokerId })
  let timer : List Effect := if scene.session.aliveTimer then [.stopTimer] else []
  have will : Handler.Keeps (fun _ => True) (fun effect => ¬ Closing effect)
      (publishWill reason scene.session) := publishWill_keeps (fun _ => id) reason scene.session
  have stops : forall effect, effect ∈ timer -> ¬ Closing effect := by
    change forall effect, effect ∈ (if scene.session.aliveTimer then [Effect.stopTimer] else []) -> _
    cases scene.session.aliveTimer with
    | false => exact fun _ member => absurd member List.not_mem_nil
    | true =>
      intro effect member
      rw [List.mem_singleton.mp member]
      exact id
  refine ⟨(publishWill reason scene.session scene).effects ++ ended :: timer, ?_, ?_⟩
  · rw [disconnect_eq reason running opened, List.append_assoc]
    rfl
  · intro effect member
    rcases List.mem_append.mp member with member | member
    · exact (will scene True.intro).1 effect member
    · rcases List.mem_cons.mp member with rfl | member
      · exact id
      · exact stops effect member

inductive Closes (run : Run Scene Effect GoString (Option GoString)) : Prop
  | nothing (effects : forall effect, effect ∈ run.effects -> ¬ Closing effect)
      (notError : forall reason, run.outcome ≠ .ok (some reason))
      (alive : run.outcome = .ok none -> exists life, Alive life run.state) : Closes run
  | everything (before : List Effect) (effects : run.effects = before ++ closings)
      (plain : forall effect, effect ∈ before -> ¬ Closing effect)
      (ends : (exists reason, run.outcome = .ok (some reason)) ∨
        run.outcome = .ok none ∧ run.state.session.sessionState = .disconnected) : Closes run

section Rounds

variable {host : Host} {input : Input} {scene : Scene}

theorem closes_of_failed {reason : GoString}
    (failed : (Mqtt.receive host input scene).outcome = .error reason)
    (running : (Mqtt.receive host input scene).state.session.sessionState ≠ .disconnected)
    (opened : (Mqtt.receive host input scene).state.session.conn ≠ none)
    (plain : forall effect, effect ∈ (Mqtt.receive host input scene).effects -> ¬ Closing effect) :
    Closes (handleInput host input scene) := by
  rcases disconnect_closes (some reason) running opened with ⟨before, effects, plainBefore⟩
  have run := handleInput_disconnects failed running opened
  refine .everything ((Mqtt.receive host input scene).effects ++ before) ?_ ?_ (.inl ⟨reason, ?_⟩)
  · rw [run, effects, List.append_assoc]
  · intro effect member
    exact (List.mem_append.mp member).elim (plain effect) (plainBefore effect)
  · rw [run]

theorem closes_of_alive {life : Life} (alive : Alive life (Mqtt.receive host input scene).state)
    (plain : forall effect, effect ∈ (Mqtt.receive host input scene).effects -> ¬ Closing effect) :
    Closes (handleInput host input scene) := by
  by_cases failed : exists reason, (Mqtt.receive host input scene).outcome = .error reason
  · rcases failed with ⟨reason, failed⟩
    exact closes_of_failed failed alive.running alive.opened plain
  · by_cases returned : (Mqtt.receive host input scene).outcome = .ok ()
    · rw [handleInput_returned returned]
      exact .nothing plain (fun _ => nofun) (fun _ => ⟨life, alive⟩)
    · have stuck := handleInput_stopped returned (fun reason error => failed ⟨reason, error⟩)
      refine .nothing ?_ (fun _ => stuck.2.2 _) (fun ok => absurd ok (stuck.2.2 none))
      rw [stuck.1]
      exact plain

theorem handleInput_closes (host : Host) (input : Input) {life : Life}
    (alive : Alive life scene) : Closes (handleInput host input scene) := by
  cases Mqtt.received host input alive with
  | served effects still =>
    exact closes_of_alive still (fun effect member => not_closing_of_serves (effects effect member))
  | crashed effects notOk notError =>
    have stuck := handleInput_stopped notOk notError
    refine .nothing ?_ (fun _ => stuck.2.2 _) (fun ok => absurd ok (stuck.2.2 none))
    rw [stuck.1]
    exact fun effect member => not_closing_of_plain (effects effect member)
  | left before state opened run =>
    have running : before.session.sessionState ≠ .disconnected := by
      rw [state]
      exact SessionState.noConfusion
    rcases disconnect_closes none running opened with ⟨front, effects, plain⟩
    have ended := disconnect_eq none running opened
    rw [handleInput_returned (by rw [run, ended]), run]
    exact .everything front effects plain (.inr ⟨rfl, by rw [ended]; rfl⟩)
  | banned effects plain before aliveBefore reason run =>
    rcases disconnect_closes (some reason) aliveBefore.running aliveBefore.opened
        with ⟨front, closed, plainFront⟩
    have ended := disconnect_eq (some reason) aliveBefore.running aliveBefore.opened
    rw [handleInput_disconnected (by rw [run]) (by rw [run, ended]; rfl), run]
    refine .everything (effects ++ front) ?_ ?_ (.inl ⟨reason, rfl⟩)
    · rw [closed, List.append_assoc]
    · intro effect member
      exact (List.mem_append.mp member).elim
        (fun early => not_closing_of_plain (plain effect early)) (plainFront effect)
  | refused same connect request openable reason fails lost =>
    refine closes_of_failed fails.outcome ?_ fails.opened
      (fun effect member => not_closing_of_plain (fails.effects effect member))
    rw [fails.state]
    exact SessionState.noConfusion
  | accepted same connect request openable keeps earlier later event effects before after
      notError connected =>
      apply closes_of_alive connected
      intro effect member
      rw [effects] at member
      rcases List.mem_append.mp member with member | member
      · exact not_closing_of_plain (before effect member)
      · rcases List.mem_cons.mp member with rfl | member
        · exact id
        · exact not_closing_of_plain (after effect member)

end Rounds

/-! ## The phases of a session -/

namespace SessionProcess

def Lives (process : SessionProcess) : Prop :=
  exists life scene, scene.session = process.session ∧ Alive life scene

structure Opened (process : SessionProcess) : Prop where
  conn : process.connOpen = true
  available : process.availableOpen = true
  packet : process.packetOpen = true

inductive Phase (process : SessionProcess) : Prop
  | selecting (idle : process.mainLoop = .selecting) (lives : process.Lives)
      (opened : process.Opened) : Phase process
  | serving (todo : List Effect) (rest : Continuation) (busy : process.mainLoop = .handling todo rest)
      (plain : forall effect, effect ∈ todo -> ¬ Closing effect) (stays : rest ≠ .returns)
      (lives : rest = .selects -> process.Lives) (opened : process.Opened) : Phase process
  | ending (before : List Effect) (busy : process.mainLoop = .handling (before ++ closings) .returns)
      (plain : forall effect, effect ∈ before -> ¬ Closing effect)
      (opened : process.Opened) : Phase process
  | hungUp (busy : process.mainLoop = .handling [.closeAvailableChan, .closePacketChan] .returns)
      (hung : process.connOpen = false) (packet : process.packetOpen = true) : Phase process
  | silenced (busy : process.mainLoop = .handling [.closePacketChan] .returns)
      (hung : process.connOpen = false) (packet : process.packetOpen = true) : Phase process
  | closed (done : process.mainLoop = .handling [] .returns ∨ process.mainLoop = .returned)
      (hung : process.connOpen = false) : Phase process

variable {process : SessionProcess}

theorem Phase.packetOpen (phase : process.Phase) (conn : process.connOpen = true) :
    process.packetOpen = true := by
  cases phase with
  | selecting _ _ opened | serving _ _ _ _ _ _ opened | ending _ _ _ opened => exact opened.packet
  | hungUp _ _ packet | silenced _ _ packet => exact packet
  | closed _ hung => exact absurd (hung.symm.trans conn) Bool.false_ne_true

theorem Phase.of_selecting (phase : process.Phase) (idle : process.mainLoop = .selecting) :
    process.Lives ∧ process.Opened := by
  cases phase with
  | selecting _ lives opened => exact ⟨lives, opened⟩
  | serving _ _ busy | ending _ busy | hungUp busy | silenced busy => cases idle.symm.trans busy
  | closed done => rcases done with done | done <;> cases idle.symm.trans done

@[simp] theorem perform_session (process : SessionProcess) (effect : Effect) :
    (System.perform process effect).session = process.session := by
  cases effect <;> rfl

@[simp] theorem perform_reader (process : SessionProcess) (effect : Effect) :
    (System.perform process effect).reader = process.reader := by
  cases effect <;> rfl

theorem perform_channels {effect : Effect} (plain : ¬ Closing effect) :
    (System.perform process effect).connOpen = process.connOpen ∧
      (System.perform process effect).availableOpen = process.availableOpen ∧
      (System.perform process effect).packetOpen = process.packetOpen := by
  cases effect with
  | closeConn | closeAvailableChan | closePacketChan => exact absurd True.intro plain
  | _ => exact ⟨rfl, rfl, rfl⟩

theorem Opened.perform (opened : process.Opened) {effect : Effect} (plain : ¬ Closing effect)
    (mainLoop : MainLoop) :
    Opened { System.perform process effect with mainLoop := mainLoop } := by
  rcases @perform_channels process _ plain with ⟨conn, available, packet⟩
  exact ⟨conn.trans opened.conn, available.trans opened.available, packet.trans opened.packet⟩

theorem Lives.perform (lives : process.Lives) (effect : Effect) (mainLoop : MainLoop) :
    Lives { System.perform process effect with mainLoop := mainLoop } := by
  rcases lives with ⟨life, scene, same, alive⟩
  exact ⟨life, scene, same.trans (perform_session process effect).symm, alive⟩

theorem Phase.perform (phase : process.Phase) {effect : Effect} {todo : List Effect}
    {rest : Continuation} (busy : process.mainLoop = .handling (effect :: todo) rest) :
    Phase { System.perform process effect with mainLoop := .handling todo rest } := by
  cases phase with
  | selecting idle => cases idle.symm.trans busy
  | serving _ _ serves plain stays lives opened =>
    cases serves.symm.trans busy
    have first := plain effect List.mem_cons_self
    exact .serving todo rest rfl (fun other member => plain other (List.mem_cons_of_mem _ member))
      stays (fun selects => (lives selects).perform effect _) (opened.perform first _)
  | ending before ends plain opened =>
    cases before with
    | nil =>
      cases ends.symm.trans busy
      exact .hungUp rfl rfl opened.packet
    | cons first later =>
      cases ends.symm.trans busy
      exact .ending later rfl (fun other member => plain other (List.mem_cons_of_mem _ member))
        (opened.perform (plain effect List.mem_cons_self) _)
  | hungUp closes hung packet =>
    cases closes.symm.trans busy
    exact .silenced rfl hung packet
  | silenced closes hung packet =>
    cases closes.symm.trans busy
    exact .closed (.inl rfl) hung
  | closed done => rcases done with done | done <;> cases done.symm.trans busy

theorem Phase.congr (phase : process.Phase) {other : SessionProcess}
    (session : other.session = process.session) (mainLoop : other.mainLoop = process.mainLoop)
    (conn : other.connOpen = process.connOpen)
    (available : other.availableOpen = process.availableOpen)
    (packet : other.packetOpen = process.packetOpen) : other.Phase := by
  have lives : process.Lives -> other.Lives := by
    rintro ⟨life, scene, same, alive⟩
    exact ⟨life, scene, same.trans session.symm, alive⟩
  have opens : process.Opened -> other.Opened := fun opened =>
    ⟨conn.trans opened.conn, available.trans opened.available, packet.trans opened.packet⟩
  cases phase with
  | selecting idle alive opened =>
    exact .selecting (mainLoop.trans idle) (lives alive) (opens opened)
  | serving todo rest busy plain stays alive opened =>
    exact .serving todo rest (mainLoop.trans busy) plain stays (fun again => lives (alive again))
      (opens opened)
  | ending before busy plain opened =>
    exact .ending before (mainLoop.trans busy) plain (opens opened)
  | hungUp busy hung still => exact .hungUp (mainLoop.trans busy) (conn.trans hung) (packet.trans still)
  | silenced busy hung still =>
    exact .silenced (mainLoop.trans busy) (conn.trans hung) (packet.trans still)
  | closed done hung => exact .closed (done.imp mainLoop.trans mainLoop.trans) (conn.trans hung)

theorem Phase.finish (phase : process.Phase) {rest : Continuation} {done : MainLoop}
    (busy : process.mainLoop = .handling [] rest)
    (ends : done = .selecting ∧ rest = .selects ∨ done = .returned ∧ rest = .returns) :
    Phase { process with mainLoop := done } := by
  cases phase with
  | selecting idle => cases idle.symm.trans busy
  | serving _ _ serves plain stays lives opened =>
    cases serves.symm.trans busy
    rcases ends with ⟨rfl, rfl⟩ | ⟨_, returns⟩
    · exact .selecting rfl (lives rfl) ⟨opened.conn, opened.available, opened.packet⟩
    · exact absurd returns stays
  | ending before closes =>
    have empty := closes.symm.trans busy
    simp [closings] at empty
  | hungUp closes | silenced closes => cases closes.symm.trans busy
  | closed finished hung =>
    rcases finished with finished | finished
    · cases finished.symm.trans busy
      rcases ends with ⟨_, selects⟩ | ⟨rfl, _⟩
      · cases selects
      · exact .closed (.inr rfl) hung
    · cases finished.symm.trans busy

theorem Phase.begin (opened : process.Opened) {run : Run Scene Effect GoString (Option GoString)}
    (closes : Closes run) {rest : Continuation}
    (continues : System.continuation run.state.session run.outcome = some rest) :
    Phase { process with session := run.state.session, mainLoop := .handling run.effects rest } := by
  have stillOpen : Opened
      { process with session := run.state.session, mainLoop := .handling run.effects rest } :=
    ⟨opened.conn, opened.available, opened.packet⟩
  cases closes with
  | nothing effects notError alive =>
    cases outcome : run.outcome with
    | ok answer =>
      cases answer with
      | none =>
        rcases alive outcome with ⟨life, alive⟩
        rw [outcome, System.continuation, if_neg alive.running] at continues
        cases continues
        exact .serving _ _ rfl effects Continuation.noConfusion
          (fun _ => ⟨life, run.state, rfl, alive⟩) stillOpen
      | some reason => exact absurd outcome (notError reason)
    | error reason | panic cause =>
      rw [outcome] at continues
      cases continues
    | diverges =>
      rw [outcome] at continues
      cases continues
      exact .serving _ _ rfl effects Continuation.noConfusion nofun stillOpen
  | everything before effects plain ends =>
    have returns : rest = .returns := by
      rcases ends with ⟨reason, outcome⟩ | ⟨outcome, gone⟩
      · rw [outcome] at continues
        cases continues
        rfl
      · rw [outcome, System.continuation, if_pos gone] at continues
        cases continues
        rfl
    refine .ending before ?_ plain stillOpen
    rw [effects, returns]

end SessionProcess

end Concurrency
end Sentel
