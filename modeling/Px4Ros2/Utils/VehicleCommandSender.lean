import Px4Ros2.Lib.Machine
import Px4Ros2.Components.Messages

/-! `VehicleCommandSender::sendCommandSync` and the flight controller it talks to. Commands and
acknowledgements travel in order, with any delay. Every copy of a command keeps the number of the
call that published it, which no message carries. -/

set_option autoImplicit false

namespace Px4Ros2

/-- A published command. -/
structure CommandCopy where
  call : Nat
  cmd : VehicleCommand
deriving DecidableEq, Repr

/-- A copy that the flight controller processed. -/
structure AnsweredCopy where
  copy : CommandCopy
  verdict : UInt8
deriving DecidableEq, Repr

def AnsweredCopy.ack (answered : AnsweredCopy) : VehicleCommandAck :=
  ⟨answered.copy.cmd.command, answered.verdict, answered.copy.cmd.sourceComponent⟩

/-- A call that returned. -/
structure ReturnedCall where
  call : Nat
  result : Result
  /-- The copy whose acknowledgement ended the call. -/
  consumed : Option AnsweredCopy
  /-- The copies that were on their way, or their acknowledgements, when the call started. -/
  underWay : List CommandCopy
deriving DecidableEq, Repr

structure VehicleCommandSender where
  /-- The queue of the subscription that the running call made. -/
  vehicleCommandAckSub : Option AnsweredCopy := none
  fmuInbox : List CommandCopy := []
  /-- Acknowledgements on their way to the node. -/
  acks : List AnsweredCopy := []
  calls : List VehicleCommand := []
  emitted : List AnsweredCopy := []
  underWay : List CommandCopy := []
  returned : List ReturnedCall := []
deriving DecidableEq, Repr

namespace VehicleCommandSender

inductive Task where
  /-- The wait after publishing for the given retry. -/
  | awaitAck (cmd : VehicleCommand) (retries : Nat)
deriving DecidableEq, Repr

inductive Input where
  | sendCommandSync (cmd : VehicleCommand)
  /-- The wait set is ready and `take` is called. -/
  | take
  /-- The timeout of the running retry is over. -/
  | timeout
  | fmuReceives (verdict : UInt8)
  | ackArrives
deriving DecidableEq, Repr

abbrev Config := Lib.Config VehicleCommandSender Task

def maxRetries : Nat := 3

def matchesAck (cmd : VehicleCommand) (ack : VehicleCommandAck) : Bool :=
  ack.command == cmd.command && ack.targetComponent == cmd.sourceComponent

def resultOf (ack : VehicleCommandAck) : Result :=
  if ack.result = VehicleCommandAck.resultAccepted then .success else .rejected

/-- The copies that the flight controller has not processed, or whose acknowledgement has not
reached the node. -/
def inFlight (sender : VehicleCommandSender) : List CommandCopy :=
  sender.fmuInbox ++ sender.acks.map AnsweredCopy.copy

/-- The call that runs, or ran last. -/
def currentCall (sender : VehicleCommandSender) : Nat :=
  sender.calls.length - 1

def publish (sender : VehicleCommandSender) (cmd : VehicleCommand) : VehicleCommandSender :=
  { sender with fmuInbox := sender.fmuInbox ++ [⟨sender.currentCall, cmd⟩] }

/-- `sendCommandSync` up to its first wait: a fresh subscription, and the first copy. -/
def sendCommandSync (sender : VehicleCommandSender) (cmd : VehicleCommand) :
    VehicleCommandSender × List Task :=
  ({ sender with
      vehicleCommandAckSub := none
      calls := sender.calls ++ [cmd]
      underWay := sender.inFlight }.publish cmd, [.awaitAck cmd 0])

/-- The subscription is dropped and the call returns. -/
def finish (sender : VehicleCommandSender) (result : Result) (consumed : Option AnsweredCopy) :
    VehicleCommandSender × List Task :=
  ({ sender with
      vehicleCommandAckSub := none
      returned := sender.returned ++ [⟨sender.currentCall, result, consumed, sender.underWay⟩] },
    [])

def take (sender : VehicleCommandSender) (cmd : VehicleCommand) (retries : Nat) :
    VehicleCommandSender × List Task :=
  match sender.vehicleCommandAckSub with
  | none => (sender, [.awaitAck cmd retries])
  | some answered =>
      if matchesAck cmd answered.ack then sender.finish (resultOf answered.ack) (some answered)
      else ({ sender with vehicleCommandAckSub := none }, [.awaitAck cmd retries])

def timeout (sender : VehicleCommandSender) (cmd : VehicleCommand) (retries : Nat) :
    VehicleCommandSender × List Task :=
  if retries + 1 < maxRetries then (sender.publish cmd, [.awaitAck cmd (retries + 1)])
  else sender.finish .timeout none

/-- The flight controller processes the oldest copy and acknowledges it. -/
def fmuReceives (sender : VehicleCommandSender) (verdict : UInt8) :
    Option VehicleCommandSender :=
  match sender.fmuInbox with
  | [] => none
  | copy :: rest =>
      some { sender with
        fmuInbox := rest
        acks := sender.acks ++ [⟨copy, verdict⟩]
        emitted := sender.emitted ++ [⟨copy, verdict⟩] }

/-- The oldest acknowledgement reaches the node. The queue holds one message, the newest; without
a subscription the message is lost. -/
def ackArrives (sender : VehicleCommandSender) (subscribed : Bool) :
    Option VehicleCommandSender :=
  match sender.acks with
  | [] => none
  | answered :: rest =>
      some { sender with
        acks := rest
        vehicleCommandAckSub :=
          if subscribed then some answered else sender.vehicleCommandAckSub }

def exec (sender : VehicleCommandSender) :
    Task → Input → Option (VehicleCommandSender × List Task)
  | .awaitAck cmd retries, .take => some (sender.take cmd retries)
  | .awaitAck cmd retries, .timeout => some (sender.timeout cmd retries)
  | task, .fmuReceives verdict => (sender.fmuReceives verdict).map fun after => (after, [task])
  | task, .ackArrives => (sender.ackArrives true).map fun after => (after, [task])
  | _, .sendCommandSync _ => none

def idle (sender : VehicleCommandSender) : Input → Option (VehicleCommandSender × List Task)
  | .sendCommandSync cmd => some (sender.sendCommandSync cmd)
  | .fmuReceives verdict => (sender.fmuReceives verdict).map fun after => (after, [])
  | .ackArrives => (sender.ackArrives false).map fun after => (after, [])
  | _ => none

def machine : Lib.Machine VehicleCommandSender Task Input := ⟨exec, idle⟩

def initial : Config := ⟨{}, []⟩

/-- A call that got a reply consumed the acknowledgement of one of its own copies and returns that
copy's verdict. -/
def RepliesAreOwn (sender : VehicleCommandSender) : Prop :=
  ∀ returned ∈ sender.returned, returned.result = .success ∨ returned.result = .rejected →
    ∃ answered ∈ sender.emitted, returned.consumed = some answered ∧
      returned.result = resultOf answered.ack ∧
      sender.calls[returned.call]? = some answered.copy.cmd ∧
      answered.copy.call = returned.call

/-- A call that got a reply consumed an acknowledgement that matches its command and returns the
verdict on that copy. The copy is of this very call, or of an earlier call that had copies or
acknowledgements under way when this one started. -/
def RepliesMatch (sender : VehicleCommandSender) : Prop :=
  ∀ returned ∈ sender.returned, returned.result = .success ∨ returned.result = .rejected →
    ∃ answered ∈ sender.emitted, ∃ cmd, returned.consumed = some answered ∧
      returned.result = resultOf answered.ack ∧
      sender.calls[returned.call]? = some cmd ∧ matchesAck cmd answered.ack = true ∧
      sender.calls[answered.copy.call]? = some answered.copy.cmd ∧
      (answered.copy.call = returned.call ∨
        answered.copy.call < returned.call ∧ answered.copy ∈ returned.underWay)

/-- What the sender knows about a copy that can still answer the running call. -/
private structure CopyTracked (sender : VehicleCommandSender) (copy : CommandCopy) : Prop where
  sent : sender.calls[copy.call]? = some copy.cmd
  /-- `copy.call` is the current call, or the copy was under way when it started. -/
  recent : copy.call = sender.currentCall ∨
    copy.call < sender.currentCall ∧ copy ∈ sender.underWay

private structure Tracked (config : Config) : Prop where
  inFlight : ∀ copy ∈ config.state.inFlight, CopyTracked config.state copy
  acks : ∀ answered ∈ config.state.acks, answered ∈ config.state.emitted
  received : ∀ answered ∈ config.state.vehicleCommandAckSub,
    answered ∈ config.state.emitted ∧ CopyTracked config.state answered.copy
  running : ∀ task ∈ config.agenda, ∃ cmd retries, task = .awaitAck cmd retries ∧
    config.state.calls[config.state.currentCall]? = some cmd
  alone : config.agenda.length ≤ 1
  replies : RepliesMatch config.state

variable {sender after : VehicleCommandSender}

/-- A copy stays tracked while no call starts. -/
private theorem CopyTracked.of_same {copy : CommandCopy} (tracked : CopyTracked sender copy)
    (calls : after.calls = sender.calls) (underWay : after.underWay = sender.underWay) :
    CopyTracked after copy := by
  obtain ⟨sent, recent⟩ := tracked
  refine ⟨by rw [calls]; exact sent, ?_⟩
  simpa only [currentCall, calls, underWay] using recent

/-- When a call starts, what is in flight is under way. -/
private theorem CopyTracked.of_start {copy : CommandCopy} (cmd : VehicleCommand)
    (tracked : CopyTracked sender copy) (inFlight : copy ∈ sender.inFlight)
    (calls : after.calls = sender.calls ++ [cmd]) (underWay : after.underWay = sender.inFlight) :
    CopyTracked after copy := by
  have bound : copy.call < sender.calls.length :=
    (List.getElem?_eq_some_iff.mp tracked.sent).1
  refine ⟨?_, .inr ⟨?_, underWay ▸ inFlight⟩⟩
  · rw [calls, List.getElem?_append_left bound]
    exact tracked.sent
  · simpa only [currentCall, calls, List.length_append, List.length_singleton,
      Nat.add_sub_cancel] using bound

/-- Replies stay justified as calls and acknowledgements are added. -/
private theorem replies_mono (before : RepliesMatch sender)
    (returned : after.returned = sender.returned)
    (emitted : ∀ answered ∈ sender.emitted, answered ∈ after.emitted)
    (calls : ∀ (call : Nat) cmd, sender.calls[call]? = some cmd → after.calls[call]? = some cmd) :
    RepliesMatch after := by
  intro call member replied
  obtain ⟨answered, known, cmd, consumed, result, sent, matched, sentCopy, own⟩ :=
    before call (returned ▸ member) replied
  exact ⟨answered, emitted answered known, cmd, consumed, result, calls _ _ sent, matched,
    calls _ _ sentCopy, own⟩

private theorem calls_append (cmd : VehicleCommand) (call : Nat) (old : VehicleCommand)
    (sent : sender.calls[call]? = some old) : (sender.calls ++ [cmd])[call]? = some old := by
  rw [List.getElem?_append_left (List.getElem?_eq_some_iff.mp sent).1]
  exact sent

private theorem publish_inFlight (cmd : VehicleCommand) {copy : CommandCopy}
    (member : copy ∈ (sender.publish cmd).inFlight) :
    copy ∈ sender.inFlight ∨ copy = ⟨sender.currentCall, cmd⟩ := by
  simp only [inFlight, publish, List.mem_append, List.mem_singleton] at member ⊢
  rcases member with (old | new) | acked
  · exact .inl (.inl old)
  · exact .inr new
  · exact .inl (.inr acked)

private theorem sendCommandSync_tracked (before : Tracked ⟨sender, []⟩) (cmd : VehicleCommand) :
    Tracked ⟨(sender.sendCommandSync cmd).1, (sender.sendCommandSync cmd).2⟩ := by
  have sent : (sender.calls ++ [cmd])[sender.calls.length]? = some cmd := by simp
  constructor
  · intro copy member
    rcases publish_inFlight cmd member with old | rfl
    · exact (before.inFlight copy old).of_start cmd old rfl rfl
    · exact ⟨by simp [sendCommandSync, publish, currentCall], .inl rfl⟩
  · exact before.acks
  · simp [sendCommandSync, publish]
  · intro task member
    cases List.mem_singleton.mp member
    exact ⟨cmd, 0, rfl, by simp [sendCommandSync, publish, currentCall]⟩
  · simp [sendCommandSync]
  · exact replies_mono before.replies rfl (fun _ known => known) (calls_append cmd)

/-- The flight controller turns a copy into its acknowledgement. -/
private theorem fmuReceives_tracked {agenda : List Task} (before : Tracked ⟨sender, agenda⟩)
    {verdict : UInt8} (received : sender.fmuReceives verdict = some after) :
    Tracked ⟨after, agenda⟩ := by
  unfold fmuReceives at received
  split at received
  · cases received
  · rename_i copy rest inbox
    cases received
    constructor
    · intro other member
      refine (before.inFlight other ?_).of_same rfl rfl
      simp only [inFlight, inbox, List.map_append, List.map_cons, List.map_nil, List.mem_append,
        List.mem_cons, List.not_mem_nil, or_false] at member ⊢
      rcases member with waiting | acked | rfl
      · exact .inl (.inr waiting)
      · exact .inr acked
      · exact .inl (.inl rfl)
    · intro answered member
      rcases List.mem_append.mp member with old | new
      · exact List.mem_append_left _ (before.acks answered old)
      · exact List.mem_append_right _ new
    · intro answered member
      obtain ⟨known, tracked⟩ := before.received answered member
      exact ⟨List.mem_append_left _ known, tracked.of_same rfl rfl⟩
    · exact before.running
    · exact before.alone
    · exact replies_mono before.replies rfl (fun _ known => List.mem_append_left _ known)
        fun _ _ sent => sent

private theorem ackArrives_tracked {agenda : List Task} (before : Tracked ⟨sender, agenda⟩)
    {subscribed : Bool} (arrived : sender.ackArrives subscribed = some after) :
    Tracked ⟨after, agenda⟩ := by
  unfold ackArrives at arrived
  split at arrived
  · cases arrived
  · rename_i answered rest queue
    cases arrived
    have head : answered ∈ sender.acks := by simp [queue]
    constructor
    · intro copy member
      refine (before.inFlight copy ?_).of_same rfl rfl
      simp only [inFlight, queue, List.map_cons, List.mem_append, List.mem_cons] at member ⊢
      rcases member with waiting | acked
      · exact .inl waiting
      · exact .inr (.inr acked)
    · exact fun other member => before.acks other (by simp [queue, member])
    · intro other member
      cases subscribed with
      | true =>
          cases Option.mem_some_iff.mp member
          refine ⟨before.acks answered head, (before.inFlight answered.copy ?_).of_same rfl rfl⟩
          exact List.mem_append_right _ (List.mem_map_of_mem head)
      | false =>
          obtain ⟨known, tracked⟩ := before.received other member
          exact ⟨known, tracked.of_same rfl rfl⟩
    · exact before.running
    · exact before.alone
    · exact replies_mono before.replies rfl (fun _ known => known) fun _ _ sent => sent

/-- The call returns, with the reply that justifies its result. -/
private theorem finish_tracked {task : Task} (before : Tracked ⟨sender, [task]⟩)
    {result : Result} {consumed : Option AnsweredCopy}
    (justified : result = .success ∨ result = .rejected →
      ∃ answered, consumed = some answered ∧ sender.vehicleCommandAckSub = some answered ∧
        result = resultOf answered.ack ∧
        ∃ cmd retries, task = .awaitAck cmd retries ∧ matchesAck cmd answered.ack = true) :
    Tracked ⟨(sender.finish result consumed).1, (sender.finish result consumed).2⟩ := by
  refine ⟨fun copy member => (before.inFlight copy member).of_same rfl rfl, before.acks,
    by simp [finish], by simp [finish], by simp [finish], ?_⟩
  intro returned member replied
  rcases List.mem_append.mp member with old | new
  · exact before.replies returned old replied
  · cases List.mem_singleton.mp new
    obtain ⟨answered, rfl, subscribed, isResult, cmd, retries, rfl, matched⟩ := justified replied
    obtain ⟨known, tracked⟩ := before.received answered subscribed
    obtain ⟨_, _, same, current⟩ := before.running _ List.mem_cons_self
    cases same
    exact ⟨answered, known, cmd, rfl, isResult, current, matched, tracked.sent, tracked.recent⟩

private theorem take_tracked {cmd : VehicleCommand} {retries : Nat}
    (before : Tracked ⟨sender, [.awaitAck cmd retries]⟩) :
    Tracked ⟨(sender.take cmd retries).1, (sender.take cmd retries).2⟩ := by
  cases received : sender.vehicleCommandAckSub with
  | none =>
      simp only [take, received]
      exact before
  | some answered =>
      by_cases matched : matchesAck cmd answered.ack = true
      · simp only [take, received, matched, if_true]
        exact finish_tracked before fun _ =>
          ⟨answered, rfl, received, rfl, cmd, retries, rfl, matched⟩
      · simp only [take, received, matched]
        exact ⟨fun copy member => (before.inFlight copy member).of_same rfl rfl, before.acks,
          by simp, before.running, before.alone, before.replies⟩

private theorem timeout_tracked {cmd : VehicleCommand} {retries : Nat}
    (before : Tracked ⟨sender, [.awaitAck cmd retries]⟩) :
    Tracked ⟨(sender.timeout cmd retries).1, (sender.timeout cmd retries).2⟩ := by
  obtain ⟨_, _, same, current⟩ := before.running _ List.mem_cons_self
  cases same
  by_cases again : retries + 1 < maxRetries
  · simp only [timeout, again, if_true]
    constructor
    · intro copy member
      rcases publish_inFlight cmd member with old | rfl
      · exact (before.inFlight copy old).of_same rfl rfl
      · exact ⟨current, .inl rfl⟩
    · exact before.acks
    · intro answered member
      obtain ⟨known, tracked⟩ := before.received answered member
      exact ⟨known, tracked.of_same rfl rfl⟩
    · intro task member
      cases List.mem_singleton.mp member
      exact ⟨cmd, retries + 1, rfl, current⟩
    · simp
    · exact before.replies
  · simp only [timeout, again, if_false]
    exact finish_tracked before (by simp [Result.timeout, Result.success, Result.rejected])

private theorem step_tracked {config next : Config} {input : Input} (before : Tracked config)
    (stepped : machine.step config input = some next) : Tracked next := by
  rcases config with ⟨sender, agenda⟩
  rcases Lib.Machine.step_cases stepped with
    ⟨quiescent, after, tasks, taken, rfl⟩ | ⟨task, rest, after, tasks, shape, executed, rfl⟩
  · simp only at quiescent
    subst quiescent
    cases input with
    | sendCommandSync cmd =>
        cases taken
        exact sendCommandSync_tracked before cmd
    | take | timeout => cases taken
    | fmuReceives verdict =>
        obtain ⟨_, received, same⟩ := Option.map_eq_some_iff.mp taken
        cases same
        exact fmuReceives_tracked before received
    | ackArrives =>
        obtain ⟨_, arrived, same⟩ := Option.map_eq_some_iff.mp taken
        cases same
        exact ackArrives_tracked before arrived
  · simp only at shape
    subst shape
    have single : rest = [] := by
      have := before.alone
      simp only [List.length_cons] at this
      exact List.length_eq_zero_iff.mp (by omega)
    subst single
    rw [List.append_nil]
    obtain ⟨cmd, retries, rfl, _⟩ := before.running _ List.mem_cons_self
    cases input with
    | sendCommandSync cmd => cases executed
    | take =>
        have same : sender.take cmd retries = (after, tasks) := Option.some.inj executed
        have tracked := take_tracked before
        rw [same] at tracked
        exact tracked
    | timeout =>
        have same : sender.timeout cmd retries = (after, tasks) := Option.some.inj executed
        have tracked := timeout_tracked before
        rw [same] at tracked
        exact tracked
    | fmuReceives verdict =>
        simp only [machine, exec, Option.map_eq_some_iff, Prod.mk.injEq] at executed
        obtain ⟨_, received, rfl, rfl⟩ := executed
        exact fmuReceives_tracked before received
    | ackArrives =>
        simp only [machine, exec, Option.map_eq_some_iff, Prod.mk.injEq] at executed
        obtain ⟨_, arrived, rfl, rfl⟩ := executed
        exact ackArrives_tracked before arrived

/-- In every run, a call that gets a reply returns the verdict on a copy that matches its command,
and the copy is its own unless another matching one was under way when it started. -/
theorem replies_match (config : Config)
    (reached : machine.Reaches Lib.Machine.unrestricted initial config) :
    RepliesMatch config.state := by
  have tracked : Tracked config := by
    refine reached.invariant ?_ fun _ _ _ before _ stepped => step_tracked before stepped
    exact ⟨by simp [initial, inFlight], by simp [initial], by simp [initial], by simp [initial],
      by simp [initial], by simp [RepliesMatch, initial]⟩
  exact tracked.replies

private def hold (param : Rat) : VehicleCommand :=
  ⟨VehicleCommand.setNavState, [some param], VehicleCommand.componentModeExecutorStart + 1⟩

/-- A late acknowledgement of another command is skipped, the own one is returned. -/
theorem replies_match_after_other_command :
    ∃ config, machine.Reaches Lib.Machine.unrestricted initial config ∧
      config.state.returned.map ReturnedCall.result = [.timeout, .rejected] ∧
      RepliesMatch config.state := by
  obtain ⟨config, reached, results⟩ := Lib.Machine.reaches_of_run_any machine
    Lib.Machine.unrestricted initial
    (fun config => config.state.returned.map ReturnedCall.result = [.timeout, .rejected])
    [.sendCommandSync (hold 5), .timeout, .timeout, .timeout,
      .sendCommandSync ⟨VehicleCommand.navTakeoff, [], 1001⟩, .fmuReceives 0, .ackArrives, .take,
      .fmuReceives 0, .fmuReceives 0, .fmuReceives 1, .ackArrives, .ackArrives, .ackArrives,
      .take] (by decide)
  exact ⟨config, reached, results, replies_match config reached⟩

/-- The first call is retransmitted and answered twice. The second call switches to another mode
and takes the duplicate, before the flight controller denies its own copy. -/
theorem duplicate_ack_ends_next_call :
    ∃ config, machine.Reaches Lib.Machine.unrestricted initial config ∧
      ¬ RepliesAreOwn config.state := by
  obtain ⟨config, reached, returned⟩ := Lib.Machine.reaches_of_run_any machine
    Lib.Machine.unrestricted initial
    (fun config => config.state.returned =
      [⟨0, .success, some ⟨⟨0, hold 5⟩, 0⟩, []⟩,
        ⟨1, .success, some ⟨⟨0, hold 5⟩, 0⟩, [⟨0, hold 5⟩]⟩])
    [.sendCommandSync (hold 5), .timeout, .fmuReceives 0, .fmuReceives 0, .ackArrives, .take,
      .sendCommandSync (hold 6), .ackArrives, .take, .fmuReceives 1] (by decide)
  refine ⟨config, reached, fun own => ?_⟩
  obtain ⟨answered, _, consumed, _, _, same⟩ := own
    ⟨1, .success, some ⟨⟨0, hold 5⟩, 0⟩, [⟨0, hold 5⟩]⟩ (by simp [returned]) (.inl rfl)
  cases consumed
  cases same

end VehicleCommandSender

end Px4Ros2
