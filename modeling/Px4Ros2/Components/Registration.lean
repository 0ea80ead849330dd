import Px4Ros2.Lib.CString
import Px4Ros2.Lib.Retry
import Px4Ros2.Components.Messages
import Mathlib.Data.Int.Basic

/-! `Registration`: the request to the flight controller, the replies that are waited for, and the
message that undoes a registration. -/

set_option autoImplicit false

namespace Px4Ros2

open Lib

def kLatestPX4ROS2ApiVersion : UInt16 := 1

namespace RegisterExtComponentRequest
def nameSize : Nat := 25
end RegisterExtComponentRequest

structure RegisterExtComponentRequest where
  requestId : UInt64 := 0
  name : CharArray RegisterExtComponentRequest.nameSize := .zeros _
  px4Ros2ApiVersion : UInt16 := 0
  registerArmingCheck : Bool := false
  registerMode : Bool := false
  registerModeExecutor : Bool := false
  enableReplaceInternalMode : Bool := false
  replaceInternalMode : ModeID := 0
  activateModeImmediately : Bool := false
  notUserSelectable : Bool := false
deriving DecidableEq, Repr

namespace RegisterExtComponentReply
def nameSize : Nat := 25
end RegisterExtComponentReply

structure RegisterExtComponentReply where
  requestId : UInt64
  name : CharArray RegisterExtComponentReply.nameSize
  px4Ros2ApiVersion : UInt16
  success : Bool
  armingCheckId : Int8
  modeId : Int8
  modeExecutorId : Int8
deriving DecidableEq, Repr

namespace UnregisterExtComponent
def nameSize : Nat := 25
end UnregisterExtComponent

structure UnregisterExtComponent where
  name : CharArray UnregisterExtComponent.nameSize := .zeros _
  armingCheckId : Int8 := 0
  modeId : Int8 := 0
  modeExecutorId : Int8 := 0
deriving DecidableEq, Repr

structure RegistrationSettings where
  name : List UInt8
  registerArmingCheck : Bool := false
  registerMode : Bool := false
  registerModeExecutor : Bool := false
  enableReplaceInternalMode : Bool := false
  replaceInternalMode : ModeID := 0
  activateModeImmediately : Bool := false
  userSelectable : Bool := true
deriving DecidableEq, Repr

structure Registration where
  registered : Bool := false
  unregisterExtComponent : UnregisterExtComponent := { modeId := kModeIDInvalid.toInt8 }
deriving DecidableEq, Repr

namespace Registration

def armingCheckId (registration : Registration) : Int :=
  registration.unregisterExtComponent.armingCheckId.toInt

def modeId (registration : Registration) : ModeID :=
  registration.unregisterExtComponent.modeId.toUInt8

def modeExecutorId (registration : Registration) : Int :=
  registration.unregisterExtComponent.modeExecutorId.toInt

def name (registration : Registration) : List UInt8 :=
  registration.unregisterExtComponent.name.text

/-- The reply has this component's name and request id. -/
def matchesRequest (settings : RegistrationSettings) (requestId : UInt64)
    (reply : RegisterExtComponentReply) : Bool :=
  reply.name.terminate.text == cString settings.name && requestId == reply.requestId

/-- A reply of this name and request id. -/
def gotReply (registration : Registration) (settings : RegistrationSettings)
    (fits : (cString settings.name).length < UnregisterExtComponent.nameSize)
    (reply : RegisterExtComponentReply) : Registration :=
  if reply.success then
    if reply.px4Ros2ApiVersion = kLatestPX4ROS2ApiVersion then
      { registered := true
        unregisterExtComponent :=
          { armingCheckId := reply.armingCheckId
            modeId := reply.modeId
            modeExecutorId := reply.modeExecutorId
            name := registration.unregisterExtComponent.name.strcpy settings.name fits } }
    else registration
  else registration

/-- What a call leaves behind, with the requests it published and the replies it took. -/
structure Exchange where
  registration : Registration
  requests : List RegisterExtComponentRequest := []
  taken : List RegisterExtComponentReply := []
deriving DecidableEq, Repr

def requestOf (settings : RegistrationSettings)
    (fits : (cString settings.name).length < RegisterExtComponentRequest.nameSize)
    (requestId : UInt64) : RegisterExtComponentRequest :=
  { requestId
    name := (CharArray.zeros _).strcpy settings.name fits
    px4Ros2ApiVersion := kLatestPX4ROS2ApiVersion
    registerArmingCheck := settings.registerArmingCheck
    registerMode := settings.registerMode
    registerModeExecutor := settings.registerModeExecutor
    enableReplaceInternalMode := settings.enableReplaceInternalMode
    replaceInternalMode := settings.replaceInternalMode
    activateModeImmediately := settings.activateModeImmediately
    notUserSelectable := !settings.userSelectable }

def kRetries : Nat := 5

def nameTooLong (settings : RegistrationSettings) : Bool :=
  settings.name.length ≥ RegisterExtComponentRequest.nameSize ||
    settings.name.length ≥ UnregisterExtComponent.nameSize

theorem fits_request {settings : RegistrationSettings} (short : ¬ nameTooLong settings = true) :
    (cString settings.name).length < RegisterExtComponentRequest.nameSize := by
  have bound := length_cString_le settings.name
  simp only [nameTooLong, ge_iff_le, Bool.or_eq_true, decide_eq_true_eq, not_or] at short
  omega

theorem fits_unregister {settings : RegistrationSettings}
    (short : ¬ nameTooLong settings = true) :
    (cString settings.name).length < UnregisterExtComponent.nameSize := by
  have bound := length_cString_le settings.name
  simp only [nameTooLong, ge_iff_le, Bool.or_eq_true, decide_eq_true_eq, not_or] at short
  omega

/-- `Registration::doRegister`, with the id that is drawn and the waits of each attempt. There is no
result where the assertion fails. -/
def doRegister (registration : Registration) (settings : RegistrationSettings)
    (requestId : UInt64) (attempts : List (List (Wait RegisterExtComponentReply))) :
    Option Exchange :=
  if registration.registered then none
  else if long : nameTooLong settings then some { registration }
  else
    let exchange := Retry.run
      (fun reply => if matchesRequest settings requestId reply then some reply else none)
      kRetries attempts
    some
      { registration :=
          match exchange.answer with
          | some reply => registration.gotReply settings (fits_unregister long) reply
          | none => registration
        requests :=
          List.replicate exchange.requests (requestOf settings (fits_request long) requestId)
        taken := exchange.taken }

/-- `Registration::doUnregister`, with the message it publishes. -/
def doUnregister (registration : Registration) (contextValid : Bool) :
    Registration × Option UnregisterExtComponent :=
  if registration.registered then
    ({ registration with registered := false },
      if contextValid then some registration.unregisterExtComponent else none)
  else (registration, none)

/-! ### One call, and the message that undoes it -/

theorem gotReply_accepted {registration : Registration} {settings : RegistrationSettings}
    {fits : (cString settings.name).length < UnregisterExtComponent.nameSize}
    {reply : RegisterExtComponentReply} (success : reply.success = true)
    (version : reply.px4Ros2ApiVersion = kLatestPX4ROS2ApiVersion) :
    registration.gotReply settings fits reply =
      { registered := true
        unregisterExtComponent :=
          { armingCheckId := reply.armingCheckId
            modeId := reply.modeId
            modeExecutorId := reply.modeExecutorId
            name := registration.unregisterExtComponent.name.strcpy settings.name fits } } := by
  simp [gotReply, success, version]

theorem gotReply_refused {registration : Registration} {settings : RegistrationSettings}
    {fits : (cString settings.name).length < UnregisterExtComponent.nameSize}
    {reply : RegisterExtComponentReply}
    (refused : ¬ (reply.success = true ∧ reply.px4Ros2ApiVersion = kLatestPX4ROS2ApiVersion)) :
    registration.gotReply settings fits reply = registration := by
  unfold gotReply
  split
  · split
    · rename_i success version
      exact absurd ⟨success, version⟩ refused
    · rfl
  · rfl

section DoRegister

variable {registration : Registration} {settings : RegistrationSettings} {requestId : UInt64}
  {attempts : List (List (Wait RegisterExtComponentReply))} {exchange : Exchange}

theorem doRegister_unregistered
    (called : registration.doRegister settings requestId attempts = some exchange) :
    registration.registered = false := by
  unfold doRegister at called
  split at called
  · cases called
  · rename_i unregistered
    simpa using unregistered

/-- A name that is too long reaches neither the flight controller nor the registration. -/
theorem doRegister_tooLong
    (called : registration.doRegister settings requestId attempts = some exchange)
    (long : nameTooLong settings = true) : exchange = { registration } := by
  simp only [doRegister, long, dite_true] at called
  split at called
  · cases called
  · exact (Option.some.inj called).symm

/-- For a field that holds a terminator, the comparison is that of the names. -/
theorem matchesRequest_iff {reply : RegisterExtComponentReply}
    (terminated : reply.name.text.length < RegisterExtComponentReply.nameSize) :
    matchesRequest settings requestId reply = true ↔
      reply.name.text = cString settings.name ∧ requestId = reply.requestId := by
  simp [matchesRequest, CharArray.text_terminate terminated]

theorem findSome?_matches (settings : RegistrationSettings) (requestId : UInt64)
    (replies : List RegisterExtComponentReply) :
    replies.findSome?
        (fun reply => if matchesRequest settings requestId reply then some reply else none) =
      replies.find? (matchesRequest settings requestId) := by
  induction replies with
  | nil => rfl
  | cons reply replies ih => cases matched : matchesRequest settings requestId reply <;>
      simp [matched, ih]

/-- What a call with a short name does, in terms of the first reply to its request. -/
structure ShortCall (registration : Registration) (settings : RegistrationSettings)
    (requestId : UInt64) (attempts : List (List (Wait RegisterExtComponentReply)))
    (exchange : Exchange) : Prop where
  taken : exchange.taken <+: Retry.messages (attempts.take kRetries).flatten
  first : exchange.taken.find? (matchesRequest settings requestId) =
    (Retry.messages (attempts.take kRetries).flatten).find? (matchesRequest settings requestId)
  only : ∀ reply ∈ exchange.taken, matchesRequest settings requestId reply = true →
    exchange.taken.find? (matchesRequest settings requestId) = some reply
  requests : ∃ count fits, 0 < count ∧ count ≤ kRetries ∧
    exchange.requests = List.replicate count (requestOf settings fits requestId)
  registration : ∃ fits, exchange.registration =
    match exchange.taken.find? (matchesRequest settings requestId) with
    | some reply => registration.gotReply settings fits reply
    | none => registration

theorem doRegister_shortCall
    (called : registration.doRegister settings requestId attempts = some exchange)
    (short : ¬ nameTooLong settings = true) :
    ShortCall registration settings requestId attempts exchange := by
  have stops := Retry.run_stopsAtFirst
    (fun reply => if matchesRequest settings requestId reply then some reply else none)
    kRetries attempts
  have answer := stops.answer
  have first := stops.first
  rw [findSome?_matches] at answer first
  unfold doRegister at called
  split at called
  · cases called
  · have result := (Option.some.inj called).symm
    subst result
    refine ⟨stops.taken, answer.symm.trans first, ?_,
      ⟨_, fits_request short, Retry.run_requests_pos _ 4 attempts,
        Retry.run_requests_le _ kRetries attempts, rfl⟩,
      ⟨fits_unregister short, by simp only [answer]⟩⟩
    intro reply member matched
    have only := stops.only reply member
    simp only [matched, if_true, reduceCtorEq, false_or] at only
    exact (answer.symm.trans only.symm)

/-- Stored are the ids of the first reply, when it is a success of this version, and else nothing. -/
theorem doRegister_registration
    (called : registration.doRegister settings requestId attempts = some exchange) :
    (exchange.registration = registration ∧
      ∀ reply, exchange.taken.find? (matchesRequest settings requestId) = some reply →
        ¬ (reply.success = true ∧ reply.px4Ros2ApiVersion = kLatestPX4ROS2ApiVersion)) ∨
    ∃ reply name, exchange.taken.find? (matchesRequest settings requestId) = some reply ∧
      reply.success = true ∧ reply.px4Ros2ApiVersion = kLatestPX4ROS2ApiVersion ∧
      name.text = cString settings.name ∧
      exchange.registration =
        { registered := true
          unregisterExtComponent :=
            { armingCheckId := reply.armingCheckId
              modeId := reply.modeId
              modeExecutorId := reply.modeExecutorId
              name } } := by
  by_cases long : nameTooLong settings = true
  · rw [doRegister_tooLong called long]
    exact .inl ⟨rfl, by simp⟩
  · obtain ⟨fits, stored⟩ := (doRegister_shortCall called long).registration
    cases first : exchange.taken.find? (matchesRequest settings requestId) with
    | none =>
        rw [first] at stored
        exact .inl ⟨stored, by simp⟩
    | some reply =>
        rw [first] at stored
        simp only at stored
        by_cases accepted :
            reply.success = true ∧ reply.px4Ros2ApiVersion = kLatestPX4ROS2ApiVersion
        · rw [gotReply_accepted accepted.1 accepted.2] at stored
          exact .inr ⟨reply, _, rfl, accepted.1, accepted.2, CharArray.text_strcpy _ _ _, stored⟩
        · rw [gotReply_refused accepted] at stored
          refine .inl ⟨stored, ?_⟩
          intro other same
          cases same
          exact accepted

/-- What was taken tells the first of all replies to the request. -/
theorem doRegister_first
    (called : registration.doRegister settings requestId attempts = some exchange) :
    exchange.taken.find? (matchesRequest settings requestId) =
      if nameTooLong settings then none
      else (Retry.messages (attempts.take kRetries).flatten).find?
        (matchesRequest settings requestId) := by
  by_cases long : nameTooLong settings = true
  · rw [doRegister_tooLong called long, if_pos long]
    rfl
  · rw [if_neg long]
    exact (doRegister_shortCall called long).first

/-- No reply to the request is taken after the first. -/
theorem doRegister_only
    (called : registration.doRegister settings requestId attempts = some exchange) :
    ∀ reply ∈ exchange.taken, matchesRequest settings requestId reply = true →
      exchange.taken.find? (matchesRequest settings requestId) = some reply := by
  by_cases long : nameTooLong settings = true
  · rw [doRegister_tooLong called long]
    simp
  · exact (doRegister_shortCall called long).only

theorem doRegister_isSome {registration : Registration} (settings : RegistrationSettings)
    (requestId : UInt64) (attempts : List (List (Wait RegisterExtComponentReply)))
    (unregistered : registration.registered = false) :
    ∃ exchange, registration.doRegister settings requestId attempts = some exchange := by
  unfold doRegister
  simp only [unregistered, Bool.false_eq_true, if_false]
  split <;> exact ⟨_, rfl⟩

theorem doRegister_short
    (called : registration.doRegister settings requestId attempts = some exchange)
    (registered : exchange.registration.registered = true) : nameTooLong settings = false := by
  cases long : nameTooLong settings with
  | false => rfl
  | true =>
      rw [doRegister_tooLong called long, doRegister_unregistered called] at registered
      cases registered

/-- There is a reply for every name that can be sent. -/
theorem doRegister_accepting (registration : Registration) (settings : RegistrationSettings)
    (unregistered : registration.registered = false) (short : nameTooLong settings = false) :
    ∃ attempts exchange, registration.doRegister settings 0 attempts = some exchange ∧
      exchange.registration.registered = true := by
  have fits : (cString settings.name).length < RegisterExtComponentReply.nameSize :=
    fits_unregister (by simp [short])
  let reply : RegisterExtComponentReply :=
    { requestId := 0
      name := (CharArray.zeros _).strcpy settings.name fits
      px4Ros2ApiVersion := kLatestPX4ROS2ApiVersion
      success := true
      armingCheckId := 0
      modeId := 0
      modeExecutorId := 0 }
  have named : reply.name.text = cString settings.name := CharArray.text_strcpy _ _ fits
  have terminated : reply.name.text.length < RegisterExtComponentReply.nameSize := by
    rw [named]
    exact fits
  have matched : matchesRequest settings 0 reply = true :=
    (matchesRequest_iff terminated).mpr ⟨named, rfl⟩
  obtain ⟨exchange, called⟩ := doRegister_isSome settings 0 [[.taken reply]] unregistered
  have first := doRegister_first called
  have offered : Retry.messages (List.take kRetries [[Wait.taken reply]]).flatten = [reply] := rfl
  rw [offered, short, List.find?_cons_of_pos matched] at first
  refine ⟨[[.taken reply]], exchange, called, ?_⟩
  rcases doRegister_registration called with ⟨_, refused⟩ | ⟨_, _, _, _, _, _, stored⟩
  · exact absurd ⟨rfl, rfl⟩ (refused reply first)
  · rw [stored]

theorem doRegister_registered_iff
    (called : registration.doRegister settings requestId attempts = some exchange) :
    exchange.registration.registered = true ↔
      ∃ reply, exchange.taken.find? (matchesRequest settings requestId) = some reply ∧
        reply.success = true ∧ reply.px4Ros2ApiVersion = kLatestPX4ROS2ApiVersion := by
  rcases doRegister_registration called with
    ⟨same, refused⟩ | ⟨reply, name, first, success, version, _, stored⟩
  · rw [same, doRegister_unregistered called]
    refine ⟨by simp, ?_⟩
    rintro ⟨reply, first, success, version⟩
    exact absurd ⟨success, version⟩ (refused reply first)
  · rw [stored]
    exact ⟨fun _ => ⟨reply, first, success, version⟩, fun _ => rfl⟩

theorem doRegister_unchanged
    (called : registration.doRegister settings requestId attempts = some exchange)
    (refused : exchange.registration.registered = false) :
    exchange.registration = registration := by
  rcases doRegister_registration called with ⟨same, _⟩ | ⟨_, _, _, _, _, _, stored⟩
  · exact same
  · rw [stored] at refused
    cases refused

end DoRegister

/-- A component is registered by the first reply to its own request, and by no other. -/
theorem doRegister_sound (registration : Registration) (settings : RegistrationSettings)
    (requestId : UInt64) (attempts : List (List (Wait RegisterExtComponentReply))) (exchange : Exchange)
    (called : registration.doRegister settings requestId attempts = some exchange) :
    exchange.taken <+: Retry.messages (attempts.take 5).flatten ∧
    (exchange.requests.length ≤ 5 ∧ ∃ request : RegisterExtComponentRequest,
      request.requestId = requestId ∧ ∀ sent ∈ exchange.requests,
        sent = request ∧ sent.name.text = cString settings.name) ∧
    (exchange.registration.registered = true ↔
      ∃ reply, exchange.taken.find? (matchesRequest settings requestId) = some reply ∧
        reply.success = true ∧ reply.px4Ros2ApiVersion = 1) ∧
    (exchange.registration.registered = false → exchange.registration = registration) ∧
    (exchange.registration.registered = true →
      ∀ reply, exchange.taken.find? (matchesRequest settings requestId) = some reply →
        exchange.registration.armingCheckId = reply.armingCheckId.toInt ∧
        exchange.registration.modeId = reply.modeId.toUInt8 ∧
        exchange.registration.modeExecutorId = reply.modeExecutorId.toInt ∧
        exchange.registration.name = cString settings.name ∧
        ∃ message, exchange.registration.doUnregister true =
            ({ exchange.registration with registered := false }, some message) ∧
          message.armingCheckId = reply.armingCheckId ∧ message.modeId = reply.modeId ∧
          message.modeExecutorId = reply.modeExecutorId ∧
          message.name.text = cString settings.name) ∧
    ∀ reply, matchesRequest settings requestId reply = true ↔
      reply.name.terminate.text = cString settings.name ∧ reply.requestId = requestId := by
  refine ⟨?_, ?_, doRegister_registered_iff called, doRegister_unchanged called, ?_, ?_⟩
  · by_cases long : nameTooLong settings = true
    · rw [doRegister_tooLong called long]
      exact List.nil_prefix
    · exact (doRegister_shortCall called long).taken
  · by_cases long : nameTooLong settings = true
    · rw [doRegister_tooLong called long]
      exact ⟨Nat.zero_le 5, { requestId }, rfl, by simp⟩
    · obtain ⟨count, fits, _, bound, sent⟩ := (doRegister_shortCall called long).requests
      rw [sent, List.length_replicate]
      refine ⟨bound, requestOf settings fits requestId, rfl, ?_⟩
      intro other member
      rw [List.eq_of_mem_replicate member]
      exact ⟨rfl, CharArray.text_strcpy _ _ fits⟩
  · intro nowRegistered reply found
    rcases doRegister_registration called with
      ⟨same, _⟩ | ⟨stored, name, first, _, _, named, result⟩
    · rw [same, doRegister_unregistered called] at nowRegistered
      cases nowRegistered
    · rw [first] at found
      cases found
      rw [result]
      exact ⟨rfl, rfl, rfl, named, _, rfl, rfl, rfl, rfl, named⟩
  · intro reply
    rw [matchesRequest, Bool.and_eq_true, beq_iff_eq, beq_iff_eq, eq_comm (a := requestId)]

/-- A reply to the component with this name, in a field of its own. -/
def replyTo (name : List UInt8) (requestId : UInt64) (modeId : Int8) :
    RegisterExtComponentReply :=
  { requestId
    name := (CharArray.zeros _).strncpy name (RegisterExtComponentReply.nameSize - 1)
      (Nat.sub_le _ 1)
    px4Ros2ApiVersion := 1
    success := true
    armingCheckId := 2
    modeId
    modeExecutorId := 1 }

/-- A reply to another component and one to another request come before the own reply. -/
def repliesInTwoAttempts : List (List (Wait RegisterExtComponentReply)) :=
  [[.taken (replyTo [97] 7 21), .notReady],
    [.taken (replyTo [97, 98] 6 22), .notTaken,
      .taken (replyTo [97, 98] 7 23)]]

theorem doRegister_sound_second_attempt :
    ∃ exchange, ({} : Registration).doRegister { name := [97, 98], registerMode := true } 7
        repliesInTwoAttempts = some exchange ∧
      exchange.requests.length = 2 ∧ exchange.registration.modeId = 23 := by
  have called : ({} : Registration).doRegister { name := [97, 98], registerMode := true } 7
      repliesInTwoAttempts = some (Exchange.mk _ _ _) := rfl
  have sound := doRegister_sound _ _ _ _ _ called
  have stored := sound.2.2.2.2.1 (by decide) (replyTo [97, 98] 7 23) (by decide)
  exact ⟨_, called, by decide, stored.2.1⟩

end Registration

end Px4Ros2
