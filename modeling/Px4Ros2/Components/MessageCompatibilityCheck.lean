import Px4Ros2.Lib.Retry
import Px4Ros2.Components.MessageHash

/-! `messageCompatibilityCheck`: the hashes of the flight controller against the local definitions,
or the type hashes of the endpoints when the middleware is Zenoh. -/

set_option autoImplicit false

namespace Px4Ros2

open Lib

namespace MessageFormatRequest
def latestProtocolVersion : UInt16 := 1
def topicNameSize : Nat := 50
end MessageFormatRequest

structure MessageFormatRequest where
  protocolVersion : UInt16 := 0
  topicName : CharArray MessageFormatRequest.topicNameSize := .zeros _
deriving DecidableEq, Repr

namespace MessageFormatResponse
def topicNameSize : Nat := 50
end MessageFormatResponse

structure MessageFormatResponse where
  protocolVersion : UInt16
  topicName : CharArray MessageFormatResponse.topicNameSize
  success : Bool
  messageHash : UInt32
deriving DecidableEq, Repr

structure MessageCompatibilityTopic where
  topicName : List UInt8
  topicType : List UInt8 := []
deriving DecidableEq, Repr

/-- `rosidl_type_hash_t`. -/
structure TypeHash where
  version : UInt8
  value : CharArray 32
deriving DecidableEq, Repr

/-- A type support of this library: its `get_type_hash_func` when there is one (before ROS 2 Jazzy
there is none), and the pointer that this returns. -/
structure TypeSupport where
  typeHash : Option (Option TypeHash)
deriving DecidableEq, Repr

/-- What a node sees of the others. -/
structure Graph where
  topicNamesAndTypes : List (List UInt8 × List (List UInt8))
  publishersInfoByTopic : List UInt8 → List TypeHash
  subscriptionsInfoByTopic : List UInt8 → List TypeHash

namespace MessageCompatibility

/-- `RequestMessageFormatReturn`, with the response. -/
inductive RequestMessageFormatReturn where
  | gotReply (response : MessageFormatResponse)
  | protocolVersionMismatch
deriving DecidableEq, Repr

/-- What one response means for a request. Responses to other topics mean nothing. -/
def acceptsResponse (request : MessageFormatRequest) (response : MessageFormatResponse) :
    Option RequestMessageFormatReturn :=
  if response.protocolVersion = MessageFormatRequest.latestProtocolVersion then
    if response.topicName.terminate.text = request.topicName.text then some (.gotReply response)
    else none
  else some .protocolVersionMismatch

def kRetries : Nat := 5

abbrev Attempts := List (List (Wait MessageFormatResponse))

/-- `requestMessageFormat`. Without an answer it is a timeout. -/
def requestMessageFormat (request : MessageFormatRequest) (attempts : Attempts) :
    Retry.Exchange MessageFormatResponse RequestMessageFormatReturn :=
  Retry.run (acceptsResponse request) kRetries attempts

def topicType (topic : MessageCompatibilityTopic) : List UInt8 :=
  if topic.topicType = [] then
    MessageHash.snakeToCamelCase false (MessageHash.afterLastSlash topic.topicName)
  else topic.topicType

/-- The request for a topic. A name that is too long loses its end. -/
def requestOf (topic : MessageCompatibilityTopic) : MessageFormatRequest :=
  { protocolVersion := MessageFormatRequest.latestProtocolVersion
    topicName := ((CharArray.zeros _).strncpy topic.topicName
      (MessageFormatRequest.topicNameSize - 1) (Nat.sub_le _ 1)).terminate }

/-- The comparison of one response. -/
def responseMatches (expectedMessageHash : UInt32) (response : MessageFormatResponse) : Bool :=
  response.success && response.messageHash == expectedMessageHash

/-- The loop over the listed topics, each with the responses while it is asked for. It ends with the
first one that is not answered. -/
def checkTopics (files : MessageHash.Files) (msgsDir : List UInt8) (depth : Nat) (ret : Bool) :
    List (MessageCompatibilityTopic × Attempts) → Option Bool
  | [] => some ret
  | (topic, attempts) :: others => do
      let expectedMessageHash ← MessageHash.messageHash files msgsDir depth (topicType topic)
      match (requestMessageFormat (requestOf topic) attempts).answer with
      | none => return false
      | some .protocolVersionMismatch => return false
      | some (.gotReply response) =>
          checkTopics files msgsDir depth
            (ret && responseMatches expectedMessageHash response) others

/-- The comparison of some endpoints of a topic: the last one is taken. -/
def endpointsMatch (typeSupport : Option TypeSupport) (infos : List TypeHash) : Bool :=
  match infos.getLast? with
  | none => true
  | some last =>
      match typeSupport with
      | none => true
      | some support =>
          match support.typeHash with
          | none => true
          | some none => false
          | some (some hash) => hash == last

def checkGraph (findTypeSupport : List UInt8 → Option TypeSupport) (graph : Graph) : Bool :=
  graph.topicNamesAndTypes.all fun topic =>
    topic.2.all fun type =>
      endpointsMatch (findTypeSupport type) (graph.publishersInfoByTopic topic.1) &&
        endpointsMatch (findTypeSupport type) (graph.subscriptionsInfoByTopic topic.1)

/-- What a check is given: the middleware with what it shows of the flight controller, and the local
definitions. -/
structure Environment where
  rmwZenoh : Bool
  graph : Graph
  findTypeSupport : List UInt8 → Option TypeSupport
  /-- `get_package_share_directory("px4_msgs")`. -/
  msgsDir : List UInt8
  files : MessageHash.Files
  /-- A bound of the nesting of definitions. -/
  depth : Nat

end MessageCompatibility

open MessageCompatibility in
/-- `messageCompatibilityCheck`. There is no result where reading a definition does not end. -/
def messageCompatibilityCheck (environment : Environment)
    (messagesToCheck : List (MessageCompatibilityTopic × Attempts)) : Option Bool :=
  if environment.rmwZenoh then some (checkGraph environment.findTypeSupport environment.graph)
  else if environment.msgsDir = [] then some false
  else checkTopics environment.files environment.msgsDir environment.depth true messagesToCheck

namespace MessageCompatibility

/-! ### What a positive verdict rests on -/

/-- A name that the request has room for. -/
def TopicNameFits (topic : MessageCompatibilityTopic) : Prop :=
  topic.topicName.length < MessageFormatRequest.topicNameSize ∧ 0 ∉ topic.topicName

theorem text_requestOf (topic : MessageCompatibilityTopic) :
    (requestOf topic).topicName.text =
      (cString topic.topicName).take (MessageFormatRequest.topicNameSize - 1) :=
  CharArray.text_terminate_strncpy _ _ (by decide)

theorem text_requestOf_eq_iff (topic : MessageCompatibilityTopic) :
    (requestOf topic).topicName.text = topic.topicName ↔ TopicNameFits topic := by
  rw [text_requestOf]
  constructor
  · intro same
    have bound : topic.topicName.length ≤ MessageFormatRequest.topicNameSize - 1 := by
      rw [← same]
      exact List.length_take_le _ _
    refine ⟨?_, ?_⟩
    · have room : 0 < MessageFormatRequest.topicNameSize := by decide
      omega
    · intro zero
      rw [← same] at zero
      exact cString_no_zero (List.mem_of_mem_take zero) rfl
  · intro fits
    have whole : cString topic.topicName = topic.topicName :=
      cString_of_no_zero fun character member zero => fits.2 (zero ▸ member)
    have bound := fits.1
    rw [whole, List.take_of_length_le (by omega)]

/-- The first response that decides is a success with the expected hash. -/
def answered (environment : Environment) (entry : MessageCompatibilityTopic × Attempts) : Bool :=
  match (Retry.messages (entry.2.take kRetries).flatten).findSome?
      (acceptsResponse (requestOf entry.1)) with
  | some (.gotReply response) =>
      response.success &&
        decide (MessageHash.messageHash environment.files environment.msgsDir environment.depth
          (topicType entry.1) = some response.messageHash)
  | some .protocolVersionMismatch => false
  | none => false

theorem checkTopics_eq_true_iff (environment : Environment) (ret : Bool)
    (entries : List (MessageCompatibilityTopic × Attempts)) :
    checkTopics environment.files environment.msgsDir environment.depth ret entries = some true ↔
      ret = true ∧ ∀ entry ∈ entries, answered environment entry = true := by
  induction entries generalizing ret with
  | nil => simp [checkTopics]
  | cons entry entries ih =>
      obtain ⟨topic, attempts⟩ := entry
      have first := (Retry.run_stopsAtFirst (acceptsResponse (requestOf topic)) kRetries
        attempts).first
      rw [List.forall_mem_cons, checkTopics, requestMessageFormat, first, answered]
      cases decisive : (Retry.messages (attempts.take kRetries).flatten).findSome?
          (acceptsResponse (requestOf topic)) with
      | none =>
          cases MessageHash.messageHash environment.files environment.msgsDir environment.depth
            (topicType topic) <;> simp
      | some answer =>
          cases answer with
          | protocolVersionMismatch =>
              cases MessageHash.messageHash environment.files environment.msgsDir
                environment.depth (topicType topic) <;> simp
          | gotReply response =>
              cases expected : MessageHash.messageHash environment.files environment.msgsDir
                  environment.depth (topicType topic) with
              | none => simp
              | some hash =>
                  simp only [Option.bind_eq_bind, Option.bind_some, ih, responseMatches,
                    Bool.and_eq_true, beq_iff_eq, decide_eq_true_eq, Option.some.injEq]
                  constructor
                  · rintro ⟨⟨before, success, same⟩, rest⟩
                    exact ⟨before, ⟨success, same.symm⟩, rest⟩
                  · rintro ⟨before, ⟨success, same⟩, rest⟩
                    exact ⟨⟨before, success, same.symm⟩, rest⟩

/-- A topic of the graph with one of its types, when the type has a local hash. -/
def KnownType (environment : Environment) (topic : List UInt8) (hash : Option TypeHash) : Prop :=
  ∃ types type support, (topic, types) ∈ environment.graph.topicNamesAndTypes ∧ type ∈ types ∧
    environment.findTypeSupport type = some support ∧ support.typeHash = some hash

/-- Every definition in use was compared and matched. -/
def Justified (environment : Environment)
    (messagesToCheck : List (MessageCompatibilityTopic × Attempts)) : Prop :=
  if environment.rmwZenoh then
    ∀ topic hash, KnownType environment topic hash →
      (∀ endpoint ∈ environment.graph.publishersInfoByTopic topic, hash = some endpoint) ∧
      ∀ endpoint ∈ environment.graph.subscriptionsInfoByTopic topic, hash = some endpoint
  else
    ∀ entry ∈ messagesToCheck,
      MessageHash.readable environment.files environment.msgsDir environment.depth
        (topicType entry.1) = true ∧
      ∃ response ∈ (requestMessageFormat (requestOf entry.1) entry.2).taken,
        response.protocolVersion = MessageFormatRequest.latestProtocolVersion ∧
        response.topicName.terminate.text = entry.1.topicName ∧ response.success = true ∧
        MessageHash.messageHash environment.files environment.msgsDir environment.depth
          (topicType entry.1) = some response.messageHash

/-- When a positive verdict is right. -/
def Reliable (environment : Environment)
    (messagesToCheck : List (MessageCompatibilityTopic × Attempts)) : Prop :=
  if environment.rmwZenoh then
    (∃ topic hash endpoint, KnownType environment topic hash ∧
      (endpoint ∈ (environment.graph.publishersInfoByTopic topic).getLast? ∨
        endpoint ∈ (environment.graph.subscriptionsInfoByTopic topic).getLast?) ∧
      hash ≠ some endpoint) ∨
    ∀ topic hash, KnownType environment topic hash →
      (∀ endpoint ∈ environment.graph.publishersInfoByTopic topic,
        endpoint ∈ (environment.graph.publishersInfoByTopic topic).getLast?) ∧
      ∀ endpoint ∈ environment.graph.subscriptionsInfoByTopic topic,
        endpoint ∈ (environment.graph.subscriptionsInfoByTopic topic).getLast?
  else
    environment.msgsDir = [] ∨ (∃ entry ∈ messagesToCheck, answered environment entry = false) ∨
      ∀ entry ∈ messagesToCheck, TopicNameFits entry.1 ∧
        MessageHash.readable environment.files environment.msgsDir environment.depth
          (topicType entry.1) = true

theorem answered_taken {environment : Environment}
    {entry : MessageCompatibilityTopic × Attempts} (positive : answered environment entry = true) :
    ∃ response ∈ (requestMessageFormat (requestOf entry.1) entry.2).taken,
      response.protocolVersion = MessageFormatRequest.latestProtocolVersion ∧
      response.topicName.terminate.text = (requestOf entry.1).topicName.text ∧
      response.success = true ∧
      MessageHash.messageHash environment.files environment.msgsDir environment.depth
        (topicType entry.1) = some response.messageHash := by
  have stops := Retry.run_stopsAtFirst (acceptsResponse (requestOf entry.1)) kRetries entry.2
  unfold answered at positive
  rw [← stops.first, stops.answer] at positive
  split at positive
  · rename_i response decisive
    obtain ⟨message, member, accepted⟩ := List.exists_of_findSome?_eq_some decisive
    simp only [Bool.and_eq_true, decide_eq_true_eq] at positive
    unfold acceptsResponse at accepted
    split at accepted
    · rename_i version
      split at accepted
      · rename_i name
        cases accepted
        exact ⟨response, member, version, name, positive.1, positive.2⟩
      · cases accepted
    · cases accepted
  · cases positive
  · cases positive

/-- A name that a response can carry fits the request as well. -/
theorem fits_of_text {topic : MessageCompatibilityTopic} {response : MessageFormatResponse}
    (named : response.topicName.terminate.text = topic.topicName) : TopicNameFits topic := by
  constructor
  · rw [← named]
    exact response.topicName.length_text_terminate_lt (by decide)
  · intro zero
    rw [← named] at zero
    exact cString_no_zero zero rfl

theorem endpointsMatch_iff (typeSupport : Option TypeSupport) (infos : List TypeHash) :
    endpointsMatch typeSupport infos = true ↔
      ∀ support, typeSupport = some support → ∀ hash, support.typeHash = some hash →
        ∀ endpoint ∈ infos.getLast?, hash = some endpoint := by
  unfold endpointsMatch
  cases last : infos.getLast? with
  | none => simp
  | some endpoint =>
      cases typeSupport with
      | none => simp
      | some support =>
          cases known : support.typeHash with
          | none => simp [known]
          | some hash => cases hash <;> simp [known]

theorem check_zenoh_iff {environment : Environment}
    (messagesToCheck : List (MessageCompatibilityTopic × Attempts))
    (zenoh : environment.rmwZenoh = true) :
    messageCompatibilityCheck environment messagesToCheck = some true ↔
      ∀ topic hash, KnownType environment topic hash →
        (∀ endpoint ∈ (environment.graph.publishersInfoByTopic topic).getLast?,
          hash = some endpoint) ∧
        ∀ endpoint ∈ (environment.graph.subscriptionsInfoByTopic topic).getLast?,
          hash = some endpoint := by
  simp only [messageCompatibilityCheck, zenoh, if_true, checkGraph, Option.some.injEq,
    List.all_eq_true, Bool.and_eq_true, endpointsMatch_iff]
  constructor
  · rintro compared topic hash ⟨types, type, support, listed, member, found, local_⟩
    obtain ⟨publishers, subscribers⟩ := compared (topic, types) listed type member
    exact ⟨publishers support found hash local_, subscribers support found hash local_⟩
  · intro compared topic listed type member
    constructor
    · intro support found hash local_
      exact (compared topic.1 hash ⟨topic.2, type, support, listed, member, found, local_⟩).1
    · intro support found hash local_
      exact (compared topic.1 hash ⟨topic.2, type, support, listed, member, found, local_⟩).2

theorem check_format_iff {environment : Environment}
    (messagesToCheck : List (MessageCompatibilityTopic × Attempts))
    (format : environment.rmwZenoh = false) :
    messageCompatibilityCheck environment messagesToCheck = some true ↔
      environment.msgsDir ≠ [] ∧ ∀ entry ∈ messagesToCheck, answered environment entry = true := by
  rw [messageCompatibilityCheck, format, if_neg Bool.false_ne_true]
  by_cases empty : environment.msgsDir = []
  · simp [empty]
  · rw [if_neg empty, checkTopics_eq_true_iff]
    simp [empty]

/-- Endpoints of one hash are all like the last. -/
theorem mem_getLast?_of_all_eq {hash : Option TypeHash} {infos : List TypeHash}
    (same : ∀ endpoint ∈ infos, hash = some endpoint) :
    ∀ endpoint ∈ infos, endpoint ∈ infos.getLast? := by
  intro endpoint member
  cases last : infos.getLast? with
  | none =>
      rw [List.getLast?_eq_none_iff.mp last] at member
      cases member
  | some final =>
      have first := same endpoint member
      rw [same final (List.mem_of_getLast? last)] at first
      exact first

/-- A positive verdict is right exactly if nothing that is not compared differs. -/
theorem messageCompatibilityCheck_justified_iff (environment : Environment)
    (messagesToCheck : List (MessageCompatibilityTopic × Attempts)) :
    (messageCompatibilityCheck environment messagesToCheck = some true →
        Justified environment messagesToCheck) ↔
      Reliable environment messagesToCheck := by
  unfold Justified Reliable
  cases zenoh : environment.rmwZenoh with
  | true =>
      rw [check_zenoh_iff messagesToCheck zenoh, if_pos rfl, if_pos rfl]
      constructor
      · intro justified
        by_cases compared : ∀ topic hash, KnownType environment topic hash →
            (∀ endpoint ∈ (environment.graph.publishersInfoByTopic topic).getLast?,
              hash = some endpoint) ∧
            ∀ endpoint ∈ (environment.graph.subscriptionsInfoByTopic topic).getLast?,
              hash = some endpoint
        · refine .inr ?_
          intro topic hash known
          obtain ⟨publishers, subscribers⟩ := justified compared topic hash known
          exact ⟨mem_getLast?_of_all_eq publishers, mem_getLast?_of_all_eq subscribers⟩
        · refine .inl ?_
          simp only [not_forall] at compared
          obtain ⟨topic, hash, known, differs⟩ := compared
          rw [not_and_or] at differs
          simp only [not_forall] at differs
          rcases differs with ⟨endpoint, last, differs⟩ | ⟨endpoint, last, differs⟩
          · exact ⟨topic, hash, endpoint, known, .inl last, differs⟩
          · exact ⟨topic, hash, endpoint, known, .inr last, differs⟩
      · rintro (⟨topic, hash, endpoint, known, last, differs⟩ | agree) compared
        · rcases last with last | last
          · exact absurd ((compared topic hash known).1 endpoint last) differs
          · exact absurd ((compared topic hash known).2 endpoint last) differs
        · intro topic hash known
          obtain ⟨publishers, subscribers⟩ := agree topic hash known
          exact ⟨fun endpoint member =>
              (compared topic hash known).1 endpoint (publishers endpoint member),
            fun endpoint member =>
              (compared topic hash known).2 endpoint (subscribers endpoint member)⟩
  | false =>
      rw [check_format_iff messagesToCheck zenoh, if_neg Bool.false_ne_true,
        if_neg Bool.false_ne_true]
      constructor
      · intro justified
        by_cases empty : environment.msgsDir = []
        · exact .inl empty
        by_cases all : ∀ entry ∈ messagesToCheck, answered environment entry = true
        · refine .inr (.inr ?_)
          intro entry member
          obtain ⟨read, response, _, _, named, _⟩ := justified ⟨empty, all⟩ entry member
          exact ⟨fits_of_text named, read⟩
        · refine .inr (.inl ?_)
          simpa using all
      · rintro (empty | ⟨entry, member, negative⟩ | sound) ⟨nonempty, all⟩ other memberOther
        · exact absurd empty nonempty
        · rw [all entry member] at negative
          cases negative
        · obtain ⟨fits, read⟩ := sound other memberOther
          obtain ⟨response, taken, version, named, success, hash⟩ :=
            answered_taken (all other memberOther)
          rw [(text_requestOf_eq_iff other.1).mpr fits] at named
          exact ⟨read, response, taken, version, named, success, hash⟩

/-- Two publishers of a topic with the known type `T`, the first one with another type hash. -/
def twoPublishers : Environment :=
  { rmwZenoh := true
    graph :=
      { topicNamesAndTypes := [(ascii "topic", [ascii "T"])]
        publishersInfoByTopic := fun _ => [⟨1, (CharArray.zeros 32).strcpy [1] (by decide)⟩,
          ⟨1, .zeros 32⟩]
        subscriptionsInfoByTopic := fun _ => [] }
    findTypeSupport := fun _ => some ⟨some (some ⟨1, .zeros 32⟩)⟩
    msgsDir := []
    files := fun _ => none
    depth := 0 }

theorem first_publisher_not_compared :
    messageCompatibilityCheck twoPublishers [] = some true ∧ ¬ Justified twoPublishers [] := by
  refine ⟨by decide, ?_⟩
  intro justified
  have known : KnownType twoPublishers (ascii "topic") (some ⟨1, .zeros 32⟩) :=
    ⟨[ascii "T"], ascii "T", _, List.mem_singleton.mpr rfl, List.mem_singleton.mpr rfl, rfl, rfl⟩
  exact absurd ((justified _ _ known).1 _ List.mem_cons_self) (by decide)

end MessageCompatibility

end Px4Ros2
