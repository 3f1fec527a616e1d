import FafIceAdapter.Library.Fallible
import FafIceAdapter.Library.Generations
import FafIceAdapter.Relay.Emission
import FafIceAdapter.Relay.Pair

namespace Faf
open Json Transition Generations

namespace Relay

section Messages

variable (jsonCpp : JsonCpp) (webRtc : WebRtc)

theorem index_isObject {value : Value} (object : value.isObject) (name : Bytes) :
    index name value = .ok (value.member name) := by
  cases value with
  | objectValue members => rfl
  | _ => contradiction

/-- The type is read back from a message with one more member. -/
theorem index_type {type other : Bytes} (different : bytes "type" ≠ other) (value : Value) :
    index (bytes "type") ((Value.nullValue.set (bytes "type") (.stringValue type)).set other value) =
      .ok (.stringValue type) := by
  rw [index_isObject (Value.isObject_set rfl other value), Value.member_set_of_ne different,
    Value.member_set_same rfl]

/-- A description is read as one by either side. -/
theorem describes_descriptionMessage (isOfferer : Bool) (sdp : Bytes) :
    describes jsonCpp webRtc (descriptionMessage isOfferer sdp) := by
  have type : index (bytes "type") (descriptionMessage isOfferer sdp) =
      .ok (.stringValue (bytes (if isOfferer then "offer" else "answer"))) := index_type (by decide) _
  have text : index (bytes "sdp") (descriptionMessage isOfferer sdp) = .ok (.stringValue sdp) := by
    unfold descriptionMessage
    rw [index_isObject (Value.isObject_set rfl _ _), Value.member_set_same rfl]
  have known : bytes (if isOfferer then "offer" else "answer") = bytes "offer" ∨
      bytes (if isOfferer then "offer" else "answer") = bytes "answer" := by
    cases isOfferer with
    | true => exact .inl rfl
    | false => exact .inr rfl
  have read : readIceMessage jsonCpp webRtc (descriptionMessage isOfferer sdp) = .ok (.description
      (webRtc.createSessionDescription (bytes (if isOfferer then "offer" else "answer")) sdp)) := by
    unfold readIceMessage
    simp only [type, text, jsonCpp.asString_string, bind, Except.bind, if_pos known]
    rfl
  unfold describes
  rw [read]

variable {jsonCpp webRtc} in
/-- The type of a description is an offer or an answer. -/
theorem type_of_describes {iceMsg : Value} (describing : describes jsonCpp webRtc iceMsg) :
    ∃ value type, index (bytes "type") iceMsg = .ok value ∧ jsonCpp.asString value = .ok type ∧
      (type = bytes "offer" ∨ type = bytes "answer") := by
  unfold describes at describing
  split at describing
  · rename_i parses read
    obtain ⟨value, present, afterValue⟩ := Fallible.bind_ok.mp read
    obtain ⟨type, text, afterType⟩ := Fallible.bind_ok.mp afterValue
    refine ⟨value, type, present, text, ?_⟩
    by_contra unknown
    rw [if_neg unknown] at afterType
    split at afterType
    · obtain ⟨json, _, afterJson⟩ := Fallible.bind_ok.mp afterType
      obtain ⟨sdpMid, _, afterMid⟩ := Fallible.bind_ok.mp afterJson
      obtain ⟨_, _, afterText⟩ := Fallible.bind_ok.mp afterMid
      obtain ⟨index, _, afterIndex⟩ := Fallible.bind_ok.mp afterText
      obtain ⟨_, _, afterNumber⟩ := Fallible.bind_ok.mp afterIndex
      obtain ⟨candidate, _, afterCandidate⟩ := Fallible.bind_ok.mp afterNumber
      obtain ⟨_, _, last⟩ := Fallible.bind_ok.mp afterCandidate
      cases last
    · cases afterType
  · contradiction

theorem describes_candidateMessage (candidate sdpMid : Bytes) (sdpMLineIndex : Int) :
    describes jsonCpp webRtc (candidateMessage candidate sdpMid sdpMLineIndex) = false := by
  by_contra describing
  obtain ⟨value, type, present, text, known⟩ := type_of_describes (Bool.not_eq_false _ ▸ describing)
  have held : index (bytes "type") (candidateMessage candidate sdpMid sdpMLineIndex) =
      .ok (.stringValue (bytes "candidate")) := index_type (by decide) _
  obtain rfl := Except.ok.inj (held.symm.trans present)
  obtain rfl := Except.ok.inj ((jsonCpp.asString_string _).symm.trans text)
  exact absurd known (by decide)

end Messages

/-- The relay counts its peer connections. -/
def Numbered (relay : Relay) : Prop :=
  ∀ number, relay.peerConnection.map PeerConnection.number = some number → number = relay.created

section Numbers

variable {jsonCpp : JsonCpp} {webRtc : WebRtc} {relay next : Relay}

theorem Numbered.kept (numbered : relay.Numbered) (kept : Kept relay next) : next.Numbered := by
  intro number held
  rw [kept.created]
  exact numbered number (kept.number.symm.trans held)

theorem Numbered.reported (numbered : relay.Numbered) (reported : Reported relay next) : next.Numbered := by
  intro number held
  have same := congrArg (Option.map PeerConnection.number) reported.connection
  rw [Option.map_map, Option.map_map] at same
  rw [reported.created]
  exact numbered number (same.symm.trans held)

theorem Recreated.numbered (recreated : Recreated relay next) : next.Numbered := by
  intro number held
  have same := congrArg (Option.map PeerConnection.number) recreated.connection
  rw [Option.map_map] at same
  rw [recreated.created]
  exact (Option.some.inj (same.symm.trans held)).symm

theorem Numbered.clear (numbered : relay.Numbered) : Numbered { relay with effects := [] } := numbered

theorem Numbered.handle {event : Event} (numbered : relay.Numbered) (idle : relay.closing = false)
    (steps : relay.handle jsonCpp webRtc event = some next) : next.Numbered := by
  cases @stepped_handle jsonCpp webRtc relay next event steps with
  | kept kept => exact numbered.kept kept
  | reported _ reports => exact numbered.reported (reported_setIceState reports)
  | lost _ kept =>
      have delayed : (relay.delayReinit 1).Numbered := by
        unfold delayReinit
        split
        · exact numbered
        · exact numbered
      exact delayed.kept kept
  | idle _ _ => exact numbered
  | reinit _ _ reinits => exact (recreated_reinitFunction reinits).numbered
  | replaced _ _ reinits kept =>
      unfold reinitPeerconnection at reinits
      rw [idle] at reinits
      exact (recreated_reinitFunction reinits).numbered.kept kept

end Numbers

end Relay

namespace Pair

/-- The generations of what the offerer's peer connections got and of what travels to the offerer. -/
def marks (party : Party) : List Nat := party.applied.map Applied.produced ++ party.iceMessages.map Sent.generation

/-- What travels to the answerer continues the generation of its peer connection, up to the last offer. -/
def Announced (jsonCpp : JsonCpp) (webRtc : WebRtc) (generation : Nat) (offerer : Relay)
    (messages : List (Sent Value)) : Prop :=
  ∃ last, Stream (fun message : Sent Value => Relay.describes jsonCpp webRtc message.content) Sent.generation
      generation messages last ∧
    last ≤ offerer.created ∧ (offerer.described → last = offerer.created)

/-- What travels to the offerer is in order, and no later than the peer connection of the answerer. -/
structure Ordered (generation : Nat) (party : Party) : Prop where
  ordered : (marks party).Pairwise (· ≤ ·)
  bound : ∀ mark ∈ marks party, mark ≤ generation

section Channels

variable {jsonCpp : JsonCpp} {webRtc : WebRtc} {generation : Nat} {offerer next : Relay} {messages : List (Sent Value)}

theorem Announced.le (announced : Announced jsonCpp webRtc generation offerer messages) :
    generation ≤ offerer.created := by
  obtain ⟨last, stream, bound, _⟩ := announced
  exact stream.le.trans bound

theorem Announced.clear (announced : Announced jsonCpp webRtc generation offerer messages) :
    Announced jsonCpp webRtc generation { offerer with effects := [] } messages := announced

/-- A step of the offerer that sends nothing. -/
theorem Announced.quiet {property : Effect → Prop} (announced : Announced jsonCpp webRtc generation offerer messages)
    (quiet : Relay.Quiet property offerer next) : Announced jsonCpp webRtc generation next messages := by
  obtain ⟨last, stream, bound, current⟩ := announced
  refine ⟨last, stream, ?_, ?_⟩
  · rw [quiet.created]
    exact bound
  · rw [quiet.created, quiet.described]
    exact current

/-- An event of the offerer continues the stream to the answerer. -/
theorem Announced.emitted (announced : Announced jsonCpp webRtc generation offerer messages)
    (emitted : Relay.Emitted offerer next) (empty : offerer.effects = []) :
    Announced jsonCpp webRtc generation next
      (messages ++ (next.effects.filterMap Effect.iceMessage?).map (⟨next.created, ·⟩)) := by
  cases emitted with
  | quiet quiet =>
      rw [quiet.effects.filterMap empty fun _ own => own.unseen.2.1, List.map_nil, List.append_nil]
      exact announced.quiet quiet
  | description sdp created effects =>
      obtain ⟨last, stream, bound, _⟩ := announced
      rw [effects, empty]
      refine ⟨next.created, ?_, le_refl _, fun _ => rfl⟩
      apply stream.append_announce ⟨next.created, _⟩
      · exact Relay.describes_descriptionMessage jsonCpp webRtc offerer.isOfferer sdp
      · rw [created]
        exact bound
  | candidate candidate sdpMid sdpMLineIndex created described effects =>
      obtain ⟨last, stream, bound, current⟩ := announced
      rw [effects, empty]
      refine ⟨last, ?_, created ▸ bound, fun _ => created ▸ current described⟩
      apply stream.append_follow ⟨next.created, _⟩
      · rw [Relay.describes_candidateMessage]
        exact Bool.false_ne_true
      · exact created.trans (current described).symm
  | renewed created described effects =>
      obtain ⟨last, stream, bound, _⟩ := announced
      rw [effects.filterMap empty fun _ inner => inner.unseen.2.1, List.map_nil, List.append_nil]
      refine ⟨last, stream, ?_, ?_⟩
      · rw [created]
        exact bound.trans (Nat.le_succ _)
      · rw [described]
        intro absurd
        contradiction

variable {party after : Party}

/-- The answerer sends for its current peer connection. -/
theorem Ordered.send (ordered : Ordered generation party) (applied : after.applied = party.applied)
    {contents : List Value} (sends : after.iceMessages = party.iceMessages ++ contents.map (⟨generation, ·⟩)) :
    Ordered generation after := by
  have same : marks after = marks party ++ contents.map fun _ => generation := by
    unfold marks
    rw [applied, sends, List.map_append, List.map_map, List.append_assoc]
    rfl
  have copies : ∀ mark ∈ contents.map fun _ => generation, mark = generation := by
    intro mark member
    obtain ⟨_, _, rfl⟩ := List.mem_map.mp member
    rfl
  constructor
  · rw [same]
    exact pairwise_append_bound ordered.ordered ordered.bound copies
  · rw [same]
    intro mark member
    rcases List.mem_append.mp member with before | sent
    · exact ordered.bound mark before
    · exact Nat.le_of_eq (copies mark sent)

/-- The offerer takes the first message and may apply it. -/
theorem Ordered.deliver (ordered : Ordered generation party) {message : Sent Value} {rest : List (Sent Value)}
    (queued : party.iceMessages = message :: rest) {recorded : List Applied}
    (applied : after.applied = party.applied ++ recorded) (takes : after.iceMessages = rest)
    (copies : ∀ applied ∈ recorded, applied.produced = message.generation) : Ordered generation after := by
  have before : marks party =
      party.applied.map Applied.produced ++ message.generation :: rest.map Sent.generation := by
    unfold marks
    rw [queued]
    rfl
  have same : marks after = party.applied.map Applied.produced ++ recorded.map Applied.produced ++
      rest.map Sent.generation := by
    unfold marks
    rw [applied, takes, List.map_append]
  have copies' : ∀ mark ∈ recorded.map Applied.produced, mark = message.generation := by
    intro mark member
    obtain ⟨one, inside, rfl⟩ := List.mem_map.mp member
    exact copies one inside
  have bound := ordered.bound
  rw [before] at bound
  constructor
  · have chain := ordered.ordered
    rw [before] at chain
    rw [same]
    exact pairwise_deliver chain copies'
  · rw [same]
    intro mark member
    rcases List.mem_append.mp member with applied | queued
    · rcases List.mem_append.mp applied with old | new
      · exact bound mark (List.mem_append_left _ old)
      · rw [copies' mark new]
        exact bound _ (List.mem_append_right _ List.mem_cons_self)
    · exact bound mark (List.mem_append_right _ (List.mem_cons_of_mem _ queued))

theorem Ordered.congr (ordered : Ordered generation party) (applied : after.applied = party.applied)
    (queued : after.iceMessages = party.iceMessages) : Ordered generation after := by
  have same : marks after = marks party := by
    unfold marks
    rw [applied, queued]
  exact ⟨same ▸ ordered.ordered, same ▸ ordered.bound⟩

theorem Ordered.mono (ordered : Ordered generation party) {later : Nat} (le : generation ≤ later) :
    Ordered later party :=
  ⟨ordered.ordered, fun mark member => (ordered.bound mark member).trans le⟩

end Channels

/-- The invariant of the runs. -/
structure Signalled (jsonCpp : JsonCpp) (webRtc : WebRtc) (pair : Pair) : Prop where
  offerer : Relay.Recoverable true pair.offerer.relay
  answerer : Relay.Recoverable false pair.answerer.relay
  numbered : pair.offerer.relay.Numbered
  announced : Announced jsonCpp webRtc pair.generation pair.offerer.relay pair.answerer.iceMessages
  ordered : Ordered pair.generation pair.offerer
  stale : ∀ applied ∈ pair.offerer.applied, applied.produced ≤ applied.generation
  own : ∀ applied ∈ pair.answerer.applied, applied.produced = applied.generation

section Steps

variable {jsonCpp : JsonCpp} {webRtc : WebRtc} {pair : Pair} {next : Relay}

theorem dispatch_silent {Content : Type} {contents : List Value} {queue : List Content} {send : Value → Content}
    (silent : contents = []) : queue ++ contents.map send = queue := by
  rw [silent, List.map_nil, List.append_nil]

theorem Signalled.localOfferer {event : Relay.LocalEvent} (signalled : Signalled jsonCpp webRtc pair)
    (moves : pair.offerer.relay.step jsonCpp webRtc (.local event) = some next) :
    Signalled jsonCpp webRtc (pair.dispatch .offerer next) where
  offerer := signalled.offerer.clear.handle moves
  answerer := signalled.answerer
  numbered := signalled.numbered.clear.handle signalled.offerer.closing moves
  announced := signalled.announced.clear.emitted (Relay.emitted_stepLocal moves) rfl
  ordered := signalled.ordered.congr rfl rfl
  stale := signalled.stale
  own := signalled.own

theorem Signalled.localAnswerer {event : Relay.LocalEvent} (signalled : Signalled jsonCpp webRtc pair)
    (moves : pair.answerer.relay.step jsonCpp webRtc (.local event) = some next) :
    Signalled jsonCpp webRtc (pair.dispatch .answerer next) where
  offerer := signalled.offerer
  answerer := signalled.answerer.clear.handle moves
  numbered := signalled.numbered
  announced := signalled.announced
  ordered := signalled.ordered.send rfl rfl
  stale := signalled.stale
  own := signalled.own

/-- What an answer or a candidate is applied to is at least as late. -/
theorem Signalled.receiveOfferer {creation : Creation} {message : Sent Value} {rest : List (Sent Value)}
    (signalled : Signalled jsonCpp webRtc pair) (queued : pair.offerer.iceMessages = message :: rest)
    (moves : pair.offerer.relay.step jsonCpp webRtc (.iceMessage message.content creation) = some next) :
    Signalled jsonCpp webRtc ((pair.receive .offerer message rest next).dispatch .offerer next) := by
  have quiet := Relay.quiet_addIceMessage (.inr signalled.offerer.clear.role) moves
  have silent : next.effects.filterMap Effect.iceMessage? = [] :=
    quiet.effects.filterMap rfl fun _ applied => applied.inner.unseen.2.1
  constructor
  · exact signalled.offerer.clear.handle moves
  · exact signalled.answerer
  · exact signalled.numbered.clear.handle signalled.offerer.closing moves
  · have kept := signalled.announced.clear.quiet quiet
    have queue : ((pair.receive .offerer message rest next).dispatch .offerer next).answerer.iceMessages =
        pair.answerer.iceMessages := dispatch_silent silent
    rw [queue]
    exact kept
  · apply signalled.ordered.deliver queued rfl rfl
    intro applied member
    obtain ⟨number, _, rfl⟩ := List.mem_map.mp member
    rfl
  · intro applied member
    rcases List.mem_append.mp member with before | added
    · exact signalled.stale applied before
    · obtain ⟨number, recorded, rfl⟩ := List.mem_map.mp added
      obtain ⟨effect, emitted, selected⟩ := List.mem_filterMap.mp recorded
      obtain ⟨others, same, kind⟩ := quiet.effects
      rw [same] at emitted
      obtain ⟨connection, present, current⟩ := kind effect emitted
      have number : number = pair.offerer.relay.created := by
        apply signalled.numbered
        have held : pair.offerer.relay.peerConnection = some connection := present
        rw [held]
        rcases current with rfl | rfl
        · exact selected
        · exact selected
      rw [number]
      have mark : message.generation ∈ marks pair.offerer := by
        unfold marks
        rw [queued]
        exact List.mem_append_right _ List.mem_cons_self
      exact (signalled.ordered.bound _ mark).trans signalled.announced.le
  · exact signalled.own

/-- The answerer gets an offer for a new peer connection, or a candidate for the current one. -/
theorem Signalled.receiveAnswerer {creation : Creation} {message : Sent Value} {rest : List (Sent Value)}
    (signalled : Signalled jsonCpp webRtc pair) (queued : pair.answerer.iceMessages = message :: rest)
    (moves : pair.answerer.relay.step jsonCpp webRtc (.iceMessage message.content creation) = some next) :
    Signalled jsonCpp webRtc ((pair.receive .answerer message rest next).dispatch .answerer next) := by
  have silent : next.effects.filterMap Effect.iceMessage? = [] :=
    (Relay.inner_addIceMessage moves).filterMap rfl fun _ inner => inner.unseen.2.1
  have generation : (pair.receive .answerer message rest next).generation = message.generation ∧
      pair.generation ≤ message.generation ∧
      Announced jsonCpp webRtc message.generation pair.offerer.relay rest := by
    obtain ⟨last, stream, bound, current⟩ := signalled.announced
    rw [queued] at stream
    cases stream with
    | announce announced later stream =>
        have created := Relay.created_addIceMessage signalled.answerer.clear.closing announced
          signalled.answerer.clear.role moves
        refine ⟨if_neg ?_, later, last, stream, bound, current⟩
        rw [created]
        exact Nat.succ_ne_self _
    | follow other same stream =>
        have quiet := Relay.quiet_addIceMessage (.inl (Bool.not_eq_true _ ▸ other)) moves
        exact ⟨(if_pos quiet.created).trans same.symm, Nat.le_of_eq same.symm, last, same ▸ stream, bound, current⟩
  obtain ⟨same, later, announced⟩ := generation
  constructor
  · exact signalled.offerer
  · exact signalled.answerer.clear.handle moves
  · exact signalled.numbered
  · change Announced jsonCpp webRtc (pair.receive .answerer message rest next).generation pair.offerer.relay rest
    rw [same]
    exact announced
  · have queue : ((pair.receive .answerer message rest next).dispatch .answerer next).offerer.iceMessages =
        pair.offerer.iceMessages := dispatch_silent silent
    change Ordered (pair.receive .answerer message rest next).generation _
    rw [same]
    exact (signalled.ordered.mono later).congr rfl queue
  · exact signalled.stale
  · intro applied member
    rcases List.mem_append.mp member with before | added
    · exact signalled.own applied before
    · obtain ⟨number, _, rfl⟩ := List.mem_map.mp added
      exact same.symm

/-- The data channels carry no ICE messages. -/
theorem Signalled.payload {side : Side} {payloads : List (Sent Payload)} {delivered : List Payload} {data : Bytes}
    {now : Int} (signalled : Signalled jsonCpp webRtc pair)
    (moves : (pair.party side).relay.step jsonCpp webRtc (.remoteMessage data now) = some next) :
    Signalled jsonCpp webRtc ((pair.setParty side
      { pair.party side with payloads := payloads, delivered := delivered }).dispatch side next) := by
  obtain ⟨_, received⟩ := Option.ite_none_right_eq_some.mp moves
  obtain rfl := Option.some.inj received
  have quiet := Relay.quiet_onRemoteMessage { (pair.party side).relay with effects := [] } data now
  have silent := quiet.effects.filterMap rfl fun _ unseen => unseen
  cases side with
  | offerer =>
      constructor
      · exact signalled.offerer.clear.handle moves
      · exact signalled.answerer
      · exact signalled.numbered.clear.handle signalled.offerer.closing moves
      · have kept := signalled.announced.clear.quiet quiet
        change Announced jsonCpp webRtc pair.generation _ (pair.answerer.iceMessages ++ List.map _ _)
        rw [dispatch_silent silent]
        exact kept
      · exact signalled.ordered.congr rfl rfl
      · exact signalled.stale
      · exact signalled.own
  | answerer =>
      constructor
      · exact signalled.offerer
      · exact signalled.answerer.clear.handle moves
      · exact signalled.numbered
      · exact signalled.announced
      · exact signalled.ordered.congr rfl (dispatch_silent silent)
      · exact signalled.stale
      · exact signalled.own

theorem Signalled.drop {side : Side} {payloads : List (Sent Payload)} (signalled : Signalled jsonCpp webRtc pair) :
    Signalled jsonCpp webRtc (pair.setParty side { pair.party side with payloads := payloads }) := by
  cases side with
  | offerer => exact { signalled with ordered := signalled.ordered.congr rfl rfl }
  | answerer => exact { signalled with }

theorem Signalled.step {event : Event} {after : Pair} (signalled : Signalled jsonCpp webRtc pair)
    (steps : pair.step jsonCpp webRtc event = some after) : Signalled jsonCpp webRtc after := by
  cases event with
  | «local» side event =>
      obtain ⟨next, moves, last⟩ := Option.bind_eq_some_iff.mp steps
      obtain rfl := Option.some.inj last
      cases side with
      | offerer => exact signalled.localOfferer moves
      | answerer => exact signalled.localAnswerer moves
  | iceMessage side creation =>
      unfold Pair.step at steps
      simp only at steps
      split at steps
      · contradiction
      · rename_i message rest queued
        obtain ⟨next, moves, last⟩ := Option.bind_eq_some_iff.mp steps
        obtain rfl := Option.some.inj last
        cases side with
        | offerer => exact signalled.receiveOfferer queued moves
        | answerer => exact signalled.receiveAnswerer queued moves
  | payload side index now =>
      obtain ⟨payload, _, afterPayload⟩ := Option.bind_eq_some_iff.mp steps
      obtain ⟨_, afterCurrent⟩ := Option.ite_none_right_eq_some.mp afterPayload
      obtain ⟨next, moves, last⟩ := Option.bind_eq_some_iff.mp afterCurrent
      obtain rfl := Option.some.inj last
      exact signalled.payload moves
  | drop side index =>
      obtain rfl := Option.some.inj steps
      exact signalled.drop

end Steps

theorem signalled_start {jsonCpp : JsonCpp} {webRtc : WebRtc} {first second : Creation} {offerer answerer : Relay}
    (offering : Relay.create true first = some offerer) (answering : Relay.create false second = some answerer) :
    Signalled jsonCpp webRtc ⟨.start offerer, .start answerer, 0⟩ := by
  have recreated := Relay.recreated_reinitFunction offering
  constructor
  · exact Relay.recoverable_create offering
  · exact Relay.recoverable_create answering
  · exact recreated.numbered
  · refine ⟨0, .nil 0, Nat.zero_le _, ?_⟩
    intro described
    have fresh : offerer.described = false := recreated.described
    rw [show offerer.described = true from described] at fresh
    contradiction
  · exact ⟨.nil, List.forall_mem_nil _⟩
  · exact List.forall_mem_nil _
  · exact List.forall_mem_nil _

/-- The answerer applies what was produced for the generation of its peer connection. The offerer may apply what
was produced for a peer connection that it has re-created since, and never goes back. -/
theorem applied_generations {jsonCpp : JsonCpp} {webRtc : WebRtc} {first second : Creation} {offerer answerer : Relay}
    {events : List Event} {pair : Pair} (offering : Relay.create true first = some offerer)
    (answering : Relay.create false second = some answerer)
    (run : (machine jsonCpp webRtc offerer answerer).Reaches (fun _ _ => True) events pair) :
    (∀ applied ∈ pair.answerer.applied, applied.produced = applied.generation) ∧
      (∀ applied ∈ pair.offerer.applied, applied.produced ≤ applied.generation) ∧
      (pair.offerer.applied.map Applied.produced).Pairwise (· ≤ ·) := by
  have signalled : Signalled jsonCpp webRtc pair := by
    apply run.invariant (Signalled jsonCpp webRtc)
    · exact signalled_start offering answering
    · intro state event next signalled _ steps
      exact signalled.step steps
  exact ⟨signalled.own, signalled.stale, (List.pairwise_append.mp signalled.ordered.ordered).1⟩

/-- The answerer accepts the first offer and answers it. -/
def answering : List Event :=
  [.local .offerer (.success .createOffer []), .local .offerer (.success .setLocalDescription []),
    .iceMessage .answerer .silent, .local .answerer (.success .setRemoteDescription []),
    .local .answerer (.success .createAnswer []), .local .answerer (.success .setLocalDescription [])]

/-- The offerer applies the answer. -/
theorem applied_generations_answered :
    ∃ pair, plainMachine.run (answering ++ [.iceMessage .offerer .silent]) = some pair ∧
      pair.offerer.applied = [⟨1, 1⟩] ∧
      (∀ applied ∈ pair.answerer.applied, applied.produced = applied.generation) ∧
      (∀ applied ∈ pair.offerer.applied, applied.produced ≤ applied.generation) ∧
      (pair.offerer.applied.map Applied.produced).Pairwise (· ≤ ·) :=
  ⟨_, rfl, rfl, applied_generations (show Relay.create true .silent = some Relay.offering from rfl)
    (show Relay.create false .silent = some (Relay.initial false) from rfl)
    (Machine.reaches_iff_run.mpr
      (show plainMachine.run (answering ++ [.iceMessage .offerer .silent]) = some _ from rfl))⟩

/-- The offerer re-creates its peer connection and makes the next offer while the answer is on its way. -/
theorem applied_stale : ¬ ∀ (jsonCpp : JsonCpp) (webRtc : WebRtc) (first second : Creation)
    (offerer answerer : Relay) (events : List Event) (pair : Pair), Relay.create true first = some offerer →
    Relay.create false second = some answerer →
    (machine jsonCpp webRtc offerer answerer).Reaches (fun _ _ => True) events pair →
    ∀ side, ∀ applied ∈ (pair.party side).applied, applied.produced = applied.generation := by
  intro claim
  have run : plainMachine.run (answering ++
      [.local .offerer (.iceState .failed), .local .offerer (.reinitTimer .silent),
        .local .offerer (.success .createOffer []), .local .offerer (.success .setLocalDescription []),
        .iceMessage .offerer .silent]) = some _ := rfl
  have same := claim _ _ .silent .silent _ _ _ _ rfl rfl (Machine.reaches_iff_run.mpr run) .offerer ⟨1, 2⟩
    (List.mem_singleton.mpr rfl)
  exact absurd same (by decide)

end Pair
end Faf
