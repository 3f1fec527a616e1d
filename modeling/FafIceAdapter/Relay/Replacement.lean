import FafIceAdapter.Relay.Signalling

namespace Faf
open Json Transition

namespace Relay

section Offers

variable {jsonCpp : JsonCpp} {webRtc : WebRtc}

/-- The type of the message is an offer, and WebRTC parses its description. -/
def Offers (jsonCpp : JsonCpp) (webRtc : WebRtc) (iceMsg : Value) : Prop :=
  ∃ type text sdp, index (bytes "type") iceMsg = .ok type ∧ jsonCpp.asString type = .ok (bytes "offer") ∧
    index (bytes "sdp") iceMsg = .ok text ∧ jsonCpp.asString text = .ok sdp ∧
    webRtc.createSessionDescription (bytes "offer") sdp

theorem Offers.describes {iceMsg : Value} (offers : Offers jsonCpp webRtc iceMsg) :
    describes jsonCpp webRtc iceMsg := by
  obtain ⟨type, text, sdp, typed, isOffer, present, read, parses⟩ := offers
  have message : readIceMessage jsonCpp webRtc iceMsg = .ok (.description true) := by
    unfold readIceMessage
    simp only [typed, isOffer, present, read, bind, Except.bind, true_or, if_true]
    rw [parses]
    rfl
  unfold Relay.describes
  rw [message]

end Offers

/-- The relay holds another peer connection, and no data channel of an earlier one. -/
structure Replaces (relay next : Relay) : Prop where
  present : next.peerConnection.isSome
  other : next.peerConnection.map PeerConnection.number ≠ relay.peerConnection.map PeerConnection.number
  dataChannel : ∀ number, next.dataChannel = some number →
    next.peerConnection.map PeerConnection.number = some number

/-- The peer connection and the data channel are those of before. -/
structure Retains (relay next : Relay) : Prop where
  same : next.peerConnection.map PeerConnection.number = relay.peerConnection.map PeerConnection.number
  dataChannel : next.dataChannel = relay.dataChannel

/-- The relay replaces its peer connection exactly for an offer that an answerer can use. -/
def Harmless (jsonCpp : JsonCpp) (webRtc : WebRtc) (iceMsg : Value) (relay next : Relay) : Prop :=
  (Replaces relay next ↔ relay.isOfferer = false ∧ Offers jsonCpp webRtc iceMsg) ∧
    (¬ (relay.isOfferer = false ∧ Offers jsonCpp webRtc iceMsg) → Retains relay next)

section Steps

variable {jsonCpp : JsonCpp} {webRtc : WebRtc} {relay middle next : Relay}

theorem Replaces.not_retains (replaces : Replaces relay next) : ¬ Retains relay next :=
  fun retains => replaces.other retains.same

theorem retains_setsDescription (described : SetsDescription relay next) : Retains relay next := by
  have number := (kept_setsDescription described).number
  rcases described with rfl | sets
  · exact ⟨number, rfl⟩
  · obtain ⟨connection, _, last⟩ := Option.bind_eq_some_iff.mp sets
    obtain rfl := Option.some.inj last
    exact ⟨number, rfl⟩

/-- The new peer connection of an answerer has no data channel yet. -/
theorem replaces_of_recreated (numbered : relay.Numbered) (answerer : relay.isOfferer = false)
    (recreated : Recreated relay middle) (described : SetsDescription middle next) : Replaces relay next := by
  have connection := congrArg (Option.map PeerConnection.number) recreated.connection
  rw [Option.map_map] at connection
  have number : next.peerConnection.map PeerConnection.number = some (relay.created + 1) :=
    (kept_setsDescription described).number.trans connection
  constructor
  · rw [← Option.isSome_map, number]
    rfl
  · intro same
    have before := numbered _ (same.symm.trans number)
    omega
  · intro channel held
    rw [(retains_setsDescription described).dataChannel, recreated.dataChannel, answerer] at held
    contradiction

/-- A description replaces the peer connection of an answerer, and nothing else replaces one. -/
theorem replaces_or_retains {iceMsg : Value} {creation : Creation} (numbered : relay.Numbered)
    (idle : relay.closing = false)
    (steps : relay.step jsonCpp webRtc (.iceMessage iceMsg creation) = some next) :
    relay.isOfferer = false ∧ describes jsonCpp webRtc iceMsg ∧ Replaces relay next ∨
      (relay.isOfferer ∨ describes jsonCpp webRtc iceMsg = false) ∧ Retains relay next := by
  rcases addIceMessage_cases steps with ⟨describing, answerer, middle, reinits, described⟩ | ⟨other, kept⟩
  · left
    unfold reinitPeerconnection at reinits
    rw [if_neg (by simp [idle])] at reinits
    have replaces := @replaces_of_recreated { relay with effects := [] } middle next numbered answerer
      (recreated_reinitFunction reinits) described
    exact ⟨answerer, describing, replaces.present, replaces.other, replaces.dataChannel⟩
  · right
    refine ⟨other.symm, ?_⟩
    rcases kept with described | ⟨connection, _, rfl⟩
    · have retains := retains_setsDescription described
      exact ⟨retains.same, retains.dataChannel⟩
    · exact ⟨rfl, rfl⟩

end Steps

theorem numbered_create {isOfferer : Bool} {creation : Creation} {start : Relay}
    (created : create isOfferer creation = some start) : Numbered start := by
  cases isOfferer with
  | true => exact (recreated_reinitFunction created).numbered
  | false =>
      obtain rfl := Option.some.inj created
      intro number held
      contradiction

/-- In every state of a run, an ICE message does no harm exactly when the relay is an offerer, the message is no
description, or it is an offer that can be parsed. -/
theorem addIceMessage_harmless_iff {jsonCpp : JsonCpp} {webRtc : WebRtc} {isOfferer : Bool} {creation : Creation}
    {start relay : Relay} {events : List Event} (created : create isOfferer creation = some start)
    (run : (machine jsonCpp webRtc start).Reaches (fun _ _ => True) events relay) (iceMsg : Value)
    (replacement : Creation) (next : Relay)
    (steps : relay.step jsonCpp webRtc (.iceMessage iceMsg replacement) = some next) :
    Harmless jsonCpp webRtc iceMsg relay next ↔
      relay.isOfferer ∨ describes jsonCpp webRtc iceMsg = false ∨ Offers jsonCpp webRtc iceMsg := by
  have numbered : Numbered relay := by
    have both : Recoverable isOfferer relay ∧ Numbered relay := by
      apply run.invariant fun relay => Recoverable isOfferer relay ∧ Numbered relay
      · exact ⟨recoverable_create created, numbered_create created⟩
      · intro state event next holds _ steps
        exact ⟨holds.1.clear.handle steps, holds.2.clear.handle holds.1.closing steps⟩
    exact both.2
  have idle := (recoverable_reaches created run).closing
  rcases replaces_or_retains numbered idle steps with ⟨answerer, describing, replaces⟩ | ⟨other, retains⟩
  · constructor
    · intro harmless
      exact .inr (.inr (harmless.1.mp replaces).2)
    · intro allowed
      have offers : Offers jsonCpp webRtc iceMsg := by
        simpa [answerer, describing] using allowed
      constructor
      · exact iff_of_true replaces ⟨answerer, offers⟩
      · intro useless
        exact absurd ⟨answerer, offers⟩ useless
  · have useless : ¬ (relay.isOfferer = false ∧ Offers jsonCpp webRtc iceMsg) := by
      intro useful
      have describing := useful.2.describes
      simp [useful.1, describing] at other
    constructor
    · intro _
      exact other.imp_right .inl
    · intro _
      constructor
      · exact iff_of_false (fun replaces => replaces.not_retains retains) useless
      · exact fun _ => retains

/-- An answerer with a data channel, and WebRTC accepts only the empty description. -/
def playing : List Event := [.iceMessage (descriptionMessage true []) .silent, .local .dataChannel]

def strict : WebRtc := ⟨fun _ sdp => sdp.isEmpty, fun _ _ _ => false⟩

def playingRelay : Relay := ((machine plainJsonCpp strict (initial false)).run playing).getD (initial false)

/-- The next offer can be parsed. -/
theorem addIceMessage_harmless_iff_playing :
    ∃ next, create false .silent = some (initial false) ∧
      (machine plainJsonCpp strict (initial false)).run playing = some playingRelay ∧
      playingRelay.step plainJsonCpp strict (.iceMessage (descriptionMessage true []) .silent) = some next ∧
      (Harmless plainJsonCpp strict (descriptionMessage true []) playingRelay next ↔
        playingRelay.isOfferer ∨ describes plainJsonCpp strict (descriptionMessage true []) = false ∨
          Offers plainJsonCpp strict (descriptionMessage true [])) :=
  ⟨_, rfl, rfl, rfl, addIceMessage_harmless_iff (show create false .silent = some (initial false) from rfl)
    (Machine.reaches_iff_run.mpr
      (show (machine plainJsonCpp strict (initial false)).run playing = some playingRelay from rfl)) _ _ _
    (show playingRelay.step plainJsonCpp strict (.iceMessage (descriptionMessage true []) .silent) = some _
      from rfl)⟩

/-- An offer that WebRTC rejects takes the working connection down. -/
theorem addIceMessage_rejected : ¬ ∀ (jsonCpp : JsonCpp) (webRtc : WebRtc) (isOfferer : Bool) (creation : Creation)
    (start relay : Relay) (events : List Event), create isOfferer creation = some start →
    (machine jsonCpp webRtc start).Reaches (fun _ _ => True) events relay →
    ∀ (iceMsg : Value) (replacement : Creation) (next : Relay),
      relay.step jsonCpp webRtc (.iceMessage iceMsg replacement) = some next →
      Harmless jsonCpp webRtc iceMsg relay next := by
  intro claim
  have run : (machine plainJsonCpp strict (initial false)).run playing = some playingRelay := rfl
  have steps : playingRelay.step plainJsonCpp strict (.iceMessage (descriptionMessage true [1]) .silent) =
      some _ := rfl
  have harmless := claim _ _ false .silent _ _ _ rfl (Machine.reaches_iff_run.mpr run) _ _ _ steps
  have useless : ¬ (playingRelay.isOfferer = false ∧ Offers plainJsonCpp strict (descriptionMessage true [1])) := by
    intro useful
    obtain ⟨type, text, sdp, _, _, present, read, parses⟩ := useful.2
    obtain rfl := Except.ok.inj (show Except.ok (Value.stringValue [1]) = _ from present)
    obtain rfl := Except.ok.inj ((plainJsonCpp.asString_string [1]).symm.trans read)
    contradiction
  exact absurd (harmless.2 useless).dataChannel (by decide)

end Relay
end Faf
