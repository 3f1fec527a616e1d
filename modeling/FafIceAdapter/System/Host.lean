import FafIceAdapter.Adapter.Addresses
import FafIceAdapter.System.Informed
import FafIceAdapter.System.Relays

namespace Faf
open Json JsonRpc StreamReader Transition

/-- The computer of a player: the adapter with its relays, and the streams between the adapter and the games. -/
structure Host where
  link : GameLink
  peers : Int → Option Relay
  quits : Bool

namespace Host

def live (host : Host) : LiveAdapter := ⟨host.link.adapter, host.peers, host.quits⟩

def initial (options : IceAdapterOptions) (freePort : Int) : Host :=
  ⟨.initial options freePort, fun _ => none, false⟩

/-- The adapter goes on, and what it sends to its games is on its way. -/
def follow (jsonCpp : JsonCpp) (live : LiveAdapter) (host : Host) : Host where
  link := { host.link with
    adapter := live.adapter
    outgoing := fun handler => (host.link.outgoing handler).send
      ((sentTo handler (live.adapter.trace.drop host.link.adapter.trace.length)).flatMap (GameLink.wire jsonCpp)) }
  peers := live.peers
  quits := live.quits

def perform (environment : RpcEnvironment) (event : LiveAdapter.Event) (host : Host) : Option Host := do
  let live ← host.live.step environment event
  return host.follow environment.jsonCpp live

/-- The adapter handles the messages of one result of `Recv` in order. An exception of the parser leaves the event
loop. -/
def onRead (environment : RpcEnvironment) (handler count : Nat) (host : Host) : Option Host :=
  let (drained, channel) := (host.link.incoming handler).receive GPGNetMessage.readMessage count
  if drained.failed then none
  else
    drained.delivered.foldlM (fun host message => host.perform environment (.game (.clientMessage handler message)))
      { host with link := { host.link with incoming := Function.update host.link.incoming handler channel } }

inductive Event where
  | adapter (event : LiveAdapter.Event)
  | sends (handler : Nat) (message : GPGNetMessage)
  | arrives (handler count : Nat)
  | reads (handler count : Nat)

/-- A message of a game reaches the adapter as bytes only. -/
def isMessage : LiveAdapter.Event → Bool
  | .game (.clientMessage _ _) => true
  | _ => false

def step (environment : RpcEnvironment) (host : Host) : Event → Option Host
  | .adapter event => if isMessage event then none else host.perform environment event
  | .sends handler message =>
      if handler < host.link.adapter.accepted then
        some { host with link := host.link.sendMessage environment.jsonCpp handler message }
      else none
  | .arrives handler count =>
      if handler ∈ host.link.adapter.connectedSockets then host.onRead environment handler count else none
  | .reads handler count =>
      if handler < host.link.adapter.accepted then do
        let link ← host.link.onClientRead handler count
        return { host with link := link }
      else none

/-- What the adapter and its games see of an event. -/
def linkEvent? (environment : RpcEnvironment) : Event → Option GameLink.Event
  | .adapter event => (LiveAdapter.adapterEvent? environment event).map .adapter
  | .sends handler message => some (.sends handler message)
  | .arrives handler count => some (.arrives handler count)
  | .reads handler count => some (.reads handler count)

section Projection

variable {environment : RpcEnvironment} {host next : Host}

/-- No call of the client is a message of a game. -/
theorem adapterEvent_isMessage (live : LiveAdapter) {event : LiveAdapter.Event} {own : IceAdapter.Event}
    (seen : LiveAdapter.adapterEvent? environment event = some own) : own.isMessage = isMessage event := by
  cases event with
  | rpc method params port creation =>
      have called := @LiveAdapter.called_call (environment.give port creation) live method params
      change method.command? _ _ = some own at seen
      rw [seen] at called
      generalize method.iceMessage? _ _ = message at called
      generalize (LiveAdapter.call _ method params live).1 = next at called
      cases called <;> rfl
  | game event =>
      obtain rfl := Option.some.inj seen
      cases event <;> rfl
  | peer remotePlayerId event => contradiction

theorem perform_link {event : LiveAdapter.Event} (performs : host.perform environment event = some next) :
    match LiveAdapter.adapterEvent? environment event with
    | some own => host.link.perform environment.jsonCpp own = some next.link
    | none => next.link = host.link := by
  obtain ⟨live, steps, last⟩ := Option.bind_eq_some_iff.mp performs
  obtain rfl := Option.some.inj last
  have projects := LiveAdapter.adapter_projects environment host.link.adapter.options 0
  have shared : host.live.adapter = host.link.adapter := rfl
  split
  · rename_i own seen
    obtain ⟨adapter, moves, same⟩ := projects.seen shared seen trivial steps
    change live.adapter = adapter at same
    rw [GameLink.perform, show host.link.adapter.step environment.jsonCpp own = some adapter from moves, ← same]
    rfl
  · rename_i unseen
    have same : live.adapter = host.link.adapter := projects.unseen shared unseen trivial steps
    unfold follow
    rw [same, List.drop_length]
    simp [sentTo, Channel.send]

/-- What the adapter and its games see of a step is a step of theirs. -/
theorem step_link {event : Event} (steps : host.step environment event = some next) :
    match linkEvent? environment event with
    | some own => host.link.step environment.jsonCpp own = some next.link
    | none => next.link = host.link := by
  cases event with
  | adapter event =>
      obtain ⟨other, performs⟩ := Option.ite_none_left_eq_some.mp steps
      have moves := perform_link performs
      simp only [linkEvent?]
      cases seen : LiveAdapter.adapterEvent? environment event with
      | none =>
          rw [seen] at moves
          exact moves
      | some own =>
          rw [seen] at moves
          change (if own.isMessage then none else host.link.perform environment.jsonCpp own) = some next.link
          rw [if_neg (adapterEvent_isMessage host.live seen ▸ other)]
          exact moves
  | sends handler message =>
      obtain ⟨known, last⟩ := Option.ite_none_right_eq_some.mp steps
      obtain rfl := Option.some.inj last
      exact if_pos known
  | arrives handler count =>
      obtain ⟨known, reads⟩ := Option.ite_none_right_eq_some.mp steps
      obtain ⟨passes, handles⟩ := Option.ite_none_left_eq_some.mp reads
      change (if handler ∈ host.link.adapter.connectedSockets then
        host.link.onRead environment.jsonCpp handler count else none) = some next.link
      rw [if_pos known]
      refine (if_neg passes).trans ?_
      exact Sequence.foldlM_project Host.link (fun performs => perform_link performs) handles
  | reads handler count =>
      obtain ⟨known, reads⟩ := Option.ite_none_right_eq_some.mp steps
      obtain ⟨link, moves, last⟩ := Option.bind_eq_some_iff.mp reads
      obtain rfl := Option.some.inj last
      exact (if_pos known).trans moves

end Projection

/-- No new peer connection is connected at once. -/
def Quiet (host : Host) : Event → Prop
  | .adapter event => LiveAdapter.CreatesQuietly host.live event
  | .sends _ _ | .arrives _ _ | .reads _ _ => True

instance (host : Host) (event : Event) : Decidable (host.Quiet event) :=
  match event with
  | .adapter event => inferInstanceAs (Decidable (LiveAdapter.CreatesQuietly host.live event))
  | .sends _ _ | .arrives _ _ | .reads _ _ => instDecidableTrue

/-- The client keeps to what the wire can hold, one game is connected at a time and gets no message from the client
itself, no new peer connection is connected at once, and the system gives an unused port to a new relay. -/
def Permitted (environment : RpcEnvironment) (host : Host) : Event → Prop
  | .adapter event => LiveAdapter.CreatesQuietly host.live event ∧
      ∀ own ∈ LiveAdapter.adapterEvent? environment event,
        own.Bounded ∧ IceAdapter.Single host.link.adapter own ∧ own.Unused host.link.adapter.relays
  | .sends _ _ | .arrives _ _ | .reads _ _ => True

instance (environment : RpcEnvironment) (host : Host) (event : Event) : Decidable (host.Permitted environment event) :=
  match event with
  | .adapter _ => inferInstanceAs (Decidable (_ ∧ ∀ own ∈ _, _))
  | .sends _ _ | .arrives _ _ | .reads _ _ => instDecidableTrue

/-- The relays belong to peer connections. -/
abbrev Composed (environment : RpcEnvironment) (host : Host) : Prop :=
  ∃ events, LiveAdapter.Composed environment events host.live

/-- The streams convey the messages, the tasks keep the game up to date with the relays, the addresses of the relays
are told apart, and the relays belong to peer connections. -/
structure Sound (environment : RpcEnvironment) (host : Host) : Prop where
  told : GameLink.Told host.link
  informing : host.link.adapter.Informing
  agreeing : host.link.adapter.Agreeing
  addressed : host.link.adapter.Addressed
  composed : host.Composed environment

section Soundness

variable {environment : RpcEnvironment} {host next : Host}

theorem composed_initial (options : IceAdapterOptions) (freePort : Int) :
    (initial options freePort).Composed environment := ⟨[], LiveAdapter.composed_initial options freePort⟩

theorem composed_perform {event : LiveAdapter.Event} (quiet : LiveAdapter.CreatesQuietly host.live event)
    (composed : host.Composed environment)
    (performs : host.perform environment event = some next) :
    next.Composed environment := by
  obtain ⟨live, steps, last⟩ := Option.bind_eq_some_iff.mp performs
  obtain rfl := Option.some.inj last
  obtain ⟨events, composed⟩ := composed
  exact ⟨events ++ [event], composed.step quiet steps⟩

theorem composed_messages {handler : Nat} (messages : List GPGNetMessage)
    (composed : host.Composed environment)
    (handles : messages.foldlM (fun host message =>
      host.perform environment (.game (.clientMessage handler message))) host = some next) :
    next.Composed environment := by
  refine Sequence.foldlM_invariant
    (fun host : Host => host.Composed environment) ?_ composed handles
  intro host message next composed performs
  have quiet : LiveAdapter.CreatesQuietly host.live (.game (.clientMessage handler message)) := trivial
  exact composed_perform quiet composed performs

theorem composed_step {event : Event} (quiet : host.Quiet event)
    (composed : host.Composed environment)
    (steps : host.step environment event = some next) :
    next.Composed environment := by
  cases event with
  | adapter event => exact composed_perform quiet composed (Option.ite_none_left_eq_some.mp steps).2
  | sends handler message =>
      obtain ⟨_, last⟩ := Option.ite_none_right_eq_some.mp steps
      obtain rfl := Option.some.inj last
      unfold Composed live
      rw [(GameLink.sendMessage_frame handler message).1]
      exact composed
  | arrives handler count =>
      obtain ⟨_, reads⟩ := Option.ite_none_right_eq_some.mp steps
      refine composed_messages _ ?_ (Option.ite_none_left_eq_some.mp reads).2
      exact composed
  | reads handler count =>
      obtain ⟨_, reads⟩ := Option.ite_none_right_eq_some.mp steps
      obtain ⟨link, moves, last⟩ := Option.bind_eq_some_iff.mp reads
      obtain rfl := Option.some.inj last
      obtain ⟨_, read⟩ := Option.ite_none_left_eq_some.mp moves
      obtain rfl := Option.some.inj read
      exact composed

/-- What the adapter and its games see of a permitted event is allowed for them. -/
theorem Permitted.link {event : Event} (permits : host.Permitted environment event) {own : GameLink.Event}
    (seen : linkEvent? environment event = some own) :
    own.Bounded ∧ ∀ inner, own = .adapter inner →
      IceAdapter.Single host.link.adapter inner ∧ inner.Unused host.link.adapter.relays := by
  cases event with
  | adapter event =>
      obtain ⟨inner, known, rfl⟩ := Option.map_eq_some_iff.mp seen
      obtain ⟨bounded, others⟩ := permits.2 inner known
      refine ⟨bounded, fun other same => ?_⟩
      obtain rfl := GameLink.Event.adapter.inj same
      exact others
  | sends handler message =>
      obtain rfl := Option.some.inj seen
      exact ⟨trivial, fun _ other => by contradiction⟩
  | arrives handler count =>
      obtain rfl := Option.some.inj seen
      exact ⟨trivial, fun _ other => by contradiction⟩
  | reads handler count =>
      obtain rfl := Option.some.inj seen
      exact ⟨trivial, fun _ other => by contradiction⟩

theorem Permitted.quiet {event : Event} (permits : host.Permitted environment event) : host.Quiet event := by
  cases event with
  | adapter event => exact permits.1
  | _ => trivial

theorem Sound.step {event : Event} (sound : host.Sound environment) (permits : host.Permitted environment event)
    (steps : host.step environment event = some next) :
    next.Sound environment ∧ next.link.adapter.lobbyPort = host.link.adapter.lobbyPort := by
  have composed := composed_step permits.quiet sound.composed steps
  have moves := step_link steps
  split at moves
  · rename_i own seen
    obtain ⟨bounded, allowed⟩ := permits.link seen
    have single : ∀ inner, own = .adapter inner → IceAdapter.Single host.link.adapter inner :=
      fun inner same => (allowed inner same).1
    have kept {adapter after : IceAdapter} {event : IceAdapter.Event}
        (holds : adapter.Addressed ∧ adapter.lobbyPort = host.link.adapter.lobbyPort)
        (permits : IceAdapter.Single adapter event ∧ event.Unused adapter.relays)
        (steps : adapter.step environment.jsonCpp event = some after) :
        after.Addressed ∧ after.lobbyPort = host.link.adapter.lobbyPort := by
      obtain ⟨addressed, port⟩ := holds.1.step permits.1 permits.2 steps
      exact ⟨addressed, port.trans holds.2⟩
    obtain ⟨addressed, port⟩ := GameLink.keeps_step kept ⟨trivial, trivial⟩ ⟨sound.addressed, rfl⟩ allowed moves
    exact ⟨⟨sound.told.step bounded moves,
      GameLink.keeps_step IceAdapter.Informing.step trivial sound.informing single moves,
      GameLink.keeps_step IceAdapter.Agreeing.step trivial sound.agreeing single moves, addressed, composed⟩, port⟩
  · rw [moves]
    exact ⟨⟨moves ▸ sound.told, moves ▸ sound.informing, moves ▸ sound.agreeing, moves ▸ sound.addressed, composed⟩,
      rfl⟩

end Soundness
end Host
end Faf
