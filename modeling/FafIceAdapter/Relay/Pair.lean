import FafIceAdapter.Relay.Recovery

namespace Faf
open Json Transition

inductive Side where
  | offerer
  | answerer
  deriving DecidableEq

def Side.isOfferer : Side → Bool
  | offerer => true
  | answerer => false

def Side.other : Side → Side
  | offerer => answerer
  | answerer => offerer

/-- What holds of one side and of the other one holds of both. -/
theorem Side.both {property : Side → Prop} (side : Side) (here : property side) (there : property side.other) :
    ∀ either, property either := by
  intro either
  cases side with
  | offerer =>
      cases either with
      | offerer => exact here
      | answerer => exact there
  | answerer =>
      cases either with
      | offerer => exact there
      | answerer => exact here

/-- The generation of a message is the number of the offerer's peer connection that it was produced for. -/
structure Sent (Content : Type) where
  generation : Nat
  content : Content

/-- A message that was produced for one generation is applied to a peer connection of another one. -/
structure Applied where
  produced : Nat
  generation : Nat
  deriving DecidableEq

/-- A relay with what travels to it. The ICE messages are delivered in order. What the data channel delivered,
what its game got, and what its peer connections got is recorded. -/
structure Party where
  relay : Relay
  iceMessages : List (Sent Value)
  payloads : List (Sent Payload)
  delivered : List Payload
  forwarded : List Bytes
  applied : List Applied

def Party.start (relay : Relay) : Party := ⟨relay, [], [], [], [], []⟩

/-- The peer connection of the answerer belongs to the offer for which it was created. -/
structure Pair where
  offerer : Party
  answerer : Party
  generation : Nat

namespace Pair

def party (pair : Pair) : Side → Party
  | .offerer => pair.offerer
  | .answerer => pair.answerer

def setParty (side : Side) (party : Party) (pair : Pair) : Pair :=
  match side with
  | .offerer => { pair with offerer := party }
  | .answerer => { pair with answerer := party }

/-- The generation of a relay's peer connection and its data channel. -/
def current (pair : Pair) : Side → Nat
  | .offerer => pair.offerer.relay.created
  | .answerer => pair.generation

/-- The effects of a step reach the game and the other relay. -/
def dispatch (side : Side) (next : Relay) (pair : Pair) : Pair :=
  let party := pair.party side
  let pair := pair.setParty side
    { party with relay := next, forwarded := party.forwarded ++ next.effects.filterMap Effect.forwarded? }
  let other := pair.party side.other
  pair.setParty side.other { other with
    iceMessages := other.iceMessages ++ (next.effects.filterMap Effect.iceMessage?).map (⟨pair.current side, ·⟩)
    payloads := other.payloads ++ (next.effects.filterMap Effect.sent?).map (⟨pair.current side, ·⟩) }

@[simp] theorem party_setParty (side : Side) (party : Party) (pair : Pair) :
    (pair.setParty side party).party side = party := by
  cases side with
  | offerer => rfl
  | answerer => rfl

@[simp] theorem party_setParty_other (side : Side) (party : Party) (pair : Pair) :
    (pair.setParty side party).party side.other = pair.party side.other := by
  cases side with
  | offerer => rfl
  | answerer => rfl

theorem party_dispatch (side : Side) (next : Relay) (pair : Pair) :
    (pair.dispatch side next).party side = { pair.party side with
      relay := next
      forwarded := (pair.party side).forwarded ++ next.effects.filterMap Effect.forwarded? } := by
  cases side with
  | offerer => rfl
  | answerer => rfl

theorem party_dispatch_other (side : Side) (next : Relay) (pair : Pair) :
    ∃ generation, (pair.dispatch side next).party side.other = { pair.party side.other with
      iceMessages := (pair.party side.other).iceMessages ++
        (next.effects.filterMap Effect.iceMessage?).map (⟨generation, ·⟩)
      payloads := (pair.party side.other).payloads ++
        (next.effects.filterMap Effect.sent?).map (⟨generation, ·⟩) } := by
  cases side with
  | offerer => exact ⟨next.created, rfl⟩
  | answerer => exact ⟨pair.generation, rfl⟩

/-- The first message is taken, and what the peer connection got is recorded. The number of an answerer's peer
connection counts the descriptions that it received. -/
def receive (side : Side) (message : Sent Value) (rest : List (Sent Value)) (next : Relay) (pair : Pair) : Pair :=
  let party := pair.party side
  match side with
  | .offerer =>
      { pair with offerer := { party with
          iceMessages := rest
          applied := party.applied ++ (next.effects.filterMap Effect.applied?).map (⟨message.generation, ·⟩) } }
  | .answerer =>
      let generation := if next.created = party.relay.created then pair.generation else message.generation
      { pair with
        generation := generation
        answerer := { party with
          iceMessages := rest
          applied := party.applied ++
            (next.effects.filterMap Effect.applied?).map fun _ => ⟨message.generation, generation⟩ } }

/-- Only the ICE messages of the receiver and what was applied change. -/
theorem receive_keeps (side : Side) (message : Sent Value) (rest : List (Sent Value)) (next : Relay) (pair : Pair) :
    ((pair.receive side message rest next).party side).payloads = (pair.party side).payloads ∧
      ((pair.receive side message rest next).party side).delivered = (pair.party side).delivered ∧
      ((pair.receive side message rest next).party side).forwarded = (pair.party side).forwarded ∧
      (pair.receive side message rest next).party side.other = pair.party side.other := by
  cases side with
  | offerer => exact ⟨rfl, rfl, rfl, rfl⟩
  | answerer => exact ⟨rfl, rfl, rfl, rfl⟩

/-- The data channels may reorder and drop what they carry. -/
inductive Event where
  | local (side : Side) (event : Relay.LocalEvent)
  | iceMessage (side : Side) (creation : Creation)
  | payload (side : Side) (index : Nat) (now : Int)
  | drop (side : Side) (index : Nat)

/-- A data channel only delivers what was sent on it. -/
def step (jsonCpp : JsonCpp) (webRtc : WebRtc) (pair : Pair) : Event → Option Pair
  | .local side event => do
      let next ← (pair.party side).relay.step jsonCpp webRtc (.local event)
      return pair.dispatch side next
  | .iceMessage side creation =>
      match (pair.party side).iceMessages with
      | [] => none
      | message :: rest => do
          let next ← (pair.party side).relay.step jsonCpp webRtc (.iceMessage message.content creation)
          return (pair.receive side message rest next).dispatch side next
  | .payload side index now => do
      let party := pair.party side
      let payload ← party.payloads[index]?
      if payload.generation = pair.current side then
        let next ← party.relay.step jsonCpp webRtc (.remoteMessage payload.content.data now)
        return (pair.setParty side { party with
          payloads := party.payloads.eraseIdx index
          delivered := party.delivered ++ [payload.content] }).dispatch side next
      else none
  | .drop side index =>
      let party := pair.party side
      some (pair.setParty side { party with payloads := party.payloads.eraseIdx index })

/-- The runs of an offerer and an answerer. -/
def machine (jsonCpp : JsonCpp) (webRtc : WebRtc) (offerer answerer : Relay) : Machine Pair Event where
  initial := ⟨.start offerer, .start answerer, 0⟩
  step := step jsonCpp webRtc

def plainMachine : Machine Pair Event :=
  machine Relay.plainJsonCpp .accepting Relay.offering (Relay.initial false)

end Pair
end Faf
