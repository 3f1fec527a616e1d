import FafIceAdapter.Library.Transition
import FafIceAdapter.Ping.Pingtracker

namespace Faf
open Transition

/-- The trackers of a client by the ids of the peers. -/
abbrev Pingtrackers := Std.ExtTreeMap Int Pingtracker

namespace TestClient

/-- A peer that has a tracker keeps it. -/
def pingTracker (id remoteId : Int) (trackers : Pingtrackers) : Pingtrackers :=
  trackers.insertIfNew remoteId (.create id remoteId)

/-- A ping is for the tracker of its sender, and any other packet is for the tracker of its answerer. -/
def onPeerData (packet : PingPacket) (trackers : Pingtrackers) : Option (Int × PingPacket) × Pingtrackers :=
  let peerId := if packet.type = PingPacket.PING then packet.senderId.toInt else packet.answererId.toInt
  match trackers[peerId]? with
  | none => (none, trackers)
  | some tracker =>
      let (response, next) := tracker.onPingPacket packet
      (response.map (tracker.remotePeerId, ·), trackers.insert peerId next)

end TestClient

/-- A packet on its way. -/
structure Flying where
  receiver : Int
  packet : PingPacket

/-- An answer that a client has given to a ping. -/
structure Answer where
  client : Int
  senderId : Int
  pingId : Int
  deriving DecidableEq

def PingPacket.answeredBy (client : Int) (packet : PingPacket) : Answer :=
  ⟨client, packet.senderId.toInt, packet.pingId.toInt⟩

/-- The clients by their ids. The relays of a peer lead to the client of this peer, and `clock` is the time that was
read last. -/
structure PingNetwork where
  clients : Int → Pingtrackers
  packets : List Flying
  answers : List Answer
  clock : Int

namespace PingNetwork

/-- A packet that is delivered stays on its way, so it may be delivered again. -/
inductive Event where
  | start (id remoteId : Int)
  | reinit (id : Int)
  | ping (id remoteId now : Int)
  | update (id remoteId now : Int)
  | deliver (index : Nat)
  | drop (index : Nat)

def tracker? (network : PingNetwork) (id remoteId : Int) : Option Pingtracker := (network.clients id)[remoteId]?

def setClient (id : Int) (trackers : Pingtrackers) (network : PingNetwork) : PingNetwork :=
  { network with clients := Function.update network.clients id trackers }

def setTracker (id remoteId : Int) (tracker : Pingtracker) (network : PingNetwork) : PingNetwork :=
  network.setClient id ((network.clients id).insert remoteId tracker)

/-- The ids are of type `int`, and the overflow of a ping id is undefined. -/
def step (network : PingNetwork) : Event → Option PingNetwork
  | .start id remoteId =>
      if FitsInt32 id ∧ FitsInt32 remoteId then
        some (network.setClient id (TestClient.pingTracker id remoteId (network.clients id)))
      else none
  | .reinit id => some (network.setClient id ∅)
  | .ping id remoteId now => do
      let tracker ← network.tracker? id remoteId
      let (packet, next) := tracker.sendPing now
      if FitsInt32 next.currentPingId then
        some { network.setTracker id remoteId next with
          packets := network.packets ++ [⟨tracker.remotePeerId, packet⟩]
          clock := now }
      else none
  | .update id remoteId now => do
      let tracker ← network.tracker? id remoteId
      return { network.setTracker id remoteId (tracker.update now) with clock := now }
  | .deliver index => do
      let flying ← network.packets[index]?
      let (response, trackers) := TestClient.onPeerData flying.packet (network.clients flying.receiver)
      return { network.setClient flying.receiver trackers with
        packets := network.packets ++ response.toList.map fun answer => ⟨answer.1, answer.2⟩
        answers := network.answers ++ response.toList.map fun answer => answer.2.answeredBy flying.receiver }
  | .drop index => some { network with packets := network.packets.eraseIdx index }

def machine : Machine PingNetwork Event where
  initial := ⟨fun _ => ∅, [], [], 0⟩
  step := step

@[simp] theorem tracker?_setTracker (network : PingNetwork) (id remoteId : Int) (tracker : Pingtracker)
    (other otherRemote : Int) :
    (network.setTracker id remoteId tracker).tracker? other otherRemote =
      if id = other ∧ remoteId = otherRemote then some tracker else network.tracker? other otherRemote := by
  change (Function.update network.clients id ((network.clients id).insert remoteId tracker) other)[otherRemote]? =
    if id = other ∧ remoteId = otherRemote then some tracker else (network.clients other)[otherRemote]?
  by_cases same : other = id
  · subst same
    rw [Function.update_self, TreeMap.get_insert]
    simp
  · rw [Function.update_of_ne same, if_neg fun both => same both.1.symm]

/-- What a step does: a tracker starts, all trackers of a client are gone, a tracker sends, counts, answers or is
answered, or a packet is ignored or lost. -/
inductive Steps (network : PingNetwork) : Event → PingNetwork → Prop
  | started (id remoteId : Int) (fits : FitsInt32 id ∧ FitsInt32 remoteId)
      (fresh : network.tracker? id remoteId = none) :
      Steps network (.start id remoteId) (network.setTracker id remoteId (.create id remoteId))
  | refused (id remoteId : Int) : Steps network (.start id remoteId) network
  | cleared (id : Int) : Steps network (.reinit id) (network.setClient id ∅)
  | sent (id remoteId now : Int) (tracker : Pingtracker) (found : network.tracker? id remoteId = some tracker)
      (fits : FitsInt32 (tracker.currentPingId + 1)) :
      Steps network (.ping id remoteId now) { network.setTracker id remoteId (tracker.sendPing now).2 with
        packets := network.packets ++ [⟨tracker.remotePeerId, (tracker.sendPing now).1⟩]
        clock := now }
  | updated (id remoteId now : Int) (tracker : Pingtracker) (found : network.tracker? id remoteId = some tracker) :
      Steps network (.update id remoteId now)
        { network.setTracker id remoteId (tracker.update now) with clock := now }
  | answered (index : Nat) (flying : Flying) (tracker : Pingtracker) (carried : network.packets[index]? = some flying)
      (ping : flying.packet.type = PingPacket.PING)
      (found : network.tracker? flying.receiver flying.packet.senderId.toInt = some tracker)
      (own : flying.packet.answererId = .ofInt 32 tracker.localPeerId) :
      Steps network (.deliver index) { network with
        packets := network.packets ++
          [⟨tracker.remotePeerId, { flying.packet with type := PingPacket.PONG }⟩]
        answers := network.answers ++ [flying.packet.answeredBy flying.receiver] }
  | succeeded (index : Nat) (flying : Flying) (tracker : Pingtracker)
      (carried : network.packets[index]? = some flying) (pong : flying.packet.type = PingPacket.PONG)
      (found : network.tracker? flying.receiver flying.packet.answererId.toInt = some tracker)
      (own : flying.packet.senderId = .ofInt 32 tracker.localPeerId)
      (pending : flying.packet.pingId.toInt ∈ tracker.pendingPings) :
      Steps network (.deliver index) (network.setTracker flying.receiver flying.packet.answererId.toInt { tracker with
        pendingPings := tracker.pendingPings.erase flying.packet.pingId.toInt
        successfulPings := tracker.successfulPings + 1 })
  | ignored (index : Nat) : Steps network (.deliver index) network
  | dropped (index : Nat) : Steps network (.drop index) { network with packets := network.packets.eraseIdx index }

theorem setClient_self (network : PingNetwork) (id : Int) : network.setClient id (network.clients id) = network := by
  unfold setClient
  rw [Function.update_eq_self]

theorem insert_self {trackers : Pingtrackers} {remoteId : Int} {tracker : Pingtracker}
    (found : trackers[remoteId]? = some tracker) : trackers.insert remoteId tracker = trackers := by
  ext other
  rw [TreeMap.get_insert]
  split
  · rename_i same
    rw [← same, found]
  · rfl

section Delivery

variable {network : PingNetwork} {flying : Flying}

/-- The network after a packet was delivered. -/
def delivered (network : PingNetwork) (flying : Flying) (response : Option (Int × PingPacket))
    (trackers : Pingtrackers) : PingNetwork :=
  { network.setClient flying.receiver trackers with
    packets := network.packets ++ response.toList.map fun answer => ⟨answer.1, answer.2⟩
    answers := network.answers ++ response.toList.map fun answer => answer.2.answeredBy flying.receiver }

theorem delivered_none (trackers : Pingtrackers) :
    network.delivered flying none trackers = network.setClient flying.receiver trackers := by
  unfold delivered
  simp [setClient]

theorem delivered_ignored : network.delivered flying none (network.clients flying.receiver) = network := by
  rw [delivered_none, setClient_self]

theorem onPeerData_unknown {peerId : Int} {trackers : Pingtrackers} {packet : PingPacket}
    (peer : (if packet.type = PingPacket.PING then packet.senderId.toInt else packet.answererId.toInt) = peerId)
    (unknown : trackers[peerId]? = none) : TestClient.onPeerData packet trackers = (none, trackers) := by
  unfold TestClient.onPeerData
  dsimp only
  rw [peer, unknown]

theorem onPeerData_known {peerId : Int} {trackers : Pingtrackers} {packet : PingPacket} {tracker : Pingtracker}
    (peer : (if packet.type = PingPacket.PING then packet.senderId.toInt else packet.answererId.toInt) = peerId)
    (known : trackers[peerId]? = some tracker) :
    TestClient.onPeerData packet trackers =
      ((tracker.onPingPacket packet).1.map (tracker.remotePeerId, ·),
        trackers.insert peerId (tracker.onPingPacket packet).2) := by
  unfold TestClient.onPeerData
  dsimp only
  rw [peer, known]

end Delivery

theorem step_steps {network next : PingNetwork} {event : Event} (steps : network.step event = some next) :
    network.Steps event next := by
  cases event with
  | start id remoteId =>
      obtain ⟨fits, same⟩ := Option.ite_none_right_eq_some.mp steps
      obtain rfl := Option.some.inj same
      unfold TestClient.pingTracker
      by_cases known : remoteId ∈ network.clients id
      · rw [TreeMap.insertIfNew_of_mem known, setClient_self]
        exact .refused id remoteId
      · rw [TreeMap.insertIfNew_of_notMem known]
        exact .started id remoteId fits (TreeMap.eq_none_iff.mpr known)
  | reinit id =>
      obtain rfl := Option.some.inj steps
      exact .cleared id
  | ping id remoteId now =>
      obtain ⟨tracker, found, sends⟩ := Option.bind_eq_some_iff.mp steps
      obtain ⟨fits, same⟩ := Option.ite_none_right_eq_some.mp sends
      obtain rfl := Option.some.inj same
      exact .sent id remoteId now tracker found fits
  | update id remoteId now =>
      obtain ⟨tracker, found, counts⟩ := Option.bind_eq_some_iff.mp steps
      obtain rfl := Option.some.inj counts
      exact .updated id remoteId now tracker found
  | deliver index =>
      obtain ⟨flying, carried, delivers⟩ := Option.bind_eq_some_iff.mp steps
      obtain rfl := Option.some.inj delivers
      change network.Steps (.deliver index) (network.delivered flying
        (TestClient.onPeerData flying.packet (network.clients flying.receiver)).1
        (TestClient.onPeerData flying.packet (network.clients flying.receiver)).2)
      obtain ⟨peerId, peer⟩ := @exists_eq _ (if flying.packet.type = PingPacket.PING then
        flying.packet.senderId.toInt else flying.packet.answererId.toInt)
      cases found : network.tracker? flying.receiver peerId with
      | none =>
          rw [onPeerData_unknown peer.symm found, delivered_ignored]
          exact .ignored index
      | some tracker =>
          rw [onPeerData_known peer.symm found]
          have silent : tracker.onPingPacket flying.packet = (none, tracker) →
              network.Steps (.deliver index) (network.delivered flying
                ((tracker.onPingPacket flying.packet).1.map (tracker.remotePeerId, ·))
                ((network.clients flying.receiver).insert peerId (tracker.onPingPacket flying.packet).2)) := by
            intro nothing
            rw [nothing, insert_self found, Option.map_none, delivered_ignored]
            exact .ignored index
          by_cases ping : flying.packet.type = PingPacket.PING
          · rw [if_pos ping] at peer
            by_cases own : flying.packet.answererId = .ofInt 32 tracker.localPeerId
            · have answers : tracker.onPingPacket flying.packet =
                  (some { flying.packet with type := PingPacket.PONG }, tracker) := by
                rw [Pingtracker.onPingPacket, if_pos ping, if_neg (not_not.mpr own)]
              rw [answers, insert_self found]
              unfold delivered
              rw [setClient_self]
              exact .answered index flying tracker carried ping (peer ▸ found) own
            · apply silent
              rw [Pingtracker.onPingPacket, if_pos ping, if_pos own]
          · rw [if_neg ping] at peer
            by_cases pong : flying.packet.type = PingPacket.PONG
            · by_cases own : flying.packet.senderId = .ofInt 32 tracker.localPeerId
              · by_cases pending : flying.packet.pingId.toInt ∈ tracker.pendingPings
                · have succeeds : tracker.onPingPacket flying.packet = (none, { tracker with
                      pendingPings := tracker.pendingPings.erase flying.packet.pingId.toInt
                      successfulPings := tracker.successfulPings + 1 }) := by
                    rw [Pingtracker.onPingPacket, if_neg ping, if_pos pong, if_neg (not_not.mpr own), if_pos pending]
                  rw [succeeds, Option.map_none, peer, delivered_none]
                  exact .succeeded index flying tracker carried pong (peer ▸ found) own pending
                · apply silent
                  rw [Pingtracker.onPingPacket, if_neg ping, if_pos pong, if_neg (not_not.mpr own), if_neg pending]
              · apply silent
                rw [Pingtracker.onPingPacket, if_neg ping, if_pos pong, if_pos own]
            · apply silent
              rw [Pingtracker.onPingPacket, if_neg ping, if_neg pong]
  | drop index =>
      obtain rfl := Option.some.inj steps
      exact .dropped index

section Accounting

variable {id remoteId : Int} {tracker : Pingtracker} {answers : List Answer}

/-- Every ping that was sent is successful, lost or pending, and the other client has answered the successful ones. -/
structure Accounted (id remoteId : Int) (tracker : Pingtracker) (answers : List Answer) : Prop where
  own : tracker.localPeerId = id ∧ FitsInt32 id
  total : tracker.successfulPings + tracker.lostPings + tracker.pendingPings.size = tracker.currentPingId
  numbered : ∀ pingId ∈ tracker.pendingPings, 0 ≤ pingId ∧ pingId < tracker.currentPingId
  answered : ∃ pingIds : List Int, pingIds.Nodup ∧ pingIds.length = tracker.successfulPings ∧
    ∀ pingId ∈ pingIds, (0 ≤ pingId ∧ pingId < tracker.currentPingId) ∧ pingId ∉ tracker.pendingPings ∧
      ⟨remoteId, id, pingId⟩ ∈ answers

theorem Accounted.mono (accounted : Accounted id remoteId tracker answers) (more : List Answer) :
    Accounted id remoteId tracker (answers ++ more) := by
  obtain ⟨pingIds, distinct, length, each⟩ := accounted.answered
  refine ⟨accounted.own, accounted.total, accounted.numbered, pingIds, distinct, length, fun pingId member => ?_⟩
  obtain ⟨range, settled, given⟩ := each pingId member
  exact ⟨range, settled, List.mem_append_left more given⟩

theorem Accounted.create (fits : FitsInt32 id) : Accounted id remoteId (.create id remoteId) answers where
  own := ⟨rfl, fits⟩
  total := by
    change (0 : Int) + 0 + ((∅ : Std.ExtTreeMap Int Int).size : Int) = 0
    rw [Std.ExtTreeMap.size_empty]
    rfl
  numbered _ member := absurd member Std.ExtTreeMap.not_mem_empty
  answered := ⟨[], List.nodup_nil, rfl, by simp⟩

theorem Accounted.sendPing (accounted : Accounted id remoteId tracker answers) (now : Int) :
    Accounted id remoteId (tracker.sendPing now).2 answers := by
  have fresh : tracker.currentPingId ∉ tracker.pendingPings := fun member =>
    lt_irrefl _ (accounted.numbered _ member).2
  have other : ∀ pingId, pingId ∈ tracker.pendingPings.insert tracker.currentPingId now ↔
      tracker.currentPingId = pingId ∨ pingId ∈ tracker.pendingPings := by
    intro pingId
    rw [Std.ExtTreeMap.mem_insert, compare_eq_iff_eq]
  obtain ⟨pingIds, distinct, length, each⟩ := accounted.answered
  have total := accounted.total
  have sized := TreeMap.size_insert_of_notMem fresh now
  refine ⟨accounted.own, ?_, fun pingId member => ?_, pingIds, distinct, length, fun pingId member => ?_⟩
  · change (tracker.successfulPings : Int) + tracker.lostPings +
      ((tracker.pendingPings.insert tracker.currentPingId now).size : Int) = tracker.currentPingId + 1
    omega
  · change 0 ≤ pingId ∧ pingId < tracker.currentPingId + 1
    rcases (other pingId).mp member with new | old
    · omega
    · have := accounted.numbered pingId old
      omega
  · change (0 ≤ pingId ∧ pingId < tracker.currentPingId + 1) ∧
      pingId ∉ tracker.pendingPings.insert tracker.currentPingId now ∧ _
    obtain ⟨range, settled, given⟩ := each pingId member
    refine ⟨by omega, fun pending => ?_, given⟩
    rcases (other pingId).mp pending with new | old
    · omega
    · exact settled old

theorem Accounted.update (accounted : Accounted id remoteId tracker answers) (now : Int) :
    Accounted id remoteId (tracker.update now) answers := by
  have kept : ∀ pingId ∈ (tracker.update now).pendingPings, pingId ∈ tracker.pendingPings := by
    intro pingId member
    obtain ⟨sent, pending⟩ := TreeMap.mem_iff.mp member
    exact TreeMap.mem_iff.mpr ⟨sent, Pingtracker.update_pending pending⟩
  have same : tracker.update now = { tracker with
      pendingPings := (tracker.update now).pendingPings
      lostPings := (tracker.update now).lostPings } := by
    unfold Pingtracker.update
    rw [Pingtracker.expire_eq]
  have sized := @Pingtracker.size_update now tracker
  have total := accounted.total
  obtain ⟨pingIds, distinct, length, each⟩ := accounted.answered
  rw [same]
  refine ⟨accounted.own, ?_, fun pingId member => accounted.numbered pingId (kept pingId member), pingIds, distinct,
    length, fun pingId member => ?_⟩
  · dsimp only
    omega
  · obtain ⟨range, settled, given⟩ := each pingId member
    exact ⟨range, fun pending => settled (kept pingId pending), given⟩

/-- A ping that is answered twice counts once, because it is not pending any more. -/
theorem Accounted.succeed (accounted : Accounted id remoteId tracker answers) {pingId : Int}
    (pending : pingId ∈ tracker.pendingPings) (given : ⟨remoteId, id, pingId⟩ ∈ answers) :
    Accounted id remoteId { tracker with
      pendingPings := tracker.pendingPings.erase pingId
      successfulPings := tracker.successfulPings + 1 } answers := by
  have kept : ∀ other, other ∈ tracker.pendingPings.erase pingId ↔ pingId ≠ other ∧ other ∈ tracker.pendingPings := by
    intro other
    rw [Std.ExtTreeMap.mem_erase, ne_eq, compare_eq_iff_eq]
  have sized := TreeMap.size_erase_of_mem pending
  have total := accounted.total
  obtain ⟨pingIds, distinct, length, each⟩ := accounted.answered
  refine ⟨accounted.own, ?_, fun other member => accounted.numbered other ((kept other).mp member).2,
    pingId :: pingIds, ?_, ?_, fun other member => ?_⟩
  · dsimp only
    omega
  · exact List.nodup_cons.mpr ⟨fun member => (each pingId member).2.1 pending, distinct⟩
  · rw [List.length_cons, length]
  · dsimp only
    rcases List.mem_cons.mp member with rfl | before
    · exact ⟨accounted.numbered other pending, fun still => ((kept other).mp still).1 rfl, given⟩
    · obtain ⟨range, settled, answer⟩ := each other before
      exact ⟨range, fun still => settled ((kept other).mp still).2, answer⟩

end Accounting

/-- Every pong on its way has an answer. -/
structure Sound (network : PingNetwork) : Prop where
  trackers : ∀ {id remoteId : Int} {tracker : Pingtracker}, network.tracker? id remoteId = some tracker →
    Accounted id remoteId tracker network.answers
  pongs : ∀ flying ∈ network.packets, flying.packet.type = PingPacket.PONG →
    flying.packet.answeredBy flying.packet.answererId.toInt ∈ network.answers

theorem toInt_ofInt {value : Int} (fits : FitsInt32 value) : (BitVec.ofInt 32 value).toInt = value :=
  BitVec.toInt_ofInt_eq_self (by decide) fits.1 fits.2

theorem tracker?_setClient_empty {network : PingNetwork} {id other remoteId : Int} {tracker : Pingtracker}
    (found : (network.setClient id ∅).tracker? other remoteId = some tracker) :
    network.tracker? other remoteId = some tracker := by
  change (Function.update network.clients id ∅ other)[remoteId]? = some tracker at found
  by_cases same : other = id
  · rw [same, Function.update_self, Std.ExtTreeMap.getElem?_empty] at found
    contradiction
  · rw [Function.update_of_ne same] at found
    exact found

/-- Only one tracker changes, and it keeps its account. -/
theorem Sound.setTracker {network : PingNetwork} (sound : network.Sound) {id remoteId : Int} {tracker : Pingtracker}
    (accounted : Accounted id remoteId tracker network.answers) : (network.setTracker id remoteId tracker).Sound := by
  refine ⟨fun {other otherRemote found'} found => ?_, sound.pongs⟩
  rw [tracker?_setTracker] at found
  split at found
  · rename_i same
    obtain ⟨rfl, rfl⟩ := same
    obtain rfl := Option.some.inj found
    exact accounted
  · exact sound.trackers found

theorem Sound.step {network next : PingNetwork} {event : Event} (sound : network.Sound)
    (steps : network.Steps event next) : next.Sound := by
  cases steps with
  | started id remoteId fits fresh => exact sound.setTracker (.create fits.1)
  | refused => exact sound
  | cleared id => exact ⟨fun found => sound.trackers (tracker?_setClient_empty found), sound.pongs⟩
  | sent id remoteId now tracker found fits =>
      have set := sound.setTracker ((sound.trackers found).sendPing now)
      refine ⟨set.trackers, fun flying member pong => ?_⟩
      rcases List.mem_append.mp member with before | new
      · exact sound.pongs flying before pong
      · rw [List.mem_singleton.mp new] at pong
        exact absurd (show PingPacket.PING = PingPacket.PONG from pong) (by decide)
  | updated id remoteId now tracker found =>
      have set := sound.setTracker ((sound.trackers found).update now)
      exact ⟨set.trackers, set.pongs⟩
  | answered index flying tracker carried ping found own =>
      have accounted := sound.trackers found
      refine ⟨fun other => (sound.trackers other).mono _, fun other member pong => ?_⟩
      rcases List.mem_append.mp member with before | new
      · exact List.mem_append_left _ (sound.pongs other before pong)
      · have answerer : flying.packet.answererId.toInt = flying.receiver := by
          rw [own, accounted.own.1, toInt_ofInt accounted.own.2]
        rw [List.mem_singleton.mp new]
        dsimp only
        rw [answerer]
        exact List.mem_append_right _ List.mem_cons_self
  | succeeded index flying tracker carried pong found own pending =>
      have accounted := sound.trackers found
      have given := sound.pongs flying (List.mem_of_getElem? carried) pong
      have sender : flying.packet.senderId.toInt = flying.receiver := by
        rw [own, accounted.own.1, toInt_ofInt accounted.own.2]
      unfold PingPacket.answeredBy at given
      rw [sender] at given
      exact sound.setTracker (accounted.succeed pending given)
  | ignored => exact sound
  | dropped index => exact ⟨sound.trackers, fun flying member => sound.pongs flying (List.mem_of_mem_eraseIdx member)⟩

theorem initial_sound : machine.initial.Sound := by
  refine ⟨fun {id remoteId tracker} found => ?_, by simp [machine]⟩
  change (∅ : Pingtrackers)[remoteId]? = some tracker at found
  rw [Std.ExtTreeMap.getElem?_empty] at found
  contradiction

/-- In every run each ping of a tracker is successful, lost or still pending, and the other client has answered a ping
with the number of each successful one, however often the packets are delivered and in which order. The numbers start
again when a client starts again, so an answer to an earlier tracker counts for the later one. -/
theorem pings_accounted {events : List Event} {network : PingNetwork}
    (run : machine.Reaches (fun _ _ => True) events network) {id remoteId : Int} {tracker : Pingtracker}
    (found : network.tracker? id remoteId = some tracker) :
    tracker.successfulPings + tracker.lostPings + tracker.pendingPings.size = tracker.currentPingId ∧
      (∀ pingId ∈ tracker.pendingPings, 0 ≤ pingId ∧ pingId < tracker.currentPingId) ∧
      ∃ pingIds : List Int, pingIds.Nodup ∧ pingIds.length = tracker.successfulPings ∧
        ∀ pingId ∈ pingIds, (0 ≤ pingId ∧ pingId < tracker.currentPingId) ∧ pingId ∉ tracker.pendingPings ∧
          ⟨remoteId, id, pingId⟩ ∈ network.answers := by
  have sound : network.Sound := run.invariant Sound initial_sound fun sound _ steps => sound.step (step_steps steps)
  have accounted := sound.trackers found
  exact ⟨accounted.total, accounted.numbered, accounted.answered⟩

/-- The first ping is delivered twice, and both answers come back. -/
def echo : List Event :=
  [.start 1 2, .start 2 1, .ping 1 2 0, .deliver 0, .deliver 0, .deliver 1, .deliver 2, .ping 1 2 20]

theorem pings_accounted_echo :
    ∃ network tracker, machine.run echo = some network ∧ network.tracker? 1 2 = some tracker ∧
      tracker.successfulPings = 1 ∧ network.answers.length = 2 ∧
      tracker.successfulPings + tracker.lostPings + tracker.pendingPings.size = tracker.currentPingId ∧
      (∀ pingId ∈ tracker.pendingPings, 0 ≤ pingId ∧ pingId < tracker.currentPingId) ∧
      ∃ pingIds : List Int, pingIds.Nodup ∧ pingIds.length = tracker.successfulPings ∧
        ∀ pingId ∈ pingIds, (0 ≤ pingId ∧ pingId < tracker.currentPingId) ∧ pingId ∉ tracker.pendingPings ∧
          ⟨2, 1, pingId⟩ ∈ network.answers := by
  have told : (machine.run echo).map (fun network =>
      ((network.tracker? 1 2).map Pingtracker.successfulPings, network.answers.length)) = some (some 1, 2) := by
    decide +kernel
  obtain ⟨network, run, same⟩ := Option.map_eq_some_iff.mp told
  obtain ⟨counted, answers⟩ := Prod.mk.inj same
  obtain ⟨tracker, found, successful⟩ := Option.map_eq_some_iff.mp counted
  exact ⟨network, tracker, run, found, successful, answers, pings_accounted (Machine.reaches_iff_run.mpr run) found⟩

/-- The clock does not go back. -/
def Forward (network : PingNetwork) : Event → Prop
  | .ping _ _ now => network.clock ≤ now
  | .update _ _ now => network.clock ≤ now
  | _ => True

instance (network : PingNetwork) (event : Event) : Decidable (network.Forward event) := by
  cases event <;> unfold Forward <;> infer_instance

section Expiring

variable {tracker : Pingtracker} {clock now : Int}

theorem sendPing_timely (timely : tracker.Timely clock) (later : clock ≤ now)
    (numbered : ∀ pingId ∈ tracker.pendingPings, 0 ≤ pingId ∧ pingId < tracker.currentPingId) :
    (tracker.sendPing now).2.Timely now := by
  have look : ∀ pingId, (tracker.sendPing now).2.pendingPings[pingId]? =
      if tracker.currentPingId = pingId then some now else tracker.pendingPings[pingId]? := fun pingId =>
    TreeMap.get_insert tracker.currentPingId pingId now
  have past : ∀ pingId sent : Int, (tracker.sendPing now).2.pendingPings[pingId]? = some sent → sent ≤ now := by
    intro pingId sent pending
    rw [look] at pending
    split at pending
    · exact le_of_eq (Option.some.inj pending).symm
    · exact le_trans (timely.past pingId sent pending) later
  refine ⟨fun first second firstSent secondSent earlier pending order => ?_, past⟩
  have bound := past first firstSent earlier
  rw [look] at earlier pending
  by_cases newest : tracker.currentPingId = second
  · rw [if_pos newest] at pending
    exact le_of_le_of_eq bound (Option.some.inj pending)
  · rw [if_neg newest] at pending
    have below := (numbered second (TreeMap.mem_iff.mpr ⟨_, pending⟩)).2
    rw [if_neg (by omega)] at earlier
    exact timely.ordered first second firstSent secondSent earlier pending order

theorem timely_kept {other : Pingtracker} (timely : tracker.Timely clock) (later : clock ≤ now)
    (kept : ∀ pingId sent : Int, other.pendingPings[pingId]? = some sent → tracker.pendingPings[pingId]? = some sent) :
    other.Timely now where
  ordered first second firstSent secondSent earlier pending order :=
    timely.ordered first second firstSent secondSent (kept first firstSent earlier) (kept second secondSent pending)
      order
  past pingId sent pending := le_trans (timely.past pingId sent (kept pingId sent pending)) later

end Expiring

theorem clock_step {network next : PingNetwork} {event : Event} (forward : network.Forward event)
    (steps : network.Steps event next) : network.clock ≤ next.clock := by
  cases steps with
  | sent id remoteId now tracker found fits => exact forward
  | updated id remoteId now tracker found => exact forward
  | started | refused | cleared | answered | succeeded | ignored | dropped => exact le_refl _

/-- A pending ping was pending before, or it is sent by the step. -/
theorem pending_step {network next : PingNetwork} {event : Event} (steps : network.Steps event next)
    {id remoteId : Int} {after : Pingtracker} (found : next.tracker? id remoteId = some after) :
    after.pendingPings = ∅ ∨ ∃ before, network.tracker? id remoteId = some before ∧
      (after = (before.sendPing next.clock).2 ∨
        ∀ pingId sent : Int, after.pendingPings[pingId]? = some sent → before.pendingPings[pingId]? = some sent) := by
  have same : network.tracker? id remoteId = some after → after.pendingPings = ∅ ∨
      ∃ before, network.tracker? id remoteId = some before ∧ (after = (before.sendPing next.clock).2 ∨
        ∀ pingId sent : Int, after.pendingPings[pingId]? = some sent → before.pendingPings[pingId]? = some sent) :=
    fun still => .inr ⟨after, still, .inr fun _ _ pending => pending⟩
  cases steps with
  | started other otherRemote fits fresh =>
      rw [tracker?_setTracker] at found
      split at found
      · obtain rfl := Option.some.inj found
        exact .inl rfl
      · exact same found
  | refused | ignored | answered | dropped => exact same found
  | cleared other => exact same (tracker?_setClient_empty found)
  | sent other otherRemote now tracker known fits =>
      change (network.setTracker other otherRemote (tracker.sendPing now).2).tracker? id remoteId = some after at found
      rw [tracker?_setTracker] at found
      split at found
      · rename_i here
        obtain ⟨rfl, rfl⟩ := here
        exact .inr ⟨tracker, known, .inl (Option.some.inj found).symm⟩
      · exact same found
  | updated other otherRemote now tracker known =>
      change (network.setTracker other otherRemote (tracker.update now)).tracker? id remoteId = some after at found
      rw [tracker?_setTracker] at found
      split at found
      · rename_i here
        obtain ⟨rfl, rfl⟩ := here
        obtain rfl := Option.some.inj found
        exact .inr ⟨tracker, known, .inr fun pingId sent => Pingtracker.update_pending⟩
      · exact same found
  | succeeded index flying tracker carried pong known own pending =>
      rw [tracker?_setTracker] at found
      split at found
      · rename_i here
        obtain ⟨rfl, rfl⟩ := here
        obtain rfl := Option.some.inj found
        refine .inr ⟨tracker, known, .inr fun pingId sent kept => ?_⟩
        dsimp only at kept
        rw [TreeMap.get_erase] at kept
        exact (Option.ite_none_left_eq_some.mp kept).2
      · exact same found

/-- The pings of every tracker are in order at the present time. -/
def Punctual (network : PingNetwork) : Prop :=
  ∀ (id remoteId : Int) (tracker : Pingtracker), network.tracker? id remoteId = some tracker →
    tracker.Timely network.clock

theorem Punctual.step {network next : PingNetwork} {event : Event} (punctual : network.Punctual) (sound : network.Sound)
    (forward : network.Forward event) (steps : network.Steps event next) : next.Punctual := by
  intro id remoteId after found
  have later := clock_step forward steps
  rcases pending_step steps found with empty | ⟨before, known, sends | kept⟩
  · refine ⟨fun first second firstSent secondSent earlier => ?_, fun pingId sent pending => ?_⟩
    · rw [empty, Std.ExtTreeMap.getElem?_empty] at earlier
      contradiction
    · rw [empty, Std.ExtTreeMap.getElem?_empty] at pending
      contradiction
  · rw [sends]
    exact sendPing_timely (punctual id remoteId before known) later (sound.trackers known).numbered
  · exact timely_kept (punctual id remoteId before known) later kept

section Runs

variable {events : List Event} {network : PingNetwork}

theorem reached_punctual (run : machine.Reaches Forward events network) : network.Sound ∧ network.Punctual := by
  refine run.invariant (fun network => network.Sound ∧ network.Punctual) ⟨initial_sound, ?_⟩ ?_
  · intro id remoteId tracker found
    change (∅ : Pingtrackers)[remoteId]? = some tracker at found
    rw [Std.ExtTreeMap.getElem?_empty] at found
    contradiction
  · intro network event next invariant forward steps
    exact ⟨invariant.1.step (step_steps steps), invariant.2.step invariant.1 forward (step_steps steps)⟩

theorem reaches_concat {event : Event} (run : machine.Reaches Forward (events ++ [event]) network) :
    ∃ before, machine.Reaches Forward events before ∧ before.Forward event ∧ before.step event = some network := by
  rw [Machine.reaches_iff_runWhere, Machine.runWhere_concat] at run
  obtain ⟨before, reached, steps⟩ := Option.bind_eq_some_iff.mp run
  obtain ⟨forward, same⟩ := Option.ite_none_right_eq_some.mp steps
  exact ⟨before, Machine.reaches_iff_runWhere.mpr reached, forward, same⟩

/-- The state after an update of a tracker. -/
theorem update_step {id remoteId now : Int} {tracker : Pingtracker}
    (found : network.tracker? id remoteId = some tracker) : network.step (.update id remoteId now) =
      some { network.setTracker id remoteId (tracker.update now) with clock := now } := by
  change (network.tracker? id remoteId).bind _ = _
  rw [found]
  rfl

/-- After an update a ping of the tracker is never pending for more than five seconds at the time of the update. -/
theorem expired_stays {id remoteId now : Int} (after : List Event)
    (run : machine.Reaches Forward (events ++ .update id remoteId now :: after) network) :
    now ≤ network.clock ∧ ∀ {tracker : Pingtracker}, network.tracker? id remoteId = some tracker →
      ∀ pingId sent : Int, tracker.pendingPings[pingId]? = some sent → now - sent ≤ 5000 := by
  induction after using List.reverseRecOn generalizing network with
  | nil =>
      obtain ⟨before, reached, forward, steps⟩ := reaches_concat run
      obtain ⟨tracker, found, same⟩ := Option.bind_eq_some_iff.mp steps
      obtain rfl := Option.some.inj same
      refine ⟨le_refl _, fun {updated} known pingId sent pending => ?_⟩
      change (before.setTracker id remoteId (tracker.update now)).tracker? id remoteId = some updated at known
      rw [tracker?_setTracker, if_pos ⟨rfl, rfl⟩] at known
      obtain rfl := Option.some.inj known
      have timely := (reached_punctual reached).2 id remoteId tracker found
      exact ((Pingtracker.update_timely timely pingId sent).mp pending).2
  | append_singleton after event ih =>
      rw [← List.cons_append, ← List.append_assoc] at run
      obtain ⟨before, reached, forward, steps⟩ := reaches_concat run
      obtain ⟨past, young⟩ := ih reached
      have later := le_trans past (clock_step forward (step_steps steps))
      refine ⟨later, fun {tracker} found pingId sent pending => ?_⟩
      rcases pending_step (step_steps steps) found with empty | ⟨known, held, sends | kept⟩
      · rw [empty, Std.ExtTreeMap.getElem?_empty] at pending
        contradiction
      · rw [sends] at pending
        change (known.pendingPings.insert known.currentPingId network.clock)[pingId]? = some sent at pending
        rw [TreeMap.get_insert] at pending
        split at pending
        · have now' := Option.some.inj pending
          omega
        · exact young held pingId sent pending
      · exact young held pingId sent (kept pingId sent pending)

/-- While the clock does not go back, an update takes exactly the pings that are older than five seconds as lost, and
none of them is pending later. -/
theorem pings_expire {id remoteId now : Int} {tracker : Pingtracker} (run : machine.Reaches Forward events network)
    (found : network.tracker? id remoteId = some tracker) :
    (∃ next updated, network.step (.update id remoteId now) = some next ∧
      next.tracker? id remoteId = some updated ∧
      (∀ pingId sent : Int, updated.pendingPings[pingId]? = some sent ↔
        tracker.pendingPings[pingId]? = some sent ∧ now - sent ≤ 5000) ∧
      updated.successfulPings = tracker.successfulPings ∧
      updated.lostPings + updated.pendingPings.size = tracker.lostPings + tracker.pendingPings.size) ∧
    ∀ {after : List Event} {last : PingNetwork} {later : Pingtracker},
      machine.Reaches Forward (events ++ .update id remoteId now :: after) last →
      last.tracker? id remoteId = some later →
      ∀ pingId sent : Int, later.pendingPings[pingId]? = some sent → now - sent ≤ 5000 := by
  constructor
  · have timely := (reached_punctual run).2 id remoteId tracker found
    refine ⟨_, tracker.update now, update_step found, ?_, Pingtracker.update_timely timely, ?_,
      Pingtracker.size_update⟩
    · change (network.setTracker id remoteId (tracker.update now)).tracker? id remoteId = _
      rw [tracker?_setTracker, if_pos ⟨rfl, rfl⟩]
    · unfold Pingtracker.update
      rw [Pingtracker.expire_eq]
  · intro after last later continued known
    exact (expired_stays after continued).2 known

/-- The answer to the second ping is late. -/
def silence : List Event := [.start 1 2, .start 2 1, .ping 1 2 0, .ping 1 2 20, .deliver 1, .drop 0]

theorem pings_expire_silence :
    ∃ network tracker, machine.runWhere Forward silence = some network ∧ network.tracker? 1 2 = some tracker ∧
      tracker.pendingPings.keys = [0, 1] ∧
      (∃ next updated, network.step (.update 1 2 5010) = some next ∧ next.tracker? 1 2 = some updated ∧
        (∀ pingId sent : Int, updated.pendingPings[pingId]? = some sent ↔
          tracker.pendingPings[pingId]? = some sent ∧ 5010 - sent ≤ 5000) ∧
        updated.successfulPings = tracker.successfulPings ∧
        updated.lostPings + updated.pendingPings.size = tracker.lostPings + tracker.pendingPings.size) ∧
      ∀ {after : List Event} {last : PingNetwork} {later : Pingtracker},
        machine.Reaches Forward (silence ++ .update 1 2 5010 :: after) last → last.tracker? 1 2 = some later →
        ∀ pingId sent : Int, later.pendingPings[pingId]? = some sent → 5010 - sent ≤ 5000 := by
  have told : (machine.runWhere Forward silence).map (fun network =>
      (network.tracker? 1 2).map fun tracker => tracker.pendingPings.keys) = some (some [0, 1]) := by
    decide +kernel
  obtain ⟨network, run, same⟩ := Option.map_eq_some_iff.mp told
  obtain ⟨tracker, found, pending⟩ := Option.map_eq_some_iff.mp same
  exact ⟨network, tracker, run, found, pending, pings_expire (Machine.reaches_iff_runWhere.mpr run) found⟩

end Runs
end PingNetwork
end Faf
