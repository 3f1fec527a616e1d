import FafIceAdapter.Json.Value
import FafIceAdapter.Library.TreeMap
import Mathlib.Data.List.TakeWhile

namespace Faf

/-- The padding of a packet is not read. -/
structure PingPacket where
  type : BitVec 32
  senderId : BitVec 32
  answererId : BitVec 32
  pingId : BitVec 32
  deriving DecidableEq

namespace PingPacket

def PING : BitVec 32 := 0x01ce
def PONG : BitVec 32 := 0x1ce0

end PingPacket

/-- The times are milliseconds. The average of the round trips is a float, and no decision depends on it. -/
structure Pingtracker where
  localPeerId : Int
  remotePeerId : Int
  pendingPings : Std.ExtTreeMap Int Int
  lostPings : Nat
  successfulPings : Nat
  currentPingId : Int

namespace Pingtracker

def create (localPeerId remotePeerId : Int) : Pingtracker := ⟨localPeerId, remotePeerId, ∅, 0, 0, 0⟩

def sendPing (now : Int) (tracker : Pingtracker) : PingPacket × Pingtracker :=
  (⟨PingPacket.PING, .ofInt 32 tracker.localPeerId, .ofInt 32 tracker.remotePeerId, .ofInt 32 tracker.currentPingId⟩,
    { tracker with
      pendingPings := tracker.pendingPings.insert tracker.currentPingId now
      currentPingId := tracker.currentPingId + 1 })

/-- The loop takes the first pending ping until one is young. -/
def expire (currentTime : Int) : List (Int × Int) → Pingtracker → Pingtracker
  | [], tracker => tracker
  | (pingId, sent) :: later, tracker =>
      if currentTime - sent > 5000 then
        expire currentTime later { tracker with
          pendingPings := tracker.pendingPings.erase pingId
          lostPings := tracker.lostPings + 1 }
      else tracker

def update (currentTime : Int) (tracker : Pingtracker) : Pingtracker :=
  tracker.expire currentTime tracker.pendingPings.toList

/-- A ping is answered by a packet for the peer of the tracker. -/
def onPingPacket (packet : PingPacket) (tracker : Pingtracker) : Option PingPacket × Pingtracker :=
  if packet.type = PingPacket.PING then
    if packet.answererId ≠ .ofInt 32 tracker.localPeerId then (none, tracker)
    else (some { packet with type := PingPacket.PONG }, tracker)
  else if packet.type = PingPacket.PONG then
    if packet.senderId ≠ .ofInt 32 tracker.localPeerId then (none, tracker)
    else if packet.pingId.toInt ∈ tracker.pendingPings then
      (none, { tracker with
        pendingPings := tracker.pendingPings.erase packet.pingId.toInt
        successfulPings := tracker.successfulPings + 1 })
    else (none, tracker)
  else (none, tracker)

section Expiring

variable {currentTime : Int} {tracker : Pingtracker}

/-- What the loop takes is lost, and the rest is kept. -/
theorem expire_eq (pings : List (Int × Int)) (tracker : Pingtracker) :
    expire currentTime pings tracker = { tracker with
      pendingPings := ((pings.takeWhile fun ping => decide (currentTime - ping.2 > 5000)).map Prod.fst).foldl
        (fun pending pingId => pending.erase pingId) tracker.pendingPings
      lostPings := tracker.lostPings +
        (pings.takeWhile fun ping => decide (currentTime - ping.2 > 5000)).length } := by
  induction pings generalizing tracker with
  | nil => rfl
  | cons ping later ih =>
      obtain ⟨pingId, sent⟩ := ping
      unfold expire
      by_cases old : currentTime - sent > 5000
      · rw [if_pos old, ih, List.takeWhile_cons, if_pos (decide_eq_true old), List.length_cons, List.map_cons,
          List.foldl_cons, Nat.add_right_comm tracker.lostPings 1, Nat.add_assoc]
      · rw [if_neg old, List.takeWhile_cons, if_neg (by simpa using old)]
        rfl

theorem getElem?_foldl_erase (pingIds : List Int) (pending : Std.ExtTreeMap Int Int) (pingId : Int) :
    (pingIds.foldl (fun pending pingId => pending.erase pingId) pending)[pingId]? =
      if pingId ∈ pingIds then none else pending[pingId]? := by
  induction pingIds generalizing pending with
  | nil => rfl
  | cons first later ih =>
      rw [List.foldl_cons, ih, TreeMap.get_erase]
      by_cases same : first = pingId
      · simp [same]
      · simp [same, Ne.symm same]

theorem size_foldl_erase {pingIds : List Int} (distinct : pingIds.Nodup) {pending : Std.ExtTreeMap Int Int}
    (present : ∀ pingId ∈ pingIds, pingId ∈ pending) :
    (pingIds.foldl (fun pending pingId => pending.erase pingId) pending).size + pingIds.length = pending.size := by
  induction pingIds generalizing pending with
  | nil => rfl
  | cons first later ih =>
      obtain ⟨fresh, rest⟩ := List.nodup_cons.mp distinct
      have here := present first List.mem_cons_self
      have still : ∀ pingId ∈ later, pingId ∈ pending.erase first := by
        intro pingId member
        rw [Std.ExtTreeMap.mem_erase]
        refine ⟨fun same => ?_, present pingId (List.mem_cons_of_mem first member)⟩
        exact fresh (compare_eq_iff_eq.mp same ▸ member)
      have smaller := ih rest still
      have one := TreeMap.size_erase_of_mem here
      rw [List.foldl_cons, List.length_cons]
      omega

theorem nodup_keys (pending : Std.ExtTreeMap Int Int) : (pending.toList.map Prod.fst).Nodup := by
  rw [Std.ExtTreeMap.map_fst_toList_eq_keys]
  exact Std.ExtTreeMap.nodup_keys

/-- Every ping that is not pending any more is lost. -/
theorem size_update : (tracker.update currentTime).lostPings + (tracker.update currentTime).pendingPings.size =
    tracker.lostPings + tracker.pendingPings.size := by
  have part := @List.takeWhile_sublist _ tracker.pendingPings.toList fun ping =>
    decide (currentTime - ping.2 > 5000)
  have sized := size_foldl_erase ((nodup_keys tracker.pendingPings).sublist (part.map Prod.fst))
    fun pingId member => by
      obtain ⟨⟨id, sent⟩, within, rfl⟩ := List.mem_map.mp member
      exact TreeMap.mem_iff.mpr
        ⟨sent, Std.ExtTreeMap.mem_toList_iff_getElem?_eq_some.mp (part.subset within)⟩
  rw [List.length_map] at sized
  unfold update
  rw [expire_eq]
  dsimp only
  omega

/-- No ping becomes pending. -/
theorem update_pending {pingId sent : Int} (pending : (tracker.update currentTime).pendingPings[pingId]? = some sent) :
    tracker.pendingPings[pingId]? = some sent := by
  unfold update at pending
  rw [expire_eq] at pending
  change (List.foldl _ tracker.pendingPings _)[pingId]? = some sent at pending
  rw [getElem?_foldl_erase] at pending
  exact (Option.ite_none_left_eq_some.mp pending).2

/-- The pings are sent in the order of their numbers, and none in the future. -/
structure Timely (tracker : Pingtracker) (clock : Int) : Prop where
  ordered : ∀ first second firstSent secondSent : Int, tracker.pendingPings[first]? = some firstSent →
    tracker.pendingPings[second]? = some secondSent → first ≤ second → firstSent ≤ secondSent
  past : ∀ pingId sent : Int, tracker.pendingPings[pingId]? = some sent → sent ≤ clock

/-- The loop stops too early for no ping. -/
theorem update_timely {clock : Int} (timely : tracker.Timely clock) (pingId sent : Int) :
    (tracker.update currentTime).pendingPings[pingId]? = some sent ↔
      tracker.pendingPings[pingId]? = some sent ∧ currentTime - sent ≤ 5000 := by
  let old : Int × Int → Bool := fun ping => decide (currentTime - ping.2 > 5000)
  have split := @List.takeWhile_append_dropWhile _ old tracker.pendingPings.toList
  have updated : (tracker.update currentTime).pendingPings[pingId]? =
      if pingId ∈ (tracker.pendingPings.toList.takeWhile old).map Prod.fst then none
      else tracker.pendingPings[pingId]? := by
    unfold update
    rw [expire_eq]
    exact getElem?_foldl_erase _ _ _
  rw [updated]
  constructor
  · intro kept
    obtain ⟨outside, pending⟩ := Option.ite_none_left_eq_some.mp kept
    refine ⟨pending, ?_⟩
    have member := Std.ExtTreeMap.mem_toList_iff_getElem?_eq_some.mpr pending
    rw [← split] at member
    rcases List.mem_append.mp member with taken | rest
    · exact absurd (List.mem_map.mpr ⟨_, taken, rfl⟩) outside
    · cases kept : tracker.pendingPings.toList.dropWhile old with
      | nil => rw [kept] at rest; contradiction
      | cons first later =>
          have young : old first = false := by
            have head := @List.head_dropWhile_not _ old tracker.pendingPings.toList (by rw [kept]; simp)
            simpa only [kept, List.head_cons] using head
          have sorted := @Std.ExtTreeMap.ordered_keys_toList _ _ _ tracker.pendingPings _
          rw [← split, kept, List.pairwise_append] at sorted
          have before : first.1 ≤ pingId := by
            rw [kept] at rest
            rcases List.mem_cons.mp rest with same | after
            · rw [← same]
            · exact le_of_lt (compare_lt_iff_lt.mp ((List.pairwise_cons.mp sorted.2.1).1 _ after))
          have found : tracker.pendingPings[first.1]? = some first.2 := by
            apply Std.ExtTreeMap.mem_toList_iff_getElem?_eq_some.mp
            rw [← split, kept]
            exact List.mem_append_right _ List.mem_cons_self
          have earlier := timely.ordered first.1 pingId first.2 sent found pending before
          have recent := of_decide_eq_false young
          omega
  · intro young
    obtain ⟨pending, recent⟩ := young
    rw [if_neg, pending]
    intro taken
    obtain ⟨⟨id, moment⟩, within, rfl⟩ := List.mem_map.mp taken
    have found := Std.ExtTreeMap.mem_toList_iff_getElem?_eq_some.mp ((List.takeWhile_subset _) within)
    have late : old (id, moment) = true := List.mem_takeWhile_imp within
    have past := of_decide_eq_true late
    rw [found] at pending
    obtain rfl := Option.some.inj pending
    omega

end Expiring
end Pingtracker
end Faf
