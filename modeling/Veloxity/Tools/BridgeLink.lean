import Mathlib.Logic.Function.Basic
import Veloxity.Library.Run
import Veloxity.Tools.Bridge
import Veloxity.Tools.FramePackerLaws

/-! Two radio bridges, the air between them and the ports they serve, in any order of events. -/

namespace Veloxity

open Library

/-- A frame packer at work that stays in bounds and waits for more bytes. -/
structure WaitingPacker (config : BridgeConfig) where
  packing : Packing
  sound : packing.Sound
  waits : packing.scan.step (Bridge.enqueueAccepts config) = none

namespace WaitingPacker

variable {config : BridgeConfig}

/-- The packer of a bridge that has just been started. -/
def start : WaitingPacker config where
  packing := .start config.payloadMax
  sound := Packing.start_sound _
  waits := rfl

/-- Give the packer some bytes, after which it waits again. -/
def push (packer : WaitingPacker config) (bytes : List UInt8) : WaitingPacker config :=
  match pushed : packer.packing.push (Bridge.enqueueAccepts config) bytes with
  | .ok packing =>
    { packing
      sound := by
        obtain ⟨last, accepted, _, sound⟩ := Packing.push_spec _ packer.sound packer.waits bytes
        obtain rfl := Except.ok.inj (pushed.symm.trans accepted)
        exact sound
      waits := by
        obtain ⟨last, accepted, settled, _⟩ := Packing.push_spec _ packer.sound packer.waits bytes
        obtain rfl := Except.ok.inj (pushed.symm.trans accepted)
        exact settled.2 }
  | .error fault => False.elim (by
      -- The packer never leaves its buffers and its loops end.
      obtain ⟨last, accepted, _⟩ := Packing.push_spec _ packer.sound packer.waits bytes
      cases pushed.symm.trans accepted)

/-- Handing out the packet does not change what the packer waits for. -/
theorem waits_sent {scan : PackerScan} {emit : List UInt8 → Bool} (waits : scan.step emit = none) :
    (scan.sent emit).step emit = none := by
  -- What the scan does next depends on the bytes received, which stay.
  cases stepped : (scan.sent emit).step emit with
  | none => rfl
  | some next =>
    rcases PackerScan.step_cases stepped with
      ⟨first, rest, received, noise, _⟩ |
        ⟨second, rest, received, ⟨header, oversized, _⟩ | ⟨fits, whole, _⟩⟩
    · have same : scan.packer.rx = first :: rest := received
      cases waits.symm.trans (PackerScan.step_noise same noise)
    · have same : scan.packer.rx = mavlinkV1Stx :: second :: rest := received
      cases waits.symm.trans (PackerScan.step_oversized same header oversized)
    · have same : scan.packer.rx = mavlinkV1Stx :: second :: rest := received
      cases waits.symm.trans (PackerScan.step_frame same fits whole)

/-- A packing that is flushed hands out its packet, or has none. -/
theorem scan_flush (packing : Packing) (sound : packing.Sound) (emit : List UInt8 → Bool) :
    (packing.flush emit).Sound ∧
      ((packing.packer.packet = [] ∧ (packing.flush emit).scan = packing.scan) ∨
        (packing.flush emit).scan = packing.scan.sent emit) := by
  -- An empty packet is not handed out.
  by_cases empty : packing.packer.packet.length = 0
  · have same : packing.flush emit = packing := by rw [Packing.flush, if_pos empty]
    rw [same]
    exact ⟨sound, .inl ⟨List.eq_nil_of_length_eq_zero empty, rfl⟩⟩
  · obtain ⟨shown, kept⟩ := Packing.flush_spec emit sound (Nat.pos_of_ne_zero empty)
    exact ⟨kept, .inr shown⟩

/-- Hand out the packet being filled. -/
def flush (packer : WaitingPacker config) : WaitingPacker config where
  packing := packer.packing.flush (Bridge.enqueueAccepts config)
  sound := (scan_flush _ packer.sound _).1
  waits := by
    rcases (scan_flush _ packer.sound (Bridge.enqueueAccepts config)).2 with ⟨_, same⟩ | sent
    · rw [same]
      exact packer.waits
    · rw [sent]
      exact waits_sent packer.waits

end WaitingPacker

/-- A bridge with the tasks at its local port: its packer, the packets it has yet to queue, and a
record of the bytes read from the port and of those written to it. -/
structure BridgeStation (config : BridgeConfig) where
  bridge : Bridge config
  packer : WaitingPacker config
  pending : List (List UInt8)
  read : List UInt8
  written : List (List UInt8)

/-- The two bridges, what is on the air from each, and how many of the packets of each were lost. -/
structure RadioLink (config : BridgeConfig) where
  station : BridgeRole → BridgeStation config
  air : BridgeRole → List RadioFrame
  lost : BridgeRole → Nat

/-- What can happen at one of the bridges or on the air. -/
inductive LinkEvent where
  /-- Bytes are read from the local port. -/
  | localRead (role : BridgeRole) (bytes : List UInt8)
  /-- The local port has no bytes. -/
  | localIdle (role : BridgeRole)
  /-- The next packet of the packer is queued for the air. -/
  | queueFrame (role : BridgeRole)
  /-- The next queued packet is sent. -/
  | sendNext (role : BridgeRole) (answers : RadioAnswers)
  /-- The radio reports on a packet. -/
  | sendReport (role : BridgeRole) (success : Bool)
  /-- The oldest packet on the air from a bridge arrives at the other. -/
  | arrive (role : BridgeRole)
  /-- The oldest packet on the air from a bridge is lost. -/
  | vanish (role : BridgeRole)
  /-- A packet of another station arrives. -/
  | foreign (role : BridgeRole) (source : MacAddress) (data : List UInt8)
  /-- The next packet received is written to the local port, which takes some of it. -/
  | localWrite (role : BridgeRole) (writable : Nat)

namespace RadioLink

variable {config : BridgeConfig} (crc16Le : UInt16 → List UInt8 → UInt16)
  (macs : BridgeRole → MacAddress)

/-- Two bridges that have just been started, with the peers of their build options. -/
def start (peerMacs : BridgeRole → MacAddress) : RadioLink config where
  station role := ⟨.start (peerMacs role), .start, [], [], []⟩
  air _ := []
  lost _ := 0

/-- Replace one of the bridges. -/
def setStation (link : RadioLink config) (role : BridgeRole) (station : BridgeStation config) :
    RadioLink config :=
  { link with station := Function.update link.station role station }

/-- Replace the state of one of the bridges. -/
def setBridge (link : RadioLink config) (role : BridgeRole) (bridge : Bridge config) :
    RadioLink config :=
  link.setStation role { link.station role with bridge }

/-- Replace what is on the air from one of the bridges. -/
def setAir (link : RadioLink config) (role : BridgeRole) (frames : List RadioFrame) :
    RadioLink config :=
  { link with air := Function.update link.air role frames }

/-- More packets of one of the bridges are lost. -/
def lose (link : RadioLink config) (role : BridgeRole) (packets : Nat) : RadioLink config :=
  { link with lost := Function.update link.lost role (link.lost role + packets) }

/-- What an event does; the task at the local port takes no bytes before its packets are queued. -/
def step (link : RadioLink config) : LinkEvent → RadioLink config
  | .localRead role bytes =>
    let station := link.station role
    if bytes = [] ∨ station.pending ≠ [] then link
    else
      let packer := station.packer.push bytes
      link.setStation role { station with
        bridge := (station.bridge.count fun counters => { counters with
          localRxBytes := counters.localRxBytes + UInt32.ofNat bytes.length }).copyPackerCounts
            packer.packing.packer
        packer
        pending := packer.packing.emitted.drop station.packer.packing.emitted.length
        read := station.read ++ bytes }
  | .localIdle role =>
    let station := link.station role
    if station.pending ≠ [] then link
    else
      let packer := station.packer.flush
      link.setStation role { station with
        bridge := station.bridge.copyPackerCounts packer.packing.packer
        packer
        pending := packer.packing.emitted.drop station.packer.packing.emitted.length }
  | .queueFrame role =>
    let station := link.station role
    match station.pending with
    | [] => link
    | packet :: pending =>
      let (bridge, _) := station.bridge.enqueueLocalFrame packet
      (link.setStation role { station with bridge, pending }).lose role
        (station.bridge.outbound.items.length + 1 - bridge.outbound.items.length)
  | .sendNext role answers =>
    let before := (link.station role).bridge
    let (bridge, frame) := before.espnowTxTask crc16Le role answers
    ((link.setBridge role bridge).setAir role (link.air role ++ frame.toList)).lose role
      (before.outbound.items.length - (bridge.outbound.items.length + frame.toList.length))
  | .sendReport role success =>
    link.setBridge role ((link.station role).bridge.sendCb success)
  | .arrive role =>
    match link.air role with
    | [] => link
    | frame :: rest =>
      let before := (link.station role.peer).bridge
      let bridge :=
        if frame.target = broadcastMac ∨ frame.target = macs role.peer then
          before.recvCb crc16Le role.peer (macs role) frame.data
        else before
      ((link.setBridge role.peer bridge).setAir role rest).lose role
        (before.inbound.items.length + 1 - bridge.inbound.items.length)
  | .vanish role =>
    match link.air role with
    | [] => link
    | _ :: rest => (link.setAir role rest).lose role 1
  | .foreign role source data =>
    link.setBridge role ((link.station role).bridge.recvCb crc16Le role source data)
  | .localWrite role writable =>
    let station := link.station role
    let (bridge, bytes, whole) := station.bridge.localTxTask writable
    (link.setStation role { station with
      bridge
      written := if bytes = [] then station.written else station.written ++ [bytes] }).lose
        role.peer (if whole then 0 else 1)

/-- What is asked of the surroundings: a local port takes a packet whole or not at all, and other
stations are heard only by a bridge that knows its peer, and not under the peer's address. -/
def Orderly (link : RadioLink config) : LinkEvent → Prop
  | .foreign role source _ =>
    (link.station role).bridge.peer.learned = true ∧ source ≠ macs role.peer
  | .localWrite role writable =>
    ∀ item ∈ (link.station role).bridge.inbound.items.head?, writable = 0 ∨ item.length ≤ writable
  | _ => True

section Access

variable (link : RadioLink config) (role : BridgeRole)

@[simp] theorem setStation_station (station : BridgeStation config) :
    (link.setStation role station).station = Function.update link.station role station := rfl

@[simp] theorem setStation_air (station : BridgeStation config) :
    (link.setStation role station).air = link.air := rfl

@[simp] theorem setStation_lost (station : BridgeStation config) :
    (link.setStation role station).lost = link.lost := rfl

@[simp] theorem setAir_station (frames : List RadioFrame) :
    (link.setAir role frames).station = link.station := rfl

@[simp] theorem setAir_air (frames : List RadioFrame) :
    (link.setAir role frames).air = Function.update link.air role frames := rfl

@[simp] theorem setAir_lost (frames : List RadioFrame) :
    (link.setAir role frames).lost = link.lost := rfl

@[simp] theorem lose_station (packets : Nat) :
    (link.lose role packets).station = link.station := rfl

@[simp] theorem lose_air (packets : Nat) : (link.lose role packets).air = link.air := rfl

@[simp] theorem lose_lost (packets : Nat) :
    (link.lose role packets).lost =
      Function.update link.lost role (link.lost role + packets) := rfl

end Access

end RadioLink

end Veloxity
