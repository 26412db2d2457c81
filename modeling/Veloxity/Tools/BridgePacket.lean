import Veloxity.Library.ByteImage

/-! Packets of the radio bridge: what is written for the air, and what is taken from it. -/

namespace Veloxity

open Library

/-- The end of the radio link a bridge stands at. -/
inductive BridgeRole where
  | ground
  | air
  deriving DecidableEq, Repr

namespace BridgeRole

/-- The number that stands for a role in a packet. -/
def code : BridgeRole → UInt8
  | ground => 1
  | air => 2

/-- The role at the other end. -/
def peer : BridgeRole → BridgeRole
  | ground => air
  | air => ground

@[simp] theorem peer_peer (role : BridgeRole) : role.peer.peer = role := by
  cases role <;> rfl

@[simp] theorem peer_ne (role : BridgeRole) : role.peer ≠ role := by
  cases role <;> decide

end BridgeRole

/-- The mark at the front of every packet. -/
def bridgeMagic : UInt32 := 0x56555832

/-- The version of the packet format. -/
def bridgeVersion : UInt8 := 2

/-- The flags of a packet, of which there are none. -/
def bridgeFlagNone : UInt8 := 0

/-- The bytes of a packet before its payload. -/
def bridgePacketHeaderLen : Nat := 13

/-- The bytes of a packet with a payload of the given length. -/
def packetLenForPayload (payloadLen : Nat) : Nat := bridgePacketHeaderLen + payloadLen

/-- How a bridge is built; the bounds are those of its build options. -/
structure BridgeConfig where
  payloadMax : Nat
  queueDepth : Nat
  autoLearn : Bool
  some_payload : 1 ≤ payloadMax
  payload_fits : payloadMax ≤ 237
  some_depth : 4 ≤ queueDepth
  depth_fits : queueDepth ≤ 256

/-- The fields of a packet, of whose payload only the bytes that are sent are kept. -/
structure BridgePacket where
  magic : UInt32
  seq : UInt16
  len : UInt16
  crc : UInt16
  version : UInt8
  role : UInt8
  flags : UInt8
  payload : List UInt8
  deriving DecidableEq, Repr

/-- Why a received packet is not taken. -/
inductive BridgeRefusal where
  /-- It is shorter than a header, which is not counted. -/
  | short
  /-- A field or its length is not as it should be. -/
  | malformed
  /-- Its checksum is wrong. -/
  | badCrc
  deriving DecidableEq, Repr

namespace BridgePacket

/-- The header as the packed structure lies in memory, low bytes first. -/
def header (packet : BridgePacket) : List UInt8 :=
  toLeBytes 4 packet.magic.toNat ++ toLeBytes 2 packet.seq.toNat ++
    toLeBytes 2 packet.len.toNat ++ toLeBytes 2 packet.crc.toNat ++
    [packet.version, packet.role, packet.flags]

/-- The bytes of a packet on the air. -/
def bytes (packet : BridgePacket) : List UInt8 := packet.header ++ packet.payload

/-- Received bytes copied over a packet. -/
def ofBytes (data : List UInt8) : BridgePacket where
  magic := UInt32.ofNat (fromLeBytes (data.take 4))
  seq := UInt16.ofNat (fromLeBytes ((data.drop 4).take 2))
  len := UInt16.ofNat (fromLeBytes ((data.drop 6).take 2))
  crc := UInt16.ofNat (fromLeBytes ((data.drop 8).take 2))
  version := data.getD 10 0
  role := data.getD 11 0
  flags := data.getD 12 0
  payload := data.drop bridgePacketHeaderLen

@[simp] theorem length_header (packet : BridgePacket) :
    packet.header.length = bridgePacketHeaderLen := by
  simp [header, bridgePacketHeaderLen]

@[simp] theorem length_bytes (packet : BridgePacket) :
    packet.bytes.length = packetLenForPayload packet.payload.length := by
  simp [bytes, packetLenForPayload]

/-- Two bytes spell the number they were made of. -/
theorem fromLeBytes_two (value : UInt16) :
    UInt16.ofNat (fromLeBytes (toLeBytes 2 value.toNat)) = value := by
  -- The number is below the range of two bytes.
  rw [fromLeBytes_toLeBytes, Nat.mod_eq_of_lt (by have := value.toNat_lt; omega)]
  exact UInt16.ofNat_toNat

/-- Four bytes spell the number they were made of. -/
theorem fromLeBytes_four (value : UInt32) :
    UInt32.ofNat (fromLeBytes (toLeBytes 4 value.toNat)) = value := by
  rw [fromLeBytes_toLeBytes, Nat.mod_eq_of_lt (by have := value.toNat_lt; omega)]
  exact UInt32.ofNat_toNat

/-- A packet reads back from its bytes. -/
theorem ofBytes_bytes (packet : BridgePacket) : ofBytes packet.bytes = packet := by
  obtain ⟨magic, seq, len, crc, version, role, flags, payload⟩ := packet
  -- Every field is spelled by the bytes at its own place.
  have magic_eq := fromLeBytes_four magic
  have seq_eq := fromLeBytes_two seq
  have len_eq := fromLeBytes_two len
  have crc_eq := fromLeBytes_two crc
  simp only [toLeBytes] at magic_eq seq_eq len_eq crc_eq
  simp only [ofBytes, bytes, header, toLeBytes, List.cons_append, List.nil_append,
    List.drop_succ_cons, List.drop_zero, List.take_succ_cons, List.take_zero,
    List.getD_cons_succ, List.getD_cons_zero, bridgePacketHeaderLen]
  rw [magic_eq, seq_eq, len_eq, crc_eq]

/-- The low bytes of the number some bytes spell are these bytes. -/
theorem toLeBytes_fromLeBytes (data : List UInt8) :
    toLeBytes data.length (fromLeBytes data) = data := by
  -- Both spell the same number with as many bytes.
  refine fromLeBytes_injective (by simp) ?_
  rw [fromLeBytes_toLeBytes]
  refine Nat.mod_eq_of_lt ?_
  induction data with
  | nil => simp [fromLeBytes]
  | cons byte rest ih =>
    have small := byte.toNat_lt
    rw [fromLeBytes, List.length_cons, Nat.pow_succ]
    omega

/-- Received bytes that hold a header are those of the packet read from them. -/
theorem bytes_ofBytes {data : List UInt8} (held : bridgePacketHeaderLen ≤ data.length) :
    (ofBytes data).bytes = data := by
  -- A header is thirteen bytes, each of which belongs to one field.
  match data, held with
  | b0 :: b1 :: b2 :: b3 :: b4 :: b5 :: b6 :: b7 :: b8 :: b9 :: b10 :: b11 :: b12 :: rest, _ =>
    have magic := toLeBytes_fromLeBytes [b0, b1, b2, b3]
    have seq := toLeBytes_fromLeBytes [b4, b5]
    have len := toLeBytes_fromLeBytes [b6, b7]
    have crc := toLeBytes_fromLeBytes [b8, b9]
    have magic_lt : fromLeBytes [b0, b1, b2, b3] < 4294967296 := by
      have := b0.toNat_lt; have := b1.toNat_lt; have := b2.toNat_lt; have := b3.toNat_lt
      simp only [fromLeBytes]
      omega
    have pair_lt (low high : UInt8) : fromLeBytes [low, high] < 65536 := by
      have := low.toNat_lt; have := high.toNat_lt
      simp only [fromLeBytes]
      omega
    simp only [List.length_cons, List.length_nil, Nat.zero_add, Nat.reduceAdd] at magic seq len crc
    simp only [ofBytes, bytes, header, List.take_succ_cons, List.take_zero, List.drop_succ_cons,
      List.drop_zero, List.getD_cons_succ, List.getD_cons_zero, bridgePacketHeaderLen,
      UInt32.toNat_ofNat', UInt16.toNat_ofNat', Nat.mod_eq_of_lt magic_lt,
      Nat.mod_eq_of_lt (pair_lt _ _), magic, seq, len, crc]
    rfl

section Checksum

variable (crc16Le : UInt16 → List UInt8 → UInt16)

/-- The checksum over the bytes of a packet, its own field taken as zero. -/
def packetCrc (packet : BridgePacket) (packetLen : Nat) : UInt16 :=
  crc16Le 0xffff (({ packet with crc := 0 } : BridgePacket).bytes.take packetLen)

/-- The packet a bridge builds around a payload. -/
def build (role : BridgeRole) (seq : UInt16) (payload : List UInt8) : BridgePacket :=
  let packet : BridgePacket := {
    magic := bridgeMagic
    seq
    len := UInt16.ofNat payload.length
    crc := 0
    version := bridgeVersion
    role := role.code
    flags := bridgeFlagNone
    payload }
  { packet with crc := packet.packetCrc crc16Le (packetLenForPayload payload.length) }

/-- What a bridge checks of received bytes before it looks at where they come from. -/
def inspect (config : BridgeConfig) (role : BridgeRole) (data : List UInt8) :
    Except BridgeRefusal BridgePacket :=
  if data.length < bridgePacketHeaderLen then .error .short
  else if packetLenForPayload config.payloadMax < data.length then .error .malformed
  else
    let packet := ofBytes data
    let expectedLen := packetLenForPayload packet.len.toNat
    if packet.magic ≠ bridgeMagic ∨ packet.version ≠ bridgeVersion ∨
        packet.role ≠ role.peer.code ∨ packet.flags ≠ bridgeFlagNone ∨
        config.payloadMax < packet.len.toNat ∨ data.length ≠ expectedLen then
      .error .malformed
    else if packet.packetCrc crc16Le expectedLen ≠ packet.crc then .error .badCrc
    else .ok packet

variable {crc16Le} {config : BridgeConfig} {role : BridgeRole}

/-- The checksum of a built packet is right. -/
theorem packetCrc_build (seq : UInt16) (payload : List UInt8) :
    (build crc16Le role seq payload).packetCrc crc16Le (packetLenForPayload payload.length) =
      (build crc16Le role seq payload).crc := rfl

/-- The length field of a payload that fits tells its length. -/
theorem toNat_len {payload : List UInt8} (fits : payload.length ≤ config.payloadMax) :
    (UInt16.ofNat payload.length).toNat = payload.length := by
  have bounded := config.payload_fits
  rw [UInt16.toNat_ofNat', Nat.mod_eq_of_lt (by omega)]

/-- What a bridge builds around a payload that fits is taken at the other end. -/
theorem inspect_build {payload : List UInt8} (fits : payload.length ≤ config.payloadMax)
    (seq : UInt16) :
    inspect crc16Le config role (build crc16Le role.peer seq payload).bytes =
      .ok (build crc16Le role.peer seq payload) := by
  -- Every check reads back a field as it was set.
  have length : (build crc16Le role.peer seq payload).bytes.length =
      packetLenForPayload payload.length := length_bytes _
  have len : (build crc16Le role.peer seq payload).len.toNat = payload.length := toNat_len fits
  have header : ¬ packetLenForPayload payload.length < bridgePacketHeaderLen := by
    simp [packetLenForPayload]
  have whole : ¬ packetLenForPayload config.payloadMax < packetLenForPayload payload.length := by
    simp only [packetLenForPayload]
    omega
  simp only [inspect, ofBytes_bytes, length, len, if_neg header, if_neg whole]
  rw [if_neg, packetCrc_build, if_neg (by simp)]
  have within : ¬ config.payloadMax < payload.length := by omega
  simp [build, within]

/-- A bridge takes exactly the bytes that the other end builds around payloads that fit. -/
theorem inspect_eq_ok_iff {data : List UInt8} {packet : BridgePacket} :
    inspect crc16Le config role data = .ok packet ↔
      ∃ seq payload, payload.length ≤ config.payloadMax ∧
        packet = build crc16Le role.peer seq payload ∧ data = packet.bytes := by
  constructor
  · intro taken
    -- Each check fixes one field, and the checksum fixes its own.
    simp only [inspect] at taken
    split at taken
    · cases taken
    · rename_i held
      split at taken
      · cases taken
      · split at taken
        · cases taken
        · rename_i fields
          split at taken
          · cases taken
          · rename_i right
            have same : ofBytes data = packet := by simpa using taken
            have whole : packet.bytes = data := by
              rw [← same]
              exact bytes_ofBytes (by omega)
            rw [same] at fields right
            simp only [not_or, not_not, Nat.not_lt] at fields
            obtain ⟨magic, version, sender, flags, fits, length⟩ := fields
            -- The length of the data fixes that of the payload.
            have payload_length : packet.payload.length = packet.len.toNat := by
              rw [← whole, length_bytes, packetLenForPayload, packetLenForPayload] at length
              omega
            refine ⟨packet.seq, packet.payload, by omega, ?_, whole.symm⟩
            have right := not_not.mp right
            rw [← payload_length] at right
            have len_eq : UInt16.ofNat packet.payload.length = packet.len := by
              rw [payload_length, UInt16.ofNat_toNat]
            obtain ⟨_, seq, len, crc, _, _, _, payload⟩ := packet
            simp only at magic version sender flags len_eq
            subst magic version sender flags
            simp only [build, len_eq, BridgePacket.mk.injEq, true_and, and_true]
            exact right.symm
  · rintro ⟨seq, payload, fits, rfl, rfl⟩
    exact inspect_build fits seq

end Checksum

end BridgePacket

end Veloxity
