import PacketSteering.Pattern

/-!
# Filter rules

What a filter compares, in terms of the protocol layers or as raw bytes, and the pattern that a
card compares for it.
-/

namespace PacketSteering

/-!
## Protocol layers

The headers that a filter can compare, field by field. A capture record starts with two bytes of
padding before an Ethernet header; a packet over SONET starts with its HDLC word.
-/

/-- The fields of an Ethernet header. -/
structure EtherFields where
  dst : Masked Mac
  src : Masked Mac
  etherType : Masked UInt16
  deriving DecidableEq

/-- An Ethernet header of which nothing is compared. -/
def EtherFields.ignored : EtherFields :=
  ⟨Masked.ignored, Masked.ignored, Masked.ignored⟩

/-- The encapsulation of a packet and what is compared of it. -/
inductive Layer2
  | ethernet (fields : EtherFields)
  | ethernetVlan (fields : EtherFields) (vlanId : Masked UInt16)
  /-- Packet over SONET, described by its 32-bit HDLC header. -/
  | pos (header : Masked UInt32)
  deriving DecidableEq

/-- The choices of encapsulation. -/
inductive Layer2Kind
  | ethernet
  | ethernetVlan
  | pos
  deriving DecidableEq

namespace Layer2

/-- Which encapsulation this is. -/
def kind : Layer2 → Layer2Kind
  | ethernet _ => .ethernet
  | ethernetVlan _ _ => .ethernetVlan
  | pos _ => .pos

/-- The offset of the network header within a capture record. -/
def networkOffset : Layer2 → Nat
  | ethernet _ => 16
  | ethernetVlan _ _ => 20
  | pos _ => 4

/-- The Ethernet fields, where there are any. -/
def ether? : Layer2 → Option EtherFields
  | ethernet fields => some fields
  | ethernetVlan fields _ => some fields
  | pos _ => none

/-- The encapsulation of another kind with the given Ethernet fields and nothing else compared. -/
def ofKind (fields : EtherFields) : Layer2Kind → Layer2
  | .ethernet => ethernet fields
  | .ethernetVlan => ethernetVlan fields Masked.ignored
  | .pos => pos Masked.ignored

end Layer2

/-- The largest VLAN identifier, and the mask of the bits an identifier has. -/
def vlanIdMax : UInt16 := 0x0FFF

/-- The bits of the first byte of a network header that hold the header length. -/
def ihlMask : UInt8 := 0x0F

/-- The fields of an IPv4 header. -/
structure Ipv4Fields where
  protocol : Masked UInt8
  src : Masked Ipv4
  dst : Masked Ipv4
  /-- The header length in 32-bit words. -/
  ihl : Masked UInt8
  /-- Whether only unfragmented packets match. -/
  rejectFragments : Bool
  deriving DecidableEq

/-- An IPv4 header of which nothing is compared. -/
def Ipv4Fields.ignored : Ipv4Fields :=
  ⟨Masked.ignored, Masked.ignored, Masked.ignored, Masked.ignored, false⟩

/-- The offset of the transport header from the start of the network header. The header length is
trusted only when it is compared in full; otherwise a header without options is assumed. -/
def Ipv4Fields.transportOffset (ip : Ipv4Fields) : Nat :=
  if ip.ihl.mask = ihlMask then ip.ihl.value.toNat * 4 else 20

/-- The network protocol and what is compared of it. -/
inductive Layer3
  | none
  | ipv4 (fields : Ipv4Fields)
  deriving DecidableEq

/-- The choices of network protocol. -/
inductive Layer3Kind
  | none
  | ipv4
  deriving DecidableEq

/-- The ports of a transport header. -/
structure PortFields where
  src : Masked UInt16
  dst : Masked UInt16
  deriving DecidableEq

/-- Ports of which nothing is compared. -/
def PortFields.ignored : PortFields := ⟨Masked.ignored, Masked.ignored⟩

/-- The fields of a TCP header. -/
structure TcpFields where
  ports : PortFields
  flags : Masked TcpFlags
  deriving DecidableEq

/-- A TCP header of which nothing is compared. -/
def TcpFields.ignored : TcpFields := ⟨PortFields.ignored, Masked.ignored⟩

/-- The fields of an ICMP header. -/
structure IcmpFields where
  icmpType : Masked UInt8
  code : Masked UInt8
  deriving DecidableEq

/-- An ICMP header of which nothing is compared. -/
def IcmpFields.ignored : IcmpFields := ⟨Masked.ignored, Masked.ignored⟩

/-- The transport protocol and what is compared of it. -/
inductive Layer4
  | none
  | tcp (fields : TcpFields)
  | udp (ports : PortFields)
  | icmp (fields : IcmpFields)
  deriving DecidableEq

/-- The choices of transport protocol. -/
inductive Layer4Kind
  | none
  | tcp
  | udp
  | icmp
  deriving DecidableEq

namespace Layer4

/-- The ports, where there are any. -/
def ports? : Layer4 → Option PortFields
  | tcp fields => some fields.ports
  | udp ports => some ports
  | _ => Option.none

/-- The transport protocol of a kind, with nothing compared. -/
def ofKind : Layer4Kind → Layer4
  | .none => none
  | .tcp => tcp TcpFields.ignored
  | .udp => udp PortFields.ignored
  | .icmp => icmp IcmpFields.ignored

end Layer4

/-!
## Filter rules

What a filter compares: fields of the protocol layers or, in raw mode, bytes given directly. The
fields are kept while a rule is in raw mode and are in force again when it leaves it.
-/

/-- Bytes to compare with the start of a capture record, bit for bit where the mask is set. -/
structure RawBytes where
  value : List UInt8
  mask : List UInt8
  deriving DecidableEq

/-- What a filter compares, in protocol terms. -/
structure Rule where
  layer2 : Layer2
  layer3 : Layer3
  layer4 : Layer4
  /-- The bytes compared instead of the fields, if the rule is in raw mode. -/
  raw : Option RawBytes
  /-- The last filter element that takes part in the comparison. -/
  termination : UInt8
  deriving DecidableEq

namespace Rule

/-- The rule that every frame matches. -/
def any : Rule where
  layer2 := .ethernet EtherFields.ignored
  layer3 := .none
  layer4 := .none
  raw := none
  termination := lastElement

instance : Inhabited Rule := ⟨any⟩

/-- Whether the rule compares raw bytes instead of fields. -/
def isRaw (rule : Rule) : Bool :=
  rule.raw.isSome

end Rule

/-!
## The pattern of a rule

Each compared field of a rule is a patch at the field's place in the capture record, and the
pattern of the rule is what the patches make of the blank pattern. The pattern always spans the
whole match depth; early termination travels beside it.
-/

namespace EtherFields

/-- The patches of the two addresses. -/
def addressPatches (ether : EtherFields) : List Patch :=
  [.ofMasked 2 ether.dst, .ofMasked 8 ether.src]

end EtherFields

namespace Layer2

/-- The patches of an encapsulation. A VLAN tag always compares its protocol identifier. -/
def patches : Layer2 → List Patch
  | ethernet ether => ether.addressPatches ++ [.ofMasked 14 ether.etherType]
  | ethernetVlan ether vlanId =>
    ether.addressPatches ++
      [.ofMasked 14 (Masked.exact etherTypeVlan), .ofMasked 16 vlanId,
        .ofMasked 18 ether.etherType]
  | pos header => [.ofMasked 0 header]

end Layer2

namespace Ipv4Fields

/-- What the flags and fragment offset of an unfragmented packet have in common: more fragments
and the offset are zero, while the reserved and the don't-fragment bit are free. -/
def unfragmented : Masked UInt16 := ⟨0, 0x3FFF⟩

/-- The patches of a network header that starts at an offset. -/
def patches (start : Nat) (ip : Ipv4Fields) : List Patch :=
  [.ofMasked start ip.ihl, .ofMasked (start + 12) ip.src, .ofMasked (start + 16) ip.dst] ++
    (if ip.rejectFragments then [.ofMasked (start + 6) unfragmented] else []) ++
    [.ofMasked (start + 9) ip.protocol]

end Ipv4Fields

namespace PortFields

/-- The patches of the ports of a transport header that starts at an offset. -/
def patches (start : Nat) (ports : PortFields) : List Patch :=
  [.ofMasked start ports.src, .ofMasked (start + 2) ports.dst]

end PortFields

namespace Layer4

/-- The patches of a transport header that starts at an offset. -/
def patches (start : Nat) : Layer4 → List Patch
  | none => []
  | tcp fields => fields.ports.patches start ++ [.ofMasked (start + 13) fields.flags]
  | udp ports => ports.patches start
  | icmp fields => [.ofMasked start fields.icmpType, .ofMasked (start + 1) fields.code]

end Layer4

namespace Rule

/-- The patches of the fields of a rule. -/
def fieldPatches (rule : Rule) : List Patch :=
  rule.layer2.patches ++
    match rule.layer3 with
    | .none => []
    | .ipv4 ip =>
      ip.patches rule.layer2.networkOffset ++
        rule.layer4.patches (rule.layer2.networkOffset + ip.transportOffset)

/-- The patches of a rule: its raw bytes in raw mode, and its fields otherwise. -/
def patches (rule : Rule) : List Patch :=
  match rule.raw with
  | some raw => [⟨0, raw.value.zip raw.mask⟩]
  | none => rule.fieldPatches

/-- The bytes that a card compares for a rule. -/
def pattern (rule : Rule) : Pattern :=
  Pattern.ofPatches rule.termination rule.patches

/-- The smallest termination that still covers every byte the rule compares on. -/
def tightTermination (rule : Rule) : UInt8 :=
  rule.pattern.tightTermination

end Rule

end PacketSteering
