import PacketSteering.Fault
import PacketSteering.Rule.Basic

/-!
# Editing rules

The steps by which a rule is described. Each step checks that its field exists for the layers
chosen so far, and a refused step changes nothing. In raw mode every step on fields is refused.
-/

namespace PacketSteering

namespace Rule

/-- Refuses a step on a field while the rule is in raw mode. -/
def requireFields (rule : Rule) (field : String) : Except Fault Unit :=
  if rule.isRaw then .error (.wrongMode field "structured mode") else .ok ()

/-- Chooses the encapsulation. A change between plain and VLAN-tagged Ethernet keeps the Ethernet
fields, and any other change starts from a blank header. -/
def setLayer2 (rule : Rule) (kind : Layer2Kind) : Except Fault Rule := do
  rule.requireFields "layer2"
  if rule.layer2.kind = kind then
    return rule
  else
    return { rule with layer2 := .ofKind (rule.layer2.ether?.getD EtherFields.ignored) kind }

/-- Chooses the network protocol. Without a network protocol there is no transport protocol. -/
def setLayer3 (rule : Rule) (kind : Layer3Kind) : Except Fault Rule := do
  rule.requireFields "layer3"
  match kind, rule.layer3 with
  | .ipv4, .ipv4 _ => return rule
  | .ipv4, .none => return { rule with layer3 := .ipv4 Ipv4Fields.ignored }
  | .none, _ => return { rule with layer3 := .none, layer4 := .none }

/-- The protocol number that goes with a transport protocol. -/
def transportProtocol : Layer4Kind → Option IpProtocol
  | .none => none
  | .tcp => some .tcp
  | .udp => some .udp
  | .icmp => some .icmp

/-- Chooses the transport protocol, of which nothing is compared at first. A choice other than
none also compares the protocol number in full. -/
def setLayer4 (rule : Rule) (kind : Layer4Kind) : Except Fault Rule := do
  rule.requireFields "layer4"
  match rule.layer3 with
  | .none => throw (.wrongMode "layer4" "layer 3 IPv4")
  | .ipv4 ip =>
    let protocol :=
      match transportProtocol kind with
      | some protocol => Masked.exact protocol.toByte
      | none => ip.protocol
    return { rule with layer3 := .ipv4 { ip with protocol }, layer4 := .ofKind kind }

/-- Changes the Ethernet fields on behalf of one of them. -/
def modifyEther (rule : Rule) (field : String) (change : EtherFields → EtherFields) :
    Except Fault Rule := do
  rule.requireFields field
  match rule.layer2 with
  | .ethernet ether => return { rule with layer2 := .ethernet (change ether) }
  | .ethernetVlan ether vlanId => return { rule with layer2 := .ethernetVlan (change ether) vlanId }
  | .pos _ => throw (.wrongMode field "layer 2 Ethernet")

/-- Compares the destination address of the frame. -/
def setEtherDst (rule : Rule) (value mask : Mac) : Except Fault Rule :=
  rule.modifyEther "ether.dst" fun ether => { ether with dst := .under value mask }

/-- Compares the source address of the frame. -/
def setEtherSrc (rule : Rule) (value mask : Mac) : Except Fault Rule :=
  rule.modifyEther "ether.src" fun ether => { ether with src := .under value mask }

/-- Compares the EtherType of the frame. -/
def setEtherType (rule : Rule) (value mask : UInt16) : Except Fault Rule :=
  rule.modifyEther "ether.type" fun ether => { ether with etherType := .under value mask }

/-- Compares the VLAN identifier. Of the mask only the bits of an identifier count. -/
def setVlanId (rule : Rule) (value mask : UInt16) : Except Fault Rule := do
  rule.requireFields "vlan.id"
  if vlanIdMax < value then
    throw (.badValue "vlan.id" value.toNat)
  match rule.layer2 with
  | .ethernetVlan ether _ =>
    return { rule with layer2 := .ethernetVlan ether (.under value (mask &&& vlanIdMax)) }
  | _ => throw (.wrongMode "vlan.id" "layer 2 Ethernet VLAN")

/-- Compares the HDLC header of a packet over SONET. -/
def setHdlc (rule : Rule) (value mask : UInt32) : Except Fault Rule := do
  rule.requireFields "hdlc"
  match rule.layer2 with
  | .pos _ => return { rule with layer2 := .pos (.under value mask) }
  | _ => throw (.wrongMode "hdlc" "layer 2 PoS")

/-- Changes the IPv4 fields on behalf of one of them. -/
def modifyIpv4 (rule : Rule) (field : String) (change : Ipv4Fields → Ipv4Fields) :
    Except Fault Rule := do
  rule.requireFields field
  match rule.layer3 with
  | .ipv4 ip => return { rule with layer3 := .ipv4 (change ip) }
  | .none => throw (.wrongMode field "layer 3 IPv4")

/-- Compares the protocol number of the packet. -/
def setIpProtocol (rule : Rule) (protocol : IpProtocol) (mask : UInt8) : Except Fault Rule :=
  rule.modifyIpv4 "ip.proto" fun ip => { ip with protocol := .under protocol.toByte mask }

/-- Compares the source address of the packet. -/
def setIpSrc (rule : Rule) (value mask : Ipv4) : Except Fault Rule :=
  rule.modifyIpv4 "ip.src" fun ip => { ip with src := .under value mask }

/-- Compares the destination address of the packet. -/
def setIpDst (rule : Rule) (value mask : Ipv4) : Except Fault Rule :=
  rule.modifyIpv4 "ip.dst" fun ip => { ip with dst := .under value mask }

/-- Compares the header length in 32-bit words, which has to be a possible one if any of its bits
is compared. The length is checked before the mode and the layer. -/
def setIhl (rule : Rule) (value mask : UInt8) : Except Fault Rule :=
  if mask &&& ihlMask ≠ 0 ∧ ¬ (5 ≤ value ∧ value ≤ 15) then
    .error (.badValue "ip.ihl" value.toNat)
  else
    rule.modifyIpv4 "ip.ihl" fun ip => { ip with ihl := .under value (mask &&& ihlMask) }

/-- Chooses whether only unfragmented packets match. -/
def setRejectFragments (rule : Rule) (reject : Bool) : Except Fault Rule :=
  rule.modifyIpv4 "ip.frag" fun ip => { ip with rejectFragments := reject }

/-- Changes the ports on behalf of one of them. -/
def modifyPorts (rule : Rule) (field : String) (change : PortFields → PortFields) :
    Except Fault Rule := do
  rule.requireFields field
  match rule.layer4 with
  | .tcp tcp => return { rule with layer4 := .tcp { tcp with ports := change tcp.ports } }
  | .udp ports => return { rule with layer4 := .udp (change ports) }
  | _ => throw (.wrongMode field "layer 4 TCP or UDP")

/-- Compares the source port. -/
def setSrcPort (rule : Rule) (value mask : UInt16) : Except Fault Rule :=
  rule.modifyPorts "ulp.src" fun ports => { ports with src := .under value mask }

/-- Compares the destination port. -/
def setDstPort (rule : Rule) (value mask : UInt16) : Except Fault Rule :=
  rule.modifyPorts "ulp.dst" fun ports => { ports with dst := .under value mask }

/-- Compares the TCP flags. -/
def setTcpFlags (rule : Rule) (value mask : TcpFlags) : Except Fault Rule := do
  rule.requireFields "tcp.flags"
  match rule.layer4 with
  | .tcp tcp => return { rule with layer4 := .tcp { tcp with flags := .under value mask } }
  | _ => throw (.wrongMode "tcp.flags" "layer 4 TCP")

/-- Changes the ICMP fields on behalf of one of them. -/
def modifyIcmp (rule : Rule) (field : String) (change : IcmpFields → IcmpFields) :
    Except Fault Rule := do
  rule.requireFields field
  match rule.layer4 with
  | .icmp icmp => return { rule with layer4 := .icmp (change icmp) }
  | _ => throw (.wrongMode field "layer 4 ICMP")

/-- Compares the ICMP type. -/
def setIcmpType (rule : Rule) (value mask : UInt8) : Except Fault Rule :=
  rule.modifyIcmp "icmp.type" fun icmp => { icmp with icmpType := .under value mask }

/-- Compares the ICMP code. -/
def setIcmpCode (rule : Rule) (value mask : UInt8) : Except Fault Rule :=
  rule.modifyIcmp "icmp.code" fun icmp => { icmp with code := .under value mask }

/-- Enters raw mode with bytes to compare, kept verbatim. Value and mask have to have one length,
no more than the match depth. -/
def setRaw (rule : Rule) (value mask : List UInt8) : Except Fault Rule :=
  if value.length ≠ mask.length ∨ matchDepth < value.length then
    .error (.rawLength value.length mask.length)
  else
    .ok { rule with raw := some ⟨value, mask⟩ }

/-- Leaves raw mode; the fields held before are in force again. -/
def clearRaw (rule : Rule) : Rule :=
  { rule with raw := none }

/-- Sets the last element that takes part; past the last element of a filter it is that one. -/
def setTermination (rule : Rule) (depth : UInt8) : Rule :=
  { rule with termination := min depth lastElement }

/-- Sets the termination to the smallest one that covers every byte compared on. -/
def tightenTermination (rule : Rule) : Rule :=
  { rule with termination := rule.tightTermination }

/-- The steps by which a rule is described. -/
inductive Edit
  | layer2 (kind : Layer2Kind)
  | layer3 (kind : Layer3Kind)
  | layer4 (kind : Layer4Kind)
  | etherDst (value mask : Mac)
  | etherSrc (value mask : Mac)
  | etherType (value mask : UInt16)
  | vlanId (value mask : UInt16)
  | hdlc (value mask : UInt32)
  | ipProtocol (protocol : IpProtocol) (mask : UInt8)
  | ipSrc (value mask : Ipv4)
  | ipDst (value mask : Ipv4)
  | ihl (value mask : UInt8)
  | rejectFragments (reject : Bool)
  | srcPort (value mask : UInt16)
  | dstPort (value mask : UInt16)
  | tcpFlags (value mask : TcpFlags)
  | icmpType (value mask : UInt8)
  | icmpCode (value mask : UInt8)
  | raw (value mask : List UInt8)
  | clearRaw
  | termination (depth : UInt8)
  | tightTermination

/-- Takes one step. -/
def apply (rule : Rule) : Edit → Except Fault Rule
  | .layer2 kind => rule.setLayer2 kind
  | .layer3 kind => rule.setLayer3 kind
  | .layer4 kind => rule.setLayer4 kind
  | .etherDst value mask => rule.setEtherDst value mask
  | .etherSrc value mask => rule.setEtherSrc value mask
  | .etherType value mask => rule.setEtherType value mask
  | .vlanId value mask => rule.setVlanId value mask
  | .hdlc value mask => rule.setHdlc value mask
  | .ipProtocol protocol mask => rule.setIpProtocol protocol mask
  | .ipSrc value mask => rule.setIpSrc value mask
  | .ipDst value mask => rule.setIpDst value mask
  | .ihl value mask => rule.setIhl value mask
  | .rejectFragments reject => rule.setRejectFragments reject
  | .srcPort value mask => rule.setSrcPort value mask
  | .dstPort value mask => rule.setDstPort value mask
  | .tcpFlags value mask => rule.setTcpFlags value mask
  | .icmpType value mask => rule.setIcmpType value mask
  | .icmpCode value mask => rule.setIcmpCode value mask
  | .raw value mask => rule.setRaw value mask
  | .clearRaw => .ok rule.clearRaw
  | .termination depth => .ok (rule.setTermination depth)
  | .tightTermination => .ok rule.tightenTermination

/-- The rule after a step, which is the rule as it was if the step is refused. -/
def attempt (rule : Rule) (edit : Edit) : Rule :=
  match rule.apply edit with
  | .ok edited => edited
  | .error _ => rule

/-- The rules that steps can describe, refused steps included. -/
def Reachable (rule : Rule) : Prop :=
  ∃ edits : List Edit, edits.foldl attempt any = rule

end Rule

end PacketSteering
