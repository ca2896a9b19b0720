import PacketSteering.Rule.Basic

/-!
# The text of a rule

A rule is shown as the list of the fields it compares, from the outermost header inwards. Where
nothing is listed the text is `any`, and a raw rule shows only how many bytes it has.
-/

namespace PacketSteering

namespace Masked

/-- The listing of a field under its name, if any of it is compared. -/
def listed {α : Type} [MaskBits α] [DecidableEq α] (name : String) (render : α → String)
    (field : Masked α) : List String :=
  if field.isIgnored then [] else [name ++ "=" ++ field.text render]

/-- A number of the wire in decimal, with the mask if not all of it is compared. -/
def listedByte (name : String) (field : Masked UInt8) : List String :=
  field.listed name fun b => toString b.toNat

/-- A two-byte number of the wire in decimal, with the mask if not all of it is compared. -/
def listedWord (name : String) (field : Masked UInt16) : List String :=
  field.listed name fun w => toString w.toNat

end Masked

namespace EtherFields

/-- The listings of an Ethernet header. The EtherType shows its value only. -/
def listed (ether : EtherFields) : List String :=
  ether.dst.listed "ether.dst" Mac.text ++ ether.src.listed "ether.src" Mac.text ++
    if ether.etherType.isIgnored then []
    else ["ether.type=0x" ++ Hex.upperText 4 ether.etherType.value.toNat]

end EtherFields

namespace Layer2

/-- The listings of an encapsulation. A VLAN identifier and an HDLC header are always shown. -/
def listed : Layer2 → List String
  | ethernet ether => ether.listed
  | ethernetVlan ether vlanId =>
    ether.listed ++ ["vlan=" ++ vlanId.text fun id => toString id.toNat]
  | pos header => ["hdlc=0x" ++ Hex.upperText 8 header.value.toNat]

end Layer2

namespace Layer3

/-- The listing of the protocol number, by its name when it is compared in full. -/
def listedProtocol (protocol : Masked UInt8) : List String :=
  if protocol.mask = 0xFF then ["ip.proto=" ++ (IpProtocol.ofByte protocol.value).text]
  else protocol.listedByte "ip.proto"

/-- The listings of a network header. -/
def listed : Layer3 → List String
  | none => []
  | ipv4 ip =>
    listedProtocol ip.protocol ++ ip.src.listed "ip.src" Ipv4.text ++
      ip.dst.listed "ip.dst" Ipv4.text ++ ip.ihl.listedByte "ip.ihl" ++
      if ip.rejectFragments then ["ip.nofrag"] else []

end Layer3

namespace Layer4

/-- The listings of the ports. -/
def listedPorts (ports : PortFields) : List String :=
  ports.src.listedWord "ulp.src" ++ ports.dst.listedWord "ulp.dst"

/-- The listing of the TCP flags, value and mask in hexadecimal. -/
def listedFlags (flags : Masked TcpFlags) : List String :=
  if flags.isIgnored then []
  else
    ["tcp.flags=0x" ++ Hex.upperText 2 flags.value.bits.toNat ++ "/0x" ++
      Hex.upperText 2 flags.mask.bits.toNat]

/-- The listings of a transport header. -/
def listed : Layer4 → List String
  | none => []
  | tcp fields => listedPorts fields.ports ++ listedFlags fields.flags
  | udp ports => listedPorts ports
  | icmp fields => fields.icmpType.listedByte "icmp.type" ++ fields.code.listedByte "icmp.code"

end Layer4

namespace Rule

/-- The listings of all layers. -/
def listed (rule : Rule) : List String :=
  rule.layer2.listed ++ rule.layer3.listed ++ rule.layer4.listed

/-- The text of a rule. -/
def text (rule : Rule) : String :=
  match rule.raw with
  | some raw => "raw[" ++ toString raw.value.length ++ "]"
  | none => if rule.listed.isEmpty then "any" else " ".intercalate rule.listed

end Rule

end PacketSteering
