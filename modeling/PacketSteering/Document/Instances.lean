import PacketSteering.Document.Basic
import PacketSteering.Loader

/-!
# Documents of the values of the library

How each kind of value is written as a document, and how those that can be read are read.
-/

namespace PacketSteering

/-!
## Documents of wire values

Addresses are records of their bytes, protocols are variants, and TCP flags are text.
-/

open Document

instance : ToDocument Mac where
  document address := record [("inner", document address.bytes)]

instance : OfDocument Mac where
  ofDocument? source := do
    let [bytes] ← source.fields? ["inner"] | none
    return ⟨← bytes.read?⟩

instance : ToDocument Ipv4 where
  document address := record [("inner", document address.bytes)]

instance : OfDocument Ipv4 where
  ofDocument? source := do
    let [bytes] ← source.fields? ["inner"] | none
    return ⟨← bytes.read?⟩

instance : ToDocument IpProtocol where
  document
    | .icmp => text "ICMP"
    | .tcp => text "TCP"
    | .udp => text "UDP"
    | .other byte => variant "Other" (document byte)

instance : OfDocument IpProtocol where
  ofDocument? source :=
    match source.variant? with
    | some ("Other", some content) => content.read?.map .other
    | _ => source.choice? [("ICMP", .icmp), ("TCP", .tcp), ("UDP", .udp)]

instance : ToDocument TcpFlags where
  document flags := text flags.text

instance : OfDocument TcpFlags where
  ofDocument?
    | text value => TcpFlags.read? value
    | _ => none

/-!
## Documents of faults

A fault is a variant under its name, with one number or with named contents.
-/

open Document

namespace Fault

/-- The content of a fault. -/
def content : Fault → Document
  | filterSlot slot => ofNat slot
  | interface index => ofNat index
  | hlbBit index => ofNat index
  | hlbBucket index => ofNat index
  | stream index => ofNat index
  | streamCount count => ofNat count
  | partialMissing index => ofNat index
  | wrongMode field needs => record [("field", text field), ("needs", text needs)]
  | rawLength value mask => record [("value", ofNat value), ("mask", ofNat mask)]
  | badValue field value => record [("field", text field), ("value", ofNat value)]
  | swapTarget slot => ofNat slot
  | noMemory bytes => record [("bytes", ofNat bytes)]

/-- The faults whose content is one number, by name. -/
def numbered : List (String × (Nat → Fault)) :=
  [("BadFilterSlot", filterSlot), ("BadInterface", interface), ("BadHlb", hlbBit),
    ("BadHlbBucket", hlbBucket), ("BadStream", stream), ("BadStreamCount", streamCount),
    ("PartialNotFound", partialMissing), ("SwapTarget", swapTarget)]

/-- Reads the fault of a name from its content. -/
def ofContent? (name : String) (content : Document) : Option Fault :=
  match numbered.lookup name with
  | some fault => content.size?.map fault
  | none =>
    match name with
    | "WrongMode" => do
      let [field, needs] ← content.entries? ["field", "needs"] | none
      return .wrongMode (← field.read?) (← needs.read?)
    | "RawLength" => do
      let [value, mask] ← content.entries? ["value", "mask"] | none
      return .rawLength (← value.size?) (← mask.size?)
    | "BadValue" => do
      let [field, value] ← content.entries? ["field", "value"] | none
      return .badValue (← field.read?) (← value.size?)
    | "NoMemory" => do
      let [bytes] ← content.entries? ["bytes"] | none
      return .noMemory (← bytes.size?)
    | _ => none

end Fault

instance : ToDocument Fault where
  document fault := variant fault.name fault.content

instance : OfDocument Fault where
  ofDocument? source :=
    match source.variant? with
    | some (name, some content) => Fault.ofContent? name content
    | _ => none

/-!
## Documents of rules

A rule is a record of its layers, its raw bytes and its termination, and each layer a variant with
the record of its fields. The kinds of layers can also be read.
-/

open Document

instance {α : Type} [ToDocument α] : ToDocument (Masked α) where
  document field := record [("value", document field.value), ("mask", document field.mask)]

instance : ToDocument EtherFields where
  document ether := record [
    ("dst", document ether.dst),
    ("src", document ether.src),
    ("ether_type", document ether.etherType)]

instance : ToDocument Layer2 where
  document
    | .ethernet ether => variant "Ethernet" (document ether)
    | .ethernetVlan ether vlanId =>
      variant "EthernetVlan" (record [("ether", document ether), ("vlan_id", document vlanId)])
    | .pos header => variant "Pos" (document header)

instance : ToDocument Layer2Kind where
  document
    | .ethernet => text "Ethernet"
    | .ethernetVlan => text "EthernetVlan"
    | .pos => text "Pos"

instance : OfDocument Layer2Kind where
  ofDocument? :=
    choice? [("Ethernet", .ethernet), ("EthernetVlan", .ethernetVlan), ("Pos", .pos)]

instance : ToDocument Ipv4Fields where
  document ip := record [
    ("protocol", document ip.protocol),
    ("src", document ip.src),
    ("dst", document ip.dst),
    ("ihl", document ip.ihl),
    ("reject_fragments", document ip.rejectFragments)]

instance : ToDocument Layer3 where
  document
    | .none => text "None"
    | .ipv4 ip => variant "Ipv4" (document ip)

instance : ToDocument Layer3Kind where
  document
    | .none => text "None"
    | .ipv4 => text "Ipv4"

instance : OfDocument Layer3Kind where
  ofDocument? := choice? [("None", .none), ("Ipv4", .ipv4)]

instance : ToDocument PortFields where
  document ports := record [("src", document ports.src), ("dst", document ports.dst)]

instance : ToDocument TcpFields where
  document tcp := record [("ports", document tcp.ports), ("flags", document tcp.flags)]

instance : ToDocument IcmpFields where
  document icmp := record [("icmp_type", document icmp.icmpType), ("code", document icmp.code)]

instance : ToDocument Layer4 where
  document
    | .none => text "None"
    | .tcp tcp => variant "Tcp" (document tcp)
    | .udp ports => variant "Udp" (document ports)
    | .icmp icmp => variant "Icmp" (document icmp)

instance : ToDocument Layer4Kind where
  document
    | .none => text "None"
    | .tcp => text "Tcp"
    | .udp => text "Udp"
    | .icmp => text "Icmp"

instance : OfDocument Layer4Kind where
  ofDocument? := choice? [("None", .none), ("Tcp", .tcp), ("Udp", .udp), ("Icmp", .icmp)]

instance : ToDocument RawBytes where
  document raw := record [("value", document raw.value), ("mask", document raw.mask)]

instance : ToDocument Rule where
  document rule := record [
    ("layer2", document rule.layer2),
    ("layer3", document rule.layer3),
    ("layer4", document rule.layer4),
    ("raw", document rule.raw),
    ("termination", document rule.termination)]

instance : ToDocument Filter where
  document filter := record [
    ("virtual_slot", document filter.virtualSlot),
    ("physical_slot", document filter.physicalSlot),
    ("enabled", document filter.enabled),
    ("rule", document filter.rule)]

/-!
## Documents of steering values

Terms, banks, layouts and the expressions that say which stream a packet goes to.
-/

open Document

instance : ToDocument Term where
  document
    | .assert => text "Assert"
    | .negate => text "Negate"
    | .dontCare => text "DontCare"

instance : OfDocument Term where
  ofDocument? :=
    choice? [("Assert", .assert), ("Negate", .negate), ("DontCare", .dontCare)]

instance : ToDocument Bank where
  document bank := text bank.text

instance : OfDocument Bank where
  ofDocument? := choice? [("A", .a), ("B", .b)]

instance : ToDocument TableLayout where
  document
    | .classic => text "Classic"
    | .hashedFour => text "HashedV1_4"
    | .hashedEight => text "HashedV1_8"

instance : OfDocument TableLayout where
  ofDocument? :=
    choice? [("Classic", .classic), ("HashedV1_4", .hashedFour), ("HashedV1_8", .hashedEight)]

instance : ToDocument PartialId where
  document id := document id.index

instance : OfDocument PartialId where
  ofDocument? source := source.size?.map PartialId.mk

instance : ToDocument PartialExpression where
  document expression := record [
    ("filters", document expression.filters),
    ("interfaces", document expression.interfaces),
    ("hlb", document expression.hlb),
    ("hlb_hash", document expression.hlbHash)]

instance : OfDocument PartialExpression where
  ofDocument? source := do
    let [filters, interfaces, hlb, hlbHash] ←
      source.fields? ["filters", "interfaces", "hlb", "hlb_hash"] | none
    return ⟨← filters.read?, ← interfaces.read?, ← hlb.read?, ← hlbHash.read?⟩

instance : ToDocument StreamExpression where
  document expression := record [
    ("positive", document expression.positive),
    ("negated", document expression.negated)]

instance : OfDocument StreamExpression where
  ofDocument? source := do
    let [positive, negated] ← source.fields? ["positive", "negated"] | none
    return ⟨← positive.read?, ← negated.read?⟩

/-!
## Documents of card dumps

A dump is a record of the active bank and of its slots.
-/

open Document

instance : ToDocument SlotDump where
  document slot := record [
    ("slot", document slot.slot),
    ("enabled", document slot.enabled),
    ("termination", document slot.termination),
    ("value", document slot.value),
    ("mask", document slot.mask)]

instance : OfDocument SlotDump where
  ofDocument? source := do
    let [slot, enabled, termination, value, mask] ←
      source.fields? ["slot", "enabled", "termination", "value", "mask"] | none
    return ⟨← slot.read?, ← enabled.read?, ← termination.read?, ← value.read?, ← mask.read?⟩

instance : ToDocument CardDump where
  document dump := record [
    ("active_bank", document dump.activeBank),
    ("slots", document dump.slots)]

instance : OfDocument CardDump where
  ofDocument? source := do
    let [activeBank, slots] ← source.fields? ["active_bank", "slots"] | none
    return ⟨← activeBank.read?, ← slots.read?⟩

/-!
## Documents of configurations

A configuration is a record of its layout, filters, partial expressions and streams.
-/

open Document

instance : ToDocument Configuration where
  document config := record [
    ("variant", document config.layout),
    ("filters", document config.filters),
    ("partials", document config.partials),
    ("streams", document config.streams)]

end PacketSteering
