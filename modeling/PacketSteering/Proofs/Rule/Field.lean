import Mathlib.Tactic.Common
import PacketSteering.Rule.Basic

/-!
# The fields of a rule

A rule has a field if the protocols that are chosen for its layers have it (`Rule.selection`).
`Rule.get?` looks at one field and `Rule.put` replaces one.  A replaced field shows its new value,
every other one shows what it did, and the protocols, raw mode and the termination stay as they are.
The fields are all there is to a layer besides its protocol (`Rule.eq_of_get?`), so that these laws
say everything about a replacement.
-/

namespace PacketSteering

/-! ## Headers -/

/-- The fields of an Ethernet header. -/
inductive EtherField
  | dst
  | src
  | etherType
  deriving DecidableEq

/-- What an Ethernet field is compared with. -/
abbrev EtherField.Value : EtherField → Type
  | dst => Masked Mac
  | src => Masked Mac
  | etherType => Masked UInt16

namespace EtherFields

variable (ether : EtherFields)

/-- What a field is compared with. -/
def get : (field : EtherField) → field.Value
  | .dst => ether.dst
  | .src => ether.src
  | .etherType => ether.etherType

/-- The header with a field replaced. -/
def put : (field : EtherField) → field.Value → EtherFields
  | .dst, value => { ether with dst := value }
  | .src, value => { ether with src := value }
  | .etherType, value => { ether with etherType := value }

@[simp] lemma get_put_self (field : EtherField) (value : field.Value) :
    (ether.put field value).get field = value := by
  cases field <;> rfl

lemma get_put_of_ne {field other : EtherField} (hne : other ≠ field) (value : field.Value) :
    (ether.put field value).get other = ether.get other := by
  cases field <;> cases other <;> first | rfl | exact absurd rfl hne

lemma eq_of_get {a b : EtherFields} (h : a.get = b.get) : a = b := by
  have hdst : a.dst = b.dst := congrFun h .dst
  have hsrc : a.src = b.src := congrFun h .src
  have htype : a.etherType = b.etherType := congrFun h .etherType
  cases a
  cases b
  simp_all

end EtherFields

/-- The fields of an IPv4 header. -/
inductive Ipv4Field
  | protocol
  | src
  | dst
  | ihl
  | rejectFragments
  deriving DecidableEq

/-- What an IPv4 field is compared with. -/
abbrev Ipv4Field.Value : Ipv4Field → Type
  | protocol => Masked UInt8
  | src => Masked Ipv4
  | dst => Masked Ipv4
  | ihl => Masked UInt8
  | rejectFragments => Bool

namespace Ipv4Fields

variable (ip : Ipv4Fields)

/-- What a field is compared with. -/
def get : (field : Ipv4Field) → field.Value
  | .protocol => ip.protocol
  | .src => ip.src
  | .dst => ip.dst
  | .ihl => ip.ihl
  | .rejectFragments => ip.rejectFragments

/-- The header with a field replaced. -/
def put : (field : Ipv4Field) → field.Value → Ipv4Fields
  | .protocol, value => { ip with protocol := value }
  | .src, value => { ip with src := value }
  | .dst, value => { ip with dst := value }
  | .ihl, value => { ip with ihl := value }
  | .rejectFragments, value => { ip with rejectFragments := value }

@[simp] lemma get_put_self (field : Ipv4Field) (value : field.Value) :
    (ip.put field value).get field = value := by
  cases field <;> rfl

lemma get_put_of_ne {field other : Ipv4Field} (hne : other ≠ field) (value : field.Value) :
    (ip.put field value).get other = ip.get other := by
  cases field <;> cases other <;> first | rfl | exact absurd rfl hne

lemma eq_of_get {a b : Ipv4Fields} (h : a.get = b.get) : a = b := by
  have hprotocol : a.protocol = b.protocol := congrFun h .protocol
  have hsrc : a.src = b.src := congrFun h .src
  have hdst : a.dst = b.dst := congrFun h .dst
  have hihl : a.ihl = b.ihl := congrFun h .ihl
  have hreject : a.rejectFragments = b.rejectFragments := congrFun h .rejectFragments
  cases a
  cases b
  simp_all

end Ipv4Fields

/-- The ports of a transport header. -/
inductive PortField
  | src
  | dst
  deriving DecidableEq

namespace PortFields

variable (ports : PortFields)

/-- What a port is compared with. -/
def get : PortField → Masked UInt16
  | .src => ports.src
  | .dst => ports.dst

/-- The ports with one of them replaced. -/
def put (field : PortField) (value : Masked UInt16) : PortFields :=
  match field with
  | .src => { ports with src := value }
  | .dst => { ports with dst := value }

@[simp] lemma get_put_self (field : PortField) (value : Masked UInt16) :
    (ports.put field value).get field = value := by
  cases field <;> rfl

lemma get_put_of_ne {field other : PortField} (hne : other ≠ field) (value : Masked UInt16) :
    (ports.put field value).get other = ports.get other := by
  cases field <;> cases other <;> first | rfl | exact absurd rfl hne

lemma eq_of_get {a b : PortFields} (h : a.get = b.get) : a = b := by
  have hsrc : a.src = b.src := congrFun h .src
  have hdst : a.dst = b.dst := congrFun h .dst
  cases a
  cases b
  simp_all

end PortFields

/-- The fields of an ICMP header. -/
inductive IcmpField
  | icmpType
  | code
  deriving DecidableEq

namespace IcmpFields

variable (icmp : IcmpFields)

/-- What a field is compared with. -/
def get : IcmpField → Masked UInt8
  | .icmpType => icmp.icmpType
  | .code => icmp.code

/-- The header with a field replaced. -/
def put (field : IcmpField) (value : Masked UInt8) : IcmpFields :=
  match field with
  | .icmpType => { icmp with icmpType := value }
  | .code => { icmp with code := value }

@[simp] lemma get_put_self (field : IcmpField) (value : Masked UInt8) :
    (icmp.put field value).get field = value := by
  cases field <;> rfl

lemma get_put_of_ne {field other : IcmpField} (hne : other ≠ field) (value : Masked UInt8) :
    (icmp.put field value).get other = icmp.get other := by
  cases field <;> cases other <;> first | rfl | exact absurd rfl hne

lemma eq_of_get {a b : IcmpFields} (h : a.get = b.get) : a = b := by
  have htype : a.icmpType = b.icmpType := congrFun h .icmpType
  have hcode : a.code = b.code := congrFun h .code
  cases a
  cases b
  simp_all

end IcmpFields

/-! ## Layers -/

/-- The fields of the encapsulations. -/
inductive Layer2Field
  | ether (field : EtherField)
  | vlanId
  | header
  deriving DecidableEq

/-- What a field of an encapsulation is compared with. -/
abbrev Layer2Field.Value : Layer2Field → Type
  | ether field => field.Value
  | vlanId => Masked UInt16
  | header => Masked UInt32

namespace Layer2

variable (layer2 : Layer2)

/-- What a field is compared with, if the encapsulation has it. -/
def get? : (field : Layer2Field) → Option field.Value
  | .ether field => layer2.ether?.map fun ether => ether.get field
  | .vlanId =>
    match layer2 with
    | ethernetVlan _ vlanId => some vlanId
    | _ => none
  | .header =>
    match layer2 with
    | pos header => some header
    | _ => none

/-- The encapsulation with a field replaced, if it has it. -/
def put : (field : Layer2Field) → field.Value → Layer2
  | .ether field, value =>
    match layer2 with
    | ethernet ether => ethernet (ether.put field value)
    | ethernetVlan ether vlanId => ethernetVlan (ether.put field value) vlanId
    | pos header => pos header
  | .vlanId, value =>
    match layer2 with
    | ethernetVlan ether _ => ethernetVlan ether value
    | other => other
  | .header, value =>
    match layer2 with
    | pos _ => pos value
    | other => other

@[simp] lemma kind_put (field : Layer2Field) (value : field.Value) :
    (layer2.put field value).kind = layer2.kind := by
  cases field <;> cases layer2 <;> rfl

lemma get?_put_self (field : Layer2Field) (value : field.Value) :
    (layer2.put field value).get? field = (layer2.get? field).map fun _ => value := by
  cases field <;> cases layer2 <;> simp [put, get?, ether?]

lemma get?_put_of_ne {field other : Layer2Field} (hne : other ≠ field) (value : field.Value) :
    (layer2.put field value).get? other = layer2.get? other := by
  cases field with
  | ether field =>
    cases other with
    | ether other =>
      have hname : other ≠ field := fun heq => hne (congrArg _ heq)
      cases layer2 <;> simp [put, get?, ether?, EtherFields.get_put_of_ne _ hname]
    | vlanId => cases layer2 <;> rfl
    | header => cases layer2 <;> rfl
  | vlanId => cases layer2 <;> cases other <;> first | rfl | exact absurd rfl hne
  | header => cases layer2 <;> cases other <;> first | rfl | exact absurd rfl hne

/-- An encapsulation has nothing but its fields. -/
lemma eq_of_get? {a b : Layer2} (hkind : a.kind = b.kind)
    (h : ∀ field, a.get? field = b.get? field) : a = b := by
  cases a with
  | ethernet ether =>
    cases b <;> cases hkind
    case ethernet other =>
      have hether := funext fun field => Option.some.inj (h (.ether field))
      exact congrArg _ (EtherFields.eq_of_get hether)
  | ethernetVlan ether vlanId =>
    cases b <;> cases hkind
    case ethernetVlan other otherId =>
      have hether := funext fun field => Option.some.inj (h (.ether field))
      rw [EtherFields.eq_of_get hether, Option.some.inj (h .vlanId)]
  | pos header =>
    cases b <;> cases hkind
    case pos other => exact congrArg _ (Option.some.inj (h .header))

end Layer2

namespace Layer3

variable (layer3 : Layer3)

/-- Which network protocol this is. -/
def kind : Layer3 → Layer3Kind
  | none => .none
  | ipv4 _ => .ipv4

/-- What a field is compared with, if the network protocol has it. -/
def get? (field : Ipv4Field) : Option field.Value :=
  match layer3 with
  | none => Option.none
  | ipv4 ip => some (ip.get field)

/-- The network protocol with a field replaced, if it has it. -/
def put (field : Ipv4Field) (value : field.Value) : Layer3 :=
  match layer3 with
  | none => none
  | ipv4 ip => ipv4 (ip.put field value)

@[simp] lemma kind_put (field : Ipv4Field) (value : field.Value) :
    (layer3.put field value).kind = layer3.kind := by
  cases layer3 <;> rfl

lemma get?_put_self (field : Ipv4Field) (value : field.Value) :
    (layer3.put field value).get? field = (layer3.get? field).map fun _ => value := by
  cases layer3 <;> simp [put, get?]

lemma get?_put_of_ne {field other : Ipv4Field} (hne : other ≠ field) (value : field.Value) :
    (layer3.put field value).get? other = layer3.get? other := by
  cases layer3 <;> simp [put, get?, Ipv4Fields.get_put_of_ne _ hne]

/-- A network protocol has nothing but its fields. -/
lemma eq_of_get? {a b : Layer3} (hkind : a.kind = b.kind)
    (h : ∀ field, a.get? field = b.get? field) : a = b := by
  cases a with
  | none =>
    cases b <;> cases hkind
    case none => rfl
  | ipv4 ip =>
    cases b <;> cases hkind
    case ipv4 other =>
      have hip := funext fun field => Option.some.inj (h field)
      exact congrArg _ (Ipv4Fields.eq_of_get hip)

end Layer3

/-- The fields of the transport protocols. -/
inductive Layer4Field
  | port (field : PortField)
  | tcpFlags
  | icmp (field : IcmpField)
  deriving DecidableEq

/-- What a field of a transport protocol is compared with. -/
abbrev Layer4Field.Value : Layer4Field → Type
  | port _ => Masked UInt16
  | tcpFlags => Masked TcpFlags
  | icmp _ => Masked UInt8

namespace Layer4

variable (layer4 : Layer4)

/-- Which transport protocol this is. -/
def kind : Layer4 → Layer4Kind
  | none => .none
  | tcp _ => .tcp
  | udp _ => .udp
  | icmp _ => .icmp

/-- What a field is compared with, if the transport protocol has it. -/
def get? : (field : Layer4Field) → Option field.Value
  | .port field => layer4.ports?.map fun ports => ports.get field
  | .tcpFlags =>
    match layer4 with
    | tcp fields => some fields.flags
    | _ => Option.none
  | .icmp field =>
    match layer4 with
    | icmp fields => some (fields.get field)
    | _ => Option.none

/-- The transport protocol with a field replaced, if it has it. -/
def put : (field : Layer4Field) → field.Value → Layer4
  | .port field, value =>
    match layer4 with
    | tcp fields => tcp { fields with ports := fields.ports.put field value }
    | udp ports => udp (ports.put field value)
    | other => other
  | .tcpFlags, value =>
    match layer4 with
    | tcp fields => tcp { fields with flags := value }
    | other => other
  | .icmp field, value =>
    match layer4 with
    | icmp fields => icmp (fields.put field value)
    | other => other

@[simp] lemma kind_put (field : Layer4Field) (value : field.Value) :
    (layer4.put field value).kind = layer4.kind := by
  cases field <;> cases layer4 <;> rfl

lemma get?_put_self (field : Layer4Field) (value : field.Value) :
    (layer4.put field value).get? field = (layer4.get? field).map fun _ => value := by
  cases field <;> cases layer4 <;> simp [put, get?, ports?]

lemma get?_put_of_ne {field other : Layer4Field} (hne : other ≠ field) (value : field.Value) :
    (layer4.put field value).get? other = layer4.get? other := by
  cases field with
  | port field =>
    cases other with
    | port other =>
      have hname : other ≠ field := fun heq => hne (congrArg _ heq)
      cases layer4 <;> simp [put, get?, ports?, PortFields.get_put_of_ne _ hname]
    | tcpFlags => cases layer4 <;> rfl
    | icmp other => cases layer4 <;> rfl
  | tcpFlags => cases layer4 <;> cases other <;> first | rfl | exact absurd rfl hne
  | icmp field =>
    cases other with
    | port other => cases layer4 <;> rfl
    | tcpFlags => cases layer4 <;> rfl
    | icmp other =>
      have hname : other ≠ field := fun heq => hne (congrArg _ heq)
      cases layer4 <;> simp [put, get?, IcmpFields.get_put_of_ne _ hname]

/-- A transport protocol has nothing but its fields. -/
lemma eq_of_get? {a b : Layer4} (hkind : a.kind = b.kind)
    (h : ∀ field, a.get? field = b.get? field) : a = b := by
  cases a with
  | none =>
    cases b <;> cases hkind
    case none => rfl
  | tcp fields =>
    cases b <;> cases hkind
    case tcp other =>
      have hports := funext fun field => Option.some.inj (h (.port field))
      have hflags : fields.flags = other.flags := Option.some.inj (h .tcpFlags)
      exact congrArg _ (congrArg₂ TcpFields.mk (PortFields.eq_of_get hports) hflags)
  | udp ports =>
    cases b <;> cases hkind
    case udp other =>
      have hports := funext fun field => Option.some.inj (h (.port field))
      exact congrArg _ (PortFields.eq_of_get hports)
  | icmp fields =>
    cases b <;> cases hkind
    case icmp other =>
      have hfields := funext fun field => Option.some.inj (h (.icmp field))
      exact congrArg _ (IcmpFields.eq_of_get hfields)

end Layer4

/-! ## Rules -/

/-- The fields of a rule. -/
inductive Field
  | layer2 (field : Layer2Field)
  | layer3 (field : Ipv4Field)
  | layer4 (field : Layer4Field)
  deriving DecidableEq

/-- What a field of a rule is compared with. -/
abbrev Field.Value : Field → Type
  | layer2 field => field.Value
  | layer3 field => field.Value
  | layer4 field => field.Value

namespace Rule

variable (rule : Rule)

/-- The protocols that are chosen for the layers of a rule. -/
def selection : Layer2Kind × Layer3Kind × Layer4Kind :=
  (rule.layer2.kind, rule.layer3.kind, rule.layer4.kind)

/-- What a field is compared with, if the rule has it. -/
def get? : (field : Field) → Option field.Value
  | .layer2 field => rule.layer2.get? field
  | .layer3 field => rule.layer3.get? field
  | .layer4 field => rule.layer4.get? field

/-- The rule with a field replaced, if it has it. -/
def put : (field : Field) → field.Value → Rule
  | .layer2 field, value => { rule with layer2 := rule.layer2.put field value }
  | .layer3 field, value => { rule with layer3 := rule.layer3.put field value }
  | .layer4 field, value => { rule with layer4 := rule.layer4.put field value }

@[simp] lemma raw_put (field : Field) (value : field.Value) :
    (rule.put field value).raw = rule.raw := by
  cases field <;> rfl

@[simp] lemma termination_put (field : Field) (value : field.Value) :
    (rule.put field value).termination = rule.termination := by
  cases field <;> rfl

@[simp] lemma selection_put (field : Field) (value : field.Value) :
    (rule.put field value).selection = rule.selection := by
  cases field <;> simp [put, selection]

lemma get?_put_self (field : Field) (value : field.Value) :
    (rule.put field value).get? field = (rule.get? field).map fun _ => value := by
  cases field with
  | layer2 field => exact rule.layer2.get?_put_self field value
  | layer3 field => exact rule.layer3.get?_put_self field value
  | layer4 field => exact rule.layer4.get?_put_self field value

lemma get?_put_of_ne {field other : Field} (hne : other ≠ field) (value : field.Value) :
    (rule.put field value).get? other = rule.get? other := by
  cases field with
  | layer2 field =>
    cases other with
    | layer2 other => exact rule.layer2.get?_put_of_ne (fun heq => hne (congrArg _ heq)) value
    | layer3 other => rfl
    | layer4 other => rfl
  | layer3 field =>
    cases other with
    | layer2 other => rfl
    | layer3 other => exact rule.layer3.get?_put_of_ne (fun heq => hne (congrArg _ heq)) value
    | layer4 other => rfl
  | layer4 field =>
    cases other with
    | layer2 other => rfl
    | layer3 other => rfl
    | layer4 other => exact rule.layer4.get?_put_of_ne (fun heq => hne (congrArg _ heq)) value

/-- A rule has nothing but its protocols and their fields, raw bytes and a termination. -/
theorem eq_of_get? {a b : Rule} (hselection : a.selection = b.selection)
    (h : ∀ field, a.get? field = b.get? field) (hraw : a.raw = b.raw)
    (htermination : a.termination = b.termination) : a = b := by
  obtain ⟨hkind2, hkind3, hkind4⟩ : a.layer2.kind = b.layer2.kind ∧
      a.layer3.kind = b.layer3.kind ∧ a.layer4.kind = b.layer4.kind := by
    simpa [selection] using hselection
  have hlayer2 := Layer2.eq_of_get? hkind2 fun field => h (.layer2 field)
  have hlayer3 := Layer3.eq_of_get? hkind3 fun field => h (.layer3 field)
  have hlayer4 := Layer4.eq_of_get? hkind4 fun field => h (.layer4 field)
  cases a
  cases b
  simp_all

lemma put_put_self (field : Field) (first second : field.Value) :
    (rule.put field first).put field second = rule.put field second := by
  refine eq_of_get? (by simp) (fun other => ?_) (by simp) (by simp)
  by_cases heq : other = field
  · subst heq
    simp [get?_put_self, Function.comp_def]
  · simp [get?_put_of_ne _ heq]

lemma put_comm {field other : Field} (hne : other ≠ field) (value : field.Value)
    (otherValue : other.Value) :
    (rule.put field value).put other otherValue = (rule.put other otherValue).put field value := by
  refine eq_of_get? (by simp) (fun third => ?_) (by simp) (by simp)
  by_cases hfield : third = field
  · subst hfield
    simp [get?_put_self, get?_put_of_ne _ hne.symm]
  · by_cases hother : third = other
    · subst hother
      simp [get?_put_self, get?_put_of_ne _ hne]
    · simp [get?_put_of_ne _ hfield, get?_put_of_ne _ hother]

/-! ## Changes of one field -/

/-- A rule that differs from another in what one field, which it has, is compared with. -/
structure Changed (field : Field) (value : field.Value) (now : Rule) : Prop where
  own : now.get? field = some value
  others : ∀ other, other ≠ field → now.get? other = rule.get? other
  selection : now.selection = rule.selection
  raw : now.raw = rule.raw
  termination : now.termination = rule.termination

variable {rule}

lemma changed_put {field : Field} (hfield : (rule.get? field).isSome) (value : field.Value) :
    rule.Changed field value (rule.put field value) where
  own := by
    obtain ⟨old, hold⟩ := Option.isSome_iff_exists.mp hfield
    rw [get?_put_self, hold]
    rfl
  others other hne := rule.get?_put_of_ne hne value
  selection := rule.selection_put field value
  raw := rule.raw_put field value
  termination := rule.termination_put field value

/-- There is one way to change a field, and nothing else. -/
lemma Changed.unique {field : Field} {value : field.Value} {a b : Rule}
    (ha : rule.Changed field value a) (hb : rule.Changed field value b) : a = b := by
  refine eq_of_get? (ha.selection.trans hb.selection.symm) (fun other => ?_)
    (ha.raw.trans hb.raw.symm) (ha.termination.trans hb.termination.symm)
  -- Both show the new value in the field, and in any other one what the rule shows there.
  by_cases heq : other = field
  · rw [heq, ha.own, hb.own]
  · rw [ha.others other heq, hb.others other heq]

end Rule

end PacketSteering
