import PacketSteering.Proofs.Pattern
import PacketSteering.Proofs.Rule.Bounds
import PacketSteering.Proofs.Rule.Termination
import PacketSteering.Rule.Text

/-!
# What the text of a rule hides

The text of a rule lists the fields that the rule compares, and the pattern of the rule is made of
their patches.  The two walks over the layers pass over the same fields: the listings of a header
are empty exactly if its patches are blank (`Layer4.listed_eq_nil_iff` and the lemmas before it).
An encapsulation other than plain Ethernet is always listed.

No listing is as short as the word `any`, so that the word stands for an empty list and for nothing
else (`Rule.text_eq_any_iff`).  So a rule that is shown as `any` compares nothing, and a rule on
plain Ethernet that compares a bit of anything is shown as what it is
(`Rule.shown_as_any_iff_compares_nothing`).
-/

namespace PacketSteering

/-! ## Fields left out -/

section

variable {α : Type} {width : ℕ} [MaskBits α]

@[simp] lemma Masked.listed_eq_nil_iff [DecidableEq α] {name : String} {render : α → String}
    {field : Masked α} : field.listed name render = [] ↔ field.mask = MaskBits.none := by
  simp [listed, isIgnored]

/-- The patch of a field is blank exactly if no bit of the field is compared. -/
@[simp] lemma Patch.isBlank_ofMasked_iff [WireBytes α] [hwire : LawfulWire α width] {i : ℕ}
    {field : Masked α} : (Patch.ofMasked i field).IsBlank ↔ field.mask = MaskBits.none := by
  have hmask : (Patch.ofMasked i field).bytes.map Prod.snd = WireBytes.bytes field.mask := by
    apply List.map_snd_zip
    rw [hwire.length_bytes, hwire.length_bytes]
  have hblank : (Patch.ofMasked i field).IsBlank ↔
      ∀ byte ∈ WireBytes.bytes field.mask, byte = 0 := by
    rw [← hmask, List.forall_mem_map]
    rfl
  rw [hblank, ← hwire.bytes_injective.eq_iff, hwire.bytes_none, List.eq_replicate_iff]
  exact (and_iff_right (hwire.length_bytes _)).symm

end

lemma EtherFields.listed_eq_nil_iff {ether : EtherFields} :
    ether.listed = [] ↔ ∀ patch ∈ (Layer2.ethernet ether).patches, patch.IsBlank := by
  have hetherType : (if ether.etherType.isIgnored then []
      else ["ether.type=0x" ++ Hex.upperText 4 ether.etherType.value.toNat]) = [] ↔
      ether.etherType.mask = MaskBits.none := by
    simp [Masked.isIgnored]
  simp [listed, Layer2.patches, addressPatches, hetherType]

/-- Nothing is listed of an encapsulation exactly if it is plain Ethernet of which nothing is
compared. -/
lemma Layer2.listed_eq_nil_iff {layer2 : Layer2} :
    layer2.listed = [] ↔ layer2.kind = .ethernet ∧ ∀ patch ∈ layer2.patches, patch.IsBlank := by
  cases layer2 with
  | ethernet ether => simp [listed, kind, EtherFields.listed_eq_nil_iff]
  | ethernetVlan ether vlanId => simp [listed, kind]
  | pos header => simp [listed, kind]

lemma Layer3.listedProtocol_eq_nil_iff {protocol : Masked UInt8} :
    listedProtocol protocol = [] ↔ protocol.mask = MaskBits.none := by
  rw [listedProtocol]
  split
  case isTrue hfull =>
    -- A protocol that is compared in full is listed by its name.
    rw [hfull]
    exact iff_of_false (List.cons_ne_nil _ _) (by decide)
  case isFalse => exact Masked.listed_eq_nil_iff

lemma Layer3.listed_ipv4_eq_nil_iff {ip : Ipv4Fields} (start : ℕ) :
    (Layer3.ipv4 ip).listed = [] ↔ ∀ patch ∈ ip.patches start, patch.IsBlank := by
  have hfragments : (if ip.rejectFragments then ["ip.nofrag"] else []) = [] ↔
      ∀ patch ∈ if ip.rejectFragments then [Patch.ofMasked (start + 6) Ipv4Fields.unfragmented]
        else [], patch.IsBlank := by
    cases ip.rejectFragments with
    | false => simp
    | true =>
      have hbits : Ipv4Fields.unfragmented.mask ≠ MaskBits.none := by decide
      simp [hbits]
  rw [listed, Ipv4Fields.patches, List.append_eq_nil_iff, hfragments, List.forall_mem_append,
    List.forall_mem_append]
  simp only [List.append_eq_nil_iff, listedProtocol_eq_nil_iff, Masked.listedByte,
    Masked.listed_eq_nil_iff, List.forall_mem_cons, List.not_mem_nil, false_implies, implies_true,
    and_true, Patch.isBlank_ofMasked_iff]
  -- The protocol is listed first, and its patch comes last.
  tauto

lemma Layer4.listedPorts_eq_nil_iff {ports : PortFields} (start : ℕ) :
    listedPorts ports = [] ↔ ∀ patch ∈ ports.patches start, patch.IsBlank := by
  simp [listedPorts, PortFields.patches, Masked.listedWord]

lemma Layer4.listed_eq_nil_iff {layer4 : Layer4} (start : ℕ) :
    layer4.listed = [] ↔ ∀ patch ∈ layer4.patches start, patch.IsBlank := by
  cases layer4 with
  | none => simp [listed, patches]
  | tcp fields =>
    have hflags : listedFlags fields.flags = [] ↔ fields.flags.mask = MaskBits.none := by
      simp [listedFlags, Masked.isIgnored]
    rw [listed, patches, List.append_eq_nil_iff, List.forall_mem_append,
      List.forall_mem_singleton, listedPorts_eq_nil_iff start, hflags, Patch.isBlank_ofMasked_iff]
  | udp ports => exact listedPorts_eq_nil_iff start
  | icmp fields => simp [listed, patches, Masked.listedByte]

/-- Nothing is listed of a well-formed rule exactly if it is one on plain Ethernet with blank
patches. -/
lemma Rule.WellFormed.listed_eq_nil_iff {rule : Rule} (h : rule.WellFormed) :
    rule.listed = [] ↔
      rule.layer2.kind = .ethernet ∧ ∀ patch ∈ rule.fieldPatches, patch.IsBlank := by
  have hnetwork := h.layer3_ne_none
  rw [listed, List.append_eq_nil_iff, List.append_eq_nil_iff, Layer2.listed_eq_nil_iff,
    fieldPatches, List.forall_mem_append]
  cases hlayer3 : rule.layer3 with
  | none =>
    -- Without a network protocol there is no transport protocol whose fields could be listed.
    have hlayer4 : rule.layer4 = .none := by
      by_contra hne
      exact hnetwork hne hlayer3
    simp [hlayer4, Layer3.listed, Layer4.listed]
  | ipv4 ip =>
    rw [Layer3.listed_ipv4_eq_nil_iff rule.layer2.networkOffset,
      Layer4.listed_eq_nil_iff (rule.layer2.networkOffset + ip.transportOffset),
      List.forall_mem_append, and_assoc, and_assoc]

/-! ## The word for an empty list -/

/-- A text that starts with a longer one than the word for an empty list. -/
lemma length_any_lt_append {start : String} (h : "any".length < start.length) (rest : String) :
    "any".length < (start ++ rest).length := by
  rw [String.length_append]
  exact Nat.lt_add_right _ h

/-- Every listing is longer than the word for an empty list. -/
def LongerThanAny (listings : List String) : Prop :=
  ∀ listing ∈ listings, "any".length < listing.length

namespace LongerThanAny

lemma nil : LongerThanAny [] :=
  nofun

lemma single {listing : String} (h : "any".length < listing.length) : LongerThanAny [listing] :=
  List.forall_mem_singleton.mpr h

lemma append {first second : List String} (h : LongerThanAny first) (h' : LongerThanAny second) :
    LongerThanAny (first ++ second) :=
  List.forall_mem_append.mpr ⟨h, h'⟩

lemma ite {first second : List String} (h : LongerThanAny first) (h' : LongerThanAny second)
    (c : Prop) [Decidable c] : LongerThanAny (if c then first else second) := by
  split
  case isTrue => exact h
  case isFalse => exact h'

end LongerThanAny

lemma Masked.longer_listed {α : Type} [MaskBits α] [DecidableEq α] {name : String}
    (h : "any".length < name.length) (render : α → String) (field : Masked α) :
    LongerThanAny (field.listed name render) :=
  LongerThanAny.nil.ite (LongerThanAny.single (length_any_lt_append (length_any_lt_append h _) _)) _

lemma EtherFields.longer_listed (ether : EtherFields) : LongerThanAny ether.listed :=
  ((Masked.longer_listed (by decide) _ _).append (Masked.longer_listed (by decide) _ _)).append
    (LongerThanAny.nil.ite (LongerThanAny.single (length_any_lt_append (by decide) _)) _)

lemma Layer2.longer_listed (layer2 : Layer2) : LongerThanAny layer2.listed := by
  cases layer2 with
  | ethernet ether => exact ether.longer_listed
  | ethernetVlan ether vlanId =>
    exact ether.longer_listed.append (LongerThanAny.single (length_any_lt_append (by decide) _))
  | pos header => exact LongerThanAny.single (length_any_lt_append (by decide) _)

lemma Layer3.longer_listed (layer3 : Layer3) : LongerThanAny layer3.listed := by
  cases layer3 with
  | none => exact LongerThanAny.nil
  | ipv4 ip =>
    have hprotocol : LongerThanAny (listedProtocol ip.protocol) :=
      (LongerThanAny.single (length_any_lt_append (by decide) _)).ite
        (Masked.longer_listed (by decide) _ _) _
    have hfragments : LongerThanAny (if ip.rejectFragments then ["ip.nofrag"] else []) :=
      (LongerThanAny.single (by decide)).ite LongerThanAny.nil _
    exact (((hprotocol.append (Masked.longer_listed (by decide) _ _)).append
      (Masked.longer_listed (by decide) _ _)).append
      (Masked.longer_listed (by decide) _ _)).append hfragments

lemma Layer4.longer_listedPorts (ports : PortFields) : LongerThanAny (listedPorts ports) :=
  (Masked.longer_listed (by decide) _ _).append (Masked.longer_listed (by decide) _ _)

lemma Layer4.longer_listed (layer4 : Layer4) : LongerThanAny layer4.listed := by
  cases layer4 with
  | none => exact LongerThanAny.nil
  | tcp fields =>
    have hflags : LongerThanAny (listedFlags fields.flags) :=
      LongerThanAny.nil.ite (LongerThanAny.single (length_any_lt_append (length_any_lt_append
        (length_any_lt_append (by decide) _) _) _)) _
    exact (longer_listedPorts fields.ports).append hflags
  | udp ports => exact longer_listedPorts ports
  | icmp fields =>
    exact (Masked.longer_listed (by decide) _ _).append (Masked.longer_listed (by decide) _ _)

/-- Listings put together are not the word for an empty list. -/
lemma LongerThanAny.intercalate_ne {listings : List String} (h : LongerThanAny listings)
    (hne : listings ≠ []) (separator : String) : separator.intercalate listings ≠ "any" := by
  obtain ⟨first, rest, rfl⟩ := List.exists_cons_of_ne_nil hne
  have hfirst := h first List.mem_cons_self
  have hle : first.length ≤ (separator.intercalate (first :: rest)).length := by
    cases rest with
    | nil => rw [String.intercalate_singleton]
    | cons second rest =>
      rw [String.intercalate_cons_cons, String.length_append, String.length_append]
      omega
  intro heq
  rw [heq] at hle
  exact absurd hfirst (Nat.not_lt.mpr hle)

namespace Rule

lemma longer_listed (rule : Rule) : LongerThanAny rule.listed :=
  (rule.layer2.longer_listed.append rule.layer3.longer_listed).append rule.layer4.longer_listed

/-- The word is the text of the rules of which nothing is listed. -/
lemma text_eq_any_iff {rule : Rule} :
    rule.text = "any" ↔ rule.raw = none ∧ rule.listed = [] := by
  rw [text]
  cases rule.raw with
  | some raw =>
    have hlonger : "any".length < ("raw[" ++ toString raw.value.length ++ "]").length :=
      length_any_lt_append (length_any_lt_append (by decide) _) _
    refine iff_of_false (fun heq => ?_) fun h => nomatch h.1
    exact absurd (congrArg String.length heq) (Nat.ne_of_gt hlonger)
  | none =>
    cases hlisted : rule.listed with
    | nil => simp
    | cons first rest =>
      have hlonger := rule.longer_listed
      rw [hlisted] at hlonger
      refine iff_of_false ?_ fun h => nomatch h.2
      exact hlonger.intercalate_ne (List.cons_ne_nil _ _) _

section

variable {rule : Rule}

lemma isRaw_eq_false_iff : rule.isRaw = false ↔ rule.raw = none := by
  rw [isRaw, Option.isSome_eq_false_iff, Option.isNone_iff_eq_none]

/-- Out of raw mode the patches of a rule are those of its fields. -/
lemma patches_of_isRaw_eq_false (hraw : rule.isRaw = false) : rule.patches = rule.fieldPatches := by
  rw [patches, isRaw_eq_false_iff.mp hraw]

/-- The pattern of a rule has no mask bit exactly if the patches of the rule are blank. -/
lemma WellFormed.mask_eq_zero_iff (h : rule.WellFormed) :
    (∀ (i : ℕ) (hi : i < matchDepth), rule.pattern.mask[i] = 0) ↔
      ∀ patch ∈ rule.patches, patch.IsBlank :=
  Pattern.mask_ofPatches_eq_zero_iff h.within rule.termination

/-- The word is the text of the rules on fields whose frames are plain Ethernet and whose pattern
has no mask bit. -/
lemma WellFormed.text_eq_any_iff (h : rule.WellFormed) :
    rule.text = "any" ↔ rule.isRaw = false ∧ rule.layer2.kind = .ethernet ∧
      ∀ (i : ℕ) (hi : i < matchDepth), rule.pattern.mask[i] = 0 := by
  rw [Rule.text_eq_any_iff, ← isRaw_eq_false_iff, h.mask_eq_zero_iff]
  refine and_congr_right fun hfields => ?_
  rw [h.listed_eq_nil_iff, patches_of_isRaw_eq_false hfields]

/-- A rule that asks of the packets not to be fragments, or compares a bit of the protocol number,
of the header length or of the TCP flags, leaves a mask bit. -/
lemma WellFormed.exists_mask_ne_zero (h : rule.WellFormed) (hraw : rule.isRaw = false)
    {ip : Ipv4Fields} (hlayer3 : rule.layer3 = .ipv4 ip)
    (hcompared : ip.rejectFragments = true ∨ ip.protocol.mask ≠ 0 ∨ ip.ihl.mask ≠ 0 ∨
      ∃ tcp, rule.layer4 = .tcp tcp ∧ tcp.flags.mask ≠ .none) :
    ∃ (i : ℕ) (hi : i < matchDepth), rule.pattern.mask[i] ≠ 0 := by
  by_contra! hzero
  have hblank := h.mask_eq_zero_iff.mp hzero
  rw [patches_of_isRaw_eq_false hraw, fieldPatches, hlayer3, List.forall_mem_append,
    List.forall_mem_append] at hblank
  obtain ⟨-, hnetwork, htransport⟩ := hblank
  simp only [Ipv4Fields.patches, List.forall_mem_append, List.forall_mem_cons, List.not_mem_nil,
    false_implies, implies_true, and_true, Patch.isBlank_ofMasked_iff] at hnetwork
  obtain ⟨⟨⟨hihl, -, -⟩, hfragments⟩, hprotocol⟩ := hnetwork
  rcases hcompared with hreject | hbits | hbits | ⟨tcp, hlayer4, hbits⟩
  · rw [hreject, if_pos rfl, List.forall_mem_singleton, Patch.isBlank_ofMasked_iff] at hfragments
    exact absurd hfragments (by decide)
  · exact hbits hprotocol
  · exact hbits hihl
  · rw [hlayer4, Layer4.patches, List.forall_mem_append, List.forall_mem_singleton,
      Patch.isBlank_ofMasked_iff] at htransport
    exact hbits htransport.2

end

/-- **A rule that is shown as `any` really matches anything.** For every rule that steps lead to,
refused steps included: its text is the word exactly if it is not in raw mode, is on plain Ethernet
and has a pattern without a mask bit.  So whatever the card and the slot that it is written to, it
matches every frame; and a rule that compares any bit at all is shown as something else, be it only
that packets are no fragments, a part of the protocol number, the header length or TCP flags. -/
theorem shown_as_any_iff_compares_nothing {rule : Rule} (h : rule.Reachable) :
    (rule.text = "any" ↔ rule.isRaw = false ∧ rule.layer2.kind = .ethernet ∧
        ∀ (i : ℕ) (hi : i < matchDepth), rule.pattern.mask[i] = 0) ∧
      (rule.text = "any" → ∀ (card : Card) (slot : Fin filterCount) (frame : Array UInt8),
        rule.pattern.hits frame = true ∧ (card.held slot rule.pattern).hits frame = true) ∧
      (∀ (i : ℕ) (hi : i < matchDepth), rule.pattern.mask[i] ≠ 0 → rule.text ≠ "any") ∧
      ∀ ip, rule.isRaw = false → rule.layer3 = .ipv4 ip →
        ip.rejectFragments = true ∨ ip.protocol.mask ≠ 0 ∨ ip.ihl.mask ≠ 0 ∨
          (∃ tcp, rule.layer4 = .tcp tcp ∧ tcp.flags.mask ≠ .none) →
        (∃ (i : ℕ) (hi : i < matchDepth), rule.pattern.mask[i] ≠ 0) ∧ rule.text ≠ "any" := by
  have hwell := h.wellFormed
  have hshown := hwell.text_eq_any_iff
  have hnever (i : ℕ) (hi : i < matchDepth) (hbits : rule.pattern.mask[i] ≠ 0) :
      rule.text ≠ "any" := fun hany => hbits ((hshown.mp hany).2.2 i hi)
  refine ⟨hshown, fun hany card slot frame => ?_, hnever, fun ip hraw hlayer3 hcompared => ?_⟩
  · have hhits := Pattern.hits_of_mask_eq_zero (hshown.mp hany).2.2 frame
    exact ⟨hhits, (card.hits_held slot rule.pattern frame).trans hhits⟩
  · obtain ⟨i, hi, hbits⟩ := hwell.exists_mask_ne_zero hraw hlayer3 hcompared
    exact ⟨⟨i, hi, hbits⟩, hnever i hi hbits⟩

/-- The edits that choose TCP over IPv4, but then compare nothing of either. A VLAN identifier is
refused on the way. -/
def Edit.bareTcp : List Edit :=
  [.layer3 .ipv4, .layer4 .tcp, .ipProtocol .tcp 0, .ihl 0 0xF0, .vlanId 5 0xFFFF]

/-- One TCP flag more to compare. -/
def Edit.flaggedTcp : List Edit :=
  bareTcp ++ [.tcpFlags ⟨0x02⟩ ⟨0x02⟩]

/-- Layers that are chosen and not compared leave a rule that matches anything. With the flag it is
shown as something else. -/
theorem shown_as_any_bareTcp :
    (Edit.bareTcp.foldl attempt any).layer4 = .tcp TcpFields.ignored ∧
      (Edit.bareTcp.foldl attempt any).text = "any" ∧
      (∀ frame, (Edit.bareTcp.foldl attempt any).pattern.hits frame = true) ∧
      (∃ (i : ℕ) (hi : i < matchDepth), (Edit.flaggedTcp.foldl attempt any).pattern.mask[i] ≠ 0) ∧
      (Edit.flaggedTcp.foldl attempt any).text ≠ "any" := by
  obtain ⟨-, hmatches, -⟩ := shown_as_any_iff_compares_nothing ⟨Edit.bareTcp, rfl⟩
  obtain ⟨-, -, -, hflags⟩ := shown_as_any_iff_compares_nothing ⟨Edit.flaggedTcp, rfl⟩
  have hany : (Edit.bareTcp.foldl attempt any).text = "any" := rfl
  exact ⟨rfl, hany, fun frame => (hmatches hany .blank ⟨0, by decide⟩ frame).1,
    hflags _ rfl rfl (.inr (.inr (.inr ⟨_, rfl, by decide⟩)))⟩

end Rule

end PacketSteering
