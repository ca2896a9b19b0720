import PacketSteering.Proofs.Configuration.Steering

/-!
# What steering depends on

A configuration looks at a key only where its streams send it.  A partial expression has a term for
every value of every dimension, but a term that does not care never holds, present or absent, so two
keys that agree in what an expression mentions are alike to it (`PartialExpression.holds_congr`).
Going up from terms to partial expressions, from there to stream expressions, and from there to the
first stream that accepts the key, two keys that agree in all that the members of the streams
mention are steered alike (`Agree.steerVirtual_eq`).

A filter in a slot that no member mentions therefore has no say, whatever the card reports for the
physical slot that carries it (`steer_depends_on_mentions`).  For a configuration that leaves the
swap slot alone this is what a live replacement counts on (`Ignores.steerVirtual_congr`).
-/

namespace PacketSteering

/-! ## Terms and partial expressions -/

@[simp] lemma Term.holds_dontCare (present : Bool) : Term.dontCare.holds present = false := rfl

/-- A term that takes part sees the difference between present and absent; any other does not. -/
lemma Term.holds_congr {term : Term} {present present' : Bool}
    (h : term ≠ .dontCare → present = present') : term.holds present = term.holds present' := by
  by_cases hterm : term = .dontCare
  · rw [hterm, holds_dontCare, holds_dontCare]
  · rw [h hterm]

namespace PartialExpression

variable {expression : PartialExpression}

/-- An expression mentions a value if its term for it takes part. -/
def Mentions (expression : PartialExpression) (dim : Dimension) (value : Fin dim.size) : Prop :=
  (expression.terms dim).get value ≠ .dontCare

lemma not_mentions_iff {dim : Dimension} {value : Fin dim.size} :
    ¬ expression.Mentions dim value ↔ (expression.terms dim).get value = .dontCare :=
  not_not

/-- An expression does not care exactly if it mentions nothing. -/
lemma isDontCare_iff :
    expression.isDontCare = true ↔
      ∀ (dim : Dimension) (value : Fin dim.size), ¬ expression.Mentions dim value := by
  have hterms {n : ℕ} (terms : Vector Term n) :
      terms.toList.all (· == .dontCare) = true ↔ ∀ value, terms.get value = .dontCare := by
    rw [List.all_eq_true]
    simp only [beq_iff_eq, Vector.mem_toList_iff, Vector.mem_iff_getElem]
    exact ⟨fun h value => h _ ⟨value, value.isLt, rfl⟩, fun h _ ⟨i, hi, heq⟩ => heq ▸ h ⟨i, hi⟩⟩
  simp only [isDontCare, List.all_append, Bool.and_eq_true, hterms, not_mentions_iff]
  constructor
  · rintro ⟨⟨⟨hfilters, hinterfaces⟩, hbits⟩, hbuckets⟩ dim
    cases dim with
    | filter => exact hfilters
    | interface => exact hinterfaces
    | hlbBit => exact hbits
    | hlbBucket => exact hbuckets
  · exact fun h => ⟨⟨⟨h .filter, h .interface⟩, h .hlbBit⟩, h .hlbBucket⟩

lemma filters_congr {key key' : TableKey}
    (h : ∀ slot : Fin filterCount, expression.Mentions .filter slot →
      key.hit slot = key'.hit slot) :
    (fun i (_ : i < filterCount) => expression.filters[i].holds (key.hit i)) =
      fun i (_ : i < filterCount) => expression.filters[i].holds (key'.hit i) := by
  funext i hi
  exact Term.holds_congr (h ⟨i, hi⟩)

lemma filters_eq_false (h : ∀ slot, ¬ expression.Mentions .filter slot) (key : TableKey) :
    (Nat.any filterCount fun i _ => expression.filters[i].holds (key.hit i)) = false := by
  have hterm : ∀ (i : ℕ) (hi : i < filterCount), expression.filters[i] = .dontCare :=
    fun i hi => not_mentions_iff.mp (h ⟨i, hi⟩)
  simp [Nat.any_eq_finRange_any, hterm]

lemma interfaces_eq_false (h : ∀ value, ¬ expression.Mentions .interface value)
    (interface : UInt8) :
    (Nat.any interfaceCount fun i _ =>
      expression.interfaces[i].holds (i == interface.toNat)) = false := by
  have hterm : ∀ (i : ℕ) (hi : i < interfaceCount), expression.interfaces[i] = .dontCare :=
    fun i hi => not_mentions_iff.mp (h ⟨i, hi⟩)
  simp [Nat.any_eq_finRange_any, hterm]

lemma holdsForHlb_eq_false (hbits : ∀ bit, ¬ expression.Mentions .hlbBit bit)
    (hbuckets : ∀ bucket, ¬ expression.Mentions .hlbBucket bucket) (hlb : HlbOutcome) :
    expression.holdsForHlb hlb = false := by
  have hbit : ∀ (i : ℕ) (hi : i < hlbBitCount), expression.hlb[i] = .dontCare :=
    fun i hi => not_mentions_iff.mp (hbits ⟨i, hi⟩)
  have hbucket : ∀ (i : ℕ) (hi : i < hashBucketLimit), expression.hlbHash[i] = .dontCare :=
    fun i hi => not_mentions_iff.mp (hbuckets ⟨i, hi⟩)
  cases hlb with
  | bits value => simp [holdsForHlb, Nat.any_eq_finRange_any, hbit]
  | hash bucket buckets => simp [holdsForHlb, Nat.any_eq_finRange_any, hbucket]

/-- An expression holds if a term of one of the three rows does.  That an expression without terms
that take part is sorted out beforehand makes no difference. -/
theorem holds_eq (expression : PartialExpression) (key : TableKey) :
    expression.holds key =
      ((Nat.any filterCount fun i _ => expression.filters[i].holds (key.hit i)) ||
        (Nat.any interfaceCount fun i _ =>
          expression.interfaces[i].holds (i == key.interface.toNat)) ||
        expression.holdsForHlb key.hlb) := by
  rw [holds]
  split
  case isTrue h =>
    have hnone := isDontCare_iff.mp h
    rw [filters_eq_false (hnone .filter), interfaces_eq_false (hnone .interface),
      holdsForHlb_eq_false (hnone .hlbBit) (hnone .hlbBucket)]
    rfl
  case isFalse => rfl

lemma holds_congr {key key' : TableKey}
    (hhit : ∀ slot : Fin filterCount, expression.Mentions .filter slot →
      key.hit slot = key'.hit slot)
    (hinterface : key.interface = key'.interface ∨
      ∀ value, ¬ expression.Mentions .interface value)
    (hhlb : key.hlb = key'.hlb ∨ (∀ bit, ¬ expression.Mentions .hlbBit bit) ∧
      ∀ bucket, ¬ expression.Mentions .hlbBucket bucket) :
    expression.holds key = expression.holds key' := by
  have hinterfaces :
      (Nat.any interfaceCount fun i _ =>
        expression.interfaces[i].holds (i == key.interface.toNat)) =
      Nat.any interfaceCount fun i _ =>
        expression.interfaces[i].holds (i == key'.interface.toNat) := by
    rcases hinterface with heq | hnone
    · rw [heq]
    · rw [interfaces_eq_false hnone, interfaces_eq_false hnone]
  have houtcome : expression.holdsForHlb key.hlb = expression.holdsForHlb key'.hlb := by
    rcases hhlb with heq | ⟨hbits, hbuckets⟩
    · rw [heq]
    · rw [holdsForHlb_eq_false hbits hbuckets, holdsForHlb_eq_false hbits hbuckets]
  rw [holds_eq, holds_eq, filters_congr hhit, hinterfaces, houtcome]

end PartialExpression

/-! ## Stream expressions -/

lemma StreamExpression.holdsVirtual_congr {expression : StreamExpression}
    {partials : Array PartialExpression} {key key' : TableKey}
    (h : ∀ id ∈ expression.positive ++ expression.negated,
      memberHolds partials key id = memberHolds partials key' id) :
    expression.holdsVirtual partials key = expression.holdsVirtual partials key' := by
  have hpositive : expression.positive.all (memberHolds partials key) =
      expression.positive.all (memberHolds partials key') := by
    rw [Bool.eq_iff_iff, List.all_eq_true, List.all_eq_true]
    exact forall₂_congr fun id hid => by rw [h id (List.mem_append_left _ hid)]
  have hnegated : expression.negated.any (memberHolds partials key) =
      expression.negated.any (memberHolds partials key') := by
    rw [Bool.eq_iff_iff, List.any_eq_true, List.any_eq_true]
    exact exists_congr fun id => and_congr_right fun hid => by
      rw [h id (List.mem_append_right _ hid)]
  rw [holdsVirtual, holdsVirtual, hpositive, hnegated]

/-! ## Configurations -/

namespace Configuration

variable {config : Configuration}

/-- A partial expression that some stream has as a member, required or excluded. -/
def IsMember (config : Configuration) (member : PartialExpression) : Prop :=
  ∃ expression ∈ config.streams, ∃ id ∈ expression.positive ++ expression.negated,
    config.partials[id.index]? = some member

lemma IsMember.mem_partials {member : PartialExpression} (h : config.IsMember member) :
    member ∈ config.partials := by
  obtain ⟨-, -, id, -, hmember⟩ := h
  exact Array.mem_of_getElem? hmember

/-- A configuration mentions what the members of its streams mention. -/
def Mentions (config : Configuration) (dim : Dimension) (value : Fin dim.size) : Prop :=
  ∃ member, config.IsMember member ∧ member.Mentions dim value

/-- Two keys, numbered by virtual slot, agree in all that a configuration mentions. -/
structure Agree (config : Configuration) (key key' : TableKey) : Prop where
  hit : ∀ slot : Fin filterCount, config.Mentions .filter slot → key.hit slot = key'.hit slot
  interface : key.interface = key'.interface ∨ ∀ value, ¬ config.Mentions .interface value
  hlb : key.hlb = key'.hlb ∨
    (∀ bit, ¬ config.Mentions .hlbBit bit) ∧ ∀ bucket, ¬ config.Mentions .hlbBucket bucket

lemma Agree.holds_eq {key key' : TableKey} (h : config.Agree key key')
    {member : PartialExpression} (hmember : config.IsMember member) :
    member.holds key = member.holds key' := by
  have hmentions : ∀ {dim : Dimension} {value : Fin dim.size},
      ¬ config.Mentions dim value → ¬ member.Mentions dim value :=
    fun hnot hmentions => hnot ⟨member, hmember, hmentions⟩
  apply PartialExpression.holds_congr
  · exact fun slot hslot => h.hit slot ⟨member, hmember, hslot⟩
  · exact h.interface.imp_right fun hnone value => hmentions (hnone value)
  · exact h.hlb.imp_right fun ⟨hbits, hbuckets⟩ =>
      ⟨fun bit => hmentions (hbits bit), fun bucket => hmentions (hbuckets bucket)⟩

/-- Two keys that agree in all that a configuration mentions are steered alike. -/
lemma Agree.steerVirtual_eq {key key' : TableKey} (h : config.Agree key key') :
    config.steerVirtual key = config.steerVirtual key' := by
  apply steerVirtual_congr
  intro i
  refine exists_congr fun expression => and_congr_right fun hexpression => ?_
  rw [StreamExpression.holdsVirtual_congr]
  intro id hid
  unfold StreamExpression.memberHolds
  cases hmember : config.partials[id.index]? with
  | none => rfl
  | some member =>
    exact h.holds_eq ⟨expression, Array.mem_of_getElem? hexpression, id, hid, hmember⟩

/-! ## Filters that nothing mentions -/

/-- No stream has a member with a term on a slot. -/
def Ignores (config : Configuration) (v : Fin filterCount) : Prop :=
  ∀ expression ∈ config.streams, ∀ id ∈ expression.positive ++ expression.negated,
    ∀ member, config.partials[id.index]? = some member → member.filters.get v = .dontCare

lemma ignores_iff {v : Fin filterCount} : config.Ignores v ↔ ¬ config.Mentions .filter v := by
  constructor
  · rintro hignores ⟨member, ⟨expression, hexpression, id, hid, hmember⟩, hmentions⟩
    exact hmentions (hignores expression hexpression id hid member hmember)
  · intro hnot expression hexpression id hid member hmember
    by_contra hterm
    exact hnot ⟨member, ⟨expression, hexpression, id, hid, hmember⟩, hterm⟩

lemma mentions_firstFilter {dim : Dimension} {value : Fin dim.size}
    (h : firstFilter.Mentions dim value) : dim = .filter ∧ value.val = 0 := by
  obtain ⟨member, hmember, hmentions⟩ := h
  have hpartials : ∀ dim : Dimension, ∀ member ∈ firstFilter.partials, ∀ value : Fin dim.size,
      (member.terms dim).get value ≠ .dontCare → dim = .filter ∧ value.val = 0 := by
    intro dim
    cases dim <;> decide
  exact hpartials dim member hmember.mem_partials value hmentions

lemma ignores_firstFilter : firstFilter.Ignores swapFin := by
  rw [ignores_iff]
  intro hmentions
  exact absurd (mentions_firstFilter hmentions).2 (by decide)

/-- Staging a rule leaves the streams and the partial expressions as they are. -/
lemma ignores_firstStaged : firstStaged.Ignores swapFin :=
  ignores_firstFilter

/-- A slot that no stream mentions does not change where a packet goes. -/
lemma Ignores.steerVirtual_congr {v : Fin filterCount}
    (h : config.Ignores v) {key key' : TableKey}
    (hhit : ∀ i < filterCount, i ≠ v.val → key.hit i = key'.hit i)
    (hinterface : key.interface = key'.interface) (hhlb : key.hlb = key'.hlb) :
    config.steerVirtual key = config.steerVirtual key' := by
  refine Agree.steerVirtual_eq ⟨fun slot hslot => ?_, Or.inl hinterface, Or.inl hhlb⟩
  refine hhit slot slot.isLt fun heq => ?_
  obtain rfl : slot = v := Fin.ext heq
  exact ignores_iff.mp h hslot

/-- A virtual slot is hit alike by hits that agree on the physical slots that carry it. -/
lemma hit_renumber_congr (slots : SlotMap) {key key' : TableKey} {v : Fin filterCount}
    (h : ∀ (slot : ℕ) (hslot : slot < filterCount), slots.virt[slot] = v.val →
      key.hit slot = key'.hit slot) :
    (slots.renumber key).hit v = (slots.renumber key').hit v := by
  rw [TableKey.hit, TableKey.hit, SlotMap.renumber, SlotMap.renumber, Bool.eq_iff_iff,
    SlotMap.testBit_toVirtual_iff, SlotMap.testBit_toVirtual_iff]
  refine exists₂_congr fun slot hslot => and_congr_right fun hvirt => ?_
  exact Bool.eq_iff_iff.mp (h slot hslot hvirt)

/-- **Steering depends only on what the streams mention.** For every configuration and every slot
map, two keys that agree in all that the members of the streams mention are steered alike; and of a
filter that no member mentions, whatever the card reports for the physical slots that carry it
leaves the answer as it is. -/
theorem steer_depends_on_mentions (config : Configuration) (slots : SlotMap) :
    (∀ key key' : TableKey, config.Agree (slots.renumber key) (slots.renumber key') →
      config.steer slots key = config.steer slots key') ∧
    ∀ v : Fin filterCount, ¬ config.Mentions .filter v → ∀ (key : TableKey) (hits : UInt8),
      (∀ (slot : ℕ) (hslot : slot < filterCount), slots.virt[slot] ≠ v.val →
        hits.toNat.testBit slot = key.hit slot) →
      config.steer slots { key with filters := hits } = config.steer slots key := by
  refine ⟨fun key key' hagree => hagree.steerVirtual_eq, fun v hnot key hits hhits => ?_⟩
  refine (ignores_iff.mpr hnot).steerVirtual_congr (fun i hi hne => ?_) rfl rfl
  refine hit_renumber_congr slots (v := ⟨i, hi⟩) fun slot hslot hvirt => ?_
  exact hhits slot hslot (hvirt ▸ hne)

/-- The configuration to try things on, with the first filter and the swap slot carried in each
other's place, looks at the last physical slot only: neither the interface nor the HLB outcome nor
a hit of another slot changes where a packet goes. -/
theorem steer_depends_on_mentions_firstFilter :
    firstFilter.steer (SlotMap.identity.exchange 0 7) ⟨0x80, 0, .bits 0⟩ = some 0 ∧
      firstFilter.steer (SlotMap.identity.exchange 0 7) ⟨0x82, 3, .hash 1 4⟩ = some 0 ∧
      firstFilter.steer (SlotMap.identity.exchange 0 7) ⟨0x81, 0, .bits 0⟩ = some 0 := by
  obtain ⟨hkeys, hslots⟩ :=
    steer_depends_on_mentions firstFilter (SlotMap.identity.exchange 0 7)
  have hsteer : firstFilter.steer (SlotMap.identity.exchange 0 7) ⟨0x80, 0, .bits 0⟩ = some 0 := by
    decide +kernel
  refine ⟨hsteer, (hkeys _ _ ⟨fun slot hslot => ?_, Or.inr fun value hvalue => ?_,
    Or.inr ⟨fun bit hbit => ?_, fun bucket hbucket => ?_⟩⟩).trans hsteer,
    (hslots swapFin (ignores_iff.mp ignores_firstFilter) ⟨0x80, 0, .bits 0⟩ 0x81 ?_).trans hsteer⟩
  · rw [(mentions_firstFilter hslot).2]
    decide +kernel
  · cases (mentions_firstFilter hvalue).1
  · cases (mentions_firstFilter hbit).1
  · cases (mentions_firstFilter hbucket).1
  · decide +kernel

end Configuration

end PacketSteering
