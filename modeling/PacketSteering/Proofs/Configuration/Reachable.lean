import Mathlib.Data.Fintype.EquivFin
import Mathlib.Tactic.Common
import PacketSteering.Loader
import PacketSteering.Proofs.Register.Run

/-!
# Reachable configurations

A configuration is only ever made by `Configuration.new` and changed by edits and by replacing
rules on a card, whatever the card answers (`Configuration.Reachable`).  Edits and replacements
that are refused are included; they change nothing.

Along every such history the bookkeeping of slots stays in order (`Configuration.Slotted`): each
filter keeps its virtual slot, no two filters share a physical slot, all physical slots are slots
of the card, and the number of streams stays within its limits.  Edits never touch a slot, and a
replacement exchanges two of them.
-/

namespace PacketSteering.Configuration

/-! ## Histories -/

/-- The edits of a configuration. -/
inductive Edit
  | enable (slot : ℕ) (enabled : Bool)
  | rule (slot : ℕ) (edit : Rule.Edit)
  | addPartial
  | term (id : PartialId) (dim : Dimension) (index : ℕ) (term : Term)
  | addToStream (stream : ℕ) (id : PartialId) (invert : Bool)
  | clearStream (stream : ℕ)

/-- Makes one edit. -/
def apply (config : Configuration) : Edit → Except Fault Configuration
  | .enable slot enabled => config.setEnabled slot enabled
  | .rule slot edit => config.editRule slot edit
  | .addPartial => .ok config.addPartial.2
  | .term id dim index term => config.setTerm id dim index term
  | .addToStream stream id invert => config.addToStream stream id invert
  | .clearStream stream => config.clearStream stream

/-- The configuration after an edit, which is as it was if the edit is refused. -/
def attempt (config : Configuration) (edit : Edit) : Configuration :=
  match config.apply edit with
  | .ok edited => edited
  | .error _ => config

/-- The configurations that edits and replacements lead to. -/
inductive Reachable : Configuration → Prop
  | new {layout : TableLayout} {streams : ℕ} {config : Configuration}
      (h : Configuration.new layout streams = .ok config) : Reachable config
  | edit {config : Configuration} (h : Reachable config) (edit : Edit) :
      Reachable (config.attempt edit)
  | swap {config : Configuration} (h : Reachable config) {σ : Type} (device : Device σ)
      (state : σ) (memory : Memory) (target : ℕ) :
      Reachable ((Loader.swapFilter memory config target).run device state).result.2

/-! ## Slots in order -/

lemma mem_filters {config : Configuration} {filter : Filter} :
    filter ∈ config.filters.toList ↔ ∃ v, config.filters.get v = filter := by
  rw [Vector.mem_toList_iff, Vector.mem_iff_getElem]
  constructor
  · rintro ⟨slot, hslot, rfl⟩
    exact ⟨⟨slot, hslot⟩, rfl⟩
  · rintro ⟨v, rfl⟩
    exact ⟨v, v.isLt, rfl⟩

/-- The physical slot that carries a virtual one. -/
def physical (config : Configuration) (v : Fin filterCount) : ℕ :=
  (config.filters.get v).physicalSlot

/-- Every filter has its own virtual slot, the filters share the physical slots out among them, and
the number of streams is one that a configuration can have. -/
structure Slotted (config : Configuration) : Prop where
  virtual_eq : ∀ v : Fin filterCount, (config.filters.get v).virtualSlot = v
  physical_lt : ∀ v : Fin filterCount, config.physical v < filterCount
  physical_injective : Function.Injective config.physical
  streams_pos : 0 < config.streams.size
  streams_le : config.streams.size ≤ streamLimit

/-- Two virtual slots that exchange their physical slots keep the slots in order. -/
lemma Slotted.of_exchange {config config' : Configuration} (h : config.Slotted)
    {a b : Fin filterCount}
    (hvirtual : ∀ v : Fin filterCount,
      (config'.filters.get v).virtualSlot = (config.filters.get v).virtualSlot)
    (hphysical : ∀ v, config'.physical v = config.physical (Equiv.swap a b v))
    (hstreams : config'.streams.size = config.streams.size) : config'.Slotted where
  virtual_eq v := by rw [hvirtual, h.virtual_eq]
  physical_lt v := by rw [hphysical]; exact h.physical_lt _
  physical_injective c d hcd := by
    rw [hphysical, hphysical] at hcd
    exact (Equiv.swap a b).injective (h.physical_injective hcd)
  streams_pos := by rw [hstreams]; exact h.streams_pos
  streams_le := by rw [hstreams]; exact h.streams_le

/-- A configuration whose filters have the slots of another one is in order like that one. -/
lemma Slotted.of_same_slots {config config' : Configuration} (h : config.Slotted)
    (hvirtual : ∀ v : Fin filterCount,
      (config'.filters.get v).virtualSlot = (config.filters.get v).virtualSlot)
    (hphysical : ∀ v, config'.physical v = config.physical v)
    (hstreams : config'.streams.size = config.streams.size) : config'.Slotted := by
  refine h.of_exchange (a := swapFin) (b := swapFin) hvirtual (fun v => ?_) hstreams
  rw [Equiv.swap_self, Equiv.refl_apply, hphysical]

lemma Slotted.exists_physical {config : Configuration} (h : config.Slotted)
    {slot : ℕ} (hslot : slot < filterCount) : ∃ v, config.physical v = slot := by
  let phys (v : Fin filterCount) : Fin filterCount := ⟨config.physical v, h.physical_lt v⟩
  have hinjective : Function.Injective phys := by
    intro a b hab
    exact h.physical_injective (Fin.val_eq_of_eq hab)
  obtain ⟨v, hv⟩ := Finite.surjective_of_injective hinjective ⟨slot, hslot⟩
  exact ⟨v, Fin.val_eq_of_eq hv⟩

lemma slotted_new {layout : TableLayout} {streams : ℕ} {config : Configuration}
    (h : Configuration.new layout streams = .ok config) : config.Slotted := by
  unfold Configuration.new at h
  split at h
  · cases h
  · cases h
    have hblank (v : Fin filterCount) :
        (Vector.ofFn fun slot : Fin filterCount => Filter.blank slot).get v = .blank v :=
      Vector.getElem_ofFn v.isLt
    constructor
    · intro v
      rw [hblank]
      rfl
    · intro v
      rw [physical, hblank]
      exact v.isLt
    · intro a b hab
      rw [physical, physical, hblank, hblank] at hab
      exact Fin.ext hab
    · simp only [Array.size_replicate]
      omega
    · simp only [Array.size_replicate]
      omega

/-! ## Edits -/

/-- A chain of steps succeeds if its first step does, and the rest from there. -/
lemma exists_of_bind_eq_ok {α β : Type} {first : Except Fault α} {next : α → Except Fault β}
    {result : β} (h : first >>= next = .ok result) :
    ∃ value, first = .ok value ∧ next value = .ok result := by
  cases first with
  | error fault => cases h
  | ok value => exact ⟨value, rfl, h⟩

lemma get_set (filters : Vector Filter filterCount) {slot : ℕ} (hslot : slot < filterCount)
    (filter : Filter) (v : Fin filterCount) :
    (filters.set slot filter hslot).get v = if slot = v.val then filter else filters.get v :=
  Vector.getElem_set hslot v.isLt

lemma exists_of_modifyFilter_eq_ok {config config' : Configuration} {slot : ℕ}
    {change : Filter → Except Fault Filter} (hok : config.modifyFilter slot change = .ok config') :
    ∃ (hslot : slot < filterCount) (filter : Filter), change config.filters[slot] = .ok filter ∧
      config' = { config with filters := config.filters.set slot filter } := by
  unfold modifyFilter at hok
  split at hok
  case isFalse => cases hok
  case isTrue hslot =>
    obtain ⟨filter, hfilter, hok⟩ := exists_of_bind_eq_ok hok
    cases hok
    exact ⟨hslot, filter, hfilter, rfl⟩

lemma partialOf_eq_ok_iff {config : Configuration} {id : PartialId}
    {expression : PartialExpression} :
    config.partialOf id = .ok expression ↔ config.partials[id.index]? = some expression := by
  rw [partialOf]
  cases config.partials[id.index]? <;> simp

lemma stream_eq_ok_iff {config : Configuration} {index : ℕ} {expression : StreamExpression} :
    config.stream index = .ok expression ↔ config.streams[index]? = some expression := by
  rw [stream]
  cases config.streams[index]? <;> simp

/-- What an edit that is accepted changes: whether a filter is enabled, its rule, the partial
expressions, or the expression of one stream. -/
inductive Edited (config : Configuration) : Edit → Configuration → Prop
  | enable {slot : ℕ} (hslot : slot < filterCount) (enabled : Bool) :
      Edited config (.enable slot enabled)
        { config with filters := config.filters.set slot { config.filters[slot] with enabled } }
  | rule {slot : ℕ} (hslot : slot < filterCount) {edit : Rule.Edit} {rule : Rule}
      (hrule : config.filters[slot].rule.apply edit = .ok rule) :
      Edited config (.rule slot edit)
        { config with filters := config.filters.set slot { config.filters[slot] with rule } }
  | addPartial : Edited config .addPartial config.addPartial.2
  | term {id : PartialId} {dim : Dimension} {index : ℕ} {term : Term}
      {expression changed : PartialExpression}
      (hexpression : config.partials[id.index]? = some expression)
      (hchanged : expression.setTerm dim index term = .ok changed) :
      Edited config (.term id dim index term)
        { config with partials := config.partials.setIfInBounds id.index changed }
  | addToStream {index : ℕ} {id : PartialId} {member : PartialExpression}
      {expression : StreamExpression} (hmember : config.partials[id.index]? = some member)
      (hexpression : config.streams[index]? = some expression) (invert : Bool) :
      Edited config (.addToStream index id invert)
        { config with streams := config.streams.setIfInBounds index (expression.add id invert) }
  | clearStream {index : ℕ} {expression : StreamExpression}
      (hexpression : config.streams[index]? = some expression) :
      Edited config (.clearStream index)
        { config with streams := config.streams.setIfInBounds index .never }

/-- An accepted edit changes what it is about and nothing else. -/
theorem edited_of_apply {config config' : Configuration} {edit : Edit}
    (hok : config.apply edit = .ok config') : config.Edited edit config' := by
  cases edit with
  | enable slot enabled =>
    rw [Configuration.apply, setEnabled] at hok
    obtain ⟨hslot, filter, hfilter, rfl⟩ := exists_of_modifyFilter_eq_ok hok
    cases hfilter
    exact .enable hslot enabled
  | rule slot edit =>
    rw [Configuration.apply, editRule] at hok
    obtain ⟨hslot, filter, hfilter, rfl⟩ := exists_of_modifyFilter_eq_ok hok
    obtain ⟨rule, hrule, hfilter⟩ := exists_of_bind_eq_ok hfilter
    cases hfilter
    exact .rule hslot hrule
  | addPartial =>
    cases hok
    exact .addPartial
  | term id dim index term =>
    obtain ⟨expression, hexpression, hok⟩ := exists_of_bind_eq_ok hok
    obtain ⟨changed, hchanged, hok⟩ := exists_of_bind_eq_ok hok
    cases hok
    exact .term (partialOf_eq_ok_iff.mp hexpression) hchanged
  | addToStream index id invert =>
    obtain ⟨member, hmember, hok⟩ := exists_of_bind_eq_ok hok
    obtain ⟨expression, hexpression, hok⟩ := exists_of_bind_eq_ok hok
    cases hok
    exact .addToStream (partialOf_eq_ok_iff.mp hmember) (stream_eq_ok_iff.mp hexpression) invert
  | clearStream index =>
    obtain ⟨expression, hexpression, hok⟩ := exists_of_bind_eq_ok hok
    cases hok
    exact .clearStream (stream_eq_ok_iff.mp hexpression)

/-- A filter that is replaced by one with its slots leaves all slots alone. -/
lemma Slotted.set {config : Configuration} (h : config.Slotted) {slot : ℕ}
    (hslot : slot < filterCount) {filter : Filter}
    (hvirtual : filter.virtualSlot = config.filters[slot].virtualSlot)
    (hphysical : filter.physicalSlot = config.filters[slot].physicalSlot) :
    Slotted { config with filters := config.filters.set slot filter } := by
  have hsame (v : Fin filterCount) :
      ((config.filters.set slot filter).get v).virtualSlot =
          (config.filters.get v).virtualSlot ∧
        ((config.filters.set slot filter).get v).physicalSlot =
          (config.filters.get v).physicalSlot := by
    rw [get_set]
    split
    case isTrue heq =>
      subst heq
      exact ⟨hvirtual, hphysical⟩
    case isFalse => exact ⟨rfl, rfl⟩
  exact h.of_same_slots (fun v => (hsame v).1) (fun v => (hsame v).2) rfl

lemma Slotted.edited {config config' : Configuration} {edit : Edit} (h : config.Slotted)
    (hedited : config.Edited edit config') : config'.Slotted := by
  cases hedited with
  | enable hslot _ | rule hslot _ => exact h.set hslot rfl rfl
  | addPartial | term _ _ => exact h.of_same_slots (fun _ => rfl) (fun _ => rfl) rfl
  | addToStream _ _ _ | clearStream _ =>
    exact h.of_same_slots (fun _ => rfl) (fun _ => rfl) Array.size_setIfInBounds

lemma Slotted.attempt {config : Configuration} (h : config.Slotted) (edit : Edit) :
    (config.attempt edit).Slotted := by
  unfold Configuration.attempt
  split
  case h_1 edited hok => exact h.edited (edited_of_apply hok)
  case h_2 => exact h

/-! ## Replacements -/

lemma withFilters_filters (config : Configuration) (a b : Fin filterCount) (atA atB : Filter)
    (v : Fin filterCount) :
    (config.withFilters a b atA atB).filters.get v =
      if v = b then atB else if v = a then atA else config.filters.get v := by
  rw [withFilters, get_set, get_set]
  simp only [Fin.ext_iff, eq_comm]

lemma swapPhysical_filters (config : Configuration) (a b v : Fin filterCount) :
    (config.swapPhysical a b).filters.get v =
      if v = b then
        ⟨(config.filters.get b).virtualSlot, config.physical a, (config.filters.get b).enabled,
          (config.filters.get b).rule⟩
      else if v = a then
        ⟨(config.filters.get a).virtualSlot, config.physical b, (config.filters.get a).enabled,
          (config.filters.get a).rule⟩
      else config.filters.get v := by
  rw [swapPhysical, withFilters_filters]
  rfl

/-- What a replacement leaves in every slot. -/
lemma replaced_filters (config : Configuration) {target : Fin filterCount}
    (htarget : target ≠ swapFin) (v : Fin filterCount) :
    (config.replaced target).filters.get v =
      if v = swapFin then
        ⟨(config.filters.get swapFin).virtualSlot, config.physical target, false,
          (config.filters.get target).rule⟩
      else if v = target then
        ⟨(config.filters.get target).virtualSlot, config.physical swapFin, true,
          (config.filters.get swapFin).rule⟩
      else config.filters.get v := by
  have hne : swapFin ≠ target := htarget.symm
  simp only [replaced, exchangeRules, swapPhysical, withFilters_filters, physical]
  by_cases hswap : v = swapFin
  · subst hswap
    simp [hne]
  · by_cases hv : v = target
    · subst hv
      simp [hne, hswap]
    · simp [hswap, hv]

lemma swapPhysical_physical (config : Configuration) (a b v : Fin filterCount) :
    (config.swapPhysical a b).physical v = config.physical (Equiv.swap a b v) := by
  rw [physical, swapPhysical_filters, Equiv.swap_apply_def]
  by_cases hb : v = b
  · by_cases ha : v = a
    · simp [← hb, ← ha]
    · simp [hb, hb ▸ ha]
  · by_cases ha : v = a
    · simp [ha, ha ▸ hb]
    · simp [ha, hb, physical]

lemma replaced_physical (config : Configuration) {target : Fin filterCount}
    (htarget : target ≠ swapFin) (v : Fin filterCount) :
    (config.replaced target).physical v = config.physical (Equiv.swap swapFin target v) := by
  rw [physical, replaced_filters config htarget, Equiv.swap_apply_def]
  by_cases hswap : v = swapFin
  · simp [hswap]
  · by_cases hv : v = target
    · simp [hv, htarget]
    · simp [hswap, hv, physical]

lemma Slotted.swapPhysical {config : Configuration} (h : config.Slotted) (a b : Fin filterCount) :
    (config.swapPhysical a b).Slotted := by
  refine h.of_exchange (fun v => ?_) (config.swapPhysical_physical a b) rfl
  rw [swapPhysical_filters]
  split
  case isTrue hb => rw [hb]
  case isFalse =>
    split
    case isTrue ha => rw [ha]
    case isFalse => rfl

lemma Slotted.replaced {config : Configuration} (h : config.Slotted) {target : Fin filterCount}
    (htarget : target ≠ swapFin) : (config.replaced target).Slotted := by
  refine h.of_exchange (fun v => ?_) (config.replaced_physical htarget) rfl
  rw [replaced_filters config htarget]
  split
  case isTrue hswap => rw [hswap]
  case isFalse =>
    split
    case isTrue hv => rw [hv]
    case isFalse => rfl

/-- A replacement, whatever the card answers, is refused and gives the configuration that it was
called with, or succeeds and gives the replaced one. -/
lemma swapFilter_result {σ : Type} (device : Device σ) (state : σ) (memory : Memory)
    (config : Configuration) (target : ℕ) :
    (∃ failure, ((Loader.swapFilter memory config target).run device state).result =
        (.error failure, config)) ∨
      ∃ h : target < filterCount, (⟨target, h⟩ : Fin filterCount) ≠ swapFin ∧
        ∃ summary, ((Loader.swapFilter memory config target).run device state).result =
          (.ok summary, config.replaced ⟨target, h⟩) := by
  unfold Loader.swapFilter
  split
  case isTrue => exact Or.inl ⟨_, rfl⟩
  case isFalse hswap =>
    split
    case isFalse => exact Or.inl ⟨_, rfl⟩
    case isTrue h =>
      split
      case h_1 failure _ => exact Or.inl ⟨failure, rfl⟩
      case h_2 =>
        refine Or.inr ⟨h, fun heq => hswap (Fin.val_eq_of_eq heq), ?_⟩
        rw [Program.run_bind_result]
        exact ⟨_, rfl⟩

/-- A replacement, whatever the card answers, gives the replaced configuration, or the one that it
was called with if it is refused. -/
lemma swapFilter_configuration {σ : Type} (device : Device σ) (state : σ) (memory : Memory)
    (config : Configuration) (target : ℕ) :
    ((Loader.swapFilter memory config target).run device state).result.2 = config ∨
      ∃ h : target < filterCount, (⟨target, h⟩ : Fin filterCount) ≠ swapFin ∧
        ((Loader.swapFilter memory config target).run device state).result.2 =
          config.replaced ⟨target, h⟩ := by
  rcases swapFilter_result device state memory config target with
    ⟨failure, hresult⟩ | ⟨h, hne, summary, hresult⟩
  · exact Or.inl (congrArg Prod.snd hresult)
  · exact Or.inr ⟨h, hne, congrArg Prod.snd hresult⟩

/-- **Along every history the slots stay in order.** -/
theorem Reachable.slotted {config : Configuration} (h : config.Reachable) : config.Slotted := by
  induction h with
  | new hnew => exact slotted_new hnew
  | edit _ edit ih => exact ih.attempt edit
  | @swap config _ σ device state memory target ih =>
    rcases swapFilter_configuration device state memory config target with heq | ⟨h, hne, heq⟩
    · rw [heq]
      exact ih
    · rw [heq]
      exact ih.replaced hne

/-! ## Configurations to try things on -/

/-- The edits that make a stream of whatever hits the first filter, which matches every frame. -/
def Edit.firstFilter : List Edit :=
  [.enable 0 true, .addPartial, .term ⟨0⟩ .filter 0 .assert, .addToStream 0 ⟨0⟩ false]

/-- A classic configuration whose only stream gets whatever hits the first filter. -/
def firstFilter : Configuration :=
  Edit.firstFilter.foldl attempt
    ⟨.classic, Vector.ofFn fun slot => Filter.blank slot, #[], Array.replicate 1 .never⟩

lemma Reachable.foldl_attempt {config : Configuration} (h : config.Reachable) (edits : List Edit) :
    (edits.foldl attempt config).Reachable := by
  induction edits generalizing config with
  | nil => exact h
  | cons edit rest ih => exact ih (h.edit edit)

lemma reachable_firstFilter : firstFilter.Reachable := by
  have hnew : Configuration.new .classic 1 = .ok _ := rfl
  exact (Reachable.new hnew).foldl_attempt Edit.firstFilter

/-- The edits that stage a rule for IPv4 frames, which compares four elements. -/
def Edit.firstStaged : List Edit :=
  [.rule swapSlot (.layer3 .ipv4), .rule swapSlot (.etherType 0x0800 0xFFFF),
    .rule swapSlot (.termination 3)]

/-- The same configuration with a rule for IPv4 frames in the swap slot. -/
def firstStaged : Configuration :=
  Edit.firstStaged.foldl attempt firstFilter

lemma reachable_firstStaged : firstStaged.Reachable :=
  reachable_firstFilter.foldl_attempt Edit.firstStaged

/-- The edits that have the second filter match IPv4 frames, comparing no further than the type. -/
def Edit.secondFilter : List Edit :=
  [.enable 1 true, .rule 1 (.etherType 0x0800 0xFFFF), .rule 1 (.termination 1)]

/-- The same configuration with a second filter that no stream mentions. -/
def secondFilter : Configuration :=
  Edit.secondFilter.foldl attempt firstFilter

lemma reachable_secondFilter : secondFilter.Reachable :=
  reachable_firstFilter.foldl_attempt Edit.secondFilter

/-- The edits that have the second filter match IPv6 frames, and clear the stream. -/
def Edit.secondChanged : List Edit :=
  [.rule 1 (.etherType 0x86DD 0xFFFF), .clearStream 0]

/-- What becomes of that configuration by these edits. -/
def secondChanged : Configuration :=
  Edit.secondChanged.foldl attempt secondFilter

lemma reachable_secondChanged : secondChanged.Reachable :=
  reachable_secondFilter.foldl_attempt Edit.secondChanged

end PacketSteering.Configuration
