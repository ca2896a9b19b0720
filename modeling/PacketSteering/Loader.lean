import PacketSteering.Register.Channel

/-!
# Loading, replacing and dumping

The programs that bring a card in line with a configuration, that replace one rule on live traffic,
and that read back what is programmed.
-/

namespace PacketSteering

/-!
## Load summaries

What a load or a replacement did to the filter slots of a card, and the bank it left active.
-/

/-- The numbers of slots by what happened to them. -/
structure LoadSummary where
  /-- Slots that were enabled and should not be. -/
  disabled : Nat
  /-- Slots whose pattern was replaced. -/
  rewritten : Nat
  /-- Slots whose pattern was right and which had to be enabled. -/
  enabled : Nat
  /-- Slots left as they were. -/
  untouched : Nat
  /-- The bank active afterwards. -/
  bank : Bank
  deriving DecidableEq

namespace LoadSummary

/-- The summary before anything is done. -/
def start (bank : Bank) : LoadSummary :=
  ⟨0, 0, 0, 0, bank⟩

/-- The text of a summary. -/
def text (summary : LoadSummary) : String :=
  s!"disabled: {summary.disabled} rewritten: {summary.rewritten} " ++
    s!"enabled: {summary.enabled} untouched: {summary.untouched} bank: {summary.bank.text}"

end LoadSummary

/-!
## Loading a configuration

Loading brings a card in line with a configuration. A filter slot is always disabled while its
pattern is written, so that no traffic is compared with half a pattern. A colour table is only
ever written to the inactive bank and then made active by one write, so that no traffic is steered
by half a table.
-/

namespace Loader

open Program Channel

/-- Brings one filter slot in line: a slot that should be off is switched off, and one whose
pattern differs is disabled, rewritten and enabled again. -/
def syncFilter (summary : LoadSummary) (filter : Filter) : Program LoadSummary := do
  let slot := filter.physicalSlot
  let live ← isEnabled slot
  if filter.enabled then
    let wanted := filter.rule.pattern
    let held ← readFilter slot
    if wanted ≠ held then
      disable slot
      writeFilter slot wanted
      enable slot
      log .note s!"rewrote {filter.text}"
      return { summary with rewritten := summary.rewritten + 1 }
    else if live then
      return { summary with untouched := summary.untouched + 1 }
    else
      enable slot
      log .note s!"enabled {filter.text}"
      return { summary with enabled := summary.enabled + 1 }
  else if live then
    disable slot
    log .warn s!"disabled {filter.text}"
    return { summary with disabled := summary.disabled + 1 }
  else
    return { summary with untouched := summary.untouched + 1 }

/-- Writes a table to the inactive bank and makes that bank active. -/
def publish (table : ColourTable) : Program Bank := do
  let active ← activeBank
  let bank := active.other
  writeTable bank table
  setActiveBank bank
  log .note s!"colour table live in bank {bank.text}"
  return bank

/-- Brings the card in line with a configuration. Only the memory for the table can be refused,
and that is known before the card is touched. -/
def load (memory : Memory) (config : Configuration) : Program (Except Failure LoadSummary) :=
  match ColourTable.forConfiguration memory config with
  | .error failure => return .error failure
  | .ok table => do
    let active ← activeBank
    let summary ← fold syncFilter (.start active) config.filters.toList
    let bank ← publish (table.fill config)
    return .ok { summary with bank }

end Loader

/-!
## Replacing one rule

A rule staged in the swap slot takes the place of the rule of another slot with no instant at
which traffic is steered by anything but the old rule or the new one. The staged rule is first
programmed into a slot that nothing steers on. Then a table in which the two physical slots have
changed places becomes active, which is the instant of the change, and the slot with the old rule
is retired.
-/

/-- The swap slot as a slot of the card. -/
def swapFin : Fin filterCount := ⟨swapSlot, by decide⟩

namespace Configuration

/-- The configuration after the rule of a slot is replaced by the staged one: the two slots have
exchanged their physical slots and their rules, the target is enabled and the swap slot is not. -/
def replaced (config : Configuration) (target : Fin filterCount) : Configuration :=
  let exchanged := (config.swapPhysical swapFin target).exchangeRules swapFin target
  exchanged.withFilters target swapFin { exchanged.filters.get target with enabled := true }
    { exchanged.filters.get swapFin with enabled := false }

end Configuration

namespace Loader

open Program Channel

/-- The steps of a replacement once the target is known to be possible and the table is there. -/
def performSwap (table : ColourTable) (config : Configuration) (target : Fin filterCount) :
    Program LoadSummary := do
  let active ← activeBank
  let summary := LoadSummary.start active
  let current := table.fill config
  let _ ← publish current
  let staged := config.filters.get swapFin
  let staging := staged.physicalSlot
  disable staging
  writeFilter staging staged.rule.pattern
  enable staging
  log .note s!"swap: staged {staged.text}"
  let exchanged := config.swapPhysical swapFin target
  let bank ← publish (current.fill exchanged)
  let retired := (exchanged.filters.get swapFin).physicalSlot
  disable retired
  log .note s!"swap: filter {target.val} now on hw {staging}, hw {retired} retired"
  return { summary with rewritten := 1, disabled := 1, untouched := filterCount - 2, bank }

/-- Replaces the rule of a slot by the staged one, and gives the configuration that describes the
card afterwards. A replacement that is refused leaves the configuration as it was. -/
def swapFilter (memory : Memory) (config : Configuration) (target : Nat) :
    Program (Except Failure LoadSummary × Configuration) :=
  if target = swapSlot then
    return (.error (.fault (.swapTarget target)), config)
  else if h : target < filterCount then
    match ColourTable.forConfiguration memory config with
    | .error failure => return (.error failure, config)
    | .ok table => do
      let summary ← performSwap table config ⟨target, h⟩
      return (.ok summary, config.replaced ⟨target, h⟩)
  else
    return (.error (.fault (.filterSlot target)), config)

end Loader

/-!
## Card dumps

A dump is what is programmed on a card, as read back through its registers.
-/

/-- The programmed state of one physical slot. -/
structure SlotDump where
  slot : UInt8
  enabled : Bool
  termination : UInt8
  value : List UInt8
  mask : List UInt8
  deriving DecidableEq

/-- The position just past the last byte of the mask that is not zero. The termination, which may
let fewer bytes take part, is not asked. -/
def SlotDump.compareLength (slot : SlotDump) : Nat :=
  Bytes.extent slot.mask

/-- What is programmed on a card. -/
structure CardDump where
  activeBank : Bank
  slots : List SlotDump
  deriving DecidableEq

namespace Loader

open Program Channel

/-- Reads back one slot, adding it to the slots read before. -/
def dumpSlot (soFar : Array SlotDump) (slot : Nat) : Program (Array SlotDump) := do
  let enabled ← isEnabled slot
  let pattern ← readFilter slot
  return soFar.push {
    slot := UInt8.ofNat slot
    enabled
    termination := pattern.termination
    value := pattern.value.toList
    mask := pattern.mask.toList }

/-- Reads back everything programmed on a card. -/
def dump : Program CardDump := do
  let activeBank ← activeBank
  let slots ← fold dumpSlot #[] (List.range filterCount)
  return { activeBank, slots := slots.toList }

end Loader

end PacketSteering
