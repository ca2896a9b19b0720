import PacketSteering.Card.State
import PacketSteering.Register.Program

/-!
# Simulated cards

A card that keeps a journal of what changes on it and an account of how it was given time to
settle.
-/

namespace PacketSteering

/-!
## The journal of a card

A journal records the events of a card and, after each of them, how the watched frames are
steered. Equal neighbouring events of a burst are recorded once, and an observation is recorded
only when some frame is steered differently than before.
-/

/-- The events and observations of a card so far. -/
structure Journal where
  events : Array Event
  probes : Array Probe
  observations : Array Observation

namespace Journal

/-- The journal before anything is watched or happens. -/
def empty : Journal := ⟨#[], #[], #[]⟩

/-- How a state steers the watched frames. -/
def colours (journal : Journal) (state : CardState) : List Colour :=
  journal.probes.toList.map fun probe => state.classify probe.frame probe.interface probe.hlb

/-- Records how the watched frames are steered now, unless that is as it was. -/
def observe (journal : Journal) (state : CardState) (event : Option Nat) : Journal :=
  let colours := journal.colours state
  match journal.observations.back? with
  | some last =>
    if last.colours = colours then journal
    else { journal with observations := journal.observations.push ⟨event, colours⟩ }
  | none => { journal with observations := journal.observations.push ⟨event, colours⟩ }

/-- The events with one more, unless it continues a burst. -/
def pushEvent (events : Array Event) (event : Event) : Array Event :=
  if event.isBurst ∧ events.back? = some event then events else events.push event

/-- Records an event that led to a state. -/
def record (state : CardState) (journal : Journal) (event : Event) : Journal :=
  let events := pushEvent journal.events event
  let number := events.size - 1
  { journal with events }.observe state (some number)

/-- Records the events of one write, all of which led to one state. -/
def recordAll (journal : Journal) (state : CardState) (events : List Event) : Journal :=
  events.foldl (record state) journal

/-- Watches one more frame; the observations start anew. -/
def watch (journal : Journal) (state : CardState) (probe : Probe) : Journal :=
  { journal with probes := journal.probes.push probe, observations := #[] }.observe state none

/-- Forgets the events; the observations start anew. -/
def clear (journal : Journal) (state : CardState) : Journal :=
  { journal with events := #[], observations := #[] }.observe state none

end Journal

/-!
## Simulated cards

A simulated card takes register accesses as a device, keeps a journal, and counts the writes that
came before the write before them had settled.
-/

/-- A card with its journal and its account of settling. -/
structure Card where
  state : CardState
  /-- The number of reads since the last write. -/
  readsSinceWrite : Nat
  /-- The number of writes that came too early. -/
  settleViolations : Nat
  journal : Journal

namespace Card

open Register

/-- A card whose both banks drop everything, with entries of a given width. -/
def new (memory : Memory) (layout : TableLayout) (bits : Nat) : Except Failure Card := do
  let table ← ColourTable.alloc memory layout.entries bits
  return {
    state := .initial layout table.fillDrop
    readsSinceWrite := settleReads
    settleViolations := 0
    journal := .empty }

/-- A card of the shape that a configuration needs. -/
def forConfiguration (memory : Memory) (config : Configuration) : Except Failure Card :=
  new memory config.layout config.entryBits

/-- Answers a read. -/
def read (offset : UInt32) (card : Card) : UInt32 × Card :=
  (card.state.read offset, { card with readsSinceWrite := card.readsSinceWrite + 1 })

/-- Takes a write. -/
def write (offset value : UInt32) (card : Card) : Card :=
  match card with
  | ⟨state, readsSinceWrite, settleViolations, journal⟩ =>
    let violations :=
      if readsSinceWrite < settleReads then settleViolations + 1 else settleViolations
    match state.write offset value with
    | (state, events) => ⟨state, 0, violations, journal.recordAll state events⟩

/-- A card as a device. -/
def device : Device Card where
  read := read
  write := write

/-- Watches one more frame. -/
def watch (card : Card) (probe : Probe) : Card :=
  { card with journal := card.journal.watch card.state probe }

/-- Forgets the events. -/
def clearEvents (card : Card) : Card :=
  { card with journal := card.journal.clear card.state }

end Card

end PacketSteering
