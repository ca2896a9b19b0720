import PacketSteering.Loader

/-!
# Reports

Colour tables, configurations and card dumps as lines of text in columns.
-/

namespace PacketSteering

/-!
## Lines

A line is a row of cells. How the cells of neighbouring lines are aligned in columns is left to a
renderer.
-/

namespace Report

/-- A line of text: the cells that stand in columns, and the last cell, which does not. -/
structure Line where
  cells : List String
  last : String
  deriving DecidableEq

namespace Line

/-- The line of a list of cells. -/
def ofCells (cells : List String) : Line :=
  ⟨cells.dropLast, cells.getLastD ""⟩

/-- A line without columns. -/
def plain (text : String) : Line :=
  ⟨[], text⟩

end Line

/-- A way of laying out lines as text. -/
abbrev Renderer : Type := List Line → String

/-- The width of a ruled line. -/
def ruleWidth : Nat := 70

/-- A thin ruled line. -/
def thinRule : Line :=
  .plain (String.ofList (List.replicate ruleWidth '-'))

/-- A bold ruled line. -/
def boldRule : Line :=
  .plain (String.ofList (List.replicate ruleWidth '='))

/-- The text of a truth value. -/
def flagText (flag : Bool) : String :=
  if flag then "true" else "false"

end Report

/-!
## The report of a colour table

How many entries of the table go to each destination that occurs in it.
-/

namespace ColourTable

/-- The lines of the report of a table. -/
def reportLines (table : ColourTable) : List Report.Line :=
  [.plain s!"Colour table: {table.entries} entries, {table.bits} bits each",
    Report.thinRule,
    .ofCells ["DEST", "ENTRIES"]] ++
    table.summary.map fun entry => .ofCells [entry.1.text, toString entry.2]

/-- The report of a table. -/
def report (render : Report.Renderer) (table : ColourTable) : String :=
  render table.reportLines

end ColourTable

/-!
## The report of a configuration

Its layout, then its filters, its partial expressions and its streams, each under a heading.
-/

namespace Configuration

/-- A heading with the names of the columns under it. -/
def headingLines (title : String) (columns : List String) : List Report.Line :=
  [.plain "", .plain title, Report.thinRule, .ofCells columns]

/-- The line of a filter. -/
def filterLine (filter : Filter) : Report.Line :=
  .ofCells [
    toString filter.virtualSlot,
    toString filter.physicalSlot,
    Report.flagText filter.enabled,
    toString filter.rule.termination.toNat,
    filter.rule.text]

/-- The lines of the report of a configuration. -/
def reportLines (config : Configuration) : List Report.Line :=
  [.plain (s!"Layout: {config.layout.text} ({config.entryBits} bits per entry, " ++
    s!"{config.streams.size} streams)")] ++
    headingLines "Filters" ["SLOT", "HW", "ENABLED", "TERM", "RULE"] ++
    config.filters.toList.map filterLine ++
    headingLines "Partial Expressions" ["ID", "TERMS"] ++
    (config.partials.toList.zipIdx.map fun entry =>
      .ofCells [PartialId.text ⟨entry.2⟩, entry.1.text]) ++
    headingLines "Streams" ["STREAM", "EXPRESSION"] ++
    config.streams.toList.zipIdx.map fun entry => .ofCells [toString entry.2, entry.1.text]

/-- The report of a configuration. -/
def report (render : Report.Renderer) (config : Configuration) : String :=
  render config.reportLines

end Configuration

/-!
## The report of a card dump

One line per slot. The compare bytes are shown up to the last byte whose mask is not zero; a slot
whose value ends before that byte has no report.
-/

namespace SlotDump

/-- The line of a slot, if its value reaches as far as it compares. -/
def line? (slot : SlotDump) : Option Report.Line :=
  if slot.compareLength ≤ slot.value.length then
    some (.ofCells [
      toString slot.slot.toNat,
      Report.flagText slot.enabled,
      toString slot.termination.toNat,
      Hex.text (slot.value.take slot.compareLength),
      Hex.text (slot.mask.take slot.compareLength)])
  else none

end SlotDump

namespace CardDump

/-- The lines of a list of slots, if every slot has one. -/
def slotLines? : List SlotDump → Option (List Report.Line)
  | [] => some []
  | slot :: rest => do
    let line ← slot.line?
    let lines ← slotLines? rest
    return line :: lines

/-- The lines of the report of a dump. -/
def lines? (dump : CardDump) : Option (List Report.Line) := do
  let slots ← slotLines? dump.slots
  return [
    .plain ("Active colour bank: " ++ dump.activeBank.text),
    Report.boldRule,
    .ofCells ["SLOT", "ENABLED", "TERM", "VALUE", "MASK"]] ++ slots

/-- The report of a dump. -/
def report? (render : Report.Renderer) (dump : CardDump) : Option String :=
  dump.lines?.map render

end CardDump

end PacketSteering
