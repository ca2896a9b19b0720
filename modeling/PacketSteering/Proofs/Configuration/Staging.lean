import PacketSteering.Proofs.Configuration.Steering

/-!
# Staging a replacement

Between two replacements a configuration is edited in the swap slot, in its partial expressions and
in its streams (`Configuration.Edit.Stages`).  Such edits leave all other slots alone, and the shape
of the table (`Configuration.Staged`).

The replaced configuration and the one in which only the physical slots are exchanged have the same
slots, and so the same table (`ColourTable.fill_replaced`).
-/

namespace PacketSteering

namespace Configuration

/-- An edit of the swap slot, of a partial expression or of a stream. -/
def Edit.Stages : Edit → Prop
  | .enable slot _ => slot = swapSlot
  | .rule slot _ => slot = swapSlot
  | _ => True

/-- A configuration that differs from another at most in the swap slot, in what the partial
expressions are and in what the streams ask for. -/
structure Staged (config config' : Configuration) : Prop where
  layout_eq : config'.layout = config.layout
  size_streams : config'.streams.size = config.streams.size
  filters_eq : ∀ v : Fin filterCount, v ≠ swapFin → config'.filters.get v = config.filters.get v

variable {config config' : Configuration}

lemma Staged.refl (config : Configuration) : config.Staged config :=
  ⟨rfl, rfl, fun _ _ => rfl⟩

lemma Staged.set (config : Configuration) (filter : Filter) :
    config.Staged { config with filters := config.filters.set swapSlot filter (by decide) } := by
  refine ⟨rfl, rfl, fun v hv => ?_⟩
  rw [get_set, if_neg fun heq => hv (Fin.ext heq.symm)]

lemma Edit.Stages.edited {edit : Edit} (h : edit.Stages) (hedited : config.Edited edit config') :
    config.Staged config' := by
  cases hedited with
  | enable _ _ | rule _ _ =>
    obtain rfl := h
    exact .set config _
  | addPartial | term _ _ => exact ⟨rfl, rfl, fun _ _ => rfl⟩
  | addToStream _ _ _ | clearStream _ => exact ⟨rfl, Array.size_setIfInBounds, fun _ _ => rfl⟩

lemma Edit.Stages.attempt {edit : Edit} (h : edit.Stages) (config : Configuration) :
    config.Staged (config.attempt edit) := by
  unfold Configuration.attempt
  split
  case h_1 edited hok => exact h.edited (edited_of_apply hok)
  case h_2 => exact .refl config

/-! ## Slot maps -/

lemma Slotted.slotMap_congr (h : config.Slotted) (h' : config'.Slotted)
    (hphysical : ∀ v, config'.physical v = config.physical v) :
    config'.slotMap = config.slotMap := by
  have hvirt : config'.slotMap.virt = config.slotMap.virt := by
    apply Vector.ext
    intro slot hslot
    obtain ⟨v, hv⟩ := h.exists_physical hslot
    rw [h.getElem_virt hslot hv, h'.getElem_virt hslot ((hphysical v).trans hv)]
  exact congrArg SlotMap.mk hvirt

/-- A replacement exchanges the physical slots and nothing else of the slot map. -/
lemma Slotted.slotMap_replaced (h : config.Slotted) {target : Fin filterCount}
    (htarget : target ≠ swapFin) :
    (config.replaced target).slotMap = (config.swapPhysical swapFin target).slotMap :=
  (h.swapPhysical swapFin target).slotMap_congr (h.replaced htarget) fun v => by
    rw [replaced_physical config htarget, swapPhysical_physical]

end Configuration

lemma ColourTable.fill_replaced {config : Configuration} (h : config.Slotted)
    {target : Fin filterCount} (htarget : target ≠ swapFin) (table : ColourTable) :
    table.fill (config.replaced target) = table.fill (config.swapPhysical swapFin target) := by
  unfold fill
  rw [h.slotMap_replaced htarget]
  rfl

end PacketSteering
