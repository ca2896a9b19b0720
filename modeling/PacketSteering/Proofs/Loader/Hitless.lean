import Mathlib.Tactic.Common
import PacketSteering.Proofs.Loader.Swap

/-!
# Replacements are hitless

Every state of a replacement is numbered by the bank flips up to it (`CardState.numberFlips`).
Before the second flip each frame is steered as before the call, and from that flip on as it will
be for good, so that steering changes at one instant for all frames (`swapFilter_hitless`).

Up to the second flip the card serves the configuration, and after it the configuration in which
the two physical slots have changed places.  What a replacement does to the slots meanwhile is only
ever seen in the swap slot, first that of the one and then that of the other configuration; and
that slot is one that no stream mentions.
-/

namespace PacketSteering

open Program

namespace CardState

/-! ## Numbered states -/

/-- States in order, each with the number of flips up to it, given the bank that was active before
the first. -/
def numberFlips (bank : Bank) (flips : ℕ) : List CardState → List (ℕ × CardState)
  | [] => []
  | now :: rest =>
    let flips := if now.activeBank = bank then flips else flips + 1
    (flips, now) :: numberFlips now.activeBank flips rest

/-- States with the same bank active count no flip. -/
lemma numberFlips_append {bank : Bank} {steady : List CardState}
    (h : ∀ now ∈ steady, now.activeBank = bank) (flips : ℕ) (rest : List CardState) :
    numberFlips bank flips (steady ++ rest) =
      steady.map (fun now => (flips, now)) ++ numberFlips bank flips rest := by
  induction steady with
  | nil => rfl
  | cons now steady ih =>
    have hbank : now.activeBank = bank := h now List.mem_cons_self
    rw [List.cons_append, numberFlips, if_pos hbank, hbank,
      ih fun other hother => h other (List.mem_cons_of_mem _ hother)]
    rfl

lemma numberFlips_cons_of_ne {bank : Bank} {now : CardState} (h : now.activeBank ≠ bank)
    (flips : ℕ) (rest : List CardState) :
    numberFlips bank flips (now :: rest) =
      (flips + 1, now) :: numberFlips now.activeBank (flips + 1) rest := by
  rw [numberFlips, if_neg h]

lemma numberFlips_of_two_flips {bank : Bank} {first second third : List CardState}
    {flip flip' : CardState} (hfirst : ∀ now ∈ first, now.activeBank = bank)
    (hflip : flip.activeBank ≠ bank) (hsecond : ∀ now ∈ second, now.activeBank = flip.activeBank)
    (hflip' : flip'.activeBank ≠ flip.activeBank)
    (hthird : ∀ now ∈ third, now.activeBank = flip'.activeBank) :
    numberFlips bank 0 (first ++ (flip :: (second ++ (flip' :: third)))) =
      first.map (fun now => (0, now)) ++ ((1, flip) ::
        (second.map (fun now => (1, now)) ++ ((2, flip') :: third.map fun now => (2, now)))) := by
  have hlast := numberFlips_append hthird 2 []
  rw [List.append_nil, numberFlips, List.append_nil] at hlast
  rw [numberFlips_append hfirst, numberFlips_cons_of_ne hflip, numberFlips_append hsecond,
    numberFlips_cons_of_ne hflip', hlast]

end CardState

namespace Loader

open CardState

variable {memory : Memory} {config : Configuration} {table : ColourTable} {state final : CardState}
  {target : Fin filterCount} {steps : List (WriteStep CardState)}

/-! ## The two configurations -/

/-- While the staged rule is written, and once it is, the card serves the configuration and steers
as before. -/
lemma classify_of_updating (h : config.Slotted) (hshape : state.Shaped config)
    (hignores : config.Ignores swapFin) (hserves : state.Serves config)
    (htable : ColourTable.forConfiguration memory config = .ok table) {now : CardState}
    (hnow : (state.published (table.fill config)).Updating (config.physical swapFin)
      (config.filters.get swapFin).rule.pattern now) (frame : Array UInt8) (interface : UInt8)
    (hlb : HlbOutcome) : now.classify frame interface hlb = state.classify frame interface hlb := by
  obtain ⟨hentries, hbits⟩ := ColourTable.forConfiguration_shape htable
  have hpublished : (state.published (table.fill config)).Serves config :=
    serves_of_fill h hentries hbits (bank_activeBank_published _ _)
  have hlayout : now.layout = config.layout := by
    rw [hnow.layout_eq, layout_published, hshape.layout_eq]
  refine Serves.classify_congr h hignores hserves hshape.layout_eq (hpublished.updating hnow)
    hlayout (fun w hw => ?_) interface hlb
  have hne : config.physical w ≠ config.physical swapFin := fun heq =>
    hw (h.physical_injective heq)
  rw [hnow.hit_eq (h.physical_lt w) hne, hit_published]

variable (target) in
/-- The slot with the old rule is switched off unseen. -/
lemma classify_of_retirement (h : config.Slotted) (hignores : config.Ignores swapFin)
    (htable : ColourTable.forConfiguration memory config = .ok table) {staged : CardState}
    (hlayout : staged.layout = config.layout) (frame : Array UInt8) (interface : UInt8)
    (hlb : HlbOutcome) :
    let exchanged := config.swapPhysical swapFin target
    let published := staged.published (table.fill exchanged)
    (published.off (config.physical target)).classify frame interface hlb =
      published.classify frame interface hlb := by
  intro exchanged published
  have hexchanged : exchanged.Slotted := h.swapPhysical swapFin target
  have hretired : exchanged.physical swapFin = config.physical target := by
    rw [Configuration.swapPhysical_physical, Equiv.swap_apply_left]
  obtain ⟨hentries, hbits⟩ := ColourTable.forConfiguration_shape htable
  have hpublished : published.Serves exchanged :=
    serves_of_fill hexchanged hentries hbits (bank_activeBank_published _ _)
  have hignores' : exchanged.Ignores swapFin := hignores
  have hlayout' : published.layout = exchanged.layout := by
    rw [layout_published]
    exact hlayout
  refine Serves.classify_congr hexchanged hignores' hpublished hlayout'
    (hpublished.off (h.physical_lt target)) hlayout' (fun w hw => ?_) interface hlb
  have hne : exchanged.physical w ≠ config.physical target := fun heq =>
    hw (hexchanged.physical_injective (heq.trans hretired.symm))
  exact hit_off (h.physical_lt target) (hexchanged.physical_lt w) hne frame

/-! ## The flips -/

/-- The states of a replacement with their flips: there are two, and the states after the second
are the one it leaves and the final one. -/
lemma SwapPhases.numberFlips_eq (phases : SwapPhases table config target state final steps)
    (h : config.Slotted) :
    numberFlips state.activeBank 0 (steps.map (WriteStep.after device)) =
      (phases.firstFills.map (WriteStep.after device)).map (fun now => (0, now)) ++
        ((1, phases.firstFlip.after device) ::
          (((phases.rewrites ++ phases.secondFills).map (WriteStep.after device)).map
              (fun now => (1, now)) ++
            ((2, phases.secondFlip.after device) :: [(2, final)]))) := by
  have hfirst := phases.firstFlip_leaves.1
  have hsecond := phases.secondFlip_leaves.1
  have hstaged := phases.staged_updating.activeBank_eq
  have hstates : steps.map (WriteStep.after device) =
      phases.firstFills.map (WriteStep.after device) ++ (phases.firstFlip.after device ::
        ((phases.rewrites ++ phases.secondFills).map (WriteStep.after device) ++
          (phases.secondFlip.after device :: [final]))) := by
    rw [congrArg (List.map (WriteStep.after device)) phases.steps_eq]
    simp [phases.retirement_leaves.1]
  rw [hstates]
  refine numberFlips_of_two_flips ?_ ?_ ?_ ?_ ?_
  · intro now hnow
    obtain ⟨step, hstep, rfl⟩ := List.mem_map.mp hnow
    exact (phases.firstFills_leave step hstep).1.activeBank_eq
  · rw [hfirst, activeBank_published]
    exact state.activeBank.other_ne
  · intro now hnow
    obtain ⟨step, hstep, rfl⟩ := List.mem_map.mp hnow
    rw [hfirst]
    rcases List.mem_append.mp hstep with hstep | hstep
    · exact (phases.rewrites_leave step hstep).1.activeBank_eq
    · rw [(phases.secondFills_leave step hstep).1.activeBank_eq, hstaged]
  · rw [hfirst, hsecond, activeBank_published, hstaged]
    exact Bank.other_ne _
  · intro now hnow
    have hfinal := congrArg activeBank phases.final_eq
    rw [List.mem_singleton.mp hnow, hsecond, hfinal, activeBank_off _ (h.physical_lt target)]

/-- A state before the second flip steers as at the start, and one after it as at the end. -/
theorem SwapPhases.classify_eq (phases : SwapPhases table config target state final steps)
    (h : config.Slotted) (hshape : state.Shaped config) (hignores : config.Ignores swapFin)
    (hserves : state.Serves config)
    (htable : ColourTable.forConfiguration memory config = .ok table) (frame : Array UInt8)
    (interface : UInt8) (hlb : HlbOutcome) {flips : ℕ} {now : CardState}
    (hnow : (flips, now) ∈
      numberFlips state.activeBank 0 (steps.map (WriteStep.after CardState.device))) :
    now.classify frame interface hlb =
      if flips < 2 then state.classify frame interface hlb
      else final.classify frame interface hlb := by
  have hself := Updating.refl (state.published (table.fill config)) (config.physical swapFin)
    (config.filters.get swapFin).rule.pattern
  have hbefore {now : CardState} (hnow : (state.published (table.fill config)).Updating
      (config.physical swapFin) (config.filters.get swapFin).rule.pattern now) :=
    classify_of_updating h hshape hignores hserves htable hnow
  have hlayout : phases.staged.layout = config.layout := by
    rw [phases.staged_updating.layout_eq, layout_published, hshape.layout_eq]
  rw [phases.numberFlips_eq h] at hnow
  simp only [List.mem_append, List.mem_cons, List.mem_map, List.not_mem_nil,
    or_false, Prod.mk.injEq] at hnow
  rcases hnow with ⟨_, ⟨step, hstep, rfl⟩, rfl, rfl⟩ | ⟨rfl, rfl⟩ |
    ⟨_, ⟨step, hstep | hstep, rfl⟩, rfl, rfl⟩ | ⟨rfl, rfl⟩ | ⟨rfl, hnow⟩
  · exact (phases.firstFills_leave step hstep).1.classify_eq frame interface hlb
  · rw [phases.firstFlip_leaves.1]
    exact hbefore hself frame interface hlb
  · exact hbefore (phases.rewrites_leave step hstep).1 frame interface hlb
  · exact ((phases.secondFills_leave step hstep).1.classify_eq frame interface hlb).trans
      (hbefore phases.staged_updating frame interface hlb)
  · have hretired := classify_of_retirement target h hignores htable hlayout frame interface hlb
    have hfinal := congrArg (fun final => final.classify frame interface hlb) phases.final_eq
    rw [phases.secondFlip_leaves.1]
    exact hretired.symm.trans hfinal.symm
  · rw [hnow]
    rfl

/-- **A replacement is hitless.** On a card that steers by the table of a configuration whose
streams do not mention the swap slot, every frame is steered as before the call after each write
before the second bank flip, and as at the end of the call after each write from that flip on.
This holds whatever the slots of the card hold, and a call that succeeds flips twice. -/
theorem swapFilter_hitless (hreachable : config.Reachable) (hignores : config.Ignores swapFin)
    {card : Card} (hshape : card.state.Shaped config) {earlier : Memory} {built : ColourTable}
    (hbuilt : ColourTable.build earlier config = .ok built)
    (hrows : (card.state.bank card.state.activeBank).rows = built.rows) (memory : Memory)
    (target : ℕ) (frame : Array UInt8) (interface : UInt8) (hlb : HlbOutcome) :
    let program := swapFilter memory config target
    let final := (program.run Card.device card).state
    let states := numberFlips card.state.activeBank 0
      ((program.statesAfterWrites Card.device card).map Card.state)
    (∀ flips now, (flips, now) ∈ states → now.classify frame interface hlb =
        if flips < 2 then card.state.classify frame interface hlb
        else final.state.classify frame interface hlb) ∧
      ∀ summary, (program.run Card.device card).result.1 = .ok summary →
        ∃ now, (2, now) ∈ states := by
  intro program final states
  have h := hreachable.slotted
  have hserves := serves_of_rows h hshape hbuilt hrows
  have hstates : states = numberFlips card.state.activeBank 0
      ((program.writeSteps CardState.device card.state).map
        (WriteStep.after CardState.device)) := by
    simp only [states, ← Card.projects.statesAfterWrites]
    rfl
  have hfinal : (program.run CardState.device card.state).state = final.state :=
    Card.projects.run_state _ _
  rw [hstates, ← Card.projects.run_result]
  rcases swapFilter_cases memory h hshape target with
    ⟨failure, hresult, -, hsteps⟩ | ⟨htarget, table, -, htable, -, ⟨phases⟩⟩
  · refine ⟨fun flips now hnow => ?_, fun summary hok => ?_⟩
    · rw [hsteps] at hnow
      cases hnow
    · rw [hresult] at hok
      cases hok
  · refine ⟨fun flips now hnow => ?_, fun summary _ => ?_⟩
    · rw [← hfinal]
      exact phases.classify_eq h hshape hignores hserves htable frame interface hlb hnow
    · rw [phases.numberFlips_eq h]
      exact ⟨(program.run CardState.device card.state).state, by simp [program]⟩

/-- A replacement right after a load: a frame for IPv6 goes to the stream up to the second flip, and
is dropped from there on. -/
theorem swapFilter_hitless_firstFilter :
    ∃ (card : Card) (summary : LoadSummary), card.state.Serves .firstStaged ∧
      let run := (swapFilter .addressSpace .firstStaged 0).run Card.device card
      let states := numberFlips card.state.activeBank 0
        (((swapFilter .addressSpace .firstStaged 0).statesAfterWrites Card.device card).map
          Card.state)
      run.result.1 = .ok summary ∧
        card.state.classify (frameOfType 0x86 0xDD) 0 (.bits 0) = .stream 0 ∧
        run.state.state.classify (frameOfType 0x86 0xDD) 0 (.bits 0) = .drop ∧
        (∀ flips now, (flips, now) ∈ states →
          now.classify (frameOfType 0x86 0xDD) 0 (.bits 0) =
            if flips < 2 then .stream 0 else .drop) ∧
        ∃ now, (2, now) ∈ states := by
  have hreachable := Configuration.reachable_firstStaged
  obtain ⟨fresh, _, -, hfresh, hfit, hok⟩ := exists_loaded_firstStaged
  obtain ⟨hshape, built, hbuilt, hrows⟩ := load_live hreachable.slotted hfresh hok
  obtain ⟨⟨summary, hswap⟩, hdropped, -⟩ :=
    swapFilter_firstStaged hshape (inStep_loaded hreachable.slotted hfresh hfit hok)
  have hbefore := classify_firstStaged hfresh hfit hok (frameOfType 0x86 0xDD)
  obtain ⟨hsteers, hflips⟩ := swapFilter_hitless hreachable Configuration.ignores_firstStaged hshape
    hbuilt hrows .addressSpace 0 (frameOfType 0x86 0xDD) 0 (.bits 0)
  refine ⟨_, summary, serves_of_rows hreachable.slotted hshape hbuilt hrows, hswap, hbefore,
    hdropped, fun flips now hnow => ?_, hflips summary hswap⟩
  rw [hsteers flips now hnow, hbefore, hdropped]

end Loader

end PacketSteering
