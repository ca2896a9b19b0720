import Mathlib.Tactic.Common
import PacketSteering.Proofs.Patch
import PacketSteering.Proofs.Rule.Refusal

/-!
# Raw mode

A rule that enters raw mode keeps its fields and gets them back when it leaves.  In between every
step on fields is refused, so that a step can only replace the raw bytes or the termination: what a
rule is in raw mode is told by the rule that entered, the last raw bytes that were accepted and the
termination (`Rule.Detour`).
-/

namespace PacketSteering

/-! ## Raw bytes -/

/-- Raw bytes that a filter can hold: a mask byte for every value byte, and no more of them than are
compared. -/
structure RawBytes.Fits (raw : RawBytes) : Prop where
  length_eq : raw.value.length = raw.mask.length
  length_le : raw.value.length ≤ matchDepth

namespace Rule

/-- Raw bytes lie at the start of the pattern, each value byte under its mask byte, and zeros follow
them. -/
lemma getElem_pattern_of_raw {rule : Rule} {raw : RawBytes} (hraw : rule.raw = some raw)
    (hfits : raw.Fits) {i : ℕ} (hi : i < matchDepth) :
    rule.pattern.mask[i] = raw.mask.getD i 0 ∧
      rule.pattern.value[i] = raw.value.getD i 0 &&& raw.mask.getD i 0 := by
  have hpattern : rule.pattern =
      (Pattern.blank rule.termination).merge ⟨0, raw.value.zip raw.mask⟩ := by
    rw [pattern, patches, hraw]
    rfl
  have hat : (⟨0, raw.value.zip raw.mask⟩ : Patch).at? i = (raw.value.zip raw.mask)[i]? :=
    if_pos (Nat.zero_le i)
  have hlength := hfits.length_eq
  rw [hpattern]
  by_cases hshort : i < raw.value.length
  · have hsome : (raw.value.zip raw.mask)[i]? = some (raw.value.getD i 0, raw.mask.getD i 0) := by
      rw [List.getElem?_zip_eq_some]
      simp [hshort, hlength ▸ hshort]
    obtain ⟨hvalue, hmask⟩ := Pattern.getElem_merge_of_spares
      (Pattern.blank_spares rule.termination _) hi (hat.trans hsome)
    exact ⟨hmask, hvalue⟩
  · -- Past the raw bytes the blank pattern is left as it is.
    have hnone : (raw.value.zip raw.mask)[i]? = none := by
      rw [List.getElem?_eq_none_iff, List.length_zip]
      omega
    obtain ⟨hvalue, hmask⟩ := Pattern.getElem_merge_of_none (Pattern.blank rule.termination) hi
      (hat.trans hnone)
    have hpast : raw.mask.getD i 0 = 0 := by
      rw [List.getD_eq_getElem?_getD, List.getElem?_eq_none (by omega)]
      rfl
    rw [hvalue, hmask, hpast, UInt8.and_zero]
    simp [Pattern.blank]

/-! ## Steps in raw mode -/

/-- Steps on layers and fields. -/
def Edit.Structured : Edit → Prop
  | .raw _ _ | .clearRaw | .termination _ | .tightTermination => False
  | _ => True

/-- The raw bytes that a step brings along, if they fit. -/
def Edit.rawBytes? : Edit → Option RawBytes
  | .raw value mask =>
    if value.length = mask.length ∧ value.length ≤ matchDepth then some ⟨value, mask⟩ else none
  | _ => none

/-- Steps on the termination. -/
def Edit.SetsTermination : Edit → Prop
  | .termination _ | .tightTermination => True
  | _ => False

/-- The termination that a step on it gives a rule. -/
def Edit.termination? (rule : Rule) : Edit → Option UInt8
  | .termination depth => some (min depth lastElement)
  | .tightTermination => some rule.tightTermination
  | _ => none

variable {rule now : Rule} {raw : RawBytes} {edit : Edit}

/-- In raw mode steps on fields are refused, and raw bytes that do not fit. -/
lemma refuses_iff_of_isRaw (hraw : now.isRaw = true) (edit : Edit) :
    now.Refuses edit ↔
      edit.Structured ∨ ∃ value mask, edit = .raw value mask ∧ edit.rawBytes? = none := by
  cases edit with
  | layer2 kind => exact iff_of_true hraw (Or.inl trivial)
  | layer3 kind => exact iff_of_true hraw (Or.inl trivial)
  | raw value mask => simp [Refuses, Edit.Structured, Edit.rawBytes?, imp_iff_not_or]
  | clearRaw => simp [Refuses, Edit.Structured]
  | termination depth => simp [Refuses, Edit.Structured]
  | tightTermination => simp [Refuses, Edit.Structured]
  | _ => exact iff_of_true (Or.inl hraw) (Or.inl trivial)

/-- A rule in raw mode that has the fields of another one. -/
structure Detour (rule : Rule) (raw : RawBytes) (now : Rule) : Prop where
  eq : ∃ termination, now = { rule with raw := some raw, termination }
  fits : raw.Fits

lemma Detour.raw_eq (h : rule.Detour raw now) : now.raw = some raw := by
  obtain ⟨_, rfl⟩ := h.eq
  rfl

lemma Detour.isRaw (h : rule.Detour raw now) : now.isRaw = true := by
  rw [Rule.isRaw, h.raw_eq]
  rfl

lemma Detour.clearRaw (h : rule.Detour raw now) :
    now.clearRaw = { rule with raw := none, termination := now.termination } := by
  obtain ⟨_, rfl⟩ := h.eq
  rfl

lemma Detour.attempt_of_structured (h : rule.Detour raw now) (hedit : edit.Structured) :
    now.attempt edit = now :=
  attempt_of_refuses ((refuses_iff_of_isRaw h.isRaw edit).mpr (Or.inl hedit))

lemma setRaw_of_fits (rule : Rule) {value mask : List UInt8}
    (hfits : value.length = mask.length ∧ value.length ≤ matchDepth) :
    rule.setRaw value mask = .ok { rule with raw := some ⟨value, mask⟩ } :=
  if_neg (not_or.mpr ⟨not_not.mpr hfits.1, Nat.not_lt.mpr hfits.2⟩)

/-- A step in raw mode replaces the raw bytes, the termination or nothing. -/
lemma Detour.attempt (h : rule.Detour raw now) (hedit : edit ≠ .clearRaw) :
    rule.Detour (edit.rawBytes?.getD raw) (now.attempt edit) := by
  obtain ⟨termination, hnow⟩ := h.eq
  cases edit with
  | raw value mask =>
    by_cases hfits : value.length = mask.length ∧ value.length ≤ matchDepth
    · have hbytes : (Edit.raw value mask).rawBytes? = some ⟨value, mask⟩ := if_pos hfits
      rw [hbytes, Rule.attempt, Rule.apply, setRaw_of_fits _ hfits, hnow]
      exact ⟨⟨termination, rfl⟩, hfits.1, hfits.2⟩
    · have hbytes : (Edit.raw value mask).rawBytes? = none := if_neg hfits
      have hrefuses := (refuses_iff_of_isRaw h.isRaw _).mpr (Or.inr ⟨value, mask, rfl, hbytes⟩)
      rw [attempt_of_refuses hrefuses, hbytes]
      exact h
  | clearRaw => exact absurd rfl hedit
  | termination depth =>
    rw [hnow]
    exact ⟨⟨_, rfl⟩, h.fits⟩
  | tightTermination =>
    rw [hnow]
    exact ⟨⟨_, rfl⟩, h.fits⟩
  | _ =>
    rw [h.attempt_of_structured]
    · exact h
    · trivial

/-- Steps in raw mode leave the last raw bytes that fit. -/
lemma Detour.foldl (h : rule.Detour raw now) {edits : List Edit} (hedits : .clearRaw ∉ edits) :
    rule.Detour ((edits.filterMap Edit.rawBytes?).getLastD raw) (edits.foldl Rule.attempt now) := by
  induction edits generalizing raw now with
  | nil => exact h
  | cons edit rest ih =>
    obtain ⟨hedit, hrest⟩ := List.ne_and_not_mem_of_not_mem_cons hedits
    have hlater := ih (h.attempt (Ne.symm hedit)) hrest
    rw [List.foldl_cons, List.filterMap_cons]
    cases hbytes : edit.rawBytes? with
    | none =>
      rw [hbytes] at hlater
      exact hlater
    | some bytes =>
      rw [hbytes] at hlater
      rw [List.getLastD_cons]
      exact hlater

/-! ## The termination -/

lemma Edit.termination?_eq_none (h : ¬ edit.SetsTermination) (rule : Rule) :
    edit.termination? rule = none := by
  cases edit with
  | termination depth => exact absurd trivial h
  | tightTermination => exact absurd trivial h
  | _ => rfl

/-- A step in raw mode sets the termination if it is one on the termination. -/
lemma Detour.termination_attempt (h : rule.Detour raw now) (edit : Edit) :
    (now.attempt edit).termination = (edit.termination? now).getD now.termination := by
  cases edit with
  | raw value mask =>
    rw [Rule.attempt, Rule.apply, setRaw]
    by_cases hlength : value.length ≠ mask.length ∨ matchDepth < value.length
    · rw [if_pos hlength]
      rfl
    · rw [if_neg hlength]
      rfl
  | clearRaw => rfl
  | termination depth => rfl
  | tightTermination => rfl
  | _ =>
    rw [h.attempt_of_structured]
    · rfl
    · trivial

/-- Steps in raw mode of which none is on the termination leave it alone. -/
lemma Detour.termination_foldl (h : rule.Detour raw now) {edits : List Edit}
    (hedits : .clearRaw ∉ edits) (hsets : ∀ edit ∈ edits, ¬ edit.SetsTermination) :
    (edits.foldl Rule.attempt now).termination = now.termination := by
  induction edits generalizing raw now with
  | nil => rfl
  | cons edit rest ih =>
    obtain ⟨hedit, hrest⟩ := List.ne_and_not_mem_of_not_mem_cons hedits
    rw [List.foldl_cons, ih (h.attempt (Ne.symm hedit)) hrest fun later hlater =>
      hsets later (List.mem_cons_of_mem _ hlater), h.termination_attempt,
      Edit.termination?_eq_none (hsets edit List.mem_cons_self)]
    rfl

/-! ## There and back -/

/-- **Raw mode is a detour that loses nothing.** A rule of any kind enters raw mode with bytes that
fit, and takes any steps after that except for leaving it.  Then, of these steps, exactly those on
layers and fields and those with raw bytes that do not fit are refused; the raw bytes are those of
the last step that brought any that fit, verbatim, and the bytes that a card compares are these,
each value byte under its mask byte, followed by zeros; once raw mode is left, the rule is the one
that entered it but for the termination; and the termination is the one that the last step on it
set, or the one that the rule entered with. -/
theorem setRaw_detour (rule : Rule) {value mask : List UInt8}
    (hlength : value.length = mask.length) (hdepth : value.length ≤ matchDepth)
    {edits : List Edit} (hedits : .clearRaw ∉ edits) :
    ∃ entered, rule.setRaw value mask = .ok entered ∧
      let now := edits.foldl attempt entered
      let raw := (edits.filterMap Edit.rawBytes?).getLastD ⟨value, mask⟩
      (∀ before edit after, edits = before ++ edit :: after →
        ((∃ fault, (before.foldl attempt entered).apply edit = .error fault) ↔
          edit.Structured ∨ ∃ value mask, edit = .raw value mask ∧ edit.rawBytes? = none)) ∧
      now.raw = some raw ∧
      (∀ (i : ℕ) (hi : i < matchDepth),
        now.pattern.mask[i] = raw.mask.getD i 0 ∧
          now.pattern.value[i] = raw.value.getD i 0 &&& raw.mask.getD i 0) ∧
      now.clearRaw = { rule with raw := none, termination := now.termination } ∧
      (∀ before edit after termination, edits = before ++ edit :: after →
        edit.termination? (before.foldl attempt entered) = some termination →
          (∀ later ∈ after, ¬ later.SetsTermination) → now.termination = termination) ∧
      ((∀ edit ∈ edits, ¬ edit.SetsTermination) → now.termination = rule.termination) := by
  have hentered : rule.Detour ⟨value, mask⟩ { rule with raw := some ⟨value, mask⟩ } :=
    ⟨⟨rule.termination, rfl⟩, hlength, hdepth⟩
  refine ⟨_, rule.setRaw_of_fits ⟨hlength, hdepth⟩, ?_⟩
  intro now raw
  have hnow : rule.Detour raw now := hentered.foldl hedits
  refine ⟨?_, hnow.raw_eq, fun i hi => getElem_pattern_of_raw hnow.raw_eq hnow.fits hi,
    hnow.clearRaw, ?_, hentered.termination_foldl hedits⟩
  · rintro before edit after rfl
    have hbefore := hentered.foldl fun hmem => hedits (List.mem_append_left _ hmem)
    rw [apply_eq_error_iff, refuses_iff_of_isRaw hbefore.isRaw]
  · rintro before edit after termination rfl hset hlater
    obtain ⟨hbefore, hafter⟩ := not_or.mp (mt List.mem_append.mpr hedits)
    obtain ⟨hedit, hafter⟩ := List.ne_and_not_mem_of_not_mem_cons hafter
    have hreached := hentered.foldl hbefore
    have htaken := hreached.attempt (Ne.symm hedit)
    -- The step sets the termination, and the ones after it leave it alone.
    calc now.termination
        = (after.foldl attempt ((before.foldl attempt _).attempt edit)).termination := by
          simp only [now, List.foldl_append, List.foldl_cons]
      _ = ((before.foldl attempt _).attempt edit).termination :=
          htaken.termination_foldl hafter hlater
      _ = termination := by
          rw [hreached.termination_attempt, hset]
          rfl

/-- Steps in raw mode of which the first, the second and the fourth are refused. -/
def Edit.whileRaw : List Edit :=
  [.vlanId 7 0x0FFF, .raw [0x12, 0x34] [0xF0], .raw [0xAB, 0xCD] [0xFF, 0x0F], .layer3 .ipv4,
    .tightTermination]

/-- The edits that ask for VLAN 5. -/
def Edit.vlanFive : List Edit :=
  [.layer2 .ethernetVlan, .vlanId 5 0x0FFF]

/-- A rule for VLAN 5 takes these steps and is for VLAN 5 again. -/
theorem setRaw_detour_vlan :
    ∃ rule entered : Rule, rule.Reachable ∧ rule.layer2.kind = .ethernetVlan ∧
      rule.setRaw [0xFF] [0xFF] = .ok entered ∧
      let now := Edit.whileRaw.foldl attempt entered
      now.raw = some ⟨[0xAB, 0xCD], [0xFF, 0x0F]⟩ ∧ now.pattern.value[1] = 0x0D ∧
        now.clearRaw = { rule with termination := 0 } := by
  obtain ⟨entered, hentered, -, hraw, hbytes, hclear, htermination, -⟩ :=
    setRaw_detour (Edit.vlanFive.foldl attempt any)
      (show [0xFF].length = [0xFF].length from rfl) (by decide)
      (show .clearRaw ∉ Edit.whileRaw by simp [Edit.whileRaw])
  refine ⟨_, entered, ⟨Edit.vlanFive, rfl⟩, rfl, hentered, hraw, (hbytes 1 (by decide)).2, ?_⟩
  have htight : (Edit.whileRaw.foldl attempt entered).termination = 0 := by
    cases hentered
    exact htermination (Edit.whileRaw.take 4) .tightTermination [] 0 rfl (by decide +kernel) nofun
  rw [hclear, htight]
  rfl

end Rule

end PacketSteering
