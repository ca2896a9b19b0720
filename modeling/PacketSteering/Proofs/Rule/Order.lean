import Mathlib.Data.List.Perm.Basic
import Mathlib.Tactic.Common
import PacketSteering.Proofs.Rule.Refusal

/-!
# Steps in any order

The fields of a rule and its termination are parts that single steps replace (`Edit.part?`).  Such
a step never looks at another part: whether it is refused is told by the protocols that are chosen
and by raw mode (`refuses_congr`), both of which it leaves alone.  So steps on different parts can
change places (`attempt_comm`), and of two steps on one part that succeed the second counts
(`attempt_attempt_self`).

From these two laws follows that a sequence of such steps comes to what the last step on each part
that succeeds comes to, in whatever order these are taken (`order_independent`).
-/

namespace PacketSteering

/-! ## Parts -/

/-- The parts of a rule that single steps replace. -/
inductive Part
  | field (field : Field)
  | termination
  deriving DecidableEq

/-- What a part of a rule holds. -/
abbrev Part.Value : Part → Type
  | field name => name.Value
  | termination => UInt8

namespace Rule

/-- The part that a step replaces and what it is to hold. Past the last element of a filter a
termination is that one. -/
def Edit.replacement? : Edit → Option ((part : Part) × part.Value)
  | .termination depth => some ⟨.termination, min depth lastElement⟩
  | edit => edit.assigns?.map fun assigned => ⟨.field assigned.1, assigned.2⟩

/-- The part that a step replaces, if it replaces one. -/
def Edit.part? (edit : Edit) : Option Part :=
  edit.replacement?.map Sigma.fst

/-- The rule with a part replaced. -/
def replace (rule : Rule) : (part : Part) → part.Value → Rule
  | .field field, value => rule.put field value
  | .termination, value => { rule with termination := value }

variable (rule : Rule)

@[simp] lemma selection_replace (part : Part) (value : part.Value) :
    (rule.replace part value).selection = rule.selection := by
  cases part with
  | field field => exact rule.selection_put field value
  | termination => rfl

@[simp] lemma raw_replace (part : Part) (value : part.Value) :
    (rule.replace part value).raw = rule.raw := by
  cases part with
  | field field => exact rule.raw_put field value
  | termination => rfl

lemma replace_replace_self (part : Part) (first second : part.Value) :
    (rule.replace part first).replace part second = rule.replace part second := by
  cases part with
  | field field => exact rule.put_put_self field first second
  | termination => rfl

/-- The termination is beside the fields. -/
lemma put_terminated (field : Field) (value : field.Value) (termination : UInt8) :
    { rule with termination }.put field value = { rule.put field value with termination } := by
  cases field <;> rfl

lemma replace_comm {part other : Part} (hne : other ≠ part) (value : part.Value)
    (otherValue : other.Value) :
    (rule.replace part value).replace other otherValue =
      (rule.replace other otherValue).replace part value := by
  cases part with
  | field field =>
    cases other with
    | field other => exact rule.put_comm (fun heq => hne (congrArg _ heq)) value otherValue
    | termination => exact (rule.put_terminated field value otherValue).symm
  | termination =>
    cases other with
    | field other => exact rule.put_terminated other otherValue value
    | termination => exact absurd rfl hne

/-! ## Steps that replace a part -/

variable {rule} {rule' : Rule} {edit : Edit}

/-- Whether a step is refused depends on the protocols that are chosen, on raw mode and on the step
itself. -/
lemma refuses_congr (hselection : rule'.selection = rule.selection)
    (hraw : rule'.isRaw = rule.isRaw) (edit : Edit) : rule'.Refuses edit ↔ rule.Refuses edit := by
  obtain ⟨hkind2, hkind3, hkind4⟩ : rule'.layer2.kind = rule.layer2.kind ∧
      rule'.layer3.kind = rule.layer3.kind ∧ rule'.layer4.kind = rule.layer4.kind := by
    simpa [selection] using hselection
  cases edit <;> simp only [Refuses, hraw, hkind2, hkind3, hkind4]

lemma isOk_apply_iff (rule : Rule) (edit : Edit) :
    (rule.apply edit).isOk = true ↔ ¬ rule.Refuses edit := by
  rw [← rule.apply_eq_error_iff edit]
  cases rule.apply edit with
  | error fault => simp [Except.isOk, Except.toBool]
  | ok edited => simp [Except.isOk, Except.toBool]

lemma isOk_apply_congr (hselection : rule'.selection = rule.selection)
    (hraw : rule'.isRaw = rule.isRaw) (edit : Edit) :
    (rule'.apply edit).isOk = (rule.apply edit).isOk := by
  rw [Bool.eq_iff_iff, isOk_apply_iff, isOk_apply_iff, refuses_congr hselection hraw edit]

/-- A step that replaces a part is one on the termination or one on a field. -/
lemma replacement?_cases {replaced : (part : Part) × part.Value}
    (hedit : edit.replacement? = some replaced) :
    (∃ depth, edit = .termination depth ∧ replaced = ⟨.termination, min depth lastElement⟩) ∨
      ∃ field value, edit.assigns? = some ⟨field, value⟩ ∧ replaced = ⟨.field field, value⟩ := by
  unfold Edit.replacement? at hedit
  split at hedit
  case h_1 depth =>
    cases hedit
    exact Or.inl ⟨depth, rfl, rfl⟩
  case h_2 =>
    obtain ⟨⟨field, value⟩, hassigns, rfl⟩ := Option.map_eq_some_iff.mp hedit
    exact Or.inr ⟨field, value, hassigns, rfl⟩

/-- A step that replaces a part does so, unless it is refused. -/
lemma attempt_of_replacement {part : Part} {value : part.Value}
    (hedit : edit.replacement? = some ⟨part, value⟩) (hgranted : ¬ rule.Refuses edit) :
    rule.attempt edit = rule.replace part value := by
  rcases replacement?_cases hedit with ⟨depth, rfl, heq⟩ | ⟨field, assigned, hassigns, heq⟩
  · cases heq
    rfl
  · cases heq
    rw [attempt, (rule.replaces_of_assigns hassigns).succeeds hgranted]
    rfl

lemma exists_replacement {part : Part} (hedit : edit.part? = some part) :
    ∃ value, edit.replacement? = some ⟨part, value⟩ := by
  obtain ⟨⟨_, value⟩, hreplacement, rfl⟩ := Option.map_eq_some_iff.mp hedit
  exact ⟨value, hreplacement⟩

/-- A step that replaces a part leaves the protocols that are chosen alone, and raw mode. -/
lemma selection_attempt (rule : Rule) (hedit : edit.part?.isSome) :
    (rule.attempt edit).selection = rule.selection ∧ (rule.attempt edit).isRaw = rule.isRaw := by
  by_cases hrefuses : rule.Refuses edit
  · rw [attempt_of_refuses hrefuses]
    exact ⟨rfl, rfl⟩
  · obtain ⟨part, hpart⟩ := Option.isSome_iff_exists.mp hedit
    obtain ⟨value, hreplacement⟩ := exists_replacement hpart
    rw [attempt_of_replacement hreplacement hrefuses]
    simp [isRaw]

/-- A step that replaces a part does not change what is refused. -/
lemma refuses_attempt_iff (rule : Rule) (hedit : edit.part?.isSome) (other : Edit) :
    (rule.attempt edit).Refuses other ↔ rule.Refuses other :=
  refuses_congr (rule.selection_attempt hedit).1 (rule.selection_attempt hedit).2 other

lemma attempt_comm (rule : Rule) {a b : Edit} (ha : a.part?.isSome) (hb : b.part?.isSome)
    (hne : a.part? ≠ b.part?) : (rule.attempt a).attempt b = (rule.attempt b).attempt a := by
  by_cases hrefusesA : rule.Refuses a
  · have hlater := (rule.refuses_attempt_iff hb a).mpr hrefusesA
    rw [attempt_of_refuses hrefusesA, attempt_of_refuses hlater]
  by_cases hrefusesB : rule.Refuses b
  · have hlater := (rule.refuses_attempt_iff ha b).mpr hrefusesB
    rw [attempt_of_refuses hrefusesB, attempt_of_refuses hlater]
  obtain ⟨partA, hpartA⟩ := Option.isSome_iff_exists.mp ha
  obtain ⟨partB, hpartB⟩ := Option.isSome_iff_exists.mp hb
  obtain ⟨valueA, hreplaceA⟩ := exists_replacement hpartA
  obtain ⟨valueB, hreplaceB⟩ := exists_replacement hpartB
  have hparts : partB ≠ partA := fun heq => hne (by rw [hpartA, hpartB, heq])
  have hgrantedA := mt (rule.refuses_attempt_iff hb a).mp hrefusesA
  have hgrantedB := mt (rule.refuses_attempt_iff ha b).mp hrefusesB
  rw [attempt_of_replacement hreplaceB hgrantedB, attempt_of_replacement hreplaceA hgrantedA,
    attempt_of_replacement hreplaceA hrefusesA, attempt_of_replacement hreplaceB hrefusesB]
  exact rule.replace_comm hparts valueA valueB

/-- Of two steps on one part the second counts, if it succeeds. -/
lemma attempt_attempt_self (rule : Rule) {a b : Edit} (hb : b.part?.isSome)
    (heq : a.part? = b.part?) (hgranted : ¬ rule.Refuses b) :
    (rule.attempt a).attempt b = rule.attempt b := by
  by_cases hrefuses : rule.Refuses a
  · rw [attempt_of_refuses hrefuses]
  obtain ⟨part, hpart⟩ := Option.isSome_iff_exists.mp hb
  obtain ⟨valueA, hreplaceA⟩ := exists_replacement (heq.trans hpart)
  obtain ⟨valueB, hreplaceB⟩ := exists_replacement hpart
  have hlater := mt (rule.refuses_attempt_iff (heq ▸ hb) b).mp hgranted
  rw [attempt_of_replacement hreplaceB hlater, attempt_of_replacement hreplaceA hrefuses,
    attempt_of_replacement hreplaceB hgranted]
  exact rule.replace_replace_self part valueA valueB

variable {edits : List Edit}

lemma selection_foldl_attempt (rule : Rule) (hedits : ∀ edit ∈ edits, edit.part?.isSome) :
    (edits.foldl attempt rule).selection = rule.selection ∧
      (edits.foldl attempt rule).isRaw = rule.isRaw := by
  induction edits generalizing rule with
  | nil => exact ⟨rfl, rfl⟩
  | cons edit rest ih =>
    obtain ⟨hedit, hrest⟩ := List.forall_mem_cons.mp hedits
    obtain ⟨hselection, hraw⟩ := rule.selection_attempt hedit
    obtain ⟨hselection', hraw'⟩ := ih (rule.attempt edit) hrest
    exact ⟨hselection'.trans hselection, hraw'.trans hraw⟩

/-! ## Steps that succeed -/

/-- Of a sequence of steps, those that succeed. -/
def succeeding (rule : Rule) : List Edit → List Edit
  | [] => []
  | edit :: rest =>
    let later := (rule.attempt edit).succeeding rest
    if (rule.apply edit).isOk then edit :: later else later

/-- A step that is refused could as well have been left out. -/
lemma foldl_attempt_succeeding (rule : Rule) (edits : List Edit) :
    (rule.succeeding edits).foldl attempt rule = edits.foldl attempt rule := by
  induction edits generalizing rule with
  | nil => rfl
  | cons edit rest ih =>
    rw [succeeding, List.foldl_cons]
    by_cases hok : (rule.apply edit).isOk
    · rw [if_pos hok, List.foldl_cons, ih]
    · have hrefuses : rule.Refuses edit := by
        rwa [isOk_apply_iff, not_not] at hok
      rw [if_neg hok, attempt_of_refuses hrefuses, ih]

/-- Which steps that replace a part succeed can be told beforehand. -/
lemma succeeding_eq_filter (rule : Rule) (hedits : ∀ edit ∈ edits, edit.part?.isSome) :
    rule.succeeding edits = edits.filter fun edit => (rule.apply edit).isOk := by
  induction edits generalizing rule with
  | nil => rfl
  | cons edit rest ih =>
    obtain ⟨hedit, hrest⟩ := List.forall_mem_cons.mp hedits
    obtain ⟨hselection, hraw⟩ := rule.selection_attempt hedit
    rw [succeeding, List.filter_cons, ih _ hrest]
    simp only [isOk_apply_congr hselection hraw]

/-! ## The last step on each part -/

/-- Of a list of steps, the last one on each part. -/
def Edit.lastOnParts : List Edit → List Edit
  | [] => []
  | edit :: rest =>
    if rest.any fun later => later.part? = edit.part? then lastOnParts rest
    else edit :: lastOnParts rest

lemma Edit.lastOnParts_sublist (edits : List Edit) : (lastOnParts edits).Sublist edits := by
  induction edits with
  | nil => exact List.Sublist.refl []
  | cons edit rest ih =>
    rw [lastOnParts]
    split
    case isTrue => exact ih.cons edit
    case isFalse => exact ih.cons_cons edit

lemma Edit.pairwise_lastOnParts (edits : List Edit) :
    (lastOnParts edits).Pairwise fun a b => a.part? ≠ b.part? := by
  induction edits with
  | nil => exact List.Pairwise.nil
  | cons edit rest ih =>
    rw [lastOnParts]
    split
    case isTrue => exact ih
    case isFalse hlast =>
      refine List.pairwise_cons.mpr ⟨fun later hlater heq => hlast ?_, ih⟩
      exact List.any_eq_true.mpr
        ⟨later, (lastOnParts_sublist rest).subset hlater, decide_eq_true heq.symm⟩

/-- A step counts for nothing if one on the same part succeeds after it. -/
lemma foldl_attempt_overridden (rule : Rule) (hedit : edit.part?.isSome)
    (hedits : ∀ later ∈ edits, later.part?.isSome ∧ ¬ rule.Refuses later)
    (hlater : ∃ later ∈ edits, later.part? = edit.part?) :
    edits.foldl attempt (rule.attempt edit) = edits.foldl attempt rule := by
  induction edits generalizing rule with
  | nil =>
    obtain ⟨later, hmem, -⟩ := hlater
    cases hmem
  | cons first rest ih =>
    obtain ⟨⟨hfirst, hgranted⟩, hrest⟩ := List.forall_mem_cons.mp hedits
    rw [List.foldl_cons, List.foldl_cons]
    by_cases hsame : edit.part? = first.part?
    · rw [rule.attempt_attempt_self hfirst hsame hgranted]
    · -- The first step is on another part, and the one that counts comes later.
      have hrest' : ∀ later ∈ rest, later.part?.isSome ∧ ¬ (rule.attempt first).Refuses later :=
        fun later hmem => ⟨(hrest later hmem).1,
          mt (rule.refuses_attempt_iff hfirst later).mp (hrest later hmem).2⟩
      obtain ⟨later, hmem, hpart⟩ := hlater
      have hmem' : later ∈ rest := (List.mem_cons.mp hmem).resolve_left fun heq =>
        hsame (heq ▸ hpart.symm)
      rw [rule.attempt_comm hedit hfirst hsame, ih _ hrest' ⟨later, hmem', hpart⟩]

/-- Of steps that succeed the last one on each part counts. -/
lemma foldl_attempt_lastOnParts (rule : Rule)
    (hedits : ∀ edit ∈ edits, edit.part?.isSome ∧ ¬ rule.Refuses edit) :
    (Edit.lastOnParts edits).foldl attempt rule = edits.foldl attempt rule := by
  induction edits generalizing rule with
  | nil => rfl
  | cons edit rest ih =>
    obtain ⟨⟨hedit, -⟩, hrest⟩ := List.forall_mem_cons.mp hedits
    rw [Edit.lastOnParts, List.foldl_cons]
    split
    case isTrue hoverridden =>
      obtain ⟨later, hmem, hpart⟩ := List.any_eq_true.mp hoverridden
      rw [ih rule hrest,
        rule.foldl_attempt_overridden hedit hrest ⟨later, hmem, of_decide_eq_true hpart⟩]
    case isFalse =>
      rw [List.foldl_cons, ih (rule.attempt edit) fun later hmem => ⟨(hrest later hmem).1,
        mt (rule.refuses_attempt_iff hedit later).mp (hrest later hmem).2⟩]

/-- Steps on different parts can be taken in any order. -/
lemma foldl_attempt_perm (rule : Rule) {chosen : List Edit} (hperm : chosen.Perm edits)
    (hparts : edits.Pairwise fun a b => a.part? ≠ b.part?)
    (hedits : ∀ edit ∈ edits, edit.part?.isSome) :
    chosen.foldl attempt rule = edits.foldl attempt rule := by
  have hsymm : Std.Symm fun a b : Edit => a.part? ≠ b.part? := ⟨fun _ _ hne => hne.symm⟩
  refine (hperm.symm.foldl_eq' (fun a ha b hb now => ?_) rule).symm
  by_cases heq : a = b
  · rw [heq]
  · exact now.attempt_comm (hedits a ha) (hedits b hb) (hparts.forall ha hb heq)

/-- **The order of steps on different parts does not matter.** Take any rule and any sequence of
steps on its fields and on its termination.  Whether a step succeeds is told by the protocols that
are chosen, by raw mode and by the step itself, whatever was done before it.  The steps that succeed
last on each part, taken alone and in whatever order, all succeed again, and lead to the rule, and
so to the bytes, that the whole sequence leads to.  And two neighbours on different parts can change
places anywhere in the sequence. -/
theorem order_independent (rule : Rule) (hedits : ∀ edit ∈ edits, edit.part?.isSome) :
    (∀ before edit after, edits = before ++ edit :: after →
        ∀ rule' : Rule, rule'.selection = rule.selection → rule'.isRaw = rule.isRaw →
          ((before.foldl attempt rule).apply edit).isOk = (rule'.apply edit).isOk) ∧
      (∀ chosen : List Edit, chosen.Perm (Edit.lastOnParts (rule.succeeding edits)) →
        rule.succeeding chosen = chosen ∧
          chosen.foldl attempt rule = edits.foldl attempt rule ∧
            (chosen.foldl attempt rule).pattern = (edits.foldl attempt rule).pattern) ∧
      ∀ before a b after, edits = before ++ a :: b :: after → a.part? ≠ b.part? →
        (before ++ b :: a :: after).foldl attempt rule = edits.foldl attempt rule := by
  refine ⟨?_, fun chosen hperm => ?_, ?_⟩
  · rintro before edit after rfl rule' hselection hraw
    obtain ⟨hselection', hraw'⟩ := rule.selection_foldl_attempt fun earlier hearlier =>
      hedits earlier (List.mem_append_left _ hearlier)
    exact isOk_apply_congr (hselection'.trans hselection.symm) (hraw'.trans hraw.symm) edit
  · have hgranted : ∀ edit ∈ rule.succeeding edits, edit.part?.isSome ∧ ¬ rule.Refuses edit := by
      intro edit hmem
      rw [rule.succeeding_eq_filter hedits, List.mem_filter, isOk_apply_iff] at hmem
      exact ⟨hedits edit hmem.1, hmem.2⟩
    have hlast : ∀ edit ∈ Edit.lastOnParts (rule.succeeding edits),
        edit.part?.isSome ∧ ¬ rule.Refuses edit := fun edit hmem =>
      hgranted edit ((Edit.lastOnParts_sublist _).subset hmem)
    have hchosen : chosen.foldl attempt rule = edits.foldl attempt rule :=
      calc chosen.foldl attempt rule
          = (Edit.lastOnParts (rule.succeeding edits)).foldl attempt rule :=
            rule.foldl_attempt_perm hperm (Edit.pairwise_lastOnParts _) fun edit hmem =>
              (hlast edit hmem).1
        _ = (rule.succeeding edits).foldl attempt rule := rule.foldl_attempt_lastOnParts hgranted
        _ = edits.foldl attempt rule := rule.foldl_attempt_succeeding edits
    refine ⟨?_, hchosen, congrArg pattern hchosen⟩
    rw [rule.succeeding_eq_filter fun edit hmem => (hlast edit (hperm.subset hmem)).1,
      List.filter_eq_self]
    exact fun edit hmem => (rule.isOk_apply_iff edit).mpr (hlast edit (hperm.subset hmem)).2
  · rintro before a b after rfl hne
    have ha : a.part?.isSome := hedits a (by simp)
    have hb : b.part?.isSome := hedits b (by simp)
    simp only [List.foldl_append, List.foldl_cons, attempt_comm _ ha hb hne]

/-- Steps on the parts of a rule for TCP, of which the second and the fifth are refused. -/
def Edit.onTcp : List Edit :=
  [.srcPort 1 0xFFFF, .icmpType 8 0xFF, .ihl 6 0x0F, .termination 40, .ihl 3 0x0F,
    .srcPort 80 0xFFFF]

/-- The last of them on each part that succeed. -/
def Edit.lastOnTcp : List Edit :=
  [.ihl 6 0x0F, .termination 40, .srcPort 80 0xFFFF]

/-- The edits that choose TCP over IPv4. -/
def Edit.tcp : List Edit :=
  [.layer3 .ipv4, .layer4 .tcp]

/-- The last three that succeed, taken backwards, lead to the same rule. -/
theorem order_independent_tcp :
    ∃ rule : Rule, rule.Reachable ∧ rule.selection = (.ethernet, .ipv4, .tcp) ∧
      (((Edit.onTcp.take 4).foldl attempt rule).apply (.ihl 3 0x0F)).isOk = false ∧
      [.srcPort 80 0xFFFF, .termination 40, .ihl 6 0x0F].foldl attempt rule =
        Edit.onTcp.foldl attempt rule ∧
      (Edit.onTcp.foldl attempt rule).get? (.layer4 (.port .src)) = some (.exact 80) := by
  have hparts : ∀ edit ∈ Edit.onTcp, edit.part?.isSome := by decide
  obtain ⟨hsucceeds, hlast, -⟩ := order_independent (Edit.tcp.foldl attempt any) hparts
  have hihl := hsucceeds (Edit.onTcp.take 4) (.ihl 3 0x0F) [.srcPort 80 0xFFFF] rfl
    (Edit.tcp.foldl attempt any) rfl rfl
  have hchosen : Edit.lastOnParts ((Edit.tcp.foldl attempt any).succeeding Edit.onTcp) =
    Edit.lastOnTcp := rfl
  obtain ⟨-, hsame, -⟩ := hlast Edit.lastOnTcp.reverse (hchosen ▸ Edit.lastOnTcp.reverse_perm)
  exact ⟨_, ⟨Edit.tcp, rfl⟩, rfl, hihl, hsame, rfl⟩

end Rule

end PacketSteering
