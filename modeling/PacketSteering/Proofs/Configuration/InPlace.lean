import Mathlib.Tactic.Common
import PacketSteering.Proofs.Configuration.Reachable
import PacketSteering.Proofs.Rule.InPlace

/-!
# Operations in place

An operation on a configuration finds the filter, the partial expression or the stream that it is
given a handle of, and works on it where it is, which may be refused in turn.  Here the operations
are spelled out as ones that change a configuration in place and can be refused at any point, and
what a piece of work leaves is written back whether it was refused or not.  None of the operations
is refused once it has changed anything, so that each leaves what `Configuration.apply` says, or the
configuration as it was (`Configuration.InPlace.perform_apply`).
-/

namespace PacketSteering

namespace Configuration

/-- Operations that change a configuration in place, and can be refused at any point. -/
abbrev InPlace : Type → Type :=
  ExceptT Fault (StateM Configuration)

namespace InPlace

/-- What an operation gives or is refused for, and the configuration that it leaves. -/
def perform {α : Type} (operation : InPlace α) (config : Configuration) :
    Except Fault α × Configuration :=
  operation.run.run config

/-- What is said of work on something and left by it, if it changes nothing unless it succeeds. -/
def settled {α : Type} (before : α) : Except Fault α → Except Fault Unit × α
  | .ok after => (.ok (), after)
  | .error fault => (.error fault, before)

/-- Leaves a configuration, and is refused as the work that led to it was. -/
def leave (outcome : Except Fault Unit) (after : Configuration) : InPlace Unit := do
  set after
  ofExcept outcome

/-! ## Finding what a handle names -/

/-- Works on the filter of a virtual slot. -/
def onFilter (slot : ℕ) (work : Filter → Except Fault Unit × Filter) : InPlace Unit := do
  let config ← get
  if h : slot < filterCount then
    let (outcome, filter) := work config.filters[slot]
    leave outcome { config with filters := config.filters.set slot filter }
  else
    throw (.filterSlot slot)

/-- Works on the partial expression of a handle. -/
def onPartial (id : PartialId)
    (work : PartialExpression → Except Fault Unit × PartialExpression) : InPlace Unit := do
  let config ← get
  match config.partials[id.index]? with
  | some expression =>
    let (outcome, changed) := work expression
    leave outcome { config with partials := config.partials.setIfInBounds id.index changed }
  | none => throw (.partialMissing id.index)

/-- Works on the expression of a stream, which is never refused. -/
def onStream (index : ℕ) (work : StreamExpression → StreamExpression) : InPlace Unit := do
  let config ← get
  match config.streams[index]? with
  | some expression =>
    set { config with streams := config.streams.setIfInBounds index (work expression) }
  | none => throw (.stream index)

/-- Goes on only if there is a partial expression for a handle. -/
def requirePartial (id : PartialId) : InPlace Unit := do
  match (← get).partials[id.index]? with
  | some _ => return
  | none => throw (.partialMissing id.index)

/-! ## Operations -/

/-- Edits the rule of a filter, and leaves in the filter what the edit leaves of the rule. -/
def editRule (edit : Rule.Edit) (filter : Filter) : Except Fault Unit × Filter :=
  let (outcome, rule) := Rule.InPlace.perform (Rule.InPlace.apply edit) filter.rule
  (outcome, { filter with rule })

/-- Writes the term for one value of a dimension, if the dimension has the value. -/
def setTerm (dim : Dimension) (index : ℕ) (term : Term) (expression : PartialExpression) :
    Except Fault Unit × PartialExpression :=
  if h : index < dim.size then
    (.ok (), expression.withTerms dim ((expression.terms dim).set index term))
  else (.error (dim.outOfRange index), expression)

/-- Appends a blank partial expression, and issues as its handle the place before the end. -/
def issue : InPlace PartialId := do
  modify fun config => { config with partials := config.partials.push .blank }
  return ⟨(← get).partials.size - 1⟩

/-- Makes one edit in place. -/
def apply : Edit → InPlace Unit
  | .enable slot enabled => onFilter slot fun filter => (.ok (), { filter with enabled })
  | .rule slot edit => onFilter slot (editRule edit)
  | .addPartial => do
    let _ ← issue
  | .term id dim index term => onPartial id (setTerm dim index term)
  | .addToStream index id invert => do
    requirePartial id
    onStream index fun expression => expression.add id invert
  | .clearStream index => onStream index fun _ => .never

/-! ## What they leave -/

variable (config : Configuration)

lemma perform_bind_of_ok {α β : Type} {config : Configuration} {first : InPlace α}
    {next : α → InPlace β} {value : α} {after : Configuration}
    (h : perform first config = (.ok value, after)) :
    perform (first >>= next) config = perform (next value) after := by
  have hfirst : first config = (.ok value, after) := h
  change (match first config with
    | (outcome, left) => ExceptT.bindCont next outcome left) = perform (next value) after
  rw [hfirst]
  rfl

lemma perform_bind_of_error {α β : Type} {config : Configuration} {first : InPlace α}
    {next : α → InPlace β} {fault : Fault} {after : Configuration}
    (h : perform first config = (.error fault, after)) :
    perform (first >>= next) config = (.error fault, after) := by
  have hfirst : first config = (.error fault, after) := h
  change (match first config with
    | (outcome, left) => ExceptT.bindCont next outcome left) = (.error fault, after)
  rw [hfirst]
  rfl

lemma perform_get_bind {α : Type} (next : Configuration → InPlace α) :
    perform (get >>= next) config = perform (next config) config :=
  rfl

lemma perform_leave (outcome : Except Fault Unit) (after : Configuration) :
    perform (leave outcome after) config = (outcome, after) := by
  cases outcome <;> rfl

lemma set_filter_self {slot : ℕ} (hslot : slot < filterCount) :
    { config with filters := config.filters.set slot config.filters[slot] } = config := by
  rw [Vector.set_getElem_self]

lemma set_partial_self {id : PartialId} {expression : PartialExpression}
    (h : config.partials[id.index]? = some expression) :
    { config with partials := config.partials.setIfInBounds id.index expression } = config := by
  obtain ⟨hindex, rfl⟩ := Array.getElem?_eq_some_iff.mp h
  rw [Array.setIfInBounds_def, dif_pos hindex, Array.set_getElem_self]

/-- Work on a filter that changes nothing unless it succeeds makes an operation that does so. -/
lemma perform_onFilter (slot : ℕ) {work : Filter → Except Fault Unit × Filter}
    {change : Filter → Except Fault Filter}
    (hwork : ∀ filter, work filter = settled filter (change filter)) :
    perform (onFilter slot work) config = settled config (config.modifyFilter slot change) := by
  rw [onFilter, perform_get_bind, Configuration.modifyFilter]
  by_cases hslot : slot < filterCount
  · simp only [dif_pos hslot, perform_leave, hwork]
    cases change config.filters[slot] with
    | ok filter => rfl
    | error fault => exact Prod.ext rfl (set_filter_self config hslot)
  · simp only [dif_neg hslot]
    rfl

lemma editRule_eq (edit : Rule.Edit) (filter : Filter) :
    editRule edit filter = settled filter (do
      let rule ← filter.rule.apply edit
      return { filter with rule }) := by
  rw [editRule, Rule.InPlace.perform_apply]
  cases filter.rule.apply edit <;> rfl

/-- Work on a partial expression that changes nothing unless it succeeds makes an operation that
does so. -/
lemma perform_onPartial (id : PartialId)
    {work : PartialExpression → Except Fault Unit × PartialExpression}
    {change : PartialExpression → Except Fault PartialExpression}
    (hwork : ∀ expression, work expression = settled expression (change expression)) :
    perform (onPartial id work) config = settled config (do
      let expression ← config.partialOf id
      let expression ← change expression
      return { config with
        partials := config.partials.setIfInBounds id.index expression }) := by
  rw [onPartial, perform_get_bind, partialOf]
  cases hpartial : config.partials[id.index]? with
  | none => rfl
  | some expression =>
    simp only [perform_leave, hwork, bind, Except.bind]
    cases change expression with
    | ok changed => rfl
    | error fault => exact Prod.ext rfl (set_partial_self config hpartial)

lemma setTerm_eq (dim : Dimension) (index : ℕ) (term : Term) (expression : PartialExpression) :
    setTerm dim index term expression =
      settled expression (expression.setTerm dim index term) := by
  unfold setTerm PartialExpression.setTerm
  by_cases hindex : index < dim.size
  · simp only [dif_pos hindex]
    rfl
  · simp only [dif_neg hindex]
    rfl

lemma perform_onStream (index : ℕ) (work : StreamExpression → StreamExpression) :
    perform (onStream index work) config = settled config (do
      let expression ← config.stream index
      return { config with streams := config.streams.setIfInBounds index (work expression) }) := by
  rw [onStream, perform_get_bind, stream]
  cases config.streams[index]? <;> rfl

lemma perform_requirePartial (id : PartialId) :
    perform (requirePartial id) config =
      ((config.partialOf id).map fun _ => (), config) := by
  rw [requirePartial, perform_get_bind, partialOf]
  cases config.partials[id.index]? <;> rfl

lemma perform_addToStream (index : ℕ) (id : PartialId) (invert : Bool) :
    perform (apply (.addToStream index id invert)) config =
      settled config (config.addToStream index id invert) := by
  have hrequire := perform_requirePartial config id
  rw [apply, Configuration.addToStream]
  cases hpartial : config.partialOf id with
  | error fault =>
    rw [hpartial] at hrequire
    exact perform_bind_of_error hrequire
  | ok expression =>
    rw [hpartial] at hrequire
    rw [perform_bind_of_ok hrequire, perform_onStream]
    rfl

lemma perform_issue : perform issue config = (.ok config.addPartial.1, config.addPartial.2) := by
  have hissue : perform issue config =
      (.ok ⟨(config.partials.push .blank).size - 1⟩, config.addPartial.2) := rfl
  rw [hissue, Array.size_push, Nat.add_sub_cancel]
  rfl

/-- **An operation that is refused has changed nothing.** Made in place, every edit leaves the
configuration that it is said to lead to or, if it is refused, the configuration as it was. -/
theorem perform_apply (edit : Edit) :
    perform (apply edit) config = settled config (config.apply edit) := by
  cases edit with
  | enable slot enabled =>
    rw [apply, Configuration.apply, setEnabled]
    exact perform_onFilter config slot fun _ => rfl
  | rule slot edit =>
    rw [apply, Configuration.apply, Configuration.editRule]
    exact perform_onFilter config slot (editRule_eq edit)
  | addPartial => exact perform_bind_of_ok (perform_issue config)
  | term id dim index term => exact perform_onPartial config id (setTerm_eq dim index term)
  | addToStream index id invert => exact perform_addToStream config index id invert
  | clearStream index => exact perform_onStream config index _

variable {config}

lemma settled_eq_error_iff {outcome : Except Fault Configuration} {fault : Fault} :
    (settled config outcome).1 = .error fault ↔ outcome = .error fault := by
  cases outcome <;> simp [settled]

lemma settled_apply (edit : Edit) :
    (settled config (config.apply edit)).2 = config.attempt edit := by
  unfold Configuration.attempt
  cases config.apply edit <;> rfl

end InPlace

end Configuration

end PacketSteering
