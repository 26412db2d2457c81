import Mathlib.Data.List.Nodup
import Veloxity.Core.Params

/-! The parameter table lists every parameter once, so indices and identifiers correspond. -/

namespace Veloxity

namespace ParamId

/-- The mixer parameters of one cell are both listed among the mixer parameters. -/
theorem mem_tableMixers_cell (row col : Fin 10) :
    PARAM_PRIMARY_MIXER_CELL row col ∈ tableMixers ∧
      PARAM_SECONDARY_MIXER_CELL row col ∈ tableMixers := by
  simp [tableMixers]

/-- The mixer parameters of one channel are both listed among the mixer parameters. -/
theorem mem_tableMixers_channel (channel : Fin 10) :
    PARAM_PRIMARY_MIXER_OUTPUT channel ∈ tableMixers ∧
      PARAM_PRIMARY_MIXER_PWM_RATE channel ∈ tableMixers := by
  simp [tableMixers]

/-- Every parameter is in the table. -/
theorem mem_table (id : ParamId) : id ∈ table := by
  unfold table
  cases id
  case PARAM_PRIMARY_MIXER_OUTPUT channel => simp [(mem_tableMixers_channel channel).1]
  case PARAM_PRIMARY_MIXER_PWM_RATE channel => simp [(mem_tableMixers_channel channel).2]
  case PARAM_PRIMARY_MIXER_CELL row col => simp [(mem_tableMixers_cell row col).1]
  case PARAM_SECONDARY_MIXER_CELL row col => simp [(mem_tableMixers_cell row col).2]
  -- All others stand before or after the mixer parameters.
  all_goals first
    | exact List.mem_append_right _ (by decide)
    | exact List.mem_append_left _ (List.mem_append_left _ (by decide))

/-- A number that grows along the table. -/
def rank (id : ParamId) : Nat :=
  match id with
  | .PARAM_PRIMARY_MIXER_OUTPUT channel | .PARAM_PRIMARY_MIXER_PWM_RATE channel =>
    100 * id.ctorIdx + channel.val
  | .PARAM_PRIMARY_MIXER_CELL row col | .PARAM_SECONDARY_MIXER_CELL row col =>
    100 * id.ctorIdx + (10 * col.val + row.val)
  | _ => 100 * id.ctorIdx

/-- No parameter is listed twice. -/
theorem nodup_table : table.Nodup := by
  -- Neighbours grow in rank, so all entries do.
  have growing : (table.map rank).IsChain (· < ·) := by decide +kernel
  have ordered := List.isChain_iff_pairwise.mp growing
  exact List.Nodup.of_map rank (ordered.imp fun less => less.ne)

/-- The parameter at an index has that index. -/
theorem toIndex_of_fromIndex {index : Nat} {id : ParamId} (found : fromIndex index = some id) :
    id.toIndex = index := by
  obtain ⟨within, rfl⟩ := List.getElem?_eq_some_iff.mp found
  exact nodup_table.idxOf_getElem index within

/-- Different parameters have different indices. -/
theorem toIndex_inj {id other : ParamId} : id.toIndex = other.toIndex ↔ id = other :=
  List.idxOf_inj (mem_table id)

end ParamId

end Veloxity
