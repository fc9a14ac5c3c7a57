import Mathlib.Logic.Function.Basic
import VgaFirmware.Cell
import VgaFirmware.Display.Screen

/-!
# The tape under a page

Cells that are written to a page one after the other lie on a tape that starts at a cell of the
page. The page shows the last rows of the tape: whenever the tape passes the bottom row, it moves
up by a row (`rowsGone`). The arithmetic of that is settled here, before any memory: where the
end of the tape is on the page (`Position.EndsAt`), and how it moves on.
-/

namespace VgaFirmware

/-! ## The tape -/

/-- A tape of cells, written from index `first` on. The cells of before are `size` many, below
them the tape is blank. -/
def tape (size : Nat) (old : Nat → Cell) (first : Nat) (written : List Cell) (j : Nat) : Cell :=
  if h : first ≤ j ∧ j < first + written.length then written[j - first]
  else if j < size then old j
  else ⟨0x00, 0x07⟩

theorem tape_nil {size j : Nat} (old : Nat → Cell) (first : Nat) (h : j < size) :
    tape size old first [] j = old j := by
  have hnone : ¬ (first ≤ j ∧ j < first + ([] : List Cell).length) := by
    rw [List.length_nil]
    omega
  rw [tape, dif_neg hnone, if_pos h]

theorem tape_of_le {size first j : Nat} {written : List Cell} (old : Nat → Cell)
    (hwritten : first + written.length ≤ j) (hsize : size ≤ j) :
    tape size old first written j = ⟨0x00, 0x07⟩ := by
  rw [tape, dif_neg (by omega), if_neg (by omega)]

theorem tape_concat (size : Nat) (old : Nat → Cell) (first : Nat) (written : List Cell)
    (c : Cell) :
    tape size old first (written ++ [c]) =
      Function.update (tape size old first written) (first + written.length) c := by
  funext j
  rw [Function.update_apply, tape, tape]
  by_cases hnew : j = first + written.length
  · subst hnew
    simp
  · have hiff : first ≤ j ∧ j < first + (written ++ [c]).length ↔
        first ≤ j ∧ j < first + written.length := by
      rw [List.length_append, List.length_singleton]
      omega
    by_cases hin : first ≤ j ∧ j < first + written.length
    · rw [if_neg hnew, dif_pos hin, dif_pos (hiff.mpr hin),
        List.getElem_append_left (by omega)]
    · rw [if_neg hnew, dif_neg hin, dif_neg (mt hiff.mp hin)]

/-! ## The page on the tape -/

/-- The rows that have left a page when its tape ends at `last`. -/
def rowsGone (columns rows last : Nat) : Nat := last / columns - (rows - 1)

/-- A position on a page that shows the end of a tape. -/
structure Position.EndsAt (columns rows last : Nat) (p : Position) : Prop where
  x : p.x.toNat = last % columns
  y : p.y.toNat = last / columns - rowsGone columns rows last

variable {columns rows last : Nat} {p : Position}

/-- Before the page has moved, positions and indices determine each other. -/
theorem Position.endsAt (hx : p.x.toNat < columns) (hy : p.y.toNat < rows) :
    rowsGone columns rows (columns * p.y.toNat + p.x.toNat) = 0 ∧
      p.EndsAt columns rows (columns * p.y.toNat + p.x.toNat) := by
  have hdiv : (columns * p.y.toNat + p.x.toNat) / columns = p.y.toNat := by
    rw [Nat.mul_add_div (by omega), Nat.div_eq_of_lt hx, Nat.add_zero]
  have hmod : (columns * p.y.toNat + p.x.toNat) % columns = p.x.toNat := by
    rw [Nat.mul_add_mod, Nat.mod_eq_of_lt hx]
  have hgone : rowsGone columns rows (columns * p.y.toNat + p.x.toNat) = 0 := by
    rw [rowsGone, hdiv]
    omega
  refine ⟨hgone, hmod.symm, ?_⟩
  rw [hdiv, hgone, Nat.sub_zero]

namespace Position.EndsAt

/-- Counted with the rows that are gone, the index of the cursor is where the tape ends. -/
theorem index_add (h : p.EndsAt columns rows last) :
    columns * p.y.toNat + p.x.toNat + columns * rowsGone columns rows last = last := by
  have hsplit : columns * p.y.toNat + columns * rowsGone columns rows last =
      columns * (last / columns) := by
    rw [← Nat.mul_add, h.y, Nat.sub_add_cancel]
    exact Nat.sub_le _ _
  have hlast := Nat.div_add_mod last columns
  have hx := h.x
  omega

/-- The end of a tape is on the page. -/
theorem lt (h : p.EndsAt columns rows last) (hcolumns : 0 < columns) (hrows : 0 < rows) :
    p.x.toNat < columns ∧ p.y.toNat < rows := by
  have hy := h.y
  simp only [rowsGone] at hy
  generalize last / columns = row at hy
  exact ⟨h.x ▸ Nat.mod_lt _ hcolumns, by omega⟩

/-- Past a column that is not the last one, the row stays. -/
theorem next_column (h : p.EndsAt columns rows last) {q : Position}
    (hx : p.x.toNat + 1 < columns) (hqx : q.x.toNat = p.x.toNat + 1) (hqy : q.y = p.y) :
    rowsGone columns rows (last + 1) = rowsGone columns rows last ∧
      q.EndsAt columns rows (last + 1) := by
  have hlast := Nat.div_add_mod last columns
  have hpx := h.x
  obtain ⟨hdiv, hmod⟩ : (last + 1) / columns = last / columns ∧
      (last + 1) % columns = p.x.toNat + 1 := by
    rw [Nat.div_mod_unique (by omega)]
    omega
  have hgone : rowsGone columns rows (last + 1) = rowsGone columns rows last := by
    rw [rowsGone, hdiv, rowsGone]
  exact ⟨hgone, hqx.trans hmod.symm, by rw [hqy, hdiv, hgone, h.y]⟩

/-- At the last cell of a page, the rows on it and those gone are the tape. -/
theorem succ_eq (h : p.EndsAt columns rows last) (hx : p.x.toNat + 1 = columns)
    (hy : p.y.toNat + 1 = rows) :
    last + 1 = columns * rows + columns * rowsGone columns rows last := by
  have hindex := h.index_add
  have hrow := Nat.mul_succ columns p.y.toNat
  rw [Nat.succ_eq_add_one, hy] at hrow
  omega

theorem div_mod_succ (h : p.EndsAt columns rows last) (hx : p.x.toNat + 1 = columns) :
    (last + 1) / columns = last / columns + 1 ∧ (last + 1) % columns = 0 := by
  have hlast := Nat.div_add_mod last columns
  have hpx := h.x
  rw [Nat.div_mod_unique (by omega), Nat.mul_succ]
  omega

/-- Past the last column of a row that is not the bottom one, the next row begins. -/
theorem next_row (h : p.EndsAt columns rows last) {q : Position} (hx : p.x.toNat + 1 = columns)
    (hy : p.y.toNat + 1 < rows) (hqx : q.x.toNat = 0) (hqy : q.y.toNat = p.y.toNat + 1) :
    rowsGone columns rows (last + 1) = rowsGone columns rows last ∧
      q.EndsAt columns rows (last + 1) := by
  obtain ⟨hdiv, hmod⟩ := h.div_mod_succ hx
  have hpy := h.y
  simp only [rowsGone] at hpy
  refine ⟨?_, hqx.trans hmod.symm, ?_⟩
  all_goals
    simp only [rowsGone, hdiv]
    generalize last / columns = row at hpy ⊢
    omega

/-- Past the last column of the bottom row, one more row leaves the page. -/
theorem bottom_row (h : p.EndsAt columns rows last) {q : Position} (hx : p.x.toNat + 1 = columns)
    (hy : p.y.toNat + 1 = rows) (hqx : q.x.toNat = 0) (hqy : q.y = p.y) :
    rowsGone columns rows (last + 1) = rowsGone columns rows last + 1 ∧
      q.EndsAt columns rows (last + 1) := by
  obtain ⟨hdiv, hmod⟩ := h.div_mod_succ hx
  have hpy := h.y
  simp only [rowsGone] at hpy
  refine ⟨?_, hqx.trans hmod.symm, ?_⟩
  all_goals
    simp only [rowsGone, hdiv, hqy]
    generalize last / columns = row at hpy ⊢
    omega

end Position.EndsAt

end VgaFirmware
