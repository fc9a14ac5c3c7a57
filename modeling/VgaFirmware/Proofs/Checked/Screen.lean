import VgaFirmware.Proofs.Checked
import VgaFirmware.Service.ModeSet

/-!
# The screen, checked

Cell indices are words, and the cursors of the pages are found by number. No value of the screen
makes its arithmetic stop: a cell index fits a word (`checkedIndex_eq`), what is divided by is
never zero (`checkedPosition_eq`), and a page is checked before its cursor is looked for
(`slot_eq`).
-/

namespace VgaFirmware

namespace Screen

/-- Index of a cell, unless a word does not hold it. -/
def checkedIndex (s : Screen) (p : Position) : Checked UInt16 := do
  let row ← Checked.word (s.columns.toNat * p.y.toNat)
  Checked.word (row.toNat + p.x.toNat)

/-- The position of a cell index, unless a row has no cells. -/
def checkedPosition (s : Screen) (index : UInt16) : Checked Position := do
  let columns := if s.columns = 0 then 1 else s.columns.toUInt16
  let x ← Checked.mod index columns
  let y ← Checked.div index columns
  return ⟨x.toUInt8, y.toUInt8⟩

/-- Number of the cursor of a page. -/
def slot (page : UInt8) : Except Rejection Nat :=
  if page.toNat < 8 then .ok page.toNat else .error (.noSuchPage page)

/-- Brings one stored cursor onto the screen. -/
def clampSlot (s : Screen) (slot : Nat) : Checked Screen := do
  let p ← Checked.get s.cursors slot
  let cursors ← Checked.set s.cursors slot (s.clamp p)
  return { s with cursors := cursors }

/-- The screen in a mode, with one cursor brought onto it after the other. -/
def checkedEnter (s : Screen) (spec : ModeSpec) : Checked Screen :=
  (List.range 8).foldlM clampSlot
    { s with
      mode := spec.mode
      columns := spec.columns
      rows := spec.rows
      pageSize := spec.pageSize
      activePage := 0 }

/-- A row of at most 255 cells times at most 255 rows leaves room for one row more. -/
theorem checkedIndex_eq (s : Screen) (p : Position) :
    s.checkedIndex p = .ok (s.cellIndex p) := by
  have hc : s.columns.toNat ≤ 255 := Nat.le_of_lt_succ s.columns.toNat_lt
  have hy : p.y.toNat ≤ 255 := Nat.le_of_lt_succ p.y.toNat_lt
  have hx : p.x.toNat ≤ 255 := Nat.le_of_lt_succ p.x.toNat_lt
  have hm : s.columns.toNat * p.y.toNat ≤ 255 * 255 := Nat.mul_le_mul hc hy
  have hrow : Checked.word (s.columns.toNat * p.y.toNat) =
      .ok (UInt16.ofNat (s.columns.toNat * p.y.toNat)) :=
    Checked.word_eq (Int.natCast_mul _ _).symm (by omega)
  have hnat : (UInt16.ofNat (s.columns.toNat * p.y.toNat)).toNat = s.columns.toNat * p.y.toNat := by
    rw [UInt16.toNat_ofNat']
    omega
  have hindex : Checked.word ((UInt16.ofNat (s.columns.toNat * p.y.toNat)).toNat + p.x.toNat) =
      .ok (UInt16.ofNat (s.columns.toNat * p.y.toNat + p.x.toNat)) :=
    Checked.word_eq (by omega) (by omega)
  rw [checkedIndex, hrow, Checked.ok_bind, hindex, ← toNat_cellIndex, UInt16.ofNat_toNat]

theorem checkedPosition_eq (s : Screen) (index : UInt16) :
    s.checkedPosition index = .ok (s.positionOf index) := by
  have hcolumns : (if s.columns = 0 then 1 else s.columns.toUInt16) ≠ 0 := by
    split
    · decide
    · next h => exact fun h0 => h (by rw [← UInt8.toNat_inj, ← UInt8.toNat_toUInt16, h0]; rfl)
  rw [checkedPosition, Checked.mod_eq hcolumns, Checked.ok_bind, Checked.div_eq hcolumns,
    Checked.ok_bind]
  rfl

/-- The cursors of the first `n` pages are clamped, those of the others not yet. -/
def clampedBelow (s : Screen) (n : Nat) : Screen :=
  { s with cursors := Vector.ofFn fun i => if i.val < n then s.clamp (s.cursor i) else s.cursor i }

theorem getElem_clampedBelow (s : Screen) (n : Nat) {i : Nat} (hi : i < 8) :
    (s.clampedBelow n).cursors[i] = if i < n then s.clamp s.cursors[i] else s.cursors[i] :=
  Vector.getElem_ofFn hi

theorem clampSlot_clampedBelow (s : Screen) {n : Nat} (h : n < 8) :
    (s.clampedBelow n).clampSlot n = .ok (s.clampedBelow (n + 1)) := by
  have hget : Checked.get (s.clampedBelow n).cursors n = .ok s.cursors[n] := by
    rw [Checked.get_eq _ h, getElem_clampedBelow, if_neg (Nat.lt_irrefl n)]
  have hclamp : (s.clampedBelow n).clamp s.cursors[n] = s.clamp s.cursors[n] := rfl
  have hset : (s.clampedBelow n).cursors.set n (s.clamp s.cursors[n]) =
      (s.clampedBelow (n + 1)).cursors := by
    apply Vector.ext
    intro i hi
    rw [Vector.getElem_set, getElem_clampedBelow, getElem_clampedBelow]
    by_cases hn : n = i
    · subst hn
      rw [if_pos rfl, if_pos (Nat.lt_succ_self n)]
    · have hlt : i < n + 1 ↔ i < n := by omega
      rw [if_neg hn]
      simp only [hlt]
  rw [clampSlot, hget, Checked.ok_bind, hclamp, Checked.set_eq _ h, Checked.ok_bind, hset]
  rfl

/-- Clamping one cursor leaves the geometry and the other cursors, so the order does not matter. -/
theorem clampSlots_eq (s : Screen) {n : Nat} (h : n ≤ 8) :
    (List.range n).foldlM clampSlot s = .ok (s.clampedBelow n) := by
  induction n with
  | zero =>
    have hcursors : (s.clampedBelow 0).cursors = s.cursors := by
      apply Vector.ext
      intro i hi
      rw [getElem_clampedBelow, if_neg (Nat.not_lt_zero i)]
    have hnone : s.clampedBelow 0 = { s with cursors := (s.clampedBelow 0).cursors } := rfl
    rw [hnone, hcursors]
    rfl
  | succ n ih =>
    rw [List.range_succ, List.foldlM_append, ih (by omega), Checked.ok_bind, List.foldlM_cons,
      clampSlot_clampedBelow s h]
    rfl

theorem checkedEnter_eq (s : Screen) (spec : ModeSpec) :
    s.checkedEnter spec = .ok (s.enter spec) := by
  have hall (t : Screen) : (t.clampedBelow 8).cursors = t.cursors.map t.clamp := by
    apply Vector.ext
    intro i hi
    rw [getElem_clampedBelow, if_pos hi, Vector.getElem_map]
  rw [checkedEnter, clampSlots_eq _ (Nat.le_refl 8), enter, clampCursors, ← hall]
  rfl

/-- A number that is accepted is that of a page with a cursor. -/
theorem slot_eq (page : UInt8) : slot page = (Page.ofByte page).map (·.val) := by
  rw [slot, Page.ofByte]
  split <;> rfl

end Screen

end VgaFirmware
