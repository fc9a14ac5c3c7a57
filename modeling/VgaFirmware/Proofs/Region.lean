import VgaFirmware.Machine.Region
import VgaFirmware.Proofs.Transfer

/-!
# Scrolling as a shift of rows

Scrolling a region copies its rows one at a time, over each other. On a flat window the outcome
is one simultaneous shift (`bytes_scroll`): every row takes the bytes of the row that lies
`count` away, and the rows whose source is outside the region are filled.
-/

namespace VgaFirmware.Region

/-! ## Rows and columns of an offset -/

def row (r : Region) (o : UInt16) : Nat := o.toNat / r.stride

def column (r : Region) (o : UInt16) : Nat := o.toNat % r.stride

/-- Rows do not overlap, and all of them lie inside the window. -/
structure Fits (r : Region) : Prop where
  columns_le : r.columns ≤ r.stride
  rows_le : r.stride * r.rows ≤ 65536

variable {r : Region}

theorem toNat_eq (r : Region) (o : UInt16) : o.toNat = r.stride * r.row o + r.column o :=
  (Nat.div_add_mod o.toNat r.stride).symm

theorem row_column_of_toNat {o : UInt16} {y x : Nat} (hx : x < r.stride)
    (h : o.toNat = r.stride * y + x) : r.row o = y ∧ r.column o = x := by
  unfold row column
  rw [h]
  constructor
  · rw [Nat.mul_add_div (by omega), Nat.div_eq_of_lt hx, Nat.add_zero]
  · rw [Nat.mul_add_mod, Nat.mod_eq_of_lt hx]

theorem Fits.row_end_le (fits : r.Fits) {y : Nat} (hy : y < r.rows) :
    r.stride * y + r.stride ≤ 65536 :=
  calc r.stride * y + r.stride = r.stride * (y + 1) := (Nat.mul_succ _ _).symm
    _ ≤ r.stride * r.rows := Nat.mul_le_mul_left _ hy
    _ ≤ 65536 := fits.rows_le

theorem Fits.toNat_rowStart (fits : r.Fits) {y : Nat} (hy : y < r.rows) (hr : 0 < r.columns) :
    (r.rowStart y).toNat = r.stride * y := by
  have hend := fits.row_end_le hy
  have hcols := fits.columns_le
  simp only [rowStart, UInt16.toNat_ofNat']
  omega

theorem rowStart_add (r : Region) (y count : Nat) :
    r.rowStart (y + count) = r.rowStart y + r.rowStart count := by
  simp only [rowStart, Nat.mul_add, UInt16.ofNat_add]

/-- The offsets of a row, as the block that a transfer to it reaches. -/
theorem Fits.mem_row_iff (fits : r.Fits) {y : Nat} (hy : y < r.rows) (o : UInt16) :
    (o - r.rowStart y).toNat < r.columns ↔ r.row o = y ∧ r.column o < r.columns := by
  have hend := fits.row_end_le hy
  have hcols := fits.columns_le
  have ho := o.toNat_lt
  rcases Nat.eq_zero_or_pos r.columns with hzero | hpos
  · simp [hzero]
  · have hstart := fits.toNat_rowStart hy hpos
    constructor
    · intro h
      have hsub : o.toNat = r.stride * y + (o - r.rowStart y).toNat := by
        simp only [UInt16.toNat_sub, hstart] at h ⊢
        omega
      obtain ⟨hrow, hcol⟩ := row_column_of_toNat (by omega) hsub
      exact ⟨hrow, by omega⟩
    · rintro ⟨rfl, hcol⟩
      have := r.toNat_eq o
      simp only [UInt16.toNat_sub, hstart]
      omega

/-- Different rows are a row apart, also across the end of the window. -/
theorem Fits.columns_le_sub (fits : r.Fits) {y z : Nat} (hy : y < r.rows) (hz : z < r.rows)
    (hne : y ≠ z) : r.columns ≤ (r.rowStart y - r.rowStart z).toNat := by
  rcases Nat.eq_zero_or_pos r.columns with hzero | hpos
  · omega
  · have hy' := fits.toNat_rowStart hy hpos
    have hz' := fits.toNat_rowStart hz hpos
    have hyend := fits.row_end_le hy
    have hzend := fits.row_end_le hz
    have hcols := fits.columns_le
    simp only [UInt16.toNat_sub, hy', hz']
    rcases Nat.lt_or_gt_of_ne hne with hlt | hlt
    · have : r.stride * (y + 1) ≤ r.stride * z := Nat.mul_le_mul_left _ hlt
      rw [Nat.mul_add] at this
      omega
    · have : r.stride * (z + 1) ≤ r.stride * y := Nat.mul_le_mul_left _ hlt
      rw [Nat.mul_add] at this
      omega

/-- An offset `count` rows further down has the same column. -/
theorem Fits.add_rows (fits : r.Fits) {o : UInt16} {count : Nat} (hcol : r.column o < r.columns)
    (hrow : r.row o + count < r.rows) :
    r.row (o + r.rowStart count) = r.row o + count ∧
      r.column (o + r.rowStart count) = r.column o := by
  have hend := fits.row_end_le hrow
  have hcols := fits.columns_le
  have ho := r.toNat_eq o
  rw [Nat.mul_add] at hend
  refine row_column_of_toNat (by omega) ?_
  simp only [rowStart, UInt16.toNat_add, UInt16.toNat_ofNat', Nat.mul_add]
  omega

/-- An offset `count` rows further up has the same column. -/
theorem Fits.sub_rows (fits : r.Fits) {o : UInt16} {count : Nat} (hcol : r.column o < r.columns)
    (hrow : count ≤ r.row o) :
    r.row (o - r.rowStart count) = r.row o - count ∧
      r.column (o - r.rowStart count) = r.column o := by
  have hcols := fits.columns_le
  have ho := r.toNat_eq o
  have hlt := o.toNat_lt
  have hsplit : r.stride * r.row o = r.stride * (r.row o - count) + r.stride * count := by
    rw [← Nat.mul_add, Nat.sub_add_cancel hrow]
  refine row_column_of_toNat (by omega) ?_
  simp only [rowStart, UInt16.toNat_sub, UInt16.toNat_ofNat']
  omega

/-! ## One row at a time -/

section

open Backend

variable {B : Type} [Backend B] {P : B → Prop} {bytes : B → UInt16 → UInt8} {b c : B}

theorem accesses_clear (h : Accesses b c) (r : Region) (first count : Nat) (v : UInt8) :
    Accesses b (r.clear c first count v) :=
  h.foldl _ _ fun row hd => hd.fill (r.rowStart row) v r.columns

theorem accesses_copyRows (h : Accesses b c) (r : Region) (rows : List Nat) (dst src : Nat → Nat) :
    Accesses b (rows.foldl (fun b row => r.copyRow b (dst row) (src row)) c) :=
  h.foldl _ _ fun row hd => hd.copy (r.rowStart (dst row)) (r.rowStart (src row)) r.columns

theorem accesses_scroll (h : Accesses b c) (r : Region) (direction : Direction) (count : Nat)
    (v : UInt8) : Accesses b (r.scroll c direction count v) := by
  unfold scroll
  split
  · exact accesses_clear h r 0 r.rows v
  · cases direction with
    | up => exact accesses_clear (accesses_copyRows h r _ id (· + count)) r _ _ v
    | down => exact accesses_clear (accesses_copyRows h r _ (· + count) id) r _ _ v

/-- Clearing rows fills them and leaves all else. -/
theorem bytes_clear (flat : Flat P bytes) (fits : r.Fits) (hb : P b) (first count : Nat)
    (v : UInt8) (hrows : first + count ≤ r.rows) :
    bytes (r.clear b first count v) = fun o =>
      if r.column o < r.columns ∧ first ≤ r.row o ∧ r.row o < first + count then v
      else bytes b o := by
  induction count generalizing b first with
  | zero =>
    funext o
    have : ¬ (first ≤ r.row o ∧ r.row o < first) := by omega
    simp [clear, this]
  | succ count ih =>
    funext o
    have hfill := flat.keeps (.fill .refl (r.rowStart first) v r.columns) hb
    have hstep : r.clear b first (count + 1) v =
        r.clear (fill b (r.rowStart first) v r.columns) (first + 1) count v := rfl
    rw [hstep, ih hfill (first + 1) (by omega), flat.bytes_fill hb]
    simp only [fits.mem_row_iff (show first < r.rows by omega) o]
    grind

/-- Copying a row up takes its bytes from `count` rows further down. -/
theorem bytes_copyRow_up (flat : Flat P bytes) (fits : r.Fits) (hb : P b) {y count : Nat}
    (hcount : 0 < count) (hy : y + count < r.rows) :
    bytes (r.copyRow b y (y + count)) = fun o =>
      if r.column o < r.columns ∧ r.row o = y then bytes b (o + r.rowStart count)
      else bytes b o := by
  have hclear := fits.columns_le_sub (show y < r.rows by omega) hy (by omega)
  have hsrc (o : UInt16) :
      r.rowStart (y + count) + (o - r.rowStart y) = o + r.rowStart count := by
    rw [rowStart_add]
    generalize r.rowStart y = s
    generalize r.rowStart count = d
    grind
  rw [copyRow, flat.bytes_copy hb _ _ _ hclear]
  funext o
  simp only [fits.mem_row_iff (show y < r.rows by omega) o, hsrc, and_comm]

/-- Copying a row down takes its bytes from `count` rows further up. -/
theorem bytes_copyRow_down (flat : Flat P bytes) (fits : r.Fits) (hb : P b) {y count : Nat}
    (hcount : 0 < count) (hy : y + count < r.rows) :
    bytes (r.copyRow b (y + count) y) = fun o =>
      if r.column o < r.columns ∧ r.row o = y + count then
        bytes b (o - r.rowStart count)
      else bytes b o := by
  have hclear := fits.columns_le_sub hy (show y < r.rows by omega) (by omega)
  have hsrc (o : UInt16) :
      r.rowStart y + (o - r.rowStart (y + count)) = o - r.rowStart count := by
    rw [rowStart_add]
    generalize r.rowStart y = s
    generalize r.rowStart count = d
    grind
  rw [copyRow, flat.bytes_copy hb _ _ _ hclear]
  funext o
  simp only [fits.mem_row_iff hy o, hsrc, and_comm]

/-! ## All rows -/

/-- Copying rows up, topmost first: the rows done so far have moved, the others have not. -/
theorem bytes_copyRows_up (flat : Flat P bytes) (fits : r.Fits) (hb : P b) {count : Nat}
    (hcount : 0 < count) (done : Nat) (hdone : done + count ≤ r.rows) :
    bytes ((List.range done).foldl (fun b row => r.copyRow b row (row + count)) b) = fun o =>
      if r.column o < r.columns ∧ r.row o < done then
        bytes b (o + r.rowStart count)
      else bytes b o := by
  induction done with
  | zero =>
    funext o
    simp
  | succ done ih =>
    funext o
    have hkeep := flat.keeps (accesses_copyRows .refl r (List.range done) id (· + count)) hb
    simp only [id] at hkeep
    rw [List.range_succ, List.foldl_append, List.foldl_cons, List.foldl_nil,
      bytes_copyRow_up flat fits hkeep hcount (by omega), ih (by omega)]
    by_cases hrow : r.column o < r.columns ∧ r.row o = done
    · -- the source row is further down than every row done, so it still has its bytes
      obtain ⟨hcol, rfl⟩ := hrow
      obtain ⟨hsrc, -⟩ := fits.add_rows hcol (show r.row o + count < r.rows by omega)
      have hnot : ¬ r.row (o + r.rowStart count) < r.row o := by omega
      simp [hcol, hnot]
    · have hlt : (r.column o < r.columns ∧ r.row o < done) ↔
          r.column o < r.columns ∧ r.row o < done + 1 := by omega
      simp only [hrow, hlt, if_false]

/-- Copying rows down, bottommost first: it is as if all of them moved at once. -/
theorem bytes_copyRows_down (flat : Flat P bytes) (fits : r.Fits) (hb : P b) {count : Nat}
    (hcount : 0 < count) (left : Nat) (hleft : left + count ≤ r.rows) :
    bytes ((List.range left).reverse.foldl (fun b row => r.copyRow b (row + count) row) b) =
      fun o =>
        if r.column o < r.columns ∧ count ≤ r.row o ∧ r.row o < left + count then
          bytes b (o - r.rowStart count)
        else bytes b o := by
  induction left generalizing b with
  | zero =>
    funext o
    have hnone : ¬ (r.column o < r.columns ∧ count ≤ r.row o ∧ r.row o < 0 + count) := by omega
    rw [if_neg hnone]
    rfl
  | succ left ih =>
    funext o
    have hkeep := flat.keeps (accesses_copyRows .refl r [left] (· + count) id) hb
    simp only [id, List.foldl_cons, List.foldl_nil] at hkeep
    rw [List.range_succ, List.reverse_concat, List.foldl_cons, ih hkeep (by omega),
      bytes_copyRow_down flat fits hb hcount (by omega)]
    by_cases hrow : r.column o < r.columns ∧ count ≤ r.row o ∧ r.row o < left + count
    · -- the source row is further up than the row just written, so it still has its bytes
      obtain ⟨hcol, hlow, hhigh⟩ := hrow
      obtain ⟨hsrc, -⟩ := fits.sub_rows hcol hlow
      have hnot : r.row (o - r.rowStart count) ≠ left + count := by omega
      have hlt : r.row o < left + 1 + count := by omega
      simp [hcol, hlow, hhigh, hlt, hnot]
    · have hlt : (r.column o < r.columns ∧ r.row o = left + count) ↔
          r.column o < r.columns ∧ count ≤ r.row o ∧ r.row o < left + 1 + count := by omega
      simp only [hrow, hlt, if_false]

/-- Where the bytes of a scrolled region come from: the row `count` away, or nowhere. -/
def shifted (r : Region) (direction : Direction) (count : Nat) (v : UInt8)
    (old : UInt16 → UInt8) (o : UInt16) : UInt8 :=
  if r.column o < r.columns ∧ r.row o < r.rows then
    match direction with
    | .up =>
      if r.row o + count < r.rows then old (o + r.rowStart count) else v
    | .down => if count ≤ r.row o then old (o - r.rowStart count) else v
  else old o

/-- Scrolling shifts all rows of the region at once. -/
theorem bytes_scroll (flat : Flat P bytes) (fits : r.Fits) (hb : P b) (direction : Direction)
    {count : Nat} (hcount : 0 < count) (v : UInt8) :
    bytes (r.scroll b direction count v) = r.shifted direction count v (bytes b) := by
  funext o
  unfold scroll shifted
  split
  · rename_i hall
    rw [bytes_clear flat fits hb 0 r.rows v (by omega)]
    have h₁ : ¬ r.row o + count < r.rows := by omega
    by_cases hin : r.column o < r.columns ∧ r.row o < r.rows
    · have h₂ : ¬ count ≤ r.row o := by omega
      cases direction <;> simp [hin, h₁, h₂]
    · simp [hin]
  · rename_i hsome
    cases direction with
    | up =>
      have hkeep := flat.keeps (accesses_copyRows .refl r (List.range (r.rows - count)) id
        (· + count)) hb
      simp only [id] at hkeep
      simp only [scrollUp]
      rw [bytes_clear flat fits hkeep _ _ v (by omega),
        bytes_copyRows_up flat fits hb hcount _ (by omega)]
      grind
    | down =>
      have hkeep := flat.keeps (accesses_copyRows .refl r (List.range (r.rows - count)).reverse
        (· + count) id) hb
      simp only [id] at hkeep
      simp only [scrollDown]
      rw [bytes_clear flat fits hkeep _ _ v (by omega),
        bytes_copyRows_down flat fits hb hcount _ (by omega)]
      grind

end

end VgaFirmware.Region
