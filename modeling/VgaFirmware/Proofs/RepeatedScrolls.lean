import VgaFirmware.Proofs.Scrolling

/-!
# Scrolling more than once

The cells that two scrolls leave are found by following the rows back: from each row to its source
in the second scroll, and from there to its source in the first one
(`Usable.plane_scroll_scroll`). So scrolls in one direction add up, and scrolling back restores the
rows that had stayed in the region (`Started.scrolls_compose`).
-/

namespace VgaFirmware

/-! ## Sources of rows -/

namespace Direction

variable {count rows y z : Nat}

theorem source?_up (count rows y : Nat) :
    up.source? count rows y = if y + count < rows then some (y + count) else none := rfl

theorem source?_down (count rows y : Nat) :
    down.source? count rows y = if count ≤ y then some (y - count) else none := rfl

theorem source?_zero (direction : Direction) (hy : y < rows) :
    direction.source? 0 rows y = some y := by
  cases direction with
  | up => rw [source?_up, Nat.add_zero, if_pos hy]
  | down => rw [source?_down, Nat.sub_zero, if_pos (Nat.zero_le y)]

/-- A scroll by the height of the region leaves no row a source. -/
theorem source?_of_le (direction : Direction) (hy : y < rows) (hcount : rows ≤ count) :
    direction.source? count rows y = none := by
  cases direction with
  | up => exact if_neg (by omega)
  | down => exact if_neg (by omega)

/-- Counts that reach the height of the region are all alike. -/
theorem source?_min (direction : Direction) (hy : y < rows) (count : Nat) {limit : Nat}
    (hlimit : rows ≤ limit) :
    direction.source? (min count limit) rows y = direction.source? count rows y := by
  rcases Nat.le_total count limit with h | h
  · rw [Nat.min_eq_left h]
  · rw [direction.source?_of_le hy (by omega), direction.source?_of_le hy (by omega)]

theorem lt_of_source? {direction : Direction} (hy : y < rows)
    (h : direction.source? count rows y = some z) : z < rows := by
  cases direction with
  | up =>
    obtain ⟨hsource, rfl⟩ := Option.ite_some_none_eq_some.mp h
    exact hsource
  | down =>
    obtain ⟨-, rfl⟩ := Option.ite_some_none_eq_some.mp h
    omega

/-- In one direction, the source of the source is as far away as both counts together. -/
theorem bind_source? (direction : Direction) (first second rows y : Nat) :
    (direction.source? second rows y).bind (direction.source? first rows) =
      direction.source? (first + second) rows y := by
  cases direction with
  | up =>
    rw [source?_up second, source?_up (first + second), Nat.add_comm first, ← Nat.add_assoc]
    split
    · rw [Option.bind_some, source?_up]
    · rw [Option.bind_none, if_neg (by omega)]
  | down =>
    rw [source?_down second, source?_down (first + second), Nat.add_comm first, ← Nat.sub_sub]
    split
    · rw [Option.bind_some, source?_down]
      exact if_congr (by omega) rfl rfl
    · rw [Option.bind_none, if_neg (by omega)]

/-- Back and forth, a row is its own source, unless it came in from outside the region. -/
theorem bind_source?_back (hy : y < rows) (count : Nat) :
    (down.source? count rows y).bind (up.source? count rows) =
      if count ≤ y then some y else none := by
  rw [source?_down]
  split
  · next h => rw [Option.bind_some, source?_up, Nat.sub_add_cancel h, if_pos hy]
  · rfl

end Direction

/-! ## Cells after scrolls -/

namespace Service

variable {bus : BusWidth} {window : UInt16} {spec : ModeSpec} {s : Service (Board bus)}

/-- The byte of a plane in the cells that come free. -/
def freed (attr : UInt8) (p : Plane) : UInt8 := if p = .attributes then attr else 0

theorem screen_scroll (direction : Direction) (count attr columns rows : UInt8) :
    (s.scroll direction count attr columns rows).screen = s.screen :=
  (s.quiet_scrollPage s.screen.activePage direction count attr columns rows).screen

namespace Usable

theorem scroll (h : s.Usable window spec) (direction : Direction)
    (count attr columns rows : UInt8) :
    (s.scroll direction count attr columns rows).Usable window spec :=
  h.quiet (s.quiet_scrollPage s.screen.activePage direction count attr columns rows)

variable {columns rows : UInt8} {p : Plane} {x y : Nat}

/-- A cell of the region takes its byte from the source of its row. -/
theorem plane_scroll (h : s.Usable window spec) (direction : Direction) (count attr : UInt8)
    (hp : p.val < 2) (hx : x < (s.screen.region columns rows).columns)
    (hy : y < (s.screen.region columns rows).rows) :
    (s.scroll direction count attr columns rows).plane p (s.screen.cellOffset x y) =
      (direction.source? count.toNat (s.screen.region columns rows).rows y).elim (freed attr p)
        fun z => s.plane p (s.screen.cellOffset x z) := by
  by_cases hcount : count = 0
  · subst hcount
    rw [UInt8.toNat_zero, direction.source?_zero hy, Option.elim_some]
    rfl
  · obtain ⟨hcells, -⟩ := h.byteAt_scroll direction hcount attr columns rows
    obtain ⟨hchars, hattrs⟩ := hcells x hx y hy
    match p, hp with
    | 0, _ => exact hchars
    | 1, _ => exact hattrs

/-- Whatever is no cell of the region keeps its byte. -/
theorem plane_scroll_of_ne (h : s.Usable window spec) (direction : Direction) (count attr : UInt8)
    {off : UInt16}
    (hoff : p.val < 2 → ∀ x < (s.screen.region columns rows).columns,
      ∀ y < (s.screen.region columns rows).rows, off ≠ s.screen.cellOffset x y) :
    (s.scroll direction count attr columns rows).plane p off = s.plane p off := by
  by_cases hcount : count = 0
  · rw [show s.scroll direction count attr columns rows = s from if_pos hcount]
  · obtain ⟨-, hrest⟩ := h.byteAt_scroll direction hcount attr columns rows
    refine hrest (.plane p off) ?_
    rintro q x y hq hx hy e
    obtain ⟨rfl, rfl⟩ := Place.plane.inj e
    exact hoff hq x hx y hy rfl

/-- Two scrolls bring a cell the byte of the source of its source. -/
theorem plane_scroll_scroll (h : s.Usable window spec) (back forth : Direction)
    (first second attr : UInt8) (hp : p.val < 2)
    (hx : x < (s.screen.region columns rows).columns)
    (hy : y < (s.screen.region columns rows).rows) :
    ((s.scroll forth first attr columns rows).scroll back second attr columns rows).plane p
        (s.screen.cellOffset x y) =
      ((back.source? second.toNat (s.screen.region columns rows).rows y).bind
        (forth.source? first.toNat (s.screen.region columns rows).rows)).elim (freed attr p)
          fun z => s.plane p (s.screen.cellOffset x z) := by
  have hscreen := s.screen_scroll forth first attr columns rows
  have hsecond := (h.scroll forth first attr columns rows).plane_scroll back second attr hp
    (hscreen ▸ hx) (hscreen ▸ hy)
  rw [hscreen] at hsecond
  rw [hsecond]
  cases hsource : back.source? second.toNat (s.screen.region columns rows).rows y with
  | none => rfl
  | some z =>
    exact h.plane_scroll forth first attr hp hx (Direction.lt_of_source? hy hsource)

theorem plane_scroll_scroll_of_ne (h : s.Usable window spec) (back forth : Direction)
    (first second attr : UInt8) {off : UInt16}
    (hoff : p.val < 2 → ∀ x < (s.screen.region columns rows).columns,
      ∀ y < (s.screen.region columns rows).rows, off ≠ s.screen.cellOffset x y) :
    ((s.scroll forth first attr columns rows).scroll back second attr columns rows).plane p off =
      s.plane p off := by
  have hscreen := s.screen_scroll forth first attr columns rows
  have hsecond := (h.scroll forth first attr columns rows).plane_scroll_of_ne back second attr
    (hscreen ▸ hoff)
  exact hsecond.trans (h.plane_scroll_of_ne forth first attr hoff)

/-- Scrolls in one direction add up; a sum beyond the largest count fills the region, as that count
does. -/
theorem plane_scroll_add (h : s.Usable window spec) (direction : Direction)
    (first second attr columns rows : UInt8) (p : Plane) :
    ((s.scroll direction first attr columns rows).scroll direction second attr columns
        rows).plane p =
      (s.scroll direction (UInt8.ofNat (min (first.toNat + second.toNat) 255)) attr columns
        rows).plane p := by
  let r := s.screen.region columns rows
  have hsum : (UInt8.ofNat (min (first.toNat + second.toNat) 255)).toNat =
      min (first.toNat + second.toNat) 255 := by
    rw [UInt8.toNat_ofNat']
    omega
  have hheight : r.rows ≤ 255 := by
    have hrows := rows.toNat_lt
    simp only [r, Screen.region, Byte.toNat_least]
    omega
  funext off
  by_cases hcell : p.val < 2 ∧ ∃ x < r.columns, ∃ y < r.rows, off = s.screen.cellOffset x y
  · obtain ⟨hp, x, hx, y, hy, rfl⟩ := hcell
    have htwice := h.plane_scroll_scroll direction direction first second attr hp hx hy
    have honce := h.plane_scroll direction (UInt8.ofNat (min (first.toNat + second.toNat) 255))
      attr hp hx hy
    rw [hsum, direction.source?_min hy _ hheight, ← direction.bind_source?] at honce
    exact htwice.trans honce.symm
  · have hoff : p.val < 2 → ∀ x < r.columns, ∀ y < r.rows, off ≠ s.screen.cellOffset x y :=
      fun hp x hx y hy e => hcell ⟨hp, x, hx, y, hy, e⟩
    have htwice := h.plane_scroll_scroll_of_ne direction direction first second attr hoff
    exact htwice.trans (h.plane_scroll_of_ne direction _ attr hoff).symm

end Usable

/-- Scrolls compose. Two of them in one direction leave the planes that one scroll by both counts
together leaves, and scrolling up and down again by the same count restores the rows from that count
on, blanks those above, and leaves all else alone. -/
theorem Started.scrolls_compose (h : s.Started window) (attr columns rows : UInt8) :
    (∀ (direction : Direction) (a b : UInt8) (p : Plane),
      ((s.scroll direction a attr columns rows).scroll direction b attr columns rows).plane p =
        (s.scroll direction (UInt8.ofNat (min (a.toNat + b.toNat) 255)) attr columns
          rows).plane p) ∧
    ∀ a : UInt8,
      let t := (s.scroll .up a attr columns rows).scroll .down a attr columns rows
      let width := min columns.toNat s.screen.columns.toNat
      let height := min rows.toNat s.screen.rows.toNat
      (∀ x < width, ∀ y < height,
        (a.toNat ≤ y →
          ∀ p, t.plane p (s.screen.cellOffset x y) = s.plane p (s.screen.cellOffset x y)) ∧
        (y < a.toNat →
          t.plane .characters (s.screen.cellOffset x y) = 0 ∧
          t.plane .attributes (s.screen.cellOffset x y) = attr)) ∧
      ∀ (p : Plane) (off : UInt16),
        (p.val < 2 → ∀ x < width, ∀ y < height, off ≠ s.screen.cellOffset x y) →
          t.plane p off = s.plane p off := by
  obtain ⟨spec, hs⟩ := h.usable
  refine ⟨fun direction a b p => hs.plane_scroll_add direction a b attr columns rows p, ?_⟩
  intro a t width height
  have hwidth : (s.screen.region columns rows).columns = width := Byte.toNat_least _ _
  have hheight : (s.screen.region columns rows).rows = height := Byte.toNat_least _ _
  have hrest (p : Plane) (off : UInt16)
      (hoff : p.val < 2 → ∀ x < width, ∀ y < height, off ≠ s.screen.cellOffset x y) :
      t.plane p off = s.plane p off := by
    rw [← hwidth, ← hheight] at hoff
    exact hs.plane_scroll_scroll_of_ne .down .up a a attr hoff
  have hcell {p : Plane} {x y : Nat} (hp : p.val < 2) (hx : x < width) (hy : y < height) :
      t.plane p (s.screen.cellOffset x y) = if a.toNat ≤ y then
        s.plane p (s.screen.cellOffset x y) else freed attr p := by
    rw [← hwidth] at hx
    rw [← hheight] at hy
    have hback := hs.plane_scroll_scroll .down .up a a attr hp hx hy
    rw [Direction.bind_source?_back hy] at hback
    rw [hback]
    split <;> rfl
  refine ⟨fun x hx y hy => ⟨fun hkept p => ?_, fun hlost => ?_⟩, hrest⟩
  · by_cases hp : p.val < 2
    · rw [hcell hp hx hy, if_pos hkept]
    · exact hrest p _ fun hp' => absurd hp' hp
  · have hgone : ¬ a.toNat ≤ y := Nat.not_le.mpr hlost
    have hchars := hcell (p := .characters) (by decide) hx hy
    have hattrs := hcell (p := .attributes) (by decide) hx hy
    rw [if_neg hgone] at hchars hattrs
    exact ⟨hchars, hattrs⟩

/-- Counts whose sum is no byte, and a scroll of three rows there and back. -/
theorem Started.scrolls_compose_text :
    Started 0 (poweredOn 0x03) ∧
      (∀ p, (((poweredOn 0x03).scroll .up 200 0x17 80 25).scroll .up 100 0x17 80 25).plane p =
        ((poweredOn 0x03).scroll .up 255 0x17 80 25).plane p) ∧
      ∀ x < 80, (((poweredOn 0x03).scroll .up 3 0x17 80 25).scroll .down 3 0x17 80 25).plane
        .attributes ((poweredOn 0x03).screen.cellOffset x 2) = 0x17 := by
  have h : Started 0 (poweredOn 0x03) := (reachable_poweredOn 0x03 rfl).started
  obtain ⟨hsum, hback⟩ := h.scrolls_compose 0x17 80 25
  have htwice := hsum .up 200 100
  have hcount : UInt8.ofNat (min ((200 : UInt8).toNat + (100 : UInt8).toNat) 255) = 255 := by decide
  rw [hcount] at htwice
  have hcolumns : (poweredOn 0x03).screen.columns = 80 := by rw [screen_poweredOn 0x03 rfl]; rfl
  have hrows : (poweredOn 0x03).screen.rows = 25 := by rw [screen_poweredOn 0x03 rfl]; rfl
  rw [hcolumns, hrows] at hback
  obtain ⟨hcells, -⟩ := hback 3
  exact ⟨h, htwice, fun x hx => ((hcells x hx 2 (by decide)).2 (by decide)).2⟩

end Service

end VgaFirmware
