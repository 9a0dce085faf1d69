import ServiceStubs.Writing.Emission

/-!
# Indentations

An indentation is made of one unit for each level, as long as it has a size. A width that is not
positive makes an empty unit, but its product with a depth may still be below every size.
-/

namespace ServiceStubs.Writing.Layout

variable {layout : Layout} {depth : Nat} {indentation : List Char}

/-- The indentation of one level. -/
def unit (layout : Layout) : List Char := List.replicate layout.indentWidth.toNat ' '

/-- The indentation of a line at a depth, where lines can be indented. -/
def spaces (layout : Layout) (depth : Nat) : List Char :=
  List.replicate (layout.indentWidth.toNat * depth) ' '

/-- A line can be indented at a depth when its indentation has a size. -/
theorem fits_iff :
    layout.fits depth ↔ -sizeLimit ≤ layout.indentWidth * depth ∧
      layout.indentWidth * depth < sizeLimit := by
  rw [fits, Bool.and_eq_true, decide_eq_true_iff, decide_eq_true_iff]

/-- Where lines can be indented at a depth, they can be at every smaller one. -/
theorem fits_mono {more : Nat} (less : depth ≤ more) (fits : layout.fits more) :
    layout.fits depth := by
  have bound : (depth : Int) ≤ more := Int.ofNat_le.mpr less
  rw [fits_iff, sizeLimit] at fits ⊢
  rcases Int.le_total 0 layout.indentWidth with positive | negative
  · have least := Int.mul_nonneg positive (Int.natCast_nonneg depth)
    have greatest := Int.mul_le_mul_of_nonneg_left bound positive
    omega
  · have least := Int.mul_le_mul_of_nonpos_left negative bound
    have greatest := Int.mul_nonpos_of_nonpos_of_nonneg negative (Int.natCast_nonneg depth)
    omega

/-- A line has an indentation where lines can be indented, with one unit for each level. -/
theorem indentation?_eq_some_iff :
    layout.indentation? depth = some indentation ↔
      layout.fits depth ∧ layout.spaces depth = indentation := by
  have size : (layout.indentWidth * depth).toNat = layout.indentWidth.toNat * depth := by
    rcases Int.le_total 0 layout.indentWidth with positive | negative
    · rw [Int.toNat_mul positive (Int.natCast_nonneg depth), Int.toNat_natCast]
    · have product := Int.mul_nonpos_of_nonpos_of_nonneg negative (Int.natCast_nonneg depth)
      rw [Int.toNat_of_nonpos product, Int.toNat_of_nonpos negative, Nat.zero_mul]
  rw [indentation?, size, spaces]
  cases layout.fits depth <;> simp

/-- The indentation of a line where lines can be indented. -/
theorem indentation?_of_fits (fits : layout.fits depth) :
    layout.indentation? depth = some (layout.spaces depth) :=
  indentation?_eq_some_iff.mpr ⟨fits, rfl⟩

/-- There is no indentation outside of all scopes. -/
@[simp] theorem spaces_zero (layout : Layout) : layout.spaces 0 = [] := rfl

/-- The indentation of one more level is one unit more. -/
theorem spaces_succ (layout : Layout) (depth : Nat) :
    layout.spaces (depth + 1) = layout.unit ++ layout.spaces depth := by
  rw [spaces, spaces, unit, List.replicate_append_replicate, Nat.mul_succ, Nat.add_comm]

/-- An indentation holds no line feed. -/
theorem not_mem_spaces (layout : Layout) (depth : Nat) : '\n' ∉ layout.spaces depth := by
  simp [spaces]

end ServiceStubs.Writing.Layout
