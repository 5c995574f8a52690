import ContentDepot.Proofs.Decimal.Nearest
import Mathlib.Data.Rat.Floor
import Mathlib.Order.Bounds.Basic

/-!
# The exact number of pages

Up to `2 ^ 53` matches, in pages of up to `2 ^ 53`, the number of pages is exact,
although it is the ceiling of a rounded quotient. One match more, in pages of one,
is a tie, and the even number it is rounded to is less by one
(`Page.totalPages_isLeast`).
-/

namespace ContentDepot

namespace Binary64

theorem ceil?_eq (s : Bool) (m e : Nat) : ceil? (.finite s m e) = some ⌈value s m e⌉ := by
  rw [ceil?, value]
  generalize unitsOfOne = u
  rw [Rat.ceil_intCast_div_natCast, Int.fdiv_eq_ediv_of_nonneg _ (Int.natCast_nonneg u)]

/-- No more than as many as there are significands, in parts of any size, are within the range. -/
theorem shiftOf_lt_maxShift {total size : Nat} (htotal : total ≤ significandBound) :
    shiftOf (total * unitsOfOne) size < maxShift := by
  obtain ⟨j, -, hj, hunits⟩ := unitsOfOne_eq
  refine Nat.lt_of_le_of_lt (shiftOf_le ?_) hj
  rw [hunits]
  calc total * 2 ^ j / size ≤ total * 2 ^ j := Nat.div_le_self _ _
    _ ≤ 2 ^ 53 * 2 ^ j := Nat.mul_le_mul_right _ htotal
    _ < 2 ^ (53 + (j + 1)) := by
      rw [← Nat.pow_add]
      exact Nat.pow_lt_pow_right (by decide) (by omega)

end Binary64

namespace Page

variable {α : Type} {p : Page α}

/-- The number of pages is the ceiling of the rounded quotient, also for no matches. -/
theorem totalPages_of_nearest {total size : Nat} (htotal : p.totalElements = total)
    (hsize : p.size = size) (hpos : 0 < size) (hbound : total ≤ Binary64.significandBound) :
    ∃ m e, quotient p.totalElements p.size = .finite false m e ∧
      Binary64.IsNearest ((total : ℚ) / size) m e ∧
      p.totalPages = .ok ⌈Binary64.value false m e⌉ := by
  obtain ⟨m, e, hround, hnear⟩ :=
    Binary64.isNearest_round hpos (Binary64.shiftOf_lt_maxShift hbound)
  have hquotient : quotient p.totalElements p.size = .finite false m e := by
    have hsign : decide (p.totalElements < 0) = false := by
      rw [decide_eq_false_iff_not]
      omega
    rw [quotient, hsign, htotal, hsize, Int.natAbs_natCast, Int.natAbs_natCast, hround]
  refine ⟨m, e, hquotient, hnear, ?_⟩
  rcases Nat.eq_zero_or_pos total with rfl | h0
  · -- Zero is a number of the format, and nothing else is as near to it.
    have hzero := hnear.nearest (s := false) (n := 0) (d := 0) ⟨by decide, by decide⟩
    rw [Binary64.value_false 0 0, Nat.zero_mul, Nat.cast_zero, zero_div, zero_div, sub_zero,
      abs_zero, zero_sub, abs_neg] at hzero
    have hnone : p.totalElements = 0 := htotal
    rw [totalPages, if_pos hnone, abs_nonpos_iff.1 hzero, Int.ceil_zero]
  · exact totalPages_of_ceil? (by omega) (by rw [hquotient, Binary64.ceil?_eq])

/-- The ceiling of a quotient is the least number of parts that hold all. -/
theorem isLeast_ceilDiv {total size : Nat} (hpos : 0 < size) :
    IsLeast {n : Int | (total : Int) ≤ n * size} ((total ⌈/⌉ size : Nat) : Int) := by
  refine ⟨?_, fun n hn => ?_⟩
  · have hle : total ≤ size * (total ⌈/⌉ size) := (ceilDiv_le_iff_le_mul hpos).1 le_rfl
    rw [Nat.mul_comm] at hle
    show (total : Int) ≤ (total ⌈/⌉ size : Nat) * size
    exact_mod_cast hle
  · have hn' : (total : Int) ≤ n * size := hn
    have hnonneg : 0 ≤ n := by
      by_contra hneg
      have := Int.mul_neg_of_neg_of_pos (Int.not_le.1 hneg) (Int.natCast_pos.2 hpos)
      omega
    obtain ⟨k, rfl⟩ := Int.eq_ofNat_of_zero_le hnonneg
    have hle : total ≤ size * k := by
      rw [Nat.mul_comm]
      exact_mod_cast hn'
    exact_mod_cast (ceilDiv_le_iff_le_mul hpos).2 hle

/-- Nothing is lost of a quotient that is not less than the least there is. -/
theorem lt_mul_unitsOfOne {total size : Nat} (hsize : size ≤ Binary64.significandBound)
    (h0 : 0 < total) : size < total * (2 * Binary64.unitsOfOne) := by
  obtain ⟨j, hroom, -, hunits⟩ := Binary64.unitsOfOne_eq
  rw [hunits]
  calc size ≤ 2 ^ 53 := hsize
    _ ≤ 2 ^ j := Nat.pow_le_pow_right (by decide) hroom
    _ < 2 * 2 ^ j := by
      have := Nat.two_pow_pos j
      omega
    _ ≤ total * (2 * 2 ^ j) := Nat.le_mul_of_pos_left _ h0

/-- The pages are as many as it takes, up to `2 ^ 53` matches in pages of up to `2 ^ 53`: the
ceiling of the quotient, rounded to the nearest number of the format, is the ceiling of the
quotient. With one match more, in pages of one, there is a page too few. -/
theorem totalPages_isLeast (hleast : 0 ≤ p.totalElements) (hmost : p.totalElements ≤ 2 ^ 53)
    (hsize : p.size ≤ 2 ^ 53) :
    (∃ m e pages, quotient p.totalElements p.size = .finite false m e ∧
      Binary64.IsNearest ((p.totalElements : ℚ) / p.size) m e ∧
      p.totalPages = .ok pages ∧ pages = ⌈Binary64.value false m e⌉ ∧
      IsLeast {n : Int | p.totalElements ≤ n * p.size} pages) ∧
    ∀ larger : Page α, larger.totalElements = 2 ^ 53 + 1 → larger.size = 1 →
      larger.totalPages = .ok (2 ^ 53) ∧
      IsLeast {n : Int | larger.totalElements ≤ n * larger.size} (2 ^ 53 + 1) := by
  constructor
  · obtain ⟨total, htotal⟩ := Int.eq_ofNat_of_zero_le hleast
    obtain ⟨size, hsizes⟩ :=
      Int.eq_ofNat_of_zero_le (Int.le_trans Int.one_nonneg p.pageable.size_pos)
    have hpos : 0 < size := by
      have hone := p.pageable.size_pos
      omega
    have hbound : total ≤ Binary64.significandBound := by
      rw [htotal] at hmost
      exact_mod_cast hmost
    have hsmall : size ≤ Binary64.significandBound := by
      rw [show p.size = size from hsizes] at hsize
      exact_mod_cast hsize
    obtain ⟨m, e, hquotient, hnear, hpages⟩ := totalPages_of_nearest htotal hsizes hpos hbound
    have hexact := totalPages_eq htotal hsizes hpos hbound (lt_mul_unitsOfOne hsmall)
    refine ⟨m, e, _, hquotient, ?_, hpages, rfl, ?_⟩
    · rw [htotal, show p.size = size from hsizes, Int.cast_natCast, Int.cast_natCast]
      exact hnear
    · rw [hpages, Except.ok.injEq] at hexact
      rw [hexact, htotal, show p.size = size from hsizes]
      exact isLeast_ceilDiv hpos
  · intro larger htotal hone
    refine ⟨totalPages_of_ceil? (by omega) ?_, ?_⟩
    · rw [htotal, hone]
      decide +kernel
    · rw [htotal, hone]
      exact ⟨le_of_eq (Int.mul_one _).symm, fun n hn => (Int.mul_one n) ▸ hn⟩

/-- The first page is one. -/
theorem first_nonneg : (0 : Int) ≤ 0 := Int.le_refl 0

/-- The first of the pages of three that hold ten matches. -/
def firstOfTen : Page Nat := ⟨[1, 2, 3], ⟨0, 3, [], first_nonneg, by decide⟩, 10⟩

/-- Ten matches fill three pages of three and begin a fourth. -/
theorem totalPages_firstOfTen :
    (0 ≤ firstOfTen.totalElements ∧ firstOfTen.totalElements ≤ 2 ^ 53 ∧ firstOfTen.size ≤ 2 ^ 53) ∧
      firstOfTen.totalPages = .ok 4 := by
  refine ⟨⟨by decide, by decide, by decide⟩, ?_⟩
  obtain ⟨-, -, pages, -, -, hpages, -, hleast⟩ :=
    (totalPages_isLeast (p := firstOfTen) (by decide) (by decide) (by decide)).1
  have hfour : IsLeast {n : Int | firstOfTen.totalElements ≤ n * firstOfTen.size} 4 :=
    ⟨by decide, fun n hn => by
      have hn' : (10 : Int) ≤ n * 3 := hn
      omega⟩
  rw [hpages, hleast.unique hfour]

end Page

end ContentDepot
