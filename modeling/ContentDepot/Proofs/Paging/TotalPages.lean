import ContentDepot.Paging.Page
import Mathlib.Algebra.Order.Floor.Div
import Mathlib.Data.Nat.GCD.Basic
import Mathlib.Tactic.Linarith
import Mathlib.Tactic.Ring

/-!
# The number of pages

The number of pages is the quotient of matches and page size, first rounded to a
binary64 number and only then rounded up. The first rounding does not reach a
whole number from above, nor pass one, as long as the matches are no more than
`2 ^ 53` and the quotient is not so small that nothing is left of it
(`Binary64.ceil?_round`). Then the pages are as many as it takes
(`Page.totalPages_eq`).
-/

namespace ContentDepot

namespace Binary64

variable {num den k : Nat}

theorem roundHalfEven_le (hden : 0 < den) (h : num ≤ k * den) : roundHalfEven num den ≤ k := by
  have hle : num / den ≤ k := Nat.div_le_of_le_mul (by rwa [Nat.mul_comm])
  have hsplit : den * (num / den) + num % den = num := Nat.div_add_mod num den
  rcases Nat.lt_or_eq_of_le hle with hlt | heq
  · unfold roundHalfEven
    dsimp only
    split_ifs <;> omega
  · -- The quotient is whole.
    have hzero : num % den = 0 := by
      rw [heq, Nat.mul_comm] at hsplit
      omega
    rw [roundHalfEven, hzero, if_pos (by omega)]
    exact hle

theorem lt_roundHalfEven (hden : 0 < den) (h : (2 * k + 1) * den < 2 * num) :
    k < roundHalfEven num den := by
  have hsplit : den * (num / den) + num % den = num := Nat.div_add_mod num den
  have hle : k ≤ num / den := by
    rw [Nat.le_div_iff_mul_le hden]
    rw [Nat.add_mul, Nat.mul_assoc] at h
    omega
  rcases Nat.lt_or_eq_of_le hle with hlt | rfl
  · unfold roundHalfEven
    dsimp only
    split_ifs <;> omega
  · have hhalf : den < 2 * (num % den) := by
      rw [Nat.add_mul, Nat.mul_assoc, Nat.mul_comm (num / den)] at h
      omega
    rw [roundHalfEven, if_neg (by omega), if_pos hhalf]
    omega

/-- One is a power of two of units, with room for every significand and well below the greatest
shift. The power itself is too great to be computed with. -/
theorem unitsOfOne_eq : ∃ j, 53 ≤ j ∧ j + 1 < maxShift ∧ unitsOfOne = 2 ^ j := by
  refine ⟨unitExponent, by decide, by decide, ?_⟩
  unfold unitsOfOne
  generalize unitExponent = j
  exact Nat.pow_eq

theorem unitsOfOne_pos : 0 < unitsOfOne := by
  obtain ⟨j, -, -, hj⟩ := unitsOfOne_eq
  exact hj ▸ Nat.two_pow_pos j

theorem shiftOf_le {j : Nat} (h : num / den < 2 ^ (53 + j)) : shiftOf num den ≤ j := by
  have hlog : Nat.log2 (num / den) < 53 + j := by
    rcases Nat.eq_zero_or_pos (num / den) with hzero | hpos
    · rw [hzero, Nat.log2_zero]
      omega
    · exact (Nat.log2_lt (by omega)).2 h
  unfold shiftOf
  omega

/-- A quotient that has to be shifted fills the significand. -/
theorem mul_pow_shiftOf_le (h : 0 < shiftOf num den) :
    den * 2 ^ (shiftOf num den + 52) ≤ num := by
  have hshift : shiftOf num den + 52 = Nat.log2 (num / den) := by
    unfold shiftOf at h ⊢
    omega
  have hne : num / den ≠ 0 := by
    intro hzero
    rw [shiftOf, hzero, Nat.log2_zero] at h
    omega
  calc den * 2 ^ (shiftOf num den + 52) = den * 2 ^ Nat.log2 (num / den) := by rw [hshift]
    _ ≤ den * (num / den) := Nat.mul_le_mul_left _ (Nat.log2_self_le hne)
    _ ≤ num := Nat.mul_div_le _ _

theorem ofRounded_eq (negative : Bool) {m shift : Nat} (h : shift < maxShift) :
    ∃ m' e, ofRounded negative m shift = .finite negative m' e ∧
      m' * Nat.pow 2 e = m * Nat.pow 2 shift := by
  unfold ofRounded
  by_cases hm : m = significandBound
  · rw [if_pos hm]
    have heven : m / 2 * 2 = m := by
      rw [hm]
      decide
    refine ⟨m / 2, shift + 1, if_neg (by omega), ?_⟩
    calc m / 2 * Nat.pow 2 (shift + 1) = m / 2 * 2 * Nat.pow 2 shift := by
          simp only [Nat.pow_eq, Nat.pow_succ]
          ring
      _ = m * Nat.pow 2 shift := by rw [heven]
  · rw [if_neg hm]
    exact ⟨m, shift, if_neg (by omega), rfl⟩

/-- A quotient that is not too great is rounded to a finite number of as many units as its rounded
significand says. -/
theorem exists_round (negative : Bool) (h : shiftOf (num * unitsOfOne) den < maxShift) :
    ∃ m e, round negative num den = .finite negative m e ∧
      m * Nat.pow 2 e = roundHalfEven (num * unitsOfOne)
        (den * Nat.pow 2 (shiftOf (num * unitsOfOne) den)) *
          Nat.pow 2 (shiftOf (num * unitsOfOne) den) :=
  ofRounded_eq negative h

theorem ceil?_finite {m e : Nat} (hlow : k * unitsOfOne < m * Nat.pow 2 e)
    (hhigh : m * Nat.pow 2 e ≤ (k + 1) * unitsOfOne) :
    ceil? (.finite false m e) = some ((k + 1 : Nat) : Int) := by
  have hpos := unitsOfOne_pos
  rw [ceil?, units, if_neg Bool.false_ne_true]
  generalize m * Nat.pow 2 e = v at hlow hhigh
  generalize unitsOfOne = u at hlow hhigh hpos
  have hlow' : (k : Int) * u < v := by exact_mod_cast hlow
  have hhigh' : (v : Int) ≤ (k + 1) * u := by exact_mod_cast hhigh
  have hdiv : (-(v : Int)).fdiv u = -((k : Int) + 1) := by
    rw [Int.fdiv_eq_ediv_of_nonneg _ (Int.natCast_nonneg u)]
    refine Int.le_antisymm (Int.le_of_lt_add_one ?_) ?_
    · rw [Int.ediv_lt_iff_lt_mul (by exact_mod_cast hpos)]
      linarith
    · rw [Int.le_ediv_iff_mul_le (by exact_mod_cast hpos)]
      linarith
  rw [hdiv, Int.neg_neg]
  rfl

/-- Half a step of the significand is less than `r` parts of one, as soon as half a unit is. The
greatest number of things and one thing in each part would make them equal. -/
theorem mul_pow_shiftOf_lt {total size k r j : Nat} (htotal : total ≤ 2 ^ 53)
    (hne : total < 2 ^ 53 ∨ 1 < size) (hparts : total = k * size + r) (hr : 0 < r)
    (hunit : size < 2 * r * 2 ^ j) :
    size * 2 ^ shiftOf (total * 2 ^ j) size < 2 * r * 2 ^ j := by
  rcases Nat.eq_zero_or_pos (shiftOf (total * 2 ^ j) size) with hzero | hpos
  · rwa [hzero, Nat.pow_zero, Nat.mul_one]
  have hfill := mul_pow_shiftOf_le hpos
  generalize shiftOf (total * 2 ^ j) size = s at hfill ⊢
  have hsteps : size * 2 ^ s * 2 ^ 52 ≤ total * 2 ^ j := by
    rwa [Nat.mul_assoc, ← Nat.pow_add]
  have hle : size * 2 ^ s ≤ 2 * r * 2 ^ j := by
    refine Nat.le_of_mul_le_mul_right (c := 2 ^ 52) ?_ (Nat.two_pow_pos 52)
    calc size * 2 ^ s * 2 ^ 52 ≤ total * 2 ^ j := hsteps
      _ ≤ 2 ^ 53 * 2 ^ j := Nat.mul_le_mul_right _ htotal
      _ ≤ r * (2 ^ 53 * 2 ^ j) := Nat.le_mul_of_pos_left _ hr
      _ = 2 * r * 2 ^ j * 2 ^ 52 := by ring
  refine Nat.lt_of_le_of_ne hle fun heq => ?_
  have hfull : r * 2 ^ 53 ≤ total := by
    refine Nat.le_of_mul_le_mul_right (c := 2 ^ j) ?_ (Nat.two_pow_pos j)
    calc r * 2 ^ 53 * 2 ^ j = 2 * r * 2 ^ j * 2 ^ 52 := by ring
      _ ≤ total * 2 ^ j := heq ▸ hsteps
  obtain ⟨rfl, rfl⟩ : r = 1 ∧ total = 2 ^ 53 := by omega
  -- The size divides a power of two, and what it leaves of one is one.
  have hcoprime : size.Coprime (2 ^ 53) := by
    rw [hparts, Nat.mul_comm, Nat.coprime_mul_left_add_right]
    exact Nat.coprime_one_right size
  have hdvd : size ∣ 2 ^ (j + 1) := ⟨2 ^ s, by rw [heq]; ring⟩
  have hone := Nat.Coprime.eq_one_of_dvd
    (((Nat.coprime_pow_right_iff (by decide) size 2).1 hcoprime).pow_right (j + 1)) hdvd
  omega

/-- All parts but the last are full, and the last is not empty. -/
theorem exists_parts {total size : Nat} (h0 : 0 < total) (hsize : 0 < size) :
    ∃ k r, total = k * size + r ∧ 0 < r ∧ r ≤ size ∧ total ⌈/⌉ size = k + 1 := by
  have hdiv : size * ((total - 1) / size) + (total - 1) % size = total - 1 := Nat.div_add_mod _ _
  have hmod : (total - 1) % size < size := Nat.mod_lt _ hsize
  refine ⟨(total - 1) / size, (total - 1) % size + 1, ?_, by omega, by omega, ?_⟩
  · rw [Nat.mul_comm]
    omega
  · rw [Nat.ceilDiv_eq_add_pred_div, Nat.sub_add_comm h0, Nat.add_div_right _ hsize]

/-- No more things than there are significands, in parts of a size, make as many parts whether the
quotient is rounded before or not, unless nothing is left of it. -/
theorem ceil?_round {total size : Nat} (h0 : 0 < total) (hsize : 0 < size)
    (htotal : total ≤ significandBound) (hleft : size < total * (2 * unitsOfOne)) :
    (round false total size).ceil? = some ((total ⌈/⌉ size : Nat) : Int) := by
  by_cases hmost : total = significandBound ∧ size = 1
  · obtain ⟨rfl, rfl⟩ := hmost
    decide +kernel
  obtain ⟨j, hroom, hmax, hunits⟩ := unitsOfOne_eq
  obtain ⟨k, r, hparts, hr, hle, hceil⟩ := exists_parts h0 hsize
  have hbound : total ≤ 2 ^ 53 := htotal
  have hne : total < 2 ^ 53 ∨ 1 < size := by
    have hnot : ¬(total = 2 ^ 53 ∧ size = 1) := hmost
    omega
  have hshift : shiftOf (total * 2 ^ j) size ≤ j := by
    refine shiftOf_le ?_
    rw [Nat.pow_add]
    rcases hne with hlt | hlt
    · exact Nat.lt_of_le_of_lt (Nat.div_le_self _ _)
        (Nat.mul_lt_mul_of_pos_right hlt (Nat.two_pow_pos j))
    · exact Nat.lt_of_lt_of_le (Nat.div_lt_self (Nat.mul_pos h0 (Nat.two_pow_pos j)) hlt)
        (Nat.mul_le_mul_right _ hbound)
  have hgap : size * 2 ^ shiftOf (total * 2 ^ j) size < 2 * r * 2 ^ j := by
    refine mul_pow_shiftOf_lt hbound hne hparts hr ?_
    rcases Nat.eq_zero_or_pos k with rfl | hk
    · rw [Nat.zero_mul, Nat.zero_add] at hparts
      rw [← hparts, ← hunits]
      linarith
    · calc size ≤ k * size := Nat.le_mul_of_pos_left _ hk
        _ < total := by omega
        _ ≤ 2 ^ 53 := hbound
        _ ≤ 2 ^ j := Nat.pow_le_pow_right (by decide) hroom
        _ ≤ 2 * r * 2 ^ j := Nat.le_mul_of_pos_left _ (by omega)
  obtain ⟨m, e, hround, hm⟩ := exists_round false
    (show shiftOf (total * unitsOfOne) size < maxShift by rw [hunits]; omega)
  rw [hunits] at hm
  generalize shiftOf (total * 2 ^ j) size = s at hm hshift hgap
  have hpow : 2 ^ (j - s) * 2 ^ s = 2 ^ j := by rw [← Nat.pow_add, Nat.sub_add_cancel hshift]
  have hden : 0 < size * 2 ^ s := Nat.mul_pos hsize (Nat.two_pow_pos s)
  have hlow : k * 2 ^ (j - s) < roundHalfEven (total * 2 ^ j) (size * 2 ^ s) := by
    refine lt_roundHalfEven hden ?_
    calc (2 * (k * 2 ^ (j - s)) + 1) * (size * 2 ^ s)
        = 2 * (k * size) * (2 ^ (j - s) * 2 ^ s) + size * 2 ^ s := by ring
      _ < 2 * (k * size) * 2 ^ j + 2 * r * 2 ^ j := by rw [hpow]; exact Nat.add_lt_add_left hgap _
      _ = 2 * (total * 2 ^ j) := by rw [hparts]; ring
  have hhigh : roundHalfEven (total * 2 ^ j) (size * 2 ^ s) ≤ (k + 1) * 2 ^ (j - s) := by
    refine roundHalfEven_le hden ?_
    calc total * 2 ^ j = (k * size + r) * 2 ^ j := by rw [hparts]
      _ ≤ (k * size + size) * 2 ^ j := Nat.mul_le_mul_right _ (Nat.add_le_add_left hle _)
      _ = (k + 1) * size * (2 ^ (j - s) * 2 ^ s) := by rw [hpow]; ring
      _ = (k + 1) * 2 ^ (j - s) * (size * 2 ^ s) := by ring
  rw [hround, hceil]
  refine ceil?_finite ?_ ?_
  · calc k * unitsOfOne = k * 2 ^ (j - s) * 2 ^ s := by rw [hunits, Nat.mul_assoc, hpow]
      _ < m * Nat.pow 2 e := hm ▸ Nat.mul_lt_mul_of_pos_right hlow (Nat.two_pow_pos s)
  · calc m * Nat.pow 2 e ≤ (k + 1) * 2 ^ (j - s) * 2 ^ s := hm ▸ Nat.mul_le_mul_right _ hhigh
      _ = (k + 1) * unitsOfOne := by rw [hunits, Nat.mul_assoc, hpow]

end Binary64

theorem Page.totalPages_of_ceil? {α : Type} {p : Page α} {pages : Int} (h0 : p.totalElements ≠ 0)
    (h : (quotient p.totalElements p.size).ceil? = some pages) : p.totalPages = .ok pages := by
  rw [totalPages, if_neg h0, h]

/-- As many pages as the matches fill, as long as their number can be rounded without loss. -/
theorem Page.totalPages_eq {α : Type} {p : Page α} {total size : Nat}
    (htotal : p.totalElements = total) (hsize : p.size = size) (hpos : 0 < size)
    (hbound : total ≤ Binary64.significandBound)
    (hleft : 0 < total → size < total * (2 * Binary64.unitsOfOne)) :
    p.totalPages = .ok ((total ⌈/⌉ size : Nat) : Int) := by
  rcases Nat.eq_zero_or_pos total with rfl | h0
  · have hzero : p.totalElements = 0 := htotal
    rw [totalPages, if_pos hzero, zero_ceilDiv]
    rfl
  · have hne : ¬p.totalElements = 0 := by omega
    have hsign : decide (p.totalElements < 0) = false := by
      rw [decide_eq_false_iff_not]
      omega
    refine totalPages_of_ceil? hne ?_
    rw [quotient, hsign, htotal, hsize, Int.natAbs_natCast, Int.natAbs_natCast,
      Binary64.ceil?_round h0 hpos hbound (hleft h0)]

end ContentDepot
