import ContentDepot.Proofs.Paging.TotalPages
import Mathlib.Algebra.Order.Field.Rat
import Mathlib.Tactic.FieldSimp
import Mathlib.Tactic.NormNum
import Mathlib.Tactic.Positivity

/-!
# Rounding to the nearest number

A quotient of naturals is rounded to a number of the format that lies at least
as near as every other, with an even significand where another lies as near
(`Binary64.isNearest_round`).

The quotient is counted in steps of its shift. A whole count is nearest to it by
`roundHalfEven`; every number of the format with at least this shift is a whole
count of steps, and one with a smaller shift lies below the least significand
that fills this shift, which the quotient does not.
-/

namespace ContentDepot.Binary64

variable {num den m e : Nat}

/-- The value of a finite number. -/
def value (negative : Bool) (m e : Nat) : ℚ := units negative m e / unitsOfOne

/-- The significands and shifts of the finite numbers of the format. -/
structure InFormat (m e : Nat) : Prop where
  significand : m < significandBound
  shift : e ≤ maxShift

/-- The number that `x` is rounded to: of all numbers of the format none is nearer, and if another
is as near then its significand, which fills the format or has no shift, is even. -/
structure IsNearest (x : ℚ) (m e : Nat) : Prop where
  inFormat : InFormat m e
  full : e = 0 ∨ significandBound ≤ 2 * m
  nearest : ∀ {s n d}, InFormat n d → |x - value false m e| ≤ |x - value s n d|
  even : ∀ {s n d}, InFormat n d → value s n d ≠ value false m e →
    |x - value false m e| = |x - value s n d| → m % 2 = 0

theorem value_false (m e : Nat) : value false m e = (m * Nat.pow 2 e : Nat) / unitsOfOne := by
  rw [value, units, if_neg Bool.false_ne_true, Int.cast_natCast]

/-- What is rounded to an integer is off by a half at most, and by a half only for an even one. -/
theorem abs_sub_roundHalfEven (hden : 0 < den) :
    |(num : ℚ) / den - roundHalfEven num den| ≤ 1 / 2 ∧
      (|(num : ℚ) / den - roundHalfEven num den| = 1 / 2 → roundHalfEven num den % 2 = 0) := by
  have hpos : (0 : ℚ) < den := by exact_mod_cast hden
  have hsplit : (num : ℚ) / den = (num / den : Nat) + (num % den : Nat) / (den : ℚ) := by
    rw [div_eq_iff hpos.ne', add_mul, div_mul_cancel₀ _ hpos.ne', ← Nat.cast_mul, ← Nat.cast_add,
      Nat.div_add_mod']
  have hlt : ((num % den : Nat) : ℚ) < den := by exact_mod_cast Nat.mod_lt num hden
  have hzero : (0 : ℚ) ≤ (num % den : Nat) / (den : ℚ) := by positivity
  have htie : ¬2 * (num % den) < den → ¬den < 2 * (num % den) →
      ((num % den : Nat) : ℚ) / den = 1 / 2 := fun hless hmore => by
    rw [div_eq_div_iff hpos.ne' two_ne_zero, one_mul, mul_comm]
    exact_mod_cast Nat.le_antisymm (Nat.not_lt.1 hmore) (Nat.not_lt.1 hless)
  rw [hsplit]
  unfold roundHalfEven
  dsimp only
  split_ifs with hless hmore heven
  · -- Less than a half is left, and is dropped.
    have hhalf : ((num % den : Nat) : ℚ) / den < 1 / 2 := by
      rw [div_lt_div_iff₀ hpos two_pos, one_mul, mul_comm]
      exact_mod_cast hless
    rw [add_sub_cancel_left, abs_of_nonneg hzero]
    exact ⟨hhalf.le, fun heq => absurd heq hhalf.ne⟩
  · have hhalf : 1 / 2 < ((num % den : Nat) : ℚ) / den := by
      rw [div_lt_div_iff₀ two_pos hpos, one_mul, mul_comm]
      exact_mod_cast hmore
    have hone : ((num % den : Nat) : ℚ) / den < 1 := (div_lt_one hpos).2 hlt
    rw [Nat.cast_add, Nat.cast_one, add_sub_add_left_eq_sub, abs_sub_comm,
      abs_of_pos (sub_pos.2 hone)]
    exact ⟨by linarith, fun heq => by linarith⟩
  · rw [add_sub_cancel_left, abs_of_nonneg hzero, htie hless hmore]
    exact ⟨le_refl _, fun _ => heven⟩
  · rw [Nat.cast_add, Nat.cast_one, add_sub_add_left_eq_sub, htie hless hmore]
    exact ⟨by norm_num [abs_of_neg], fun _ => by omega⟩

/-- No integer is nearer to a quotient than the one it is rounded to, and another is as near only
if that one is even. -/
theorem roundHalfEven_nearest (hden : 0 < den) (k : Int) :
    |(num : ℚ) / den - roundHalfEven num den| ≤ |(num : ℚ) / den - k| ∧
      (k ≠ roundHalfEven num den →
        |(num : ℚ) / den - roundHalfEven num den| = |(num : ℚ) / den - k| →
          roundHalfEven num den % 2 = 0) := by
  obtain ⟨hhalf, heven⟩ := @abs_sub_roundHalfEven num den hden
  generalize roundHalfEven num den = r at hhalf heven
  generalize (num : ℚ) / den = x at hhalf heven
  by_cases heq : k = r
  · rw [heq, Int.cast_natCast]
    exact ⟨le_refl _, fun hne => absurd rfl hne⟩
  · have hone : (1 : ℚ) ≤ |(r : ℚ) - k| := by
      have hint : (1 : Int) ≤ |(r : Int) - k| := Int.one_le_abs (sub_ne_zero.2 (Ne.symm heq))
      exact_mod_cast hint
    have htriangle : |(r : ℚ) - k| ≤ |x - r| + |x - k| := by
      rw [abs_sub_comm x]
      exact abs_sub_le (r : ℚ) x k
    exact ⟨by linarith, fun _ hsame => heven (by linarith)⟩

theorem le_roundHalfEven {k : Nat} (hden : 0 < den) (h : k * den ≤ num) :
    k ≤ roundHalfEven num den := by
  have hle : k ≤ num / den := (Nat.le_div_iff_mul_le hden).2 h
  unfold roundHalfEven
  dsimp only
  split_ifs <;> omega

/-- At its shift a quotient has no more steps than the bound. -/
theorem roundHalfEven_le_bound (hden : 0 < den) :
    roundHalfEven num (den * Nat.pow 2 (shiftOf num den)) ≤ significandBound := by
  refine roundHalfEven_le (Nat.mul_pos hden (Nat.two_pow_pos _)) ?_
  have hlog : num / den < 2 ^ (53 + shiftOf num den) := by
    refine Nat.lt_of_lt_of_le Nat.lt_log2_self (Nat.pow_le_pow_right (by decide) ?_)
    unfold shiftOf
    omega
  have hless : num < 2 ^ (53 + shiftOf num den) * den := (Nat.div_lt_iff_lt_mul hden).1 hlog
  calc num ≤ 2 ^ (53 + shiftOf num den) * den := hless.le
    _ = significandBound * (den * Nat.pow 2 (shiftOf num den)) := by
      rw [Nat.pow_add, significandBound, Nat.pow_eq, Nat.pow_eq]
      ring

/-- Without a shift, or with as many steps as fill the format: the significand that is left. -/
theorem full_ofRounded (negative : Bool) {m shift : Nat} (hshift : shift < maxShift)
    (hle : m ≤ significandBound) (hfull : shift = 0 ∨ significandBound ≤ 2 * m) :
    ∃ m' e, ofRounded negative m shift = .finite negative m' e ∧
      m' * Nat.pow 2 e = m * Nat.pow 2 shift ∧ InFormat m' e ∧
      (e = 0 ∨ significandBound ≤ 2 * m') ∧ (m % 2 = 0 → m' % 2 = 0) := by
  obtain ⟨m', e, hround, hsame⟩ := ofRounded_eq negative (m := m) hshift
  refine ⟨m', e, hround, hsame, ?_⟩
  unfold ofRounded at hround
  by_cases hm : m = significandBound
  · rw [if_pos hm] at hround
    dsimp only at hround
    rw [if_neg (Nat.not_lt.2 hshift), Binary64.finite.injEq] at hround
    obtain ⟨-, rfl, rfl⟩ := hround
    subst hm
    exact ⟨⟨by decide, hshift⟩, .inr (by decide), fun _ => by decide⟩
  · rw [if_neg hm] at hround
    dsimp only at hround
    rw [if_neg (Nat.not_lt.2 hshift.le), Binary64.finite.injEq] at hround
    obtain ⟨-, rfl, rfl⟩ := hround
    exact ⟨⟨Nat.lt_of_le_of_ne hle hm, hshift.le⟩, hfull, id⟩

/-- A finite number of no smaller shift is a whole count of steps. -/
theorem exists_steps {shift d : Nat} (h : shift ≤ d) (s : Bool) (n : Nat) :
    ∃ k : Int, value s n d = k * ((2 : ℚ) ^ shift / unitsOfOne) := by
  have hpow : Nat.pow 2 d = 2 ^ (d - shift) * 2 ^ shift := by
    rw [Nat.pow_eq, ← Nat.pow_add, Nat.sub_add_cancel h]
  rw [value, units, hpow]
  generalize unitsOfOne = u
  cases s with
  | false =>
    refine ⟨(n * 2 ^ (d - shift) : Nat), ?_⟩
    rw [if_neg Bool.false_ne_true]
    push_cast
    ring
  | true =>
    refine ⟨-(n * 2 ^ (d - shift) : Nat), ?_⟩
    rw [if_pos rfl]
    push_cast
    ring

/-- A finite number of a smaller shift lies below the least significand that fills the shift. -/
theorem value_lt_of_shift_lt {shift n d : Nat} (h : d < shift) (hn : n < significandBound)
    (s : Bool) : value s n d < 2 ^ 52 * ((2 : ℚ) ^ shift / unitsOfOne) := by
  have hnat : n * 2 ^ d < 2 ^ 52 * 2 ^ shift := by
    calc n * 2 ^ d < 2 ^ 53 * 2 ^ d := Nat.mul_lt_mul_of_pos_right hn (Nat.two_pow_pos d)
      _ = 2 ^ 52 * 2 ^ (d + 1) := by ring
      _ ≤ 2 ^ 52 * 2 ^ shift := Nat.mul_le_mul_left _ (Nat.pow_le_pow_right (by decide) h)
  have hunits : units s n d < (2 ^ 52 * 2 ^ shift : Nat) := by
    rw [units, Nat.pow_eq]
    split_ifs <;> omega
  have hpos : (0 : ℚ) < unitsOfOne := by exact_mod_cast unitsOfOne_pos
  rw [value, ← mul_div_assoc, div_lt_div_iff_of_pos_right hpos]
  exact_mod_cast hunits

/-- The count of steps that is nearest to `y`, against every number that is a count of steps or lies
below one that is not above `y`. -/
theorem nearest_of_steps {y step w : ℚ} {r : Nat} (hpos : 0 < step)
    (hnear : ∀ k : Int, |y - r| ≤ |y - k| ∧ (k ≠ r → |y - r| = |y - k| → r % 2 = 0))
    (hw : (∃ k : Int, w = k * step) ∨ ∃ k : Int, w < k * step ∧ (k : ℚ) ≤ y) :
    |y * step - r * step| ≤ |y * step - w| ∧
      (w ≠ r * step → |y * step - r * step| = |y * step - w| → r % 2 = 0) := by
  have hdist : ∀ k : ℚ, |y * step - k * step| = |y - k| * step := by
    intro k
    rw [← sub_mul, abs_mul, abs_of_pos hpos]
  rcases hw with ⟨k, rfl⟩ | ⟨k, hbelow, hreach⟩
  · rw [hdist, hdist]
    refine ⟨mul_le_mul_of_nonneg_right (hnear k).1 hpos.le, fun hne heq => ?_⟩
    refine (hnear k).2 (fun hkr => hne ?_) (mul_right_cancel₀ hpos.ne' heq)
    rw [hkr, Int.cast_natCast]
  · have hless : |y * step - r * step| < |y * step - w| := by
      calc |y * step - r * step| = |y - r| * step := hdist r
        _ ≤ |y - k| * step := mul_le_mul_of_nonneg_right (hnear k).1 hpos.le
        _ = y * step - k * step := by rw [abs_of_nonneg (sub_nonneg.2 hreach), sub_mul]
        _ < y * step - w := by linarith
        _ ≤ |y * step - w| := le_abs_self _
    exact ⟨hless.le, fun _ heq => absurd heq hless.ne⟩

/-- Rounding gives the nearest number of the format, ties to the even significand. -/
theorem isNearest_round (hden : 0 < den) (h : shiftOf (num * unitsOfOne) den < maxShift) :
    ∃ m e, round false num den = .finite false m e ∧ IsNearest ((num : ℚ) / den) m e := by
  have hunit := unitsOfOne_pos
  have hsteps := @exists_steps (shiftOf (num * unitsOfOne) den)
  have hbelow := @value_lt_of_shift_lt (shiftOf (num * unitsOfOne) den)
  have hsplit := value_false
  have hbound := @roundHalfEven_le_bound (num * unitsOfOne) den hden
  have hfill := @mul_pow_shiftOf_le (num * unitsOfOne) den
  rw [round]
  generalize unitsOfOne = u at h hunit hsteps hbelow hsplit hbound hfill ⊢
  generalize shiftOf (num * u) den = shift at h hsteps hbelow hbound hfill ⊢
  rw [Nat.pow_eq] at hbound ⊢
  have hcount : 0 < den * 2 ^ shift := Nat.mul_pos hden (Nat.two_pow_pos shift)
  have hfilled : 0 < shift → 2 ^ 52 * (den * 2 ^ shift) ≤ num * u := fun hpos => by
    calc 2 ^ 52 * (den * 2 ^ shift) = den * 2 ^ (shift + 52) := by ring
      _ ≤ num * u := hfill hpos
  have hfull : shift = 0 ∨ significandBound ≤ 2 * roundHalfEven (num * u) (den * 2 ^ shift) := by
    refine (Nat.eq_zero_or_pos shift).imp id fun hpos => ?_
    calc significandBound = 2 * 2 ^ 52 := by decide
      _ ≤ 2 * roundHalfEven (num * u) (den * 2 ^ shift) :=
        Nat.mul_le_mul_left 2 (le_roundHalfEven hcount (hfilled hpos))
  obtain ⟨m, e, hround, hsame, hformat, hfull', heven⟩ := full_ofRounded false h hbound hfull
  have hunitQ : (0 : ℚ) < u := by exact_mod_cast hunit
  have hdenQ : (0 : ℚ) < den := by exact_mod_cast hden
  have hscale : (num : ℚ) / den =
      ((num * u : Nat) : ℚ) / (den * 2 ^ shift : Nat) * ((2 : ℚ) ^ shift / u) := by
    push_cast
    field_simp
  have hvalue : value false m e =
      roundHalfEven (num * u) (den * 2 ^ shift) * ((2 : ℚ) ^ shift / u) := by
    rw [hsplit, hsame, Nat.pow_eq]
    push_cast
    ring
  have hothers : ∀ {s n d}, InFormat n d → |(num : ℚ) / den - value false m e| ≤
      |(num : ℚ) / den - value s n d| ∧ (value s n d ≠ value false m e →
        |(num : ℚ) / den - value false m e| = |(num : ℚ) / den - value s n d| →
          roundHalfEven (num * u) (den * 2 ^ shift) % 2 = 0) := by
    intro s n d hn
    rw [hvalue, hscale]
    refine nearest_of_steps (by positivity) (roundHalfEven_nearest hcount) ?_
    rcases Nat.lt_or_ge d shift with hd | hd
    · refine .inr ⟨2 ^ 52, by exact_mod_cast hbelow hd hn.significand s, ?_⟩
      rw [le_div_iff₀ (by exact_mod_cast hcount)]
      exact_mod_cast hfilled (by omega)
    · exact .inl (hsteps hd s n)
  exact ⟨m, e, hround, hformat, hfull', fun hn => (hothers hn).1,
    fun hn hne heq => heven ((hothers hn).2 hne heq)⟩

end ContentDepot.Binary64
