import HttpRouting.Route.Rank
import Mathlib.Data.Prod.Lex
import Mathlib.Order.Lattice

/-! # The ranking is a linear order

Comparing specificities is comparing four numbers one after the other, so it is a linear order in
disguise: `Specificity.key` says which. Transitivity and totality are those of the order. A common
beginning without a wildcard adds the same counts on both sides and changes no comparison.
-/

namespace HttpRouting

private theorem countDifference_add (common left right : Nat) :
    countDifference (common + left) (common + right) = countDifference left right := by
  simp only [countDifference, Int.ofNat_eq_natCast]
  omega

namespace Specificity

/-- What specificities are ordered by: literals, the absence of a wildcard, constrained captures (fewer
first, under the `capture` precedence) and plain captures. -/
def key (precedence : Precedence) (counts : Specificity) : ℕ ×ₗ Bool ×ₗ ℤ ×ₗ ℕ :=
  toLex (counts.literals, toLex (!counts.wildcard,
    toLex (if precedence = .regex then (counts.regexes : ℤ) else -counts.regexes, counts.captures)))

theorem compare_pos_iff {precedence : Precedence} {left right : Specificity} :
    0 < compare precedence left right ↔ right.key precedence < left.key precedence := by
  obtain ⟨literals, regexes, captures, wildcard⟩ := left
  obtain ⟨literals', regexes', captures', wildcard'⟩ := right
  simp only [compare, key, Prod.Lex.toLex_lt_toLex, countDifference]
  by_cases sameLiterals : literals = literals'
  · by_cases sameRegexes : regexes = regexes'
    · cases precedence <;> cases wildcard <;> cases wildcard' <;> simp [sameLiterals, sameRegexes]
    · cases precedence <;> cases wildcard <;> cases wildcard' <;>
        simp [sameLiterals, sameRegexes] <;> omega
  · simp [sameLiterals]
    omega

theorem compare_swap (precedence : Precedence) (left right : Specificity) :
    compare precedence right left = -compare precedence left right := by
  obtain ⟨literals, regexes, captures, wildcard⟩ := left
  obtain ⟨literals', regexes', captures', wildcard'⟩ := right
  simp only [compare, countDifference]
  cases precedence <;> cases wildcard <;> cases wildcard' <;> simp <;> split_ifs <;> omega

theorem compare_neg_iff {precedence : Precedence} {left right : Specificity} :
    compare precedence left right < 0 ↔ left.key precedence < right.key precedence := by
  rw [← compare_pos_iff, compare_swap precedence right left]
  omega

theorem compare_nonneg_iff {precedence : Precedence} {left right : Specificity} :
    0 ≤ compare precedence left right ↔ right.key precedence ≤ left.key precedence := by
  rw [← not_lt, compare_neg_iff, not_lt]

/-- What specificities are ordered by tells all their counts. -/
theorem key_injective (precedence : Precedence) : Function.Injective (key precedence) := by
  rintro ⟨literals, regexes, captures, wildcard⟩ ⟨literals', regexes', captures', wildcard'⟩ same
  simp only [key, EmbeddingLike.apply_eq_iff_eq, Prod.mk.injEq] at same
  obtain ⟨rfl, sameWildcard, sameRegexes, rfl⟩ := same
  obtain rfl := Bool.not_inj sameWildcard
  obtain rfl : regexes = regexes' := by
    split_ifs at sameRegexes <;> omega
  rfl

/-- Only equal counts tie. -/
theorem compare_eq_zero_iff {precedence : Precedence} {left right : Specificity} :
    compare precedence left right = 0 ↔ left = right := by
  have swap := compare_swap precedence left right
  constructor
  · intro tie
    have below := compare_nonneg_iff.mp tie.ge
    have above := compare_nonneg_iff.mp (by omega : 0 ≤ compare precedence right left)
    exact key_injective precedence (le_antisymm above below)
  · rintro rfl
    omega

/-- The counts of a pattern that begins with the segments of another one, which has no wildcard. -/
def under (head tail : Specificity) : Specificity where
  literals := head.literals + tail.literals
  regexes := head.regexes + tail.regexes
  captures := head.captures + tail.captures
  wildcard := tail.wildcard

/-- A common beginning changes no comparison. -/
theorem compare_under (precedence : Precedence) (head left right : Specificity) :
    compare precedence (head.under left) (head.under right) = compare precedence left right := by
  simp only [compare, under, countDifference_add, Nat.add_left_cancel_iff, ne_eq]
  split_ifs <;> simp [*]

end Specificity

end HttpRouting
