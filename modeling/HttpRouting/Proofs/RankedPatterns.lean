import HttpRouting.Proofs.JoinedPatterns
import HttpRouting.Proofs.Mounting

/-! # Ranks that can be relied on

Choosing a route compares each contender with the best one so far, and mounting a router copies its patterns behind
a prefix. The first is right because the comparison is a total preorder, in which only patterns with the same counts
tie: the one that is left at the end is beaten by none, also of those that it was never compared with. The second
is right because a prefix without a wildcard changes no comparison.
-/

namespace HttpRouting

open Pattern (compile)

namespace Specificity

/-- Whether the signs of a comparison are those of a total preorder in which only equal counts tie. -/
structure Ranking (compare : Specificity → Specificity → ℤ) : Prop where
  opposite : ∀ left right, (compare right left).sign = -(compare left right).sign
  trans : ∀ first second third, 0 ≤ compare first second → 0 ≤ compare second third → 0 ≤ compare first third
  trans_strict : ∀ first second third, 0 < compare first second → 0 < compare second third → 0 < compare first third
  trans_tie : ∀ first second third, compare first second = 0 → compare second third = 0 → compare first third = 0
  tie_iff : ∀ left right, compare left right = 0 ↔ left = right

private theorem ranking_compare (precedence : Precedence) : Ranking (compare precedence) where
  opposite left right := by rw [compare_swap, Int.sign_neg]
  trans first second third := by
    simp only [compare_nonneg_iff]
    exact fun front back => back.trans front
  trans_strict first second third := by
    simp only [compare_pos_iff]
    exact fun front back => back.trans front
  trans_tie first second third := by
    simp only [compare_eq_zero_iff]
    exact Eq.trans
  tie_iff _ _ := compare_eq_zero_iff

end Specificity

/-- Behind a common beginning without a wildcard patterns compare as they do on their own. -/
theorem Pattern.compare_joined {head left right joined joined' : Pattern} (plain : head.hasWildcard = false)
    (front : head.join left = .ok joined) (back : head.join right = .ok joined') (precedence : Precedence) :
    joined.specificity.compare precedence joined'.specificity =
      left.specificity.compare precedence right.specificity := by
  rw [specificity_of_under plain (under_eq_ok.mpr front), specificity_of_under plain (under_eq_ok.mpr back),
    Specificity.compare_under]

/-- No contender that answers is more specific than the one that is left when all were looked at in turn. -/
theorem RouteIndex.compare_nonneg_of_foldl {ε : Type} {index : RouteIndex ε} {contenders : List (Contender ε)}
    {leader : Contender ε} {endpoint : ε} (best : contenders.foldl index.better none = some (leader, endpoint)) :
    ∀ other ∈ contenders, other.endpoint.isSome = true →
      0 ≤ leader.route.pattern.specificity.compare index.settings.precedence other.route.pattern.specificity := by
  intro other member answers
  have leads := index.leads_foldl contenders
  rw [best] at leads
  exact Specificity.compare_nonneg_iff.mpr (leads.le other member answers)

/-- The ranking can be relied on for a running maximum and for mounting. Under either precedence it is a total
preorder in which only equal counts tie; the contender that is left of any list of them is beaten by none of the
others; and patterns that are joined to the same prefix without a wildcard compare with each other just as they did
before. -/
theorem Specificity.compare_ranks (precedence : Precedence) :
    Ranking (compare precedence) ∧
    (∀ {ε : Type} {index : RouteIndex ε} {contenders : List (Contender ε)} {leader : Contender ε} {endpoint : ε},
      index.settings.precedence = precedence → contenders.foldl index.better none = some (leader, endpoint) →
      ∀ other ∈ contenders, other.endpoint.isSome = true →
        0 ≤ compare precedence leader.route.pattern.specificity other.route.pattern.specificity) ∧
    ∀ {head left right joined joined' : Pattern}, head.hasWildcard = false → head.join left = .ok joined →
      head.join right = .ok joined' → (compare precedence joined.specificity joined'.specificity).sign =
        (compare precedence left.specificity right.specificity).sign := by
  refine ⟨ranking_compare precedence, fun set best => ?_, fun plain front back => ?_⟩
  · rw [← set]
    exact RouteIndex.compare_nonneg_of_foldl best
  · rw [Pattern.compare_joined plain front back]

def Contender.withPattern (pattern : Pattern) : Contender Unit where
  route := { pattern, methods := .empty, order := 0 }
  values := []
  endpoint := some ()

/-- With plain captures first, a literal outranks two captures and these a constrained one, also behind a prefix. -/
theorem Specificity.compare_ranks_versions : ∃ head users pair word joined joined' : Pattern,
    compile "/api/:version" = .ok head ∧ compile "/users/*rest" = .ok users ∧ compile "/:kind/:id" = .ok pair ∧
    compile "/<[a-z]+>/:id" = .ok word ∧ head.hasWildcard = false ∧ head.join pair = .ok joined ∧
    head.join word = .ok joined' ∧ 0 < compare .capture users.specificity pair.specificity ∧
    0 < compare .capture pair.specificity word.specificity ∧
    0 < compare .capture users.specificity word.specificity ∧
    (compare .capture joined.specificity joined'.specificity).sign = 1 ∧
    ∃ leader : Contender Unit, leader.route.pattern = users ∧
      0 ≤ compare .capture leader.route.pattern.specificity word.specificity := by
  have known : ∃ head users pair word joined joined' : Pattern,
      compile "/api/:version" = .ok head ∧ compile "/users/*rest" = .ok users ∧ compile "/:kind/:id" = .ok pair ∧
      compile "/<[a-z]+>/:id" = .ok word ∧ head.hasWildcard = false ∧ head.join pair = .ok joined ∧
      head.join word = .ok joined' ∧ 0 < compare .capture users.specificity pair.specificity ∧
      0 < compare .capture pair.specificity word.specificity ∧
      (compare .capture pair.specificity word.specificity).sign = 1 ∧
      ([pair, users, word].map Contender.withPattern).foldl
        ({ settings := { precedence := .capture } } : RouteIndex Unit).better none =
          some (Contender.withPattern users, ()) :=
    ⟨_, _, _, _, _, _, rfl, rfl, rfl, rfl, rfl, rfl, rfl, by decide, by decide, by decide, rfl⟩
  obtain ⟨head, users, pair, word, joined, joined', prefixed, literal, plain, constrained, bare, front, back, above,
    above', sign, best⟩ := known
  obtain ⟨ranking, maximum, mounted⟩ := compare_ranks .capture
  refine ⟨head, users, pair, word, joined, joined', prefixed, literal, plain, constrained, bare, front, back, above,
    above', ranking.trans_strict _ _ _ above above', (mounted bare front back).trans sign, _, rfl,
    maximum rfl best (.withPattern word) (by simp) rfl⟩

end HttpRouting
