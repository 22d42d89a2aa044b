import GolfProgress.Proofs.ProposedRules
import GolfProgress.Proofs.SignedOrder

/-!
# The forms of proposed rules

Whatever two numbers a rule is proposed for, its text is read back as the rule, in the form that
the numbers call for (`SuccessRule.IsProposal`).  Where they are finite the gap between them is a
number that is not negative, also where their difference or the quotient is too large for the
format (`relativeGap_nonneg`).  So it is either below the one at which the target itself is asked
for or not, and the improvement that is asked for otherwise is a whole number, for five and twenty
percent are and rounding keeps order (`improvementStep_whole`).

`proposed_rule_reads_back` says all of this, with the gap, its limit and the step to the improvement
written out.
-/

set_option autoImplicit false

namespace GolfProgress.SuccessRule

open Binary64

/-! ## Gaps and steps -/

section Numbers

variable {baseline target gap : Binary64}

/-- The gap between finite measurements is a number that is not negative; it may be infinite. -/
theorem relativeGap_nonneg (starts : baseline.isFinite = true) (ends : target.isFinite = true) :
    0 ≤ relativeGap baseline target :=
  Binary64.div_nonneg (Binary64.abs_nonneg (isNaN_sub ends starts)) (isFinite_scale ends)
    (scale_pos ends)

/-- **An improvement that is asked for is a whole number of five to twenty percent.** -/
theorem improvementStep_whole (number : gap.isNaN = false) :
    ∃ percent, 5 ≤ percent ∧ percent ≤ 20 ∧ improvementStep gap = .ofNat percent := by
  obtain ⟨percent, most, step⟩ := improvementStep_le_twenty number
  have half : (gap * .ofNat 100 / .ofNat 2).isNaN = false :=
    isNaN_div_ofNat (isNaN_mul_ofNat number (by decide) (by decide)) (by decide) (by decide)
  have least : ofNat 5 ≤ (gap * .ofNat 100 / .ofNat 2).clamp (.ofNat 5) (.ofNat 20) :=
    (clamp_bounds half (by decide +kernel)).1
  have rounded : (ofNat 5).round ≤ improvementStep gap := round_le_round least
  rw [Binary64.round_ofNat (by decide), step,
    ofNat_le_ofNat (by decide) (Nat.le_trans most (by decide))] at rounded
  exact ⟨percent, rounded, most, step⟩

/-- A gap that is too large for the format asks for twenty percent. -/
theorem improvementStep_infinite : improvementStep (.infinite false) = .ofNat 20 := by
  decide +kernel

end Numbers

/-! ## Forms -/

/-- The form in which a rule is proposed for a test where a gap is between the measurements: the
pass flag where a measurement is not finite, else the target where the gap is below 0.15, else an
improvement of half the gap in percent, which is a whole number from five to twenty. -/
inductive IsProposal (test : String) (baseline target : Binary64) (comparison : Comparison)
    (gap : Binary64) : SuccessRule → Prop where
  | flag (unusable : ¬ (baseline.isFinite = true ∧ target.isFinite = true)) :
      IsProposal test baseline target comparison gap (.testPass test)
  | threshold (starts : baseline.isFinite = true) (ends : target.isFinite = true)
      (close : gap < 0.15) :
      IsProposal test baseline target comparison gap (.metricThreshold test comparison target)
  | improvement (starts : baseline.isFinite = true) (ends : target.isFinite = true)
      (far : 0.15 ≤ gap) {percent : Nat} (least : 5 ≤ percent) (most : percent ≤ 20)
      (step : ((gap * 100 / 2).clamp 5 20).round = .ofNat percent) :
      IsProposal test baseline target comparison gap (.improvementPercent (.ofNat percent))

section Proposals

variable {test : String} {baseline target gap : Binary64} {comparison : Comparison}
  {rule : SuccessRule}

theorem isProposal_proposed (test : String) (baseline target : Binary64)
    (comparison : Comparison) :
    IsProposal test baseline target comparison (relativeGap baseline target)
      (proposed test baseline target comparison) := by
  by_cases usable : baseline.isFinite = true ∧ target.isFinite = true
  · obtain ⟨starts, ends⟩ := usable
    have number := (nonneg_iff.mp (relativeGap_nonneg starts ends)).1
    rw [proposed, if_neg (by simp [starts, ends])]
    by_cases close : relativeGap baseline target < directTargetGap
    · rw [if_pos close]
      exact .threshold starts ends close
    · have far := (not_lt number (by decide +kernel)).mp close
      obtain ⟨percent, least, most, step⟩ := improvementStep_whole number
      rw [if_neg close, step]
      exact .improvement starts ends far least most step
  · have missing : (!baseline.isFinite || !target.isFinite) = true := by
      simpa only [Bool.or_eq_true, Bool.not_eq_true', ← Bool.not_eq_true,
        Classical.not_and_iff_not_or_not] using usable
    rw [proposed, if_pos missing]
    exact .flag usable

/-- A rule in a form in which rules are proposed can be stored. -/
theorem IsProposal.storable (named : IsName test)
    (proposal : IsProposal test baseline target comparison gap rule) : rule.Storable := by
  cases proposal with
  | flag => exact named
  | threshold _ ends => exact ⟨named, ends⟩
  | improvement _ _ _ _ most =>
      rw [Storable, ofNat_eq (Nat.le_trans most (by decide))]
      rfl

/-- Where the gap is small the target itself is asked for. -/
theorem IsProposal.eq_of_close (proposal : IsProposal test baseline target comparison gap rule)
    (starts : baseline.isFinite = true) (ends : target.isFinite = true) (close : gap < 0.15) :
    rule = .metricThreshold test comparison target := by
  cases proposal with
  | flag unusable => exact absurd ⟨starts, ends⟩ unusable
  | threshold => rfl
  | improvement _ _ far =>
      obtain ⟨left, right⟩ := not_isNaN_of_lt close
      exact absurd close ((not_lt left right).mpr far)

/-- Where the gap is not small an improvement of half of it is asked for. -/
theorem IsProposal.eq_of_far (proposal : IsProposal test baseline target comparison gap rule)
    (starts : baseline.isFinite = true) (ends : target.isFinite = true) (far : 0.15 ≤ gap) :
    rule = .improvementPercent (improvementStep gap) := by
  cases proposal with
  | flag unusable => exact absurd ⟨starts, ends⟩ unusable
  | threshold _ _ close =>
      obtain ⟨left, right⟩ := not_isNaN_of_lt close
      exact absurd close ((not_lt left right).mpr far)
  | improvement _ _ _ _ _ step => rw [improvementStep, step]

/-- Where the gap is too large for the format, twenty percent are asked for. -/
theorem IsProposal.eq_of_overflow (proposal : IsProposal test baseline target comparison gap rule)
    (starts : baseline.isFinite = true) (ends : target.isFinite = true)
    (nonneg : 0 ≤ gap) (overflow : gap.isFinite = false) :
    rule = .improvementPercent (.ofNat 20) := by
  have infinite : gap = .infinite false := by
    rcases nonneg_cases nonneg with infinite | ⟨_, _, _, finite, -⟩
    · exact infinite
    · rw [finite] at overflow
      cases overflow
  subst infinite
  rw [proposal.eq_of_far starts ends (by decide +kernel), improvementStep_infinite]

end Proposals

/-- **A proposed rule is read back from its text in the form that its numbers call for**, whatever
the numbers: infinite ones and those that are no numbers, zeros and the least of the format, and
those whose difference or gap is too large for it, for which twenty percent are asked for.  The
gap is the distance of the target from the baseline, relative to the size of the target where that
is not zero. -/
theorem proposed_rule_reads_back {test : String} (named : IsName test)
    (baseline target : Binary64) (comparison : Comparison) :
    ∃ rule gap, gap = (target - baseline).abs / (if target.isZero then 1 else target.abs) ∧
      ofText? (proposedText test baseline target comparison) = some rule ∧
      IsProposal test baseline target comparison gap rule ∧
      (baseline.isFinite = true → target.isFinite = true → gap.isFinite = false →
        rule = .improvementPercent (.ofNat 20)) := by
  have proposal := isProposal_proposed test baseline target comparison
  exact ⟨_, relativeGap baseline target, rfl, ofText?_toText (proposal.storable named), proposal,
    fun starts ends => proposal.eq_of_overflow starts ends (relativeGap_nonneg starts ends)⟩

/-- From 200 to 210 metres the target itself is asked for and from 200 to 250 ten percent.  From
about -1.7e308 to its opposite the difference is too large for the format, and twenty percent are
asked for. -/
theorem close_and_overflowing_gaps_read_back :
    IsName "CARRY" ∧
    ofText? (proposedText "CARRY" 200 210 .atLeast) =
      some (.metricThreshold "CARRY" .atLeast 210) ∧
    ofText? (proposedText "CARRY" 200 250 .atLeast) = some (.improvementPercent (.ofNat 10)) ∧
    (1.7e308 - -1.7e308 : Binary64).isFinite = false ∧
    ofText? (proposedText "CARRY" (-1.7e308) 1.7e308 .atLeast) =
      some (.improvementPercent (.ofNat 20)) := by
  have named : IsName "CARRY" := by decide +kernel
  have close : ofText? (proposedText "CARRY" 200 210 .atLeast) =
      some (.metricThreshold "CARRY" .atLeast 210) := by
    obtain ⟨rule, gap, relative, read, form, -⟩ := proposed_rule_reads_back named 200 210 .atLeast
    have small : gap < 0.15 := by
      rw [relative]
      decide +kernel
    rw [form.eq_of_close (by decide +kernel) (by decide +kernel) small] at read
    exact read
  have far : ofText? (proposedText "CARRY" 200 250 .atLeast) =
      some (.improvementPercent (.ofNat 10)) := by
    obtain ⟨rule, gap, relative, read, form, -⟩ := proposed_rule_reads_back named 200 250 .atLeast
    have large : 0.15 ≤ gap := by
      rw [relative]
      decide +kernel
    rw [form.eq_of_far (by decide +kernel) (by decide +kernel) large, relative] at read
    exact read.trans (by decide +kernel)
  obtain ⟨rule, gap, relative, read, -, overflow⟩ :=
    proposed_rule_reads_back named (-1.7e308) 1.7e308 .atLeast
  have infinite : gap.isFinite = false := by
    rw [relative]
    decide +kernel
  rw [overflow (by decide +kernel) (by decide +kernel) infinite] at read
  exact ⟨named, close, far, by decide +kernel, read⟩

end GolfProgress.SuccessRule
