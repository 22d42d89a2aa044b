import GolfProgress.Proofs.BindingRequirements
import GolfProgress.Proofs.EditWrites

/-!
# The progress curve

The share of the way from a baseline to a target is a quotient of two differences, in percent, cut
off at zero and a hundred.  Differences, quotients and products are rounded in order, whatever the
signs and however large they are, so the share grows as the value gets better in the direction in
which the target lies (`waySoFar_le_waySoFar`).  At the baseline it is a zero and at the target it
is a hundred, for the difference divided by itself is one; so it is all zero on this side of the
baseline and all a hundred beyond the target.

The progress that is claimed by a share is rounded and cut off in order as well
(`claimedProgress_mono`).  `progress_curve` says both.
-/

set_option autoImplicit false

namespace GolfProgress

open Binary64

/-! ## The way so far -/

/-- The share of the way in percent, before it is cut off. -/
def waySoFar (baseline target value : Binary64) : Binary64 :=
  (value - baseline) / (target - baseline) * 100

section Way

variable {direction : Direction} {baseline target value better share : Binary64}

/-- A share is known exactly where the way and the value are finite and the way is not zero. -/
theorem gapClosed_eq_some : gapClosed baseline target value = some share ↔
    ((target - baseline).isFinite = true ∧ value.isFinite = true ∧
      (target - baseline).isZero = false) ∧
        (waySoFar baseline target value).clamp 0 100 = share := by
  unfold gapClosed waySoFar
  dsimp only
  split
  · next unusable =>
      simp only [Bool.or_eq_true, Bool.not_eq_true'] at unusable
      constructor
      · intro none
        cases none
      · rintro ⟨⟨finite, finite', nonzero⟩, -⟩
        simp [finite, finite', nonzero] at unusable
  · next usable =>
      simp only [Bool.or_eq_true, Bool.not_eq_true', not_or, Bool.not_eq_false,
        Bool.not_eq_true] at usable
      obtain ⟨⟨finite, finite'⟩, nonzero⟩ := usable
      simp [finite, finite', nonzero]

/-- A way that is not zero leads in one of the two directions. -/
theorem exists_betters (starts : baseline.isFinite = true) (ends : target.isFinite = true)
    (nonzero : (target - baseline).isZero = false) :
    ∃ direction : Direction, direction.Betters target baseline := by
  have left := isNaN_of_isFinite starts
  have right := isNaN_of_isFinite ends
  rcases Int.lt_trichotomy baseline.place target.place with less | same | more
  · exact ⟨.higherBetter, (lt_iff left right).mpr less⟩
  · obtain ⟨s, p, fits, rfl⟩ := exists_of_isFinite starts
    obtain ⟨t, q, fits', rfl⟩ := exists_of_isFinite ends
    rw [place, place] at same
    rw [sub_eq_ofSigned, ← same, Int.sub_self, ofSigned, if_pos rfl] at nonzero
    cases nonzero
  · exact ⟨.lowerBetter, (lt_iff right left).mpr more⟩

/-- **The share of the way grows as the value gets better.** -/
theorem waySoFar_le_waySoFar (starts : baseline.isFinite = true) (ends : target.isFinite = true)
    (usable : (target - baseline).isFinite = true) (finite : value.isFinite = true)
    (finite' : better.isFinite = true) (toward : direction.Betters target baseline)
    (asGood : direction.meets better value = true) :
    waySoFar baseline target value ≤ waySoFar baseline target better := by
  have itself : baseline ≤ baseline := le_refl (isNaN_of_isFinite starts)
  have parts : (value - baseline) / (target - baseline) ≤
      (better - baseline) / (target - baseline) := by
    cases direction with
    | higherBetter =>
        exact div_le_div usable (sub_pos ends starts toward)
          (sub_le_sub finite finite' starts starts (of_decide_eq_true asGood) itself)
    | lowerBetter =>
        -- the way is negative, and so are the advances on it
        have turned := sub_eq_neg_sub starts ends toward
        have usable' : (baseline - target).isFinite = true := by
          rwa [turned, isFinite_neg] at usable
        rw [turned, div_neg, div_neg]
        exact neg_le_neg (div_le_div usable' (sub_pos starts ends toward)
          (sub_le_sub finite' finite starts starts (of_decide_eq_true asGood) itself))
  exact (rises_mul_ofNat (by decide) (by decide)).le_of_mirrors (mirrors_mul (.ofNat 100)) parts

/-- There is no way to a baseline. -/
theorem isZero_waySoFar_baseline (starts : baseline.isFinite = true)
    (usable : (target - baseline).isFinite = true) (nonzero : (target - baseline).isZero = false) :
    (waySoFar baseline target baseline).isZero = true := by
  rw [waySoFar, sub_self starts]
  exact isZero_mul_ofNat (isZero_zero_div usable nonzero) (by decide)

/-- The way to a target is the whole way. -/
theorem waySoFar_target (usable : (target - baseline).isFinite = true)
    (nonzero : (target - baseline).isZero = false) : waySoFar baseline target target = 100 := by
  rw [waySoFar, div_self usable nonzero]
  decide +kernel

end Way

/-! ## Shares -/

/-- What is known of the share that a value covers of a way that leads in a direction. -/
structure CoversWay (direction : Direction) (baseline target value share : Binary64) : Prop where
  toward : direction.Betters target baseline
  number : share.isNaN = false
  least : 0 ≤ share
  most : share ≤ 100
  /-- A value that is no better than the baseline covers nothing. -/
  unmoved : direction.meets baseline value = true → share.isZero = true
  /-- A value that is as good as the target covers all. -/
  reached : direction.meets value target = true → share = 100
  /-- A value that is as good covers as much. -/
  rises : ∀ better further, gapClosed baseline target better = some further →
    direction.meets better value = true → share ≤ further

section Shares

variable {baseline target value share : Binary64}

theorem gapClosed_eq_none : gapClosed baseline target value = none ↔
    (target - baseline).isZero = true ∨ (target - baseline).isFinite = false ∨
      value.isFinite = false := by
  unfold gapClosed
  dsimp only
  split
  · next unusable =>
      simp only [Bool.or_eq_true, Bool.not_eq_true'] at unusable
      exact iff_of_true rfl (by tauto)
  · next usable =>
      simp only [Bool.or_eq_true, Bool.not_eq_true'] at usable
      exact iff_of_false nofun (by tauto)

/-- **Every share that is known is bounded, exact at both ends and rising.** -/
theorem exists_coversWay (covers : gapClosed baseline target value = some share) :
    ∃ direction, CoversWay direction baseline target value share := by
  obtain ⟨⟨usable, finite, nonzero⟩, rfl⟩ := gapClosed_eq_some.mp covers
  obtain ⟨ends, starts⟩ := isFinite_of_sub usable
  obtain ⟨direction, toward⟩ := exists_betters starts ends nonzero
  have bounds : (0 : Binary64) ≤ 100 := by decide +kernel
  have grows {first second : Binary64} (known : first.isFinite = true)
      (known' : second.isFinite = true) (asGood : direction.meets second first = true) :=
    waySoFar_le_waySoFar starts ends usable known known' toward asGood
  have number := (not_isNaN_of_le
    (grows finite finite (direction.meets_refl (isNaN_of_isFinite finite)))).1
  have within := clamp_bounds number bounds
  refine ⟨direction, toward, (not_isNaN_of_le within.2).1, within.1, within.2, ?_, ?_, ?_⟩
  · intro behind
    have none := (isZero_iff.mp (isZero_waySoFar_baseline starts usable nonzero)).2
    have cut := clamp_le_clamp bounds (le_trans (grows finite starts behind) none)
    exact isZero_iff.mpr ⟨within.1, le_trans cut (by decide +kernel)⟩
  · intro beyond
    have whole := grows ends finite beyond
    rw [waySoFar_target usable nonzero] at whole
    have cut := le_trans (by decide +kernel : (100 : Binary64) ≤ (100 : Binary64).clamp 0 100)
      (clamp_le_clamp bounds whole)
    exact eq_of_le_of_le (by decide +kernel) cut within.2
  · intro better further covers' asGood
    obtain ⟨⟨-, finite', -⟩, rfl⟩ := gapClosed_eq_some.mp covers'
    exact clamp_le_clamp bounds (grows finite finite' asGood)

end Shares

/-! ## Claims -/

/-- A share is no larger than another one, or is not known. -/
inductive NoFurther : Option Binary64 → Option Binary64 → Prop where
  | unknown (further : Option Binary64) : NoFurther none further
  | known {share further : Binary64} (ordered : share ≤ further) :
      NoFurther (some share) (some further)

/-- Whole parts are taken in order. -/
theorem Binary64.toNatAtMost_le_toNatAtMost {a b : Binary64} (ordered : a ≤ b) (top : Nat) :
    a.toNatAtMost top ≤ b.toNatAtMost top := by
  cases a with
  | nan => exact Nat.zero_le _
  | infinite s =>
      cases s with
      | true => exact Nat.zero_le _
      | false => exact Nat.le_of_eq (by rw [eq_infinite ordered])
  | finite s p fits =>
      cases s with
      | true => exact Nat.zero_le _
      | false =>
          cases b with
          | nan => cases ordered
          | infinite t =>
              cases t with
              | true => cases ordered
              | false => exact Nat.min_le_right _ _
          | finite t q fits' =>
              rw [le_iff rfl rfl, place, place, signed_false] at ordered
              cases t with
              | false =>
                  have more : p / quantaPerUnit ≤ q / quantaPerUnit :=
                    Nat.div_le_div_right (Int.ofNat_le.mp ordered)
                  simp only [toNatAtMost]
                  omega
              | true =>
                  rw [signed_true] at ordered
                  obtain rfl : p = 0 := by omega
                  simp [toNatAtMost]

/-- A larger share claims no less progress. -/
theorem claimedProgress_mono {closed closed' : Option Binary64}
    (noFurther : NoFurther closed closed') (cap : UInt8) :
    claimedProgress closed cap ≤ claimedProgress closed' cap := by
  cases noFurther with
  | unknown => exact Nat.zero_le _
  | known ordered =>
      exact toNatAtMost_le_toNatAtMost
        (clamp_le_clamp (ofNat_nonneg _) (round_le_round ordered)) _

/-- **The progress curve is bounded and rises.**

A share is unknown just where there is no way, or no finite way, or no finite value.  A share that
is known is a number from zero to a hundred; it is zero up to the baseline, a hundred from the
target on, and no smaller for a value that is further on the way, whichever way it leads.  The
progress claimed by a share is no less than there was and no more than the cap or ninety-nine
allow, unless there was more already; it falls neither with the share nor with what there was. -/
theorem progress_curve :
    (∀ baseline target value, gapClosed baseline target value = none ↔
      (target - baseline).isZero = true ∨ (target - baseline).isFinite = false ∨
        value.isFinite = false) ∧
    (∀ baseline target value share, gapClosed baseline target value = some share →
      ∃ direction, CoversWay direction baseline target value share) ∧
    ∀ existing closed cap, existing ≤ unresolvedProgress existing closed cap ∧
      (unresolvedProgress existing closed cap).toNat ≤ max existing.toNat (min cap.toNat 99) ∧
      ∀ existing' closed', existing ≤ existing' → NoFurther closed closed' →
        unresolvedProgress existing closed cap ≤ unresolvedProgress existing' closed' cap := by
  refine ⟨fun _ _ _ => gapClosed_eq_none, fun _ _ _ _ => exists_coversWay, ?_⟩
  intro existing closed cap
  refine ⟨le_unresolvedProgress existing closed cap, ?_, ?_⟩
  · have claimed := claimedProgress_le closed cap
    rw [toNat_unresolvedProgress_eq]
    omega
  · intro existing' closed' more noFurther
    have claims := claimedProgress_mono noFurther cap
    rw [UInt8.le_iff_toNat_le] at more ⊢
    rw [toNat_unresolvedProgress_eq, toNat_unresolvedProgress_eq]
    omega

/-- On the way down from 800 to 700, 750 covers half, 740 covers at least as much and claims at
least as much progress. -/
theorem halfway_down : CoversWay .lowerBetter 800 700 750 50 ∧
    ∃ further, gapClosed 800 700 740 = some further ∧ (50 : Binary64) ≤ further ∧
      unresolvedProgress 10 (some 50) 60 ≤ unresolvedProgress 10 (some further) 60 := by
  obtain ⟨-, covers, claims⟩ := progress_curve
  have half : gapClosed 800 700 750 = some 50 := by decide +kernel
  obtain ⟨direction, covered⟩ := covers 800 700 750 50 half
  cases direction with
  | higherBetter =>
      have upward : (800 : Binary64) < 700 := covered.toward
      exact absurd upward (by decide +kernel)
  | lowerBetter =>
      obtain ⟨further, known⟩ : ∃ further, gapClosed 800 700 740 = some further :=
        Option.isSome_iff_exists.mp (by decide +kernel)
      have more := covered.rises 740 further known (by decide +kernel)
      exact ⟨covered, further, known, more,
        (claims 10 (some 50) 60).2.2 10 (some further) (by decide) (.known more)⟩

end GolfProgress
