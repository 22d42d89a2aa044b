import GolfProgress.Proofs.Evolution
import GolfProgress.Proofs.Solo
import GolfProgress.Proofs.Rounding

/-!
# Readings in any order

A record is worked on in stages, one after the other: readings are evaluated and effort
is recorded.  In an available workspace with a fixed session log each stage makes one
record of another (`Stage.result`, `Workspace.Holds.run`), so a series of stages is a
fold over records (`Stage.after`).

What a reading proves or claims depends on fields that no stage writes.  Readings that
do not pass raise progress to the largest claim and touch nothing else that a record is
judged by (`Stage.after_unproved`); the first reading that passes resolves the record,
and nothing that follows changes it (`Stage.after_proved`).  `readings_in_any_order` puts
these together: neither the order of the readings nor effort recorded in between matters
for progress and resolution, and effort is what it would be without the readings.
-/

set_option autoImplicit false

namespace GolfProgress

/-! ## What a reading proves and claims -/

namespace Benchmark

/-- Whether a reading passes for a record. -/
def passes (tracker : Tracker) (point : BreakingPoint) (benchmark : Benchmark) : Bool :=
  match tracker.direction benchmark.metric point.test with
  | .ok direction => (benchmark.evaluation direction point).passed
  | .error _ => false

/-- The progress that a reading claims for an unresolved record: the share of the way that
it covers, rounded, and no more than the cap. -/
def claim (settings : Settings) (point : BreakingPoint) (benchmark : Benchmark) : Nat :=
  match benchmark.improvement point with
  | some share => share.round.toNatAtMost (min settings.progress.unresolvedCap.toNat 99)
  | none => 0

/-- A reading that is evaluated: it is finite, and its metric or else the test of the
record is known. -/
def Admitted (tracker : Tracker) (point : BreakingPoint) (benchmark : Benchmark) : Prop :=
  benchmark.value.isFinite = true ∧
    ∃ direction, tracker.direction benchmark.metric point.test = .ok direction

end Benchmark

namespace Binary64

variable {value : Binary64} {top : Nat}

theorem toNatAtMost_of_neg (negative : value < 0) (top : Nat) : value.toNatAtMost top = 0 := by
  have place := (lt_iff (not_isNaN_of_lt negative).1 (not_isNaN_of_lt negative).2).mp negative
  rw [zero_eq] at place
  cases value with
  | nan => rfl
  | infinite s | finite s =>
      cases s
      · simp only [Binary64.place, zero, signed_false] at place
        omega
      · rfl

theorem toNatAtMost_of_lt (small : top ≤ fractionSize) (above : ofNat top < value) :
    value.toNatAtMost top = top := by
  have place := (lt_iff (not_isNaN_of_lt above).1 (not_isNaN_of_lt above).2).mp above
  rw [ofNat_eq small] at place
  cases value with
  | nan => cases (not_isNaN_of_lt above).2
  | infinite s =>
      cases s
      · rfl
      · simp only [Binary64.place, signed_false, signed_true] at place
        omega
  | finite s quanta fits =>
      cases s
      · simp only [Binary64.place, signed_false] at place
        refine Nat.min_eq_right ((Nat.le_div_iff_mul_le quantaPerUnit_pos).mpr ?_)
        omega
      · simp only [Binary64.place, signed_false, signed_true] at place
        omega

/-- Moving a number between zero and a cap does not change the whole part of it that the
cap allows. -/
theorem toNatAtMost_clamp (value : Binary64) (small : top ≤ fractionSize) :
    (value.clamp 0 (.ofNat top)).toNatAtMost top = value.toNatAtMost top := by
  unfold clamp
  split
  · next negative =>
      rw [toNatAtMost_of_neg negative, zero_eq, zero, toNatAtMost, Nat.zero_div, Nat.zero_min]
  · split
    · next above =>
        rw [toNatAtMost_of_lt small above, ofNat_eq small, toNatAtMost,
          Nat.mul_div_cancel _ quantaPerUnit_pos, Nat.min_self]
    · rfl

end Binary64

/-- The progress of a reading that does not pass: the existing progress or its claim. -/
theorem Benchmark.toNat_unresolvedProgress (settings : Settings) (point : BreakingPoint)
    (benchmark : Benchmark) :
    (unresolvedProgress point.progress (benchmark.improvement point)
      settings.progress.unresolvedCap).toNat =
        max point.progress.toNat (benchmark.claim settings point) := by
  rw [toNat_unresolvedProgress_eq]
  unfold claim claimedProgress
  cases benchmark.improvement point with
  | none => rfl
  | some share =>
      have small : min settings.progress.unresolvedCap.toNat 99 ≤ Binary64.fractionSize :=
        Nat.le_trans (Nat.min_le_right _ _) (by decide)
      exact congrArg _ (Binary64.toNatAtMost_clamp share.round small)

/-! ## Stages of work -/

/-- A stage of the work on a record. -/
inductive Stage where
  | reading (benchmark : Benchmark)
  | effort

namespace Stage

/-- The edit of a stage. -/
def edit (id : Uuid) : Stage → Edit
  | .reading benchmark => .evaluateBenchmark id benchmark
  | .effort => .recordEffort id

/-- The reading of a stage, if it is one. -/
def reading? : Stage → Option Benchmark
  | .reading benchmark => some benchmark
  | .effort => none

/-- Whether a stage records effort. -/
def isEffort : Stage → Bool
  | .reading _ => false
  | .effort => true

/-- The readings among stages, in their order. -/
def readings (stages : List Stage) : List Benchmark := stages.filterMap reading?

/-- The record that stages make of a record, one after the other. -/
def after (tracker : Tracker) (log : SessionLog) (stages : List Stage) (point : BreakingPoint) :
    BreakingPoint :=
  stages.foldl (fun point stage => (stage.edit point.id).result tracker log point) point

end Stage

/-- The effort that the logged sessions of a record amount to, or else the effort that it
has while they cannot be counted. -/
def Tracker.worked (tracker : Tracker) (log : SessionLog) (point : BreakingPoint) : UInt8 :=
  match log.count (.point point.id) point.createdAt with
  | .ok sessions => tracker.settings.effort.effort sessions
  | .error _ => point.effort

section Results

variable {tracker : Tracker} {log : SessionLog} {point : BreakingPoint} {benchmark : Benchmark}

/-- Edits leave a resolved record as it is. -/
theorem Edit.result_of_resolved (tracker : Tracker) (log : SessionLog) (edit : Edit)
    (resolved : point.isResolved = true) :
    edit.result tracker log point = point := by
  unfold result Patch.settle
  split
  · rfl
  · next changes =>
      obtain ⟨report, writes⟩ := Edit.writes_of_patch (Bool.eq_false_iff.mpr changes)
      rw [writes.unresolved] at resolved
      cases resolved

theorem Benchmark.Admitted.patch (admitted : benchmark.Admitted tracker point)
    (log : SessionLog) (id : Uuid) :
    ∃ direction, benchmark.passes tracker point = (benchmark.evaluation direction point).passed ∧
      (Edit.evaluateBenchmark id benchmark).patch tracker log point =
        (benchmark.decision tracker.settings id direction point).patch := by
  obtain ⟨finite, direction, known⟩ := admitted
  refine ⟨direction, by simp only [passes, known], ?_⟩
  simp only [Edit.patch, Edit.fault?, finite, if_true, Edit.loop, Tracker.benchmarkPlan, known,
    Plan.patch]

/-- A reading that passes resolves an unresolved record. -/
theorem Benchmark.result_of_passes (log : SessionLog) (admitted : benchmark.Admitted tracker point)
    (unresolved : point.isResolved = false) (passes : benchmark.passes tracker point = true)
    (id : Uuid) : (Edit.evaluateBenchmark id benchmark).result tracker log point =
      benchmark.resolution.landing point := by
  obtain ⟨direction, judged, patch⟩ := admitted.patch log id
  rw [Edit.result, patch, decision, ← judged, passes]
  simp [unresolved, Patch.settle, resolution, Patch.isEmpty]

/-- A reading that does not pass raises the progress of an unresolved record to its claim
and leaves all but progress and measurement. -/
theorem Benchmark.result_of_fails (log : SessionLog) (admitted : benchmark.Admitted tracker point)
    (unresolved : point.isResolved = false) (fails : benchmark.passes tracker point = false)
    (id : Uuid) :
    ∃ progress current version,
      (Edit.evaluateBenchmark id benchmark).result tracker log point =
        { point with progress, current, version } ∧
      progress.toNat = max point.progress.toNat (benchmark.claim tracker.settings point) := by
  obtain ⟨direction, judged, patch⟩ := admitted.patch log id
  have settled : (Edit.evaluateBenchmark id benchmark).result tracker log point =
      (benchmark.shortfall point (unresolvedProgress point.progress (benchmark.improvement point)
        tracker.settings.progress.unresolvedCap)).settle point := by
    rw [Edit.result, patch, decision, ← judged, fails]
    simp [unresolved]
  obtain ⟨version, written⟩ := Patch.settle_eq_apply (benchmark.shortfall point
    (unresolvedProgress point.progress (benchmark.improvement point)
      tracker.settings.progress.unresolvedCap)) point
  refine ⟨_, _, version, settled.trans written, ?_⟩
  rw [← benchmark.toNat_unresolvedProgress]
  simp only [shortfall]
  split
  · next same =>
      rw [same]
      rfl
  · rfl

/-- Recording effort sets the effort of an unresolved record and leaves the rest. -/
theorem result_effort (tracker : Tracker) (log : SessionLog)
    (unresolved : point.isResolved = false) :
    ∃ version, (Edit.recordEffort point.id).result tracker log point =
      { point with effort := tracker.worked log point, version } := by
  obtain ⟨version, written⟩ :=
    ((Edit.recordEffort point.id).patch tracker log point).settle_eq_apply point
  refine ⟨version, written.trans ?_⟩
  cases counts : log.count (.point point.id) point.createdAt with
  | error failure =>
      simp [Edit.patch, Edit.fault?, Edit.loop, Plan.patch, Tracker.worked, counts, Patch.apply]
  | ok sessions =>
      by_cases same : tracker.settings.effort.effort sessions = point.effort <;>
        simp [Edit.patch, Edit.fault?, Edit.loop, Plan.patch, Tracker.worked, counts, Patch.apply,
          Tracker.effortDecision, unresolved, same]

end Results

/-! ## Series of stages -/

namespace Stage

variable {tracker : Tracker} {log : SessionLog} {point : BreakingPoint} {stages : List Stage}

theorem after_cons (stage : Stage) (rest : List Stage) :
    after tracker log (stage :: rest) point =
      after tracker log rest ((stage.edit point.id).result tracker log point) := rfl

theorem readings_cons (benchmark : Benchmark) (rest : List Stage) :
    readings (.reading benchmark :: rest) = benchmark :: readings rest := rfl

/-- Stages leave a resolved record as it is. -/
theorem after_resolved (tracker : Tracker) (log : SessionLog) (stages : List Stage)
    (resolved : point.isResolved = true) : after tracker log stages point = point := by
  induction stages with
  | nil => rfl
  | cons stage rest ih =>
      rw [after_cons, Edit.result_of_resolved tracker log _ resolved]
      exact ih

/-- Stages of which no reading passes leave the resolution of an unresolved record, and
raise its progress to the largest claim.  Its effort is that of the recordings alone. -/
theorem after_unproved (stages : List Stage) (unresolved : point.isResolved = false)
    (admitted : ∀ benchmark ∈ readings stages, benchmark.Admitted tracker point)
    (none : (readings stages).find? (·.passes tracker point) = none) :
    (after tracker log stages point).status = point.status ∧
    (after tracker log stages point).resolvedOn = point.resolvedOn ∧
    (after tracker log stages point).progress.toNat =
      ((readings stages).map (·.claim tracker.settings point)).foldl max point.progress.toNat ∧
    (after tracker log stages point).effort =
      if stages.any isEffort then tracker.worked log point else point.effort := by
  induction stages generalizing point with
  | nil => exact ⟨rfl, rfl, rfl, rfl⟩
  | cons stage rest ih =>
      rw [after_cons]
      cases stage with
      | reading benchmark =>
          obtain ⟨here, later⟩ := List.forall_mem_cons.mp admitted
          rw [readings_cons, List.find?_cons] at none
          split at none
          · cases none
          · next failed =>
              obtain ⟨progress, current, version, made, claimed⟩ :=
                Benchmark.result_of_fails log here unresolved failed point.id
              rw [edit, made]
              -- what the later stages look at is what the record had before
              have tail := @ih { point with progress, current, version } unresolved later none
              refine ⟨tail.1, tail.2.1, ?_, tail.2.2.2⟩
              rw [readings_cons, List.map_cons, List.foldl_cons, ← claimed]
              exact tail.2.2.1
      | effort =>
          obtain ⟨version, made⟩ := result_effort tracker log unresolved
          rw [edit, made]
          have tail := @ih { point with effort := tracker.worked log point, version }
            unresolved admitted none
          refine ⟨tail.1, tail.2.1, tail.2.2.1, tail.2.2.2.trans ?_⟩
          have again : tracker.worked log
              { point with effort := tracker.worked log point, version } =
                tracker.worked log point := by
            simp only [Tracker.worked]
            cases log.count (.point point.id) point.createdAt <;> rfl
          simp [again, isEffort]

theorem readings_filter_isEffort (stages : List Stage) :
    readings (stages.filter isEffort) = [] := by
  induction stages with
  | nil => rfl
  | cons stage rest ih =>
      cases stage with
      | reading benchmark => exact ih
      | effort => exact ih

/-- While no reading passes, effort is what the recordings alone give. -/
theorem effort_after (stages : List Stage) (unresolved : point.isResolved = false)
    (admitted : ∀ benchmark ∈ readings stages, benchmark.Admitted tracker point)
    (none : (readings stages).find? (·.passes tracker point) = none) :
    (after tracker log stages point).effort =
      (after tracker log (stages.filter isEffort) point).effort := by
  have silent := readings_filter_isEffort stages
  obtain ⟨-, -, -, effort⟩ := after_unproved stages unresolved admitted none
  obtain ⟨-, -, -, alone⟩ := after_unproved (stages.filter isEffort) unresolved
    (by simp [silent]) (by simp [silent])
  rw [effort, alone, List.any_filter]
  simp

/-- The first reading that passes resolves an unresolved record for good. -/
theorem after_proved {first : Benchmark} (unresolved : point.isResolved = false)
    (admitted : ∀ benchmark ∈ readings stages, benchmark.Admitted tracker point)
    (found : (readings stages).find? (·.passes tracker point) = some first) :
    (after tracker log stages point).status = .resolved ∧
    (after tracker log stages point).progress = BreakingPoint.fullProgress ∧
    (after tracker log stages point).resolvedOn = some first.date ∧
    (after tracker log stages point).current = some first.value := by
  induction stages generalizing point with
  | nil => cases found
  | cons stage rest ih =>
      rw [after_cons]
      cases stage with
      | reading benchmark =>
          obtain ⟨here, later⟩ := List.forall_mem_cons.mp admitted
          rw [readings_cons, List.find?_cons] at found
          split at found
          · next passed =>
              obtain rfl := Option.some.inj found
              rw [edit, Benchmark.result_of_passes log here unresolved passed point.id,
                after_resolved tracker log rest rfl]
              exact ⟨rfl, rfl, rfl, rfl⟩
          · next failed =>
              obtain ⟨progress, current, version, made, -⟩ :=
                Benchmark.result_of_fails log here unresolved failed point.id
              rw [edit, made]
              exact @ih { point with progress, current, version } unresolved later found
      | effort =>
          obtain ⟨version, made⟩ := result_effort tracker log unresolved
          rw [edit, made]
          exact @ih { point with effort := tracker.worked log point, version }
            unresolved admitted found

end Stage

/-! ## Stages in a workspace -/

/-- The record of an identifier after stages of work on it, one after the other. -/
def Tracker.recordAfter? (tracker : Tracker) (workspace : Workspace) (id : Uuid)
    (stages : List Stage) : Option BreakingPoint :=
  ((Program.inTurn (stages.map fun stage => (stage.edit id).program tracker)).run
    workspace).2.record? id

section Workspaces

variable {tracker : Tracker} {log : SessionLog} {id : Uuid} {point : BreakingPoint}
  {workspace : Workspace} {stages others : List Stage}

theorem Stage.id_edit (stage : Stage) (id : Uuid) : (stage.edit id).id = id := by
  cases stage <;> rfl

/-- Stages that run alone make of the stored record what they make of a record. -/
theorem Workspace.Holds.run_stages (holds : workspace.Holds log id point) (valid : point.Valid)
    (stages : List Stage) :
    ((Program.inTurn (stages.map fun stage => (stage.edit id).program tracker)).run
      workspace).2.Holds log id (Stage.after tracker log stages point) := by
  induction stages generalizing workspace point with
  | nil => exact holds
  | cons stage rest ih =>
      have named : point.id = id := BreakingPointStore.id_of_find? holds.found
      simp only [List.map_cons, Program.inTurn, Program.run_andThen, Program.run]
      rw [Stage.after_cons, named]
      exact ih (holds.run_edit valid (stage.id_edit id)) (Edit.valid_result tracker log _ valid)

theorem Tracker.recordAfter?_eq (available : workspace.Available)
    (found : workspace.record? id = some point) (valid : point.Valid) (stages : List Stage) :
    tracker.recordAfter? workspace id stages =
      some (Stage.after tracker workspace.sessions stages point) :=
  (Workspace.Holds.run_stages ⟨available, rfl, found⟩ valid stages).found

/-- What readings make of an unresolved record, whatever effort is recorded in between:
without one that passes, its progress becomes the largest claim and its resolution stays,
and the first one that passes resolves it. -/
structure BreakingPoint.Judged (tracker : Tracker) (readings : List Benchmark)
    (start final : BreakingPoint) : Prop where
  unproved : readings.find? (·.passes tracker start) = none →
    final.status = start.status ∧ final.resolvedOn = start.resolvedOn ∧
    final.progress.toNat =
      (readings.map (·.claim tracker.settings start)).foldl max start.progress.toNat
  proved : ∀ first, readings.find? (·.passes tracker start) = some first →
    final.status = .resolved ∧ final.progress = BreakingPoint.fullProgress ∧
    final.resolvedOn = some first.date ∧ final.current = some first.value

theorem Stage.judged_after (unresolved : point.isResolved = false)
    (admitted : ∀ benchmark ∈ readings stages, benchmark.Admitted tracker point) :
    point.Judged tracker (readings stages) (after tracker log stages point) where
  unproved := by
    intro none
    obtain ⟨status, date, progress, -⟩ := after_unproved stages unresolved admitted none
    exact ⟨status, date, progress⟩
  proved := fun first found => after_proved unresolved admitted found

/-- The order of the readings matters neither for the progress nor for the resolution that
they lead to. -/
theorem BreakingPoint.Judged.of_perm {first second : List Benchmark} {one other : BreakingPoint}
    (judged : point.Judged tracker first one) (otherwise : point.Judged tracker second other)
    (same : second.Perm first) :
    other.progress = one.progress ∧ other.isResolved = one.isResolved := by
  cases found : first.find? (·.passes tracker point) with
  | none =>
      have still : second.find? (·.passes tracker point) = none := by
        rw [List.find?_eq_none] at found ⊢
        exact fun benchmark member => found benchmark (same.mem_iff.mp member)
      obtain ⟨status, -, progress⟩ := judged.unproved found
      obtain ⟨status', -, progress'⟩ := otherwise.unproved still
      refine ⟨UInt8.toNat_inj.mp ?_, by simp only [isResolved, status, status']⟩
      rw [progress, progress']
      refine (same.map _).foldl_eq' (fun claim _ claim' _ most => ?_) _
      rw [Nat.max_assoc, Nat.max_assoc, Nat.max_comm claim]
  | some passed =>
      have known := List.find?_some found
      have member := same.mem_iff.mpr (List.mem_of_find?_eq_some found)
      obtain ⟨passed', found'⟩ := Option.isSome_iff_exists.mp
        (List.find?_isSome.mpr ⟨passed, member, known⟩)
      obtain ⟨status, progress, -⟩ := judged.proved passed found
      obtain ⟨status', progress', -⟩ := otherwise.proved passed' found'
      exact ⟨progress'.trans progress.symm, by simp only [isResolved, status, status']⟩

/-- **Neither the order of readings nor effort recorded in between matters for progress and
resolution**, and as long as no reading passes, effort is what the recordings alone give.
The workspace is available, and its session log stays as it is. -/
theorem readings_in_any_order (available : workspace.Available)
    (found : workspace.record? id = some point) (valid : point.Valid)
    (unresolved : point.isResolved = false)
    (admitted : ∀ benchmark ∈ Stage.readings stages, benchmark.Admitted tracker point) :
    ∃ final, tracker.recordAfter? workspace id stages = some final ∧
      point.Judged tracker (Stage.readings stages) final ∧
      ((Stage.readings stages).find? (·.passes tracker point) = none →
        ∃ alone, tracker.recordAfter? workspace id (stages.filter Stage.isEffort) = some alone ∧
          final.effort = alone.effort) ∧
      ∀ others, (Stage.readings others).Perm (Stage.readings stages) →
        ∃ other, tracker.recordAfter? workspace id others = some other ∧
          other.progress = final.progress ∧ other.isResolved = final.isResolved := by
  have ends := tracker.recordAfter?_eq available found valid
  refine ⟨_, ends stages, Stage.judged_after unresolved admitted, fun none => ?_,
    fun others same => ?_⟩
  · exact ⟨_, ends _, Stage.effort_after stages unresolved admitted none⟩
  · refine ⟨_, ends others, (Stage.judged_after unresolved admitted).of_perm ?_ same⟩
    exact Stage.judged_after unresolved fun benchmark member =>
      admitted benchmark (same.mem_iff.mp member)

end Workspaces

namespace Race

/-- A carry of a number of metres, judged by the rule of the record. -/
def carried (metres : Nat) : Benchmark := ⟨"CARRY", .ofNat metres, today, "CARRY:>=:220"⟩

/-- Two carries that fall short, with effort recorded in between. -/
def work : List Stage := [.reading (carried 215), .effort, .reading (carried 205)]

theorem admitted (metres : Nat) (small : metres ≤ 300) :
    (carried metres).Admitted (tracker 3) record := by
  have known : (tracker 3).direction "CARRY" record.test = .ok .higherBetter := by decide +kernel
  refine ⟨?_, .higherBetter, known⟩
  change (Binary64.ofNat metres).isFinite = true
  rw [Binary64.ofNat_eq (Nat.le_trans small (by decide))]
  rfl

end Race

/-- Two carries of 215 and 205 metres on the way from 200 to 220 lead to a progress of 75 in
either order, and effort recorded in between counts in full. -/
theorem readings_of_race :
    ∃ final other, (Race.tracker 3).recordAfter? Race.workspace Race.carry Race.work = some final ∧
      final.status = .inProgress ∧ final.progress = 75 ∧ final.effort = 40 ∧
      (Race.tracker 3).recordAfter? Race.workspace Race.carry Race.work.reverse = some other ∧
      other.progress = 75 := by
  have admitted : ∀ benchmark ∈ Stage.readings Race.work,
      benchmark.Admitted (Race.tracker 3) Race.record := by
    intro benchmark member
    have member : benchmark ∈ [Race.carried 215, Race.carried 205] := member
    simp only [List.mem_cons, List.not_mem_nil, or_false] at member
    rcases member with rfl | rfl
    · exact Race.admitted 215 (by decide)
    · exact Race.admitted 205 (by decide)
  have fails : (Stage.readings Race.work).find? (·.passes (Race.tracker 3) Race.record) = none := by
    decide +kernel
  have found : Race.workspace.record? Race.carry = some Race.record := rfl
  obtain ⟨final, after, judged, effort, order⟩ := readings_in_any_order Race.available found
    (by decide +kernel) rfl admitted
  obtain ⟨status, -, progress⟩ := judged.unproved fails
  have claims : ((Stage.readings Race.work).map
      (·.claim (Race.tracker 3).settings Race.record)).foldl max
        Race.record.progress.toNat = 75 := by
    decide +kernel
  have full : final.progress = 75 := UInt8.toNat_inj.mp (progress.trans claims)
  obtain ⟨alone, recorded, same⟩ := effort fails
  have forty : ((Race.tracker 3).recordAfter? Race.workspace Race.carry
      (Race.work.filter Stage.isEffort)).map (·.effort) = some 40 := by
    decide +kernel
  obtain ⟨other, reversed, equal, -⟩ := order Race.work.reverse (List.Perm.swap _ _ [])
  rw [recorded] at forty
  exact ⟨final, other, after, status, full, same.trans (Option.some.inj forty), reversed,
    equal.trans full⟩

end GolfProgress
