import GolfProgress.Rules.Window
import Mathlib.Data.List.Induction

/-!
# One reading in a window

A stored rule is judged by one result: of those of the player and test that are dated in the
window, the last one that was added on the latest date (`RuleRequest.JudgedBy`).  The log is in
the order in which results were added and not in that of their dates, so the result has some
behind it, which are all dated before, and some in front of it, none of which is dated later
(`ResultLog.latestOf_filter`).

This splitting of the log stays when results are put into it, as long as each of them is outside
the window or dated before the latest one in it.  So they do not change what the rule says
(`evaluates_one_reading`).
-/

set_option autoImplicit false

namespace GolfProgress

/-! ## Requests and the results they are about -/

namespace RuleRequest

/-- A result of the player and test, dated in the window, both ends included. -/
structure Covers (request : RuleRequest) (result : TestResult) : Prop where
  player : result.player = request.player
  test : result.test = request.test
  start : request.start ≤ result.date
  finish : result.date ≤ request.asOf

/-- A covered result is the one that a request is judged by: no covered result is dated later,
and none that was added later is dated on its date. -/
def JudgedBy (request : RuleRequest) (results : List TestResult) (latest : TestResult) : Prop :=
  ∃ earlier later, results = earlier ++ latest :: later ∧ request.Covers latest ∧
    (∀ other ∈ earlier, request.Covers other → other.date ≤ latest.date) ∧
    ∀ other ∈ later, request.Covers other → other.date < latest.date

/-- A result that does not matter beside some results: it is of another player or test, dated
outside the window, or dated before a covered one. -/
inductive Immaterial (request : RuleRequest) (results : List TestResult) (result : TestResult) :
    Prop where
  | player (other : result.player ≠ request.player)
  | test (other : result.test ≠ request.test)
  | early (before : result.date < request.start)
  | late (after : request.asOf < result.date)
  | outdated (latest : TestResult) (held : latest ∈ results) (covered : request.Covers latest)
      (before : result.date < latest.date)

/-- What an evaluation owes to the results of a log when its rule is one. -/
structure LooksAtOne (registry : Registry) (request : RuleRequest) (rule : SuccessRule)
    (results : List TestResult) (evaluation : RuleEvaluation) : Prop where
  /-- There is no reading exactly when no result is covered. -/
  missed : evaluation.reason = some .noTestInWindow ↔
    ∀ result ∈ results, ¬ request.Covers result
  /-- Otherwise one reading is judged, and its date is told. -/
  judged : (∃ result ∈ results, request.Covers result) → ∃ latest,
    request.JudgedBy results latest ∧
    evaluation = { RuleEvaluation.ofReading rule ⟨latest.value.finite?, latest.passed⟩
      request.baseline (request.direction registry) with date := some latest.date }

end RuleRequest

/-- A list with further members put in at any places. -/
inductive Interspersed {α : Type} (extra : α → Prop) : List α → List α → Prop where
  | nil : Interspersed extra [] []
  | keep (member : α) {members more : List α} (rest : Interspersed extra members more) :
      Interspersed extra (member :: members) (member :: more)
  | put {member : α} (isExtra : extra member) {members more : List α}
      (rest : Interspersed extra members more) : Interspersed extra members (member :: more)

namespace Interspersed

variable {α : Type} {extra : α → Prop} {members more : List α}

theorem mem_or_extra (interspersed : Interspersed extra members more) {member : α}
    (held : member ∈ more) : member ∈ members ∨ extra member := by
  induction interspersed with
  | nil => cases held
  | keep first rest ih =>
      rcases List.mem_cons.mp held with rfl | later
      · exact .inl List.mem_cons_self
      · exact (ih later).imp_left (List.mem_cons_of_mem _)
  | put isExtra rest ih =>
      rcases List.mem_cons.mp held with rfl | later
      · exact .inr isExtra
      · exact ih later

/-- What stands around a member has further members put in on either side. -/
theorem split (interspersed : Interspersed extra members more) {earlier later : List α}
    {member : α} (parts : members = earlier ++ member :: later) :
    ∃ earlier' later', more = earlier' ++ member :: later' ∧
      Interspersed extra earlier earlier' ∧ Interspersed extra later later' := by
  induction interspersed generalizing earlier with
  | nil => simp at parts
  | keep first rest ih =>
      cases earlier with
      | nil =>
          obtain ⟨rfl, rfl⟩ := List.cons.inj parts
          exact ⟨[], _, rfl, .nil, rest⟩
      | cons first' earlier =>
          obtain ⟨rfl, inner⟩ := List.cons.inj parts
          obtain ⟨earlier', later', rfl, before, after⟩ := ih inner
          exact ⟨_ :: earlier', later', rfl, .keep _ before, after⟩
  | put isExtra rest ih =>
      obtain ⟨earlier', later', rfl, before, after⟩ := ih parts
      exact ⟨_ :: earlier', later', rfl, .put isExtra before, after⟩

end Interspersed

/-! ## The latest of some results -/

namespace ResultLog

variable {results : List TestResult} {latest : TestResult}

theorem latestOf_concat (results : List TestResult) (result : TestResult) :
    latestOf (results ++ [result]) =
      match latestOf results with
      | none => some result
      | some best => if result.date < best.date then some best else some result := by
  unfold latestOf
  rw [List.foldl_append]
  rfl

theorem latestOf_eq_none : latestOf results = none ↔ results = [] := by
  induction results using List.reverseRecOn with
  | nil => simp [latestOf]
  | append_singleton results result _ =>
      rw [latestOf_concat]
      constructor
      · intro none
        split at none
        · cases none
        · split at none <;> cases none
      · simp

/-- The latest result has none behind it that is dated later, and none in front of it that is
dated on its date or later. -/
theorem exists_append_of_latestOf (found : latestOf results = some latest) :
    ∃ earlier later, results = earlier ++ latest :: later ∧
      (∀ other ∈ earlier, other.date ≤ latest.date) ∧
      ∀ other ∈ later, other.date < latest.date := by
  induction results using List.reverseRecOn generalizing latest with
  | nil => cases found
  | append_singleton results result ih =>
      rw [latestOf_concat] at found
      split at found
      · next none =>
          obtain rfl := Option.some.inj found
          obtain rfl := latestOf_eq_none.mp none
          exact ⟨[], [], rfl, by simp, by simp⟩
      · next best before =>
          obtain ⟨earlier, later, parts, behind, front⟩ := ih before
          split at found
          · next outdated =>
              obtain rfl := Option.some.inj found
              refine ⟨earlier, later ++ [result], by simp [parts], behind, fun other held => ?_⟩
              rcases List.mem_append.mp held with inside | last
              · exact front other inside
              · obtain rfl := List.mem_singleton.mp last
                exact outdated
          · next recent =>
              -- the result takes the place of the best one before it
              obtain rfl := Option.some.inj found
              have recent : best.date ≤ result.date := Int.not_lt.mp recent
              refine ⟨results, [], rfl, fun other held => ?_, by simp⟩
              rw [parts] at held
              rcases List.mem_append.mp held with inside | rest
              · exact Int.le_trans (behind other inside) recent
              · rcases List.mem_cons.mp rest with rfl | inside
                · exact recent
                · exact Int.le_trans (Int.le_of_lt (front other inside)) recent

theorem latestOf_append {earlier later : List TestResult}
    (behind : ∀ other ∈ earlier, other.date ≤ latest.date)
    (front : ∀ other ∈ later, other.date < latest.date) :
    latestOf (earlier ++ latest :: later) = some latest := by
  induction later using List.reverseRecOn with
  | nil =>
      rw [latestOf_concat]
      split
      · rfl
      · next best before =>
          obtain ⟨_, _, rfl, -⟩ := exists_append_of_latestOf before
          exact if_neg (Int.not_lt.mpr (behind best (by simp)))
  | append_singleton later result ih =>
      have before := ih fun other held => front other (List.mem_append_left _ held)
      rw [← List.cons_append, ← List.append_assoc, latestOf_concat, before]
      exact if_pos (front result (by simp))

end ResultLog

/-! ## The result that a request is judged by -/

namespace RuleRequest

variable {request : RuleRequest} {results fuller : List TestResult} {latest : TestResult}

theorem isOf_iff {result : TestResult} :
    result.isOf request.player request.test request.start request.asOf = true ↔
      request.Covers result := by
  simp only [TestResult.isOf, Bool.and_eq_true, decide_eq_true_eq]
  exact ⟨fun ⟨⟨⟨player, test⟩, start⟩, finish⟩ => ⟨player, test, start, finish⟩,
    fun ⟨player, test, start, finish⟩ => ⟨⟨⟨player, test⟩, start⟩, finish⟩⟩

/-- The latest covered result, which a look-up finds. -/
def latest? (request : RuleRequest) (results : List TestResult) : Option TestResult :=
  ResultLog.latestOf (results.filter fun result =>
    result.isOf request.player request.test request.start request.asOf)

theorem latest?_eq_none : request.latest? results = none ↔
    ∀ result ∈ results, ¬ request.Covers result := by
  simp only [latest?, ResultLog.latestOf_eq_none, List.filter_eq_nil_iff, isOf_iff]

theorem latest?_eq_some : request.latest? results = some latest ↔
    request.JudgedBy results latest := by
  constructor
  · intro found
    obtain ⟨earlier, later, parts, behind, front⟩ := ResultLog.exists_append_of_latestOf found
    obtain ⟨before, rest, rfl, rfl, restParts⟩ := List.filter_eq_append_iff.mp parts
    obtain ⟨between, after, rfl, skipped, covered, rfl⟩ := List.filter_eq_cons_iff.mp restParts
    refine ⟨before ++ between, after, by simp, isOf_iff.mp covered, ?_, ?_⟩
    · intro other held covers
      rcases List.mem_append.mp held with inside | inside
      · exact behind other (List.mem_filter.mpr ⟨inside, isOf_iff.mpr covers⟩)
      · exact absurd (isOf_iff.mpr covers) (skipped other inside)
    · intro other held covers
      exact front other (List.mem_filter.mpr ⟨held, isOf_iff.mpr covers⟩)
  · rintro ⟨earlier, later, rfl, covered, behind, front⟩
    rw [latest?, List.filter_append, List.filter_cons, if_pos (isOf_iff.mpr covered)]
    refine ResultLog.latestOf_append (fun other held => ?_) fun other held => ?_
    · obtain ⟨inside, covers⟩ := List.mem_filter.mp held
      exact behind other inside (isOf_iff.mp covers)
    · obtain ⟨inside, covers⟩ := List.mem_filter.mp held
      exact front other inside (isOf_iff.mp covers)

theorem JudgedBy.mem_and_covers (judged : request.JudgedBy results latest) :
    latest ∈ results ∧ request.Covers latest := by
  obtain ⟨earlier, later, rfl, covers, -⟩ := judged
  exact ⟨by simp, covers⟩

theorem JudgedBy.date_le (judged : request.JudgedBy results latest) {other : TestResult}
    (held : other ∈ results) (covers : request.Covers other) : other.date ≤ latest.date := by
  obtain ⟨earlier, later, rfl, -, behind, front⟩ := judged
  rcases List.mem_append.mp held with inside | rest
  · exact behind other inside covers
  · rcases List.mem_cons.mp rest with rfl | inside
    · exact Int.le_refl _
    · exact Int.le_of_lt (front other inside covers)

/-- A covered result that does not matter is an outdated one. -/
theorem Immaterial.exists_later {result : TestResult}
    (immaterial : request.Immaterial results result) (covers : request.Covers result) :
    ∃ latest ∈ results, request.Covers latest ∧ result.date < latest.date := by
  cases immaterial with
  | player other => exact absurd covers.player other
  | test other => exact absurd covers.test other
  | early before => exact absurd covers.start (Int.not_le.mpr before)
  | late after => exact absurd covers.finish (Int.not_le.mpr after)
  | outdated latest held covered before => exact ⟨latest, held, covered, before⟩

/-- Results that do not matter leave a request with the result that it is judged by. -/
theorem JudgedBy.interspersed (judged : request.JudgedBy results latest)
    (more : Interspersed (request.Immaterial results) results fuller) :
    request.JudgedBy fuller latest := by
  have outdated : ∀ other, request.Immaterial results other → request.Covers other →
      other.date < latest.date := by
    intro other immaterial covers
    obtain ⟨held, inside, covered, before⟩ := immaterial.exists_later covers
    exact Int.lt_of_lt_of_le before (judged.date_le inside covered)
  obtain ⟨earlier, later, parts, covered, behind, front⟩ := judged
  obtain ⟨earlier', later', rfl, before, after⟩ := more.split parts
  refine ⟨earlier', later', rfl, covered, fun other held covers => ?_, fun other held covers => ?_⟩
  · rcases before.mem_or_extra held with inside | immaterial
    · exact behind other inside covers
    · exact Int.le_of_lt (outdated other immaterial covers)
  · rcases after.mem_or_extra held with inside | immaterial
    · exact front other inside covers
    · exact outdated other immaterial covers

theorem latest?_interspersed (more : Interspersed (request.Immaterial results) results fuller) :
    request.latest? fuller = request.latest? results := by
  cases found : request.latest? results with
  | some latest => exact latest?_eq_some.mpr ((latest?_eq_some.mp found).interspersed more)
  | none =>
      have uncovered := latest?_eq_none.mp found
      refine latest?_eq_none.mpr fun other held covers => ?_
      rcases more.mem_or_extra held with inside | immaterial
      · exact uncovered other inside covers
      · obtain ⟨latest, inside, covered, -⟩ := immaterial.exists_later covers
        exact uncovered latest inside covered

end RuleRequest

/-! ## What the rule says -/

/-- A reading is never answered as a missing one. -/
theorem RuleEvaluation.reason_ofReading_ne (rule : SuccessRule) (reading : Reading)
    (baseline : Option Binary64) (direction : Direction) :
    (ofReading rule reading baseline direction).reason ≠ some .noTestInWindow := by
  unfold ofReading
  split
  · simp
  · split <;> simp [rejected]
  · split
    · simp [rejected]
    · split <;> simp [rejected]

namespace RuleRequest

variable {request : RuleRequest}

theorem evaluate_eq (registry : Registry) {log : ResultLog} (available : log.failure = none)
    {rule : SuccessRule} (parsed : SuccessRule.ofText? request.rule = some rule) :
    request.evaluate registry log =
      .ok (match request.latest? log.results with
        | none => .rejected .noTestInWindow
        | some latest =>
          { RuleEvaluation.ofReading rule ⟨latest.value.finite?, latest.passed⟩ request.baseline
              (request.direction registry) with date := some latest.date }) := by
  have found : log.findLatest request.player request.test request.start request.asOf =
      .ok (request.latest? log.results) := by
    rw [ResultLog.findLatest, available]
    rfl
  rw [evaluate, parsed, found]
  cases request.latest? log.results <;> rfl

theorem looksAtOne_evaluate (registry : Registry) {log : ResultLog}
    (available : log.failure = none) {rule : SuccessRule}
    (parsed : SuccessRule.ofText? request.rule = some rule) :
    ∃ evaluation, request.evaluate registry log = .ok evaluation ∧
      request.LooksAtOne registry rule log.results evaluation := by
  refine ⟨_, evaluate_eq registry available parsed, ?_⟩
  cases found : request.latest? log.results with
  | none =>
      have uncovered := latest?_eq_none.mp found
      exact ⟨⟨fun _ => uncovered, fun _ => rfl⟩,
        fun ⟨result, held, covers⟩ => absurd covers (uncovered result held)⟩
  | some latest =>
      have judged := latest?_eq_some.mp found
      obtain ⟨held, covers⟩ := judged.mem_and_covers
      exact ⟨⟨fun missed => absurd missed (RuleEvaluation.reason_ofReading_ne rule _ _ _),
        fun uncovered => absurd covers (uncovered latest held)⟩, fun _ => ⟨latest, judged, rfl⟩⟩

theorem evaluate_interspersed (registry : Registry) {log fuller : ResultLog}
    (failure : fuller.failure = log.failure)
    (more : Interspersed (request.Immaterial log.results) log.results fuller.results) :
    request.evaluate registry fuller = request.evaluate registry log := by
  have found : fuller.findLatest request.player request.test request.start request.asOf =
      log.findLatest request.player request.test request.start request.asOf := by
    rw [ResultLog.findLatest, ResultLog.findLatest, failure]
    cases log.failure with
    | some _ => rfl
    | none => exact congrArg Except.ok (latest?_interspersed more)
  rw [evaluate, evaluate, found]

end RuleRequest

/-- **An evaluation looks at one reading.**  While the log answers, a rule misses a test exactly
when no result of the player and test is dated in the window; otherwise it is evaluated with the
last one added on the latest date, and tells that date.  Results that are put in anywhere and are
of others, outside the window or dated before the latest one in it do not change the answer.  A
text that stores no rule is answered whether the log answers or not. -/
theorem evaluates_one_reading (registry : Registry) (log : ResultLog) (request : RuleRequest) :
    (∀ rule, SuccessRule.ofText? request.rule = some rule → log.failure = none →
      ∃ evaluation, request.evaluate registry log = .ok evaluation ∧
        request.LooksAtOne registry rule log.results evaluation) ∧
    (∀ fuller : ResultLog, fuller.failure = log.failure →
      Interspersed (request.Immaterial log.results) log.results fuller.results →
      request.evaluate registry fuller = request.evaluate registry log) ∧
    (SuccessRule.ofText? request.rule = none →
      request.evaluate registry log = .ok (.rejected .invalidRuleFormat)) := by
  refine ⟨fun rule parsed available => RuleRequest.looksAtOne_evaluate registry available parsed,
    fun fuller failure more => RuleRequest.evaluate_interspersed registry failure more,
    fun unparsed => ?_⟩
  unfold RuleRequest.evaluate
  rw [unparsed]

/-- Two carries of one day are read as the second of them, whatever a longer one of the day
before, a later one of another player and one after the window may say. -/
theorem evaluates_one_reading_carry :
    let carry (player metres day : Nat) (exists_ : Date.Exists 2026 7 day) : TestResult :=
      ⟨⟨player⟩, "CARRY", .number (.ofNat metres), none, ⟨2026, 7, day, exists_⟩⟩
    let first := carry 2 225 10 (by decide)
    let second := carry 2 215 10 (by decide)
    let request : RuleRequest :=
      { player := ⟨2⟩, rule := "CARRY:>=:220", test := "CARRY", window := 7,
        asOf := ⟨2026, 7, 14, by decide⟩ }
    let log : ResultLog := ⟨[first, second], none⟩
    let fuller : ResultLog := ⟨[carry 3 230 14 (by decide), first, second,
      carry 2 240 9 (by decide), carry 2 250 15 (by decide)], none⟩
    let registry : Registry := .ofCatalog ⟨[]⟩
    ∃ evaluation, request.evaluate registry log = .ok evaluation ∧
      request.LooksAtOne registry (.metricThreshold "CARRY" .atLeast (.ofNat 220)) log.results
        evaluation ∧
      request.evaluate registry fuller = .ok evaluation ∧ evaluation.passed = false := by
  intro carry first second request log fuller registry
  have parsed : SuccessRule.ofText? request.rule =
      some (.metricThreshold "CARRY" .atLeast (.ofNat 220)) := by decide +kernel
  obtain ⟨judges, keeps, -⟩ := evaluates_one_reading registry log request
  obtain ⟨evaluation, evaluated, looks⟩ := judges _ parsed rfl
  have covers : request.Covers first := ⟨rfl, rfl, by decide +kernel, by decide +kernel⟩
  have more : Interspersed (request.Immaterial log.results) log.results fuller.results :=
    .put (.player (by decide)) (.keep _ (.keep _ (.put
      (.outdated first List.mem_cons_self covers (by decide +kernel))
      (.put (.late (by decide +kernel)) .nil))))
  refine ⟨evaluation, evaluated, looks, (keeps fuller rfl more).trans evaluated, ?_⟩
  have falls : (request.evaluate registry log).map RuleEvaluation.passed = .ok false := by
    decide +kernel
  rw [evaluated] at falls
  exact Except.ok.inj falls

end GolfProgress
