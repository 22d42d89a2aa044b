import GolfProgress.Proofs.LatestReading
import GolfProgress.Proofs.ListOrder
import GolfProgress.Proofs.SessionCounts
import GolfProgress.Proofs.TransitionPaths

/-!
# How recent the benchmarks of a snapshot are

A snapshot looks up one result, the latest of the record's player and test since the record was
created, or on the day itself when it was created later.  All that it tells of benchmarks is
about the dates of all these results (`BreakingPoint.BenchmarkedOn`): the latest of some dates
decides whether one of them is on or after a day and whether all of them are long past
(`Date.IsLatest`).

More results make for more dates, and more sessions for higher counts, so a snapshot never falls
behind one that was taken with fewer (`Snapshot.NotBehind`).  `snapshot_recency` says both, and
that taking a snapshot writes nothing.
-/

set_option autoImplicit false

namespace GolfProgress

/-! ## The latest of some dates -/

theorem Date.earlier_le_iff {first second date : Date} :
    first.earlier second ≤ date ↔ first ≤ date ∨ second ≤ date := by
  by_cases before : second < first
  · rw [earlier, if_pos before]
    exact ⟨.inr, fun either => either.elim (Int.le_trans (Int.le_of_lt before)) id⟩
  · rw [earlier, if_neg before]
    exact ⟨.inl, fun either => either.elim id (Int.le_trans (Int.not_lt.mp before))⟩

/-- The latest of some dates; there is none exactly when there are no dates. -/
def Date.IsLatest (dates : Date → Prop) : Option Date → Prop
  | none => ∀ date, ¬ dates date
  | some latest => dates latest ∧ ∀ date, dates date → date ≤ latest

namespace Date.IsLatest

variable {dates fuller : Date → Prop} {latest newer : Option Date}

/-- There is one latest date at most. -/
theorem unique (first : IsLatest dates latest) (second : IsLatest dates newer) :
    latest = newer := by
  cases latest with
  | none =>
      cases newer with
      | none => rfl
      | some other => exact absurd second.1 (first other)
  | some date =>
      cases newer with
      | none => exact absurd first.1 (second date)
      | some other =>
          exact congrArg some (Date.eq_of_dayNumber
            (Int.le_antisymm (second.2 date first.1) (first.2 other second.1)))

/-- One of the dates is on or after a day exactly when the latest is. -/
theorem any_le_iff (isLatest : IsLatest dates latest) (start : Date) :
    latest.any (fun date => decide (start ≤ date)) = true ↔ ∃ date, dates date ∧ start ≤ date := by
  cases latest with
  | none => simpa using fun date held => absurd held (isLatest date)
  | some latest =>
      rw [Option.any_some, decide_eq_true_eq]
      exact ⟨fun recent => ⟨latest, isLatest.1, recent⟩,
        fun ⟨date, held, recent⟩ => Int.le_trans recent (isLatest.2 date held)⟩

/-- There are dates, and all are more than some days past, exactly when the latest is. -/
theorem any_past_iff (isLatest : IsLatest dates latest) (asOf : Date) (days : Nat) :
    latest.any (fun date => decide ((days : Int) < asOf.dayNumber - date.dayNumber)) = true ↔
      (∃ date, dates date) ∧
        ∀ date, dates date → (days : Int) < asOf.dayNumber - date.dayNumber := by
  cases latest with
  | none => simpa using fun date held => absurd held (isLatest date)
  | some latest =>
      rw [Option.any_some, decide_eq_true_eq]
      constructor
      · intro past
        refine ⟨⟨latest, isLatest.1⟩, fun date held => ?_⟩
        have before : date.dayNumber ≤ latest.dayNumber := isLatest.2 date held
        omega
      · exact fun ⟨_, past⟩ => past latest isLatest.1

/-- Of more dates the latest is no earlier. -/
theorem exists_le (isLatest : IsLatest dates latest) (isNewer : IsLatest fuller newer)
    (more : ∀ date, dates date → fuller date) {date : Date} (found : latest = some date) :
    ∃ further, newer = some further ∧ date ≤ further := by
  obtain rfl := found
  have held := more date isLatest.1
  cases newer with
  | none => exact absurd held (isNewer date)
  | some further => exact ⟨further, rfl, isNewer.2 date held⟩

end Date.IsLatest

/-! ## The benchmarks of a record -/

/-- A result of the record's player and test is dated on a day that is no later than another one,
and no earlier than both that one and the day on which the record was created. -/
structure BreakingPoint.BenchmarkedOn (point : BreakingPoint) (results : List TestResult)
    (asOf date : Date) : Prop where
  measured : ∃ result ∈ results, result.player = point.player ∧ result.test = point.test ∧
    result.date = date
  since : point.createdAt.date ≤ date ∨ asOf ≤ date
  notAfter : date ≤ asOf

section Benchmarks

variable {point : BreakingPoint} {results fuller : List TestResult} {asOf date : Date}

theorem BreakingPoint.benchmarkedOn_iff : point.BenchmarkedOn results asOf date ↔
    ∃ result ∈ results.filter fun result => result.isOf point.player point.test
      (point.createdAt.date.earlier asOf) asOf, result.date = date := by
  simp only [List.mem_filter, TestResult.isOf, Bool.and_eq_true, decide_eq_true_eq,
    Date.earlier_le_iff]
  constructor
  · rintro ⟨⟨result, held, player, test, rfl⟩, since, upTo⟩
    exact ⟨result, ⟨held, ⟨⟨⟨player, test⟩, since⟩, upTo⟩⟩, rfl⟩
  · rintro ⟨result, ⟨held, ⟨⟨⟨player, test⟩, since⟩, upTo⟩⟩, rfl⟩
    exact ⟨⟨result, held, player, test, rfl⟩, since, upTo⟩

theorem BreakingPoint.BenchmarkedOn.mono (benchmarked : point.BenchmarkedOn results asOf date)
    (more : results.Sublist fuller) : point.BenchmarkedOn fuller asOf date := by
  obtain ⟨⟨result, held, named⟩, since, upTo⟩ := benchmarked
  exact ⟨⟨result, more.subset held, named⟩, since, upTo⟩

/-- The result of the look-up has the latest date of all benchmarks of the record. -/
theorem ResultLog.isLatest_of_findLatest {log : ResultLog} {latest : Option TestResult}
    (finds : log.findLatest point.player point.test (point.createdAt.date.earlier asOf) asOf =
      .ok latest) :
    Date.IsLatest (point.BenchmarkedOn log.results asOf) (latest.map (·.date)) := by
  unfold findLatest at finds
  split at finds
  · cases finds
  · obtain rfl := Except.ok.inj finds
    cases found : latestOf (log.results.filter fun result => result.isOf point.player point.test
        (point.createdAt.date.earlier asOf) asOf) with
    | none =>
        intro date benchmarked
        obtain ⟨result, held, -⟩ := BreakingPoint.benchmarkedOn_iff.mp benchmarked
        rw [latestOf_eq_none.mp found] at held
        cases held
    | some latest =>
        obtain ⟨earlier, later, parts, behind, front⟩ := exists_append_of_latestOf found
        refine ⟨BreakingPoint.benchmarkedOn_iff.mpr ⟨latest, by rw [parts]; simp, rfl⟩, ?_⟩
        intro date benchmarked
        obtain ⟨result, held, rfl⟩ := BreakingPoint.benchmarkedOn_iff.mp benchmarked
        rw [parts] at held
        rcases List.mem_append.mp held with inside | rest
        · exact behind result inside
        · rcases List.mem_cons.mp rest with rfl | inside
          · exact Int.le_refl _
          · exact Int.le_of_lt (front result inside)

end Benchmarks

/-! ## What a snapshot tells of them -/

/-- What a snapshot of a record says about the dates of its benchmarks. -/
structure Snapshot.Dates (snapshot : Snapshot) (settings : ConfidenceSettings)
    (point : BreakingPoint) (asOf : Date) (dates : Date → Prop) : Prop where
  /-- The latest date is told. -/
  latest : ∀ latest, snapshot.latestBenchmark = latest ↔ Date.IsLatest dates latest
  /-- A benchmark is in the window when one of the dates is. -/
  inWindow : snapshot.benchmarkInWindow = true ↔
    ∃ date, dates date ∧ RuleRequest.windowStart asOf point.window ≤ date
  /-- Work is stalled when all dates are long past, and there are some. -/
  stalled : snapshot.stalled = true ↔
    point.isResolved = false ∧ point.progress.toNat < 50 ∧ (∃ date, dates date) ∧
      ∀ date, dates date → (settings.stalledDays.toNat : Int) < asOf.dayNumber - date.dayNumber

/-- A snapshot does not fall behind one that was taken with fewer benchmarks. -/
structure Snapshot.NotBehind (newer older : Snapshot) : Prop where
  inWindow : older.benchmarkInWindow = true → newer.benchmarkInWindow = true
  latest : ∀ date, older.latestBenchmark = some date →
    ∃ further, newer.latestBenchmark = some further ∧ date ≤ further
  confidence : older.confidence.rank ≤ newer.confidence.rank
  stalled : older.latestBenchmark.isSome = true → newer.stalled = true → older.stalled = true

section Snapshots

variable {settings : Settings} {id : Uuid} {point : BreakingPoint} {asOf : Date}
  {sessions counted : UInt32} {dates fuller : Date → Prop} {latest newer : Option Date}

theorem Snapshot.dates_ofRecord (settings : Settings) (id : Uuid) (point : BreakingPoint)
    (sessions : UInt32) (asOf : Date) (isLatest : Date.IsLatest dates latest) :
    (ofRecord settings id point sessions latest asOf).Dates settings.confidence point asOf
      dates where
  latest := fun other => ⟨fun told => told ▸ isLatest, isLatest.unique⟩
  inWindow := isLatest.any_le_iff _
  stalled := by
    rw [← isLatest.any_past_iff]
    simp only [ofRecord, Bool.and_eq_true, Bool.not_eq_true', decide_eq_true_eq, and_assoc]
    rfl

/-- More sessions and a benchmark in the window do not lower confidence. -/
theorem ConfidenceSettings.rank_confidence_mono (settings : ConfidenceSettings)
    (grown : sessions.toNat ≤ counted.toNat) {inWindow still : Bool}
    (stays : inWindow = true → still = true) :
    (settings.confidence sessions inWindow).rank ≤ (settings.confidence counted still).rank := by
  have high : settings.forHigh.toNat ≤ sessions.toNat →
      settings.forHigh.toNat ≤ counted.toNat := fun reached => Nat.le_trans reached grown
  have medium : settings.forMedium.toNat ≤ sessions.toNat →
      settings.forMedium.toNat ≤ counted.toNat := fun reached => Nat.le_trans reached grown
  simp only [confidence, Bool.and_eq_true, Bool.or_eq_true, decide_eq_true_eq]
  by_cases best : settings.forHigh.toNat ≤ sessions.toNat ∧ inWindow = true
  · refine Nat.le_of_eq ?_
    rw [if_pos best, if_pos ⟨high best.1, stays best.2⟩]
  · rw [if_neg best]
    by_cases some : settings.forMedium.toNat ≤ sessions.toNat ∨ inWindow = true
    · rw [if_pos some, if_pos (some.imp medium stays)]
      split <;> decide
    · rw [if_neg some]
      exact Nat.zero_le _

/-- **With more dates and sessions a snapshot does not fall behind.** -/
theorem Snapshot.notBehind_ofRecord (isLatest : Date.IsLatest dates latest)
    (isNewer : Date.IsLatest fuller newer) (more : ∀ date, dates date → fuller date)
    (grown : sessions.toNat ≤ counted.toNat) :
    (ofRecord settings id point counted newer asOf).NotBehind
      (ofRecord settings id point sessions latest asOf) := by
  have older := dates_ofRecord settings id point sessions asOf isLatest
  have further := dates_ofRecord settings id point counted asOf isNewer
  have stays : (ofRecord settings id point sessions latest asOf).benchmarkInWindow = true →
      (ofRecord settings id point counted newer asOf).benchmarkInWindow = true := by
    rw [older.inWindow, further.inWindow]
    exact fun ⟨date, held, recent⟩ => ⟨date, more date held, recent⟩
  refine ⟨stays, fun date found => isLatest.exists_le isNewer more found,
    settings.confidence.rank_confidence_mono grown stays, fun dated stalls => ?_⟩
  obtain ⟨date, found⟩ := Option.isSome_iff_exists.mp dated
  have held : dates date := (((older.latest (some date)).mp found).1)
  obtain ⟨unresolved, little, -, past⟩ := further.stalled.mp stalls
  exact older.stalled.mpr ⟨unresolved, little, ⟨date, held⟩,
    fun other inside => past other (more other inside)⟩

end Snapshots

/-! ## Taking a snapshot -/

/-- A workspace in which reads are answered. -/
structure Workspace.Answers (workspace : Workspace) : Prop where
  reachable : workspace.store.failure = none
  logged : workspace.sessions.failure = none
  measured : workspace.results.failure = none

/-- A workspace with more results and sessions. -/
structure Workspace.LogsMore (later workspace : Workspace) : Prop where
  results : workspace.results.results.Sublist later.results.results
  sessions : workspace.sessions.entries.Sublist later.sessions.entries

/-- What a snapshot is made of, where reads are answered. -/
theorem Workspace.Answers.run_evaluate {workspace : Workspace} {id : Uuid} {point : BreakingPoint}
    (answers : workspace.Answers) (found : workspace.record? id = some point) (tracker : Tracker)
    (asOf : Date) :
    ∃ sessions latest,
      workspace.sessions.count (.point point.id) point.createdAt = .ok sessions ∧
      Date.IsLatest (point.BenchmarkedOn workspace.results.results asOf) latest ∧
      (tracker.evaluate id asOf).run workspace =
        (.ok (.ofRecord tracker.settings id point sessions latest asOf), workspace) := by
  obtain ⟨sessions, counted⟩ :=
    workspace.sessions.exists_count answers.logged (.point point.id) point.createdAt
  obtain ⟨latest, finds⟩ : ∃ latest, workspace.results.findLatest point.player point.test
      (point.createdAt.date.earlier asOf) asOf = .ok latest := by
    unfold ResultLog.findLatest
    rw [answers.measured]
    exact ⟨_, rfl⟩
  exact ⟨sessions, _, counted, ResultLog.isLatest_of_findLatest finds,
    Tracker.run_evaluate_eq answers.reachable found counted finds tracker⟩

/-- **A snapshot is exact about the dates of benchmarks.**  Where reads are answered, it tells the
latest date of the record's benchmarks, whether one of them is in the window, and whether all are
so long past that unproved work is stalled.  With more results or sessions the window does not
become empty, the latest date does not move back, confidence does not fall, and a record with
benchmarks does not become stalled.  Nothing is ever written. -/
theorem snapshot_recency (tracker : Tracker) (id : Uuid) (asOf : Date) :
    (∀ (workspace : Workspace) point, workspace.Answers → workspace.record? id = some point →
      ∃ snapshot, (tracker.evaluate id asOf).run workspace = (.ok snapshot, workspace) ∧
        snapshot.Dates tracker.settings.confidence point asOf
          (point.BenchmarkedOn workspace.results.results asOf) ∧
        ∀ later : Workspace, later.LogsMore workspace → later.Answers →
          later.record? id = some point →
          ∃ newer, (tracker.evaluate id asOf).run later = (.ok newer, later) ∧
            newer.NotBehind snapshot) ∧
    ∀ workspace, ((tracker.evaluate id asOf).run workspace).2 = workspace ∧
      (tracker.evaluate id asOf).updates workspace = 0 := by
  refine ⟨fun workspace point answers found => ?_, tracker.evaluate_silent id asOf⟩
  obtain ⟨sessions, latest, counted, isLatest, runs⟩ := answers.run_evaluate found tracker asOf
  refine ⟨_, runs, Snapshot.dates_ofRecord _ id point sessions asOf isLatest,
    fun later more answers' found' => ?_⟩
  obtain ⟨sessions', newer, counted', isNewer, runs'⟩ :=
    answers'.run_evaluate found' tracker asOf
  exact ⟨_, runs', Snapshot.notBehind_ofRecord isLatest isNewer
    (fun date benchmarked => benchmarked.mono more.results)
    (SessionLog.count_le_of_sublist more.sessions counted counted')⟩

namespace Race

/-- A day forty days after the record was created. -/
def midsummer : Date := ⟨2026, 7, 11, by decide⟩

/-- A carry of the player on a day. -/
def carryOn (date : Date) : TestResult := ⟨⟨2⟩, "CARRY", .number (.ofNat 205), none, date⟩

/-- The player carried the ball on the first day. -/
def carriedOnce : Workspace := { workspace with results := { results := [carryOn today] } }

/-- The player carried the ball again forty days later, and has trained in between. -/
def carriedTwice : Workspace where
  store := workspace.store
  sessions := workspace.sessions.record ⟨⟨2⟩, some carry, ⟨midsummer, 0, 0⟩, 4⟩
  results := { results := [carryOn today, carryOn midsummer] }

end Race

/-- Forty days after its only benchmark a record is stalled, and it would not be with another
one. -/
theorem snapshot_recency_carry :
    ∃ snapshot newer,
      ((Race.tracker 3).evaluate Race.carry Race.midsummer).run Race.carriedOnce =
        (.ok snapshot, Race.carriedOnce) ∧
      ((Race.tracker 3).evaluate Race.carry Race.midsummer).run Race.carriedTwice =
        (.ok newer, Race.carriedTwice) ∧
      newer.NotBehind snapshot ∧
      snapshot.latestBenchmark = some Race.today ∧ snapshot.stalled = true ∧
      snapshot.benchmarkInWindow = false ∧ newer.stalled = false ∧ newer.confidence = .high := by
  obtain ⟨tells, -⟩ := snapshot_recency (Race.tracker 3) Race.carry Race.midsummer
  have answers : Race.carriedOnce.Answers := ⟨rfl, rfl, rfl⟩
  have found : Race.carriedOnce.record? Race.carry = some Race.record := by decide +kernel
  have more : Race.carriedTwice.LogsMore Race.carriedOnce :=
    ⟨.cons_cons _ (List.nil_sublist _), List.sublist_append_left _ _⟩
  obtain ⟨snapshot, runs, -, onward⟩ := tells Race.carriedOnce Race.record answers found
  obtain ⟨newer, runs', notBehind⟩ := onward Race.carriedTwice more ⟨rfl, rfl, rfl⟩ found
  have told : (((Race.tracker 3).evaluate Race.carry Race.midsummer).run
      Race.carriedOnce).1.map (fun snapshot =>
        (snapshot.latestBenchmark, snapshot.stalled, snapshot.benchmarkInWindow)) =
      .ok (some Race.today, true, false) := by decide +kernel
  have told' : (((Race.tracker 3).evaluate Race.carry Race.midsummer).run
      Race.carriedTwice).1.map (fun snapshot => (snapshot.stalled, snapshot.confidence)) =
      .ok (false, .high) := by decide +kernel
  rw [runs] at told
  rw [runs'] at told'
  simp only [Except.map, Except.ok.injEq, Prod.mk.injEq] at told told'
  exact ⟨snapshot, newer, runs, runs', notBehind, told.1, told.2.1, told.2.2, told'⟩

end GolfProgress
