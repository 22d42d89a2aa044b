import GolfProgress.Proofs.ListOrder
import GolfProgress.Proofs.Solo

/-!
# Operations about one record

The operations that write call for nothing but their own record and the logged sessions
(`Program.About`).  In an available workspace what such an operation comes to depends on
its record and the sessions alone (`About.run_congr`), and it leaves every other record
as it is (`About.run_of_ne`).  So operations about different records do not get into each
other's way: made one after the other in any order, each comes to what it comes to alone
(`run_inTurn_settles`), and the workspace at the end is one and the same
(`Workspace.Settles.unique`).
-/

set_option autoImplicit false

namespace GolfProgress

/-! ## Calls for one record -/

/-- A program that calls for nothing but the record of an identifier and the logged
sessions. -/
inductive Program.About {Result : Type} (id : Uuid) : Program Result → Prop where
  | done (result : Result) : About id (.done result)
  | get {next : (Call.get id).Reply → Program Result} (rest : ∀ reply, (next reply).About id) :
      About id (.call (.get id) next)
  | count {scope : SessionScope} {since : Instant}
      {next : (Call.count scope since).Reply → Program Result}
      (rest : ∀ reply, (next reply).About id) : About id (.call (.count scope since) next)
  | update {expected : UInt64} {patch : Patch}
      {next : (Call.update id expected patch).Reply → Program Result}
      (rest : ∀ reply, (next reply).About id) : About id (.call (.update id expected patch) next)

theorem Program.About.map {Result Other : Type} {id : Uuid} {program : Program Result}
    (about : program.About id) (change : Result → Other) : (program.map change).About id := by
  induction about with
  | done result => exact .done _
  | get _ ih => exact .get ih
  | count _ ih => exact .count ih
  | update _ ih => exact .update ih

namespace Tracker

variable {Outcome : Type} {id : Uuid} {again : Program (Except Failure (Written Outcome))}

theorem about_commit (point : BreakingPoint) (decision : Decision Outcome)
    (rest : again.About id) : (commit id point decision again).About id := by
  unfold commit
  split
  · exact .done _
  · refine .update fun reply => ?_
    split
    · exact .done _
    · exact rest
    · exact .done _
    · exact .done _

theorem about_follow (point : BreakingPoint) (plan : Plan Outcome) (rest : again.About id) :
    (follow id point plan again).About id := by
  cases plan with
  | refuse failure => exact .done _
  | decided decision => exact about_commit point decision rest
  | counted decide =>
      refine .count fun reply => ?_
      cases reply with
      | ok sessions => exact about_commit point (decide sessions) rest
      | error failure => exact .done _

/-- A write calls for its own record. -/
theorem about_attempt (attempts : UInt32) (plan : BreakingPoint → Plan Outcome) (left : Nat) :
    (attempt attempts id plan left).About id := by
  induction left with
  | zero => exact .done _
  | succ left ih =>
      refine .get fun reply => ?_
      rcases reply with failure | _ | point
      · exact .done _
      · exact .done _
      · exact about_follow point (plan point) ih

theorem about_evaluateBenchmark (tracker : Tracker) (id : Uuid) (benchmark : Benchmark) :
    (tracker.evaluateBenchmark id benchmark).About id := by
  unfold evaluateBenchmark
  split
  · exact (about_attempt _ _ _).map _
  · exact .done _

end Tracker

/-! ## Workspaces that differ in their records -/

/-- In an available workspace an update that lands writes the patched record and no more. -/
theorem Workspace.Available.perform_update_of_ok {workspace : Workspace}
    (available : workspace.Available) {id : Uuid} {expected : UInt64} {patch : Patch}
    {record : BreakingPoint}
    (replied : (workspace.perform (.update id expected patch)).1 = .ok record) :
    ∃ point, workspace.record? id = some point ∧ patch.landing point = record ∧
      (workspace.perform (.update id expected patch)).2 =
        { workspace with store := workspace.store.put record } := by
  cases found : workspace.record? id with
  | none =>
      rw [available.perform_update_unknown found] at replied
      cases replied
  | some point =>
      rw [available.perform_update found] at replied ⊢
      split at replied
      · cases replied
      · next met =>
          split at replied
          · next valid =>
              obtain rfl := Except.ok.inj replied
              exact ⟨point, rfl, rfl, by simp [met, valid]⟩
          · cases replied

/-- A workspace in which nothing but records was rewritten since an earlier one. -/
structure Workspace.Rewrites (start later : Workspace) : Prop where
  available : later.Available
  sessions : later.sessions = start.sessions
  results : later.results = start.results
  ids : later.store.records.map (·.id) = start.store.records.map (·.id)

namespace BreakingPointStore

/-- A record in place of a stored one leaves the identifiers in their places. -/
theorem map_id_put {store : BreakingPointStore} {point : BreakingPoint}
    (known : (store.find? point.id).isSome = true) :
    (store.put point).records.map (·.id) = store.records.map (·.id) := by
  change (store.recordsWith point).map (·.id) = _
  rw [recordsWith, if_pos known, map_id_replaced]

/-- The records of a store are those that are found under its identifiers. -/
theorem records_eq (store : BreakingPointStore) :
    store.records = (store.records.map (·.id)).filterMap store.find? := by
  have found : ∀ point ∈ store.records, (store.find? ∘ (·.id)) point = some point :=
    fun point inside => find?_eq_some.mpr ⟨inside, rfl⟩
  rw [List.filterMap_map, List.filterMap_congr found, List.filterMap_some]

end BreakingPointStore

namespace Workspace.Rewrites

variable {start middle later other : Workspace}

theorem refl (available : start.Available) : start.Rewrites start := ⟨available, rfl, rfl, rfl⟩

theorem trans (early : start.Rewrites middle) (late : middle.Rewrites later) :
    start.Rewrites later where
  available := late.available
  sessions := late.sessions.trans early.sessions
  results := late.results.trans early.results
  ids := late.ids.trans early.ids

/-- A call rewrites nothing but records. -/
theorem perform (available : start.Available) (request : Call) :
    start.Rewrites (start.perform request).2 := by
  have still (same : (start.perform request).2 = start) :
      start.Rewrites (start.perform request).2 := by
    rw [same]
    exact refl available
  cases request with
  | get | list | count | latest => exact still rfl
  | update id expected patch =>
      cases reply : (start.perform (.update id expected patch)).1 with
      | error failure => exact still (available.perform_of_error reply)
      | ok record =>
          obtain ⟨point, found, rfl, written⟩ := available.perform_update_of_ok reply
          have named : point.id = id := BreakingPointStore.id_of_find? found
          have known : (start.store.find? (patch.landing point).id).isSome = true :=
            Option.isSome_iff_exists.mpr ⟨point, named ▸ found⟩
          refine ⟨available.perform _, start.sessions_perform _, ?_, ?_⟩
          · rw [written]
          · rw [written]
            exact BreakingPointStore.map_id_put known

theorem run {Result : Type} (available : start.Available) (program : Program Result) :
    start.Rewrites (program.run start).2 := by
  induction program generalizing start with
  | done result => exact refl available
  | call request next ih =>
      have early := perform available request
      exact early.trans (ih _ early.available)

/-- **The records tell rewritten workspaces apart.** -/
theorem eq_of_record? (first : start.Rewrites later) (second : start.Rewrites other)
    (records : later.record? = other.record?) : later = other := by
  have same : later.store.records = other.store.records := by
    have records : later.store.find? = other.store.find? := records
    rw [later.store.records_eq, other.store.records_eq, first.ids, second.ids, records]
  obtain ⟨⟨stored, _, failure, pending⟩, sessions, results, rivals, updateFailure⟩ := later
  obtain ⟨⟨stored', _, failure', pending'⟩, sessions', results', rivals', updateFailure'⟩ := other
  obtain ⟨⟨rfl, rfl, rfl, rfl⟩, rfl, rfl, -⟩ := first
  obtain ⟨⟨rfl, rfl, rfl, rfl⟩, rfl, rfl, -⟩ := second
  obtain rfl : stored = stored' := same
  rfl

end Workspace.Rewrites

/-! ## Independence -/

namespace Workspace

variable {workspace other : Workspace} {id : Uuid} {expected : UInt64} {patch : Patch}

/-- What an update makes of its record depends on an available workspace only through this
record. -/
theorem Available.record?_update_congr (available : workspace.Available)
    (otherwise : other.Available) (record : workspace.record? id = other.record? id) :
    (workspace.perform (.update id expected patch)).2.record? id =
      (other.perform (.update id expected patch)).2.record? id := by
  have replies := available.reply_update otherwise record expected patch
  cases reply : (workspace.perform (.update id expected patch)).1 with
  | ok written =>
      rw [available.record?_of_ok reply, otherwise.record?_of_ok (replies ▸ reply), record]
  | error failure =>
      rw [available.perform_of_error reply, otherwise.perform_of_error (replies ▸ reply), record]

/-- An update leaves the records of other identifiers as they are. -/
theorem Available.record?_update_of_ne (available : workspace.Available) {different : Uuid}
    (apart : different ≠ id) :
    (workspace.perform (.update id expected patch)).2.record? different =
      workspace.record? different := by
  cases reply : (workspace.perform (.update id expected patch)).1 with
  | ok written =>
      obtain ⟨point, found, rfl, -⟩ := available.perform_update_of_ok reply
      have named : point.id = id := BreakingPointStore.id_of_find? found
      have named : (patch.landing point).id = id := named
      rw [available.record?_of_ok reply, named, if_neg apart]
  | error failure => rw [available.perform_of_error reply]

end Workspace

namespace Program.About

variable {Result : Type} {id : Uuid} {program after : Program Result}
  {first second workspace later : Workspace}

/-- **What a program about a record comes to depends on an available workspace only through
this record and the logged sessions.** -/
theorem run_congr (about : program.About id) (available : first.Available)
    (otherwise : second.Available) (record : first.record? id = second.record? id)
    (sessions : first.sessions = second.sessions) :
    (program.run first).1 = (program.run second).1 ∧
      (program.run first).2.record? id = (program.run second).2.record? id := by
  induction about generalizing first second with
  | done result => exact ⟨rfl, record⟩
  | get _ ih =>
      simp only [run, available.perform_get, otherwise.perform_get, record]
      exact ih _ available otherwise record sessions
  | @count scope since _ _ ih =>
      have counts (workspace : Workspace) : workspace.perform (.count scope since) =
          (workspace.sessions.count scope since, workspace) := rfl
      simp only [run, counts, sessions]
      exact ih _ available otherwise record sessions
  | @update expected patch _ _ ih =>
      have replies := available.reply_update otherwise record expected patch
      simp only [run, replies]
      refine ih _ (available.perform _) (otherwise.perform _) ?_ ?_
      · exact available.record?_update_congr otherwise record
      · rw [first.sessions_perform, second.sessions_perform, sessions]

/-- A step of a program about a record leads to such a program, and leaves the other
records as they are. -/
theorem step (about : program.About id) (available : workspace.Available)
    (steps : program.step? workspace = some (after, later)) :
    after.About id ∧ workspace.Rewrites later ∧
      ∀ other, other ≠ id → later.record? other = workspace.record? other := by
  cases about with
  | done result => cases steps
  | get rest =>
      cases steps
      exact ⟨rest _, .perform available _, fun _ _ => rfl⟩
  | count rest =>
      cases steps
      exact ⟨rest _, .perform available _, fun _ _ => rfl⟩
  | update rest =>
      cases steps
      exact ⟨rest _, .perform available _,
        fun _ apart => available.record?_update_of_ne apart⟩

/-- A program about a record leaves the other records as they are. -/
theorem run_of_ne (about : program.About id) (available : workspace.Available) {other : Uuid}
    (apart : other ≠ id) : (program.run workspace).2.record? other = workspace.record? other := by
  induction about generalizing workspace with
  | done result => rfl
  | get _ ih => exact ih _ (available.perform _)
  | count _ ih => exact ih _ (available.perform _)
  | update _ ih =>
      exact (ih _ (available.perform _)).trans (available.record?_update_of_ne apart)

end Program.About

/-! ## One record alone -/

/-- A workspace with one of its records and no other. -/
def Workspace.only (workspace : Workspace) (point : BreakingPoint) : Workspace :=
  { workspace with
    store := { workspace.store with records := [point], distinct := List.pairwise_singleton _ _ } }

section Only

variable {workspace : Workspace} {point : BreakingPoint}

theorem Workspace.record?_only (workspace : Workspace) (point : BreakingPoint) :
    (workspace.only point).record? point.id = some point := by
  simp [record?, only, BreakingPointStore.find?]

theorem Workspace.Available.only (available : workspace.Available) (point : BreakingPoint) :
    (workspace.only point).Available :=
  ⟨available.reachable, available.noConflicts, available.noRivals, available.writable⟩

/-- A program about a record comes to what it comes to on this record alone. -/
theorem Program.About.run_only {Result : Type} {program : Program Result}
    (about : program.About point.id) (available : workspace.Available)
    (found : workspace.record? point.id = some point) :
    (program.run workspace).1 = (program.run (workspace.only point)).1 ∧
      (program.run workspace).2.record? point.id =
        (program.run (workspace.only point)).2.record? point.id :=
  about.run_congr available (available.only point)
    (found.trans (workspace.record?_only point).symm) rfl

end Only

/-! ## Programs about different records -/

/-- A workspace in which some records are as programs about them leave them alone, and the
others are as they were. -/
structure Workspace.Settles {Result : Type} (program : BreakingPoint → Program Result)
    (points : List BreakingPoint) (start finish : Workspace) : Prop where
  rewrites : start.Rewrites finish
  settled : ∀ point ∈ points,
    finish.record? point.id = ((program point).run start).2.record? point.id
  kept : ∀ id, (∀ point ∈ points, point.id ≠ id) → finish.record? id = start.record? id

section Settles

variable {Result : Type} {program : BreakingPoint → Program Result}
  {points order : List BreakingPoint} {start finish other : Workspace}

/-- **There is but one workspace in which some records are settled.** -/
theorem Workspace.Settles.unique (first : Settles program points start finish)
    (second : Settles program points start other) : finish = other := by
  refine first.rewrites.eq_of_record? second.rewrites (funext fun id => ?_)
  by_cases named : ∃ point ∈ points, point.id = id
  · obtain ⟨point, inside, rfl⟩ := named
    rw [first.settled point inside, second.settled point inside]
  · have apart : ∀ point ∈ points, point.id ≠ id := fun point inside same =>
      named ⟨point, inside, same⟩
    rw [first.kept id apart, second.kept id apart]

theorem Workspace.Settles.of_perm (settles : Settles program order start finish)
    (perm : order.Perm points) : Settles program points start finish where
  rewrites := settles.rewrites
  settled := fun point inside => settles.settled point (perm.mem_iff.mpr inside)
  kept := fun id apart => settles.kept id fun point inside => apart point (perm.mem_iff.mp inside)

/-- **Programs about different records, one after the other, each come to what they come to
at the start, and settle their records.** -/
theorem Program.run_inTurn_settles (about : ∀ point, (program point).About point.id)
    (available : start.Available) (apart : (order.map (·.id)).Nodup) :
    ((inTurn (order.map program)).run start).1 =
      order.map (fun point => ((program point).run start).1) ∧
    Workspace.Settles program order start ((inTurn (order.map program)).run start).2 := by
  induction order generalizing start with
  | nil => exact ⟨rfl, .refl available, by simp, fun _ _ => rfl⟩
  | cons first rest ih =>
      obtain ⟨fresh, apart⟩ := List.nodup_cons.mp apart
      have different : ∀ point ∈ rest, point.id ≠ first.id := fun point inside same =>
        fresh (List.mem_map.mpr ⟨point, inside, same⟩)
      let middle := ((program first).run start).2
      have early : start.Rewrites middle := .run available (program first)
      -- the first program leaves the records of the others to them
      have untouched : ∀ point ∈ rest,
          ((program point).run middle).1 = ((program point).run start).1 ∧
            ((program point).run middle).2.record? point.id =
              ((program point).run start).2.record? point.id := fun point inside =>
        (about point).run_congr early.available available
          ((about first).run_of_ne available (different point inside)) early.sessions
      obtain ⟨results, late⟩ := ih early.available apart
      have turns : (inTurn ((first :: rest).map program)).run start =
          (((program first).run start).1 :: ((inTurn (rest.map program)).run middle).1,
            ((inTurn (rest.map program)).run middle).2) := by
        simp only [List.map_cons, inTurn, run_andThen, run]
        rfl
      rw [turns]
      refine ⟨?_, early.trans late.rewrites, fun point inside => ?_, fun id others => ?_⟩
      · rw [results, List.map_cons]
        exact congrArg _ (List.map_congr_left fun point inside => (untouched point inside).1)
      · rcases List.mem_cons.mp inside with rfl | inside
        · exact late.kept point.id different
        · rw [late.settled point inside, (untouched point inside).2]
      · rw [late.kept id fun point inside => others point (List.mem_cons_of_mem _ inside)]
        exact (about first).run_of_ne available (others first (by simp)).symm

end Settles

/-! ## Failures -/

namespace Tracker

section Failures

variable {Outcome : Type} {workspace : Workspace} {failure : Failure} {id : Uuid}
  {again : Program (Except Failure (Written Outcome))}

theorem run_commit_of_error (available : workspace.Available) {point : BreakingPoint}
    {decision : Decision Outcome}
    (fails : ((commit id point decision again).run workspace).1 = .error failure)
    (rest : (again.run workspace).1 = .error failure → (again.run workspace).2 = workspace) :
    ((commit id point decision again).run workspace).2 = workspace := by
  unfold commit at fails ⊢
  split
  · rfl
  · next changes =>
      rw [if_neg changes] at fails
      cases reply : (workspace.perform (.update id point.version decision.patch)).1 with
      | ok record =>
          simp only [Program.run, reply] at fails
          cases fails
      | error refusal =>
          -- a refused update changes nothing
          have same := available.perform_of_error reply
          simp only [Program.run, reply, same] at fails ⊢
          cases refusal with
          | versionConflict => exact rest fails
          | _ => rfl

theorem run_follow_of_error (available : workspace.Available) {point : BreakingPoint}
    {plan : Plan Outcome}
    (fails : ((follow id point plan again).run workspace).1 = .error failure)
    (rest : (again.run workspace).1 = .error failure → (again.run workspace).2 = workspace) :
    ((follow id point plan again).run workspace).2 = workspace := by
  cases plan with
  | refuse refusal => rfl
  | decided decision => exact run_commit_of_error available fails rest
  | counted decide =>
      have counts : workspace.perform (countCall point) =
          (workspace.sessions.count (.point point.id) point.createdAt, workspace) := rfl
      simp only [follow, Program.run, counts] at fails ⊢
      cases counted : workspace.sessions.count (.point point.id) point.createdAt with
      | ok sessions =>
          simp only [counted] at fails
          exact run_commit_of_error available fails rest
      | error refusal => rfl

/-- **A write that fails leaves an available workspace as it is.** -/
theorem run_attempt_of_error (available : workspace.Available) {attempts : UInt32}
    {plan : BreakingPoint → Plan Outcome} {left : Nat}
    (fails : ((attempt attempts id plan left).run workspace).1 = .error failure) :
    ((attempt attempts id plan left).run workspace).2 = workspace := by
  induction left with
  | zero => rfl
  | succ left ih =>
      simp only [attempt, Program.run, available.perform_get] at fails ⊢
      cases found : workspace.record? id with
      | none => rfl
      | some point =>
          simp only [found] at fails
          exact run_follow_of_error available fails ih

theorem run_evaluateBenchmark_of_error {tracker : Tracker} {benchmark : Benchmark}
    (available : workspace.Available)
    (fails : ((tracker.evaluateBenchmark id benchmark).run workspace).1 = .error failure) :
    ((tracker.evaluateBenchmark id benchmark).run workspace).2 = workspace := by
  unfold evaluateBenchmark at fails ⊢
  split
  · next finite =>
      rw [if_pos finite, Program.run_map] at fails
      rw [Program.run_map]
      have failed : ((tracker.write id (tracker.benchmarkPlan id benchmark)).run workspace).1 =
          .error failure := by
        cases ended : ((tracker.write id (tracker.benchmarkPlan id benchmark)).run workspace).1 with
        | ok written =>
            rw [ended] at fails
            cases fails
        | error refusal =>
            rw [ended] at fails
            cases fails
            rfl
      exact run_attempt_of_error available failed
  · rfl

end Failures

end Tracker

end GolfProgress
