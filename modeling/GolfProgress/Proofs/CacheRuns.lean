import GolfProgress.Constraints.Analysis

/-!
# The cache over a run of analyses

An analysis and its store are acted on in any order: reports are computed, entries of
the cache are dropped, rows are replaced, the store goes out of reach or is made to
fail.  `AnalysisState.load_loaded` says what one load can do, and everything about runs
is read off it.

An entry of the cache is what the store answered at the latest load of its key that the
store served (`AnalysisState.Traced`), a report from the cache is the report of a store
that holds just the entry, a load that the store did not serve leaves every entry as it
was, and each load counts as one hit or one miss.  `cache_transparent` states all four
of every run that begins with an empty cache.
-/

set_option autoImplicit false

namespace GolfProgress

/-! ## Entries by key -/

namespace RequirementCache

variable {rows : List Requirement}

/-- Only the entry of the category and gender is missing from the others. -/
theorem lookup_others (cache : RequirementCache) (category other : Category)
    (gender sex : Gender) :
    (cache.others category gender).lookup (other, sex) =
      if (other, sex) = (category, gender) then none else cache.find? other sex := by
  unfold others find?
  induction cache.entries with
  | nil => simp
  | cons entry entries ih =>
      rcases entry with ⟨key, rows⟩
      by_cases dropped : key = (category, gender)
      · rw [List.filter_cons_of_neg (by simpa using dropped), ih, List.lookup_cons, dropped]
        split
        · rfl
        · next different => rw [beq_eq_false_iff_ne.mpr different]
      · rw [List.filter_cons_of_pos (by simpa using dropped), List.lookup_cons, List.lookup_cons,
          ih]
        by_cases same : (other, sex) = key
        · rw [beq_iff_eq.mpr same, same]
          exact (if_neg dropped).symm
        · rw [beq_eq_false_iff_ne.mpr same]

theorem find?_erase (cache : RequirementCache) (category other : Category)
    (gender sex : Gender) :
    (cache.erase category gender).find? other sex =
      if (other, sex) = (category, gender) then none else cache.find? other sex :=
  lookup_others cache category other gender sex

theorem find?_insert (cache : RequirementCache) (category other : Category)
    (gender sex : Gender) (rows : List Requirement) :
    (cache.insert category gender rows).find? other sex =
      if (other, sex) = (category, gender) then some rows else cache.find? other sex := by
  rw [insert, find?, List.lookup_cons, lookup_others]
  by_cases same : (other, sex) = (category, gender)
  · rw [beq_iff_eq.mpr same]
    exact (if_pos same).symm
  · rw [beq_eq_false_iff_ne.mpr same, if_neg same, if_neg same]

end RequirementCache

/-! ## Loading -/

/-- The store after it was asked once. -/
def MemoryRequirements.asked (store : MemoryRequirements) : MemoryRequirements :=
  { store with calls := store.calls + 1 }

/-- The rows that a store answers have the category and gender that it was asked for. -/
theorem MemoryRequirements.of_mem_answer {store : MemoryRequirements} {category : Category}
    {gender : Gender} {listed : List Requirement}
    (answered : store.answer category gender = .ok listed) {row : Requirement}
    (found : row ∈ listed) : row.category = category ∧ row.gender = gender := by
  unfold answer at answered
  split at answered
  · cases answered
  · split at answered
    · cases answered
    · cases answered
      simpa using (List.mem_filter.mp found).2

namespace AnalysisState

/-- What a load can do: take the entry of the cache, insert the rows that the store
answers, or leave the cache but for a miss. -/
inductive Loaded (state : AnalysisState MemoryRequirements) (category : Category)
    (gender : Gender) :
    Except Failure (List Requirement × RequirementOrigin) →
      AnalysisState MemoryRequirements → Prop where
  | cached {rows : List Requirement} (found : state.cache.find? category gender = some rows) :
      Loaded state category gender (.ok (rows, .cache))
        ⟨state.store, { state.cache with hits := state.cache.hits + 1 }⟩
  | stored {listed : List Requirement} (missing : state.cache.find? category gender = none)
      (answered : state.store.answer category gender = .ok listed)
      (nonempty : (listed.filter fun row => row.gender = gender) ≠ []) :
      Loaded state category gender (.ok (listed.filter fun row => row.gender = gender, .store))
        ⟨state.store.asked, { state.cache with misses := state.cache.misses + 1 }.insert
          category gender (listed.filter fun row => row.gender = gender)⟩
  | unserved {reply : Except Failure (List Requirement × RequirementOrigin)}
      (missing : state.cache.find? category gender = none)
      (fallback : ∀ rows origin, reply = .ok (rows, origin) → origin = .builtinFallback) :
      Loaded state category gender reply
        ⟨state.store.asked, { state.cache with misses := state.cache.misses + 1 }⟩

theorem fallback_origin {registry : Registry} {category : Category} {gender : Gender}
    {rows : List Requirement} {origin : RequirementOrigin}
    (answered : registry.fallback category gender = .ok (rows, origin)) :
    origin = .builtinFallback := by
  unfold Registry.fallback at answered
  split at answered <;> cases answered
  rfl

/-- **A load takes an entry, inserts one or leaves the entries**, whatever the state of
cache and store. -/
theorem load_loaded (registry : Registry) (category : Category) (gender : Gender)
    (state : AnalysisState MemoryRequirements) :
    state.Loaded category gender (state.load registry category gender).1
      (state.load registry category gender).2 := by
  have listed : RequirementStore.list state.store category gender =
      (state.store.answer category gender, state.store.asked) := rfl
  cases found : state.cache.find? category gender with
  | some rows =>
      simp only [load, RequirementCache.get, found]
      exact .cached found
  | none =>
      simp only [load, RequirementCache.get, found, listed]
      split
      · next rows store answer =>
          obtain ⟨answered, rfl⟩ := Prod.mk.inj answer
          split
          · exact .unserved found fun _ _ => fallback_origin
          · next nonempty => exact .stored found answered nonempty
      · next reason store answer =>
          obtain ⟨-, rfl⟩ := Prod.mk.inj answer
          exact .unserved found fun _ _ => fallback_origin
      · next failure store _ answer =>
          obtain ⟨-, rfl⟩ := Prod.mk.inj answer
          exact .unserved found fun _ _ failed => by cases failed

end AnalysisState

/-! ## Runs -/

/-- What an analysis or its store is asked to do. -/
inductive AnalysisAction where
  | compute (player : Uuid) (category : Category) (gender : Gender)
      (measurements : Measurements)
  | invalidate
  | invalidateEntry (category : Category) (gender : Gender)
  | replaceRows (rows : List Requirement)
  | setAvailable (available : Bool)
  | setFailure (failure : Option StoreFailure)

/-- A report is computed on the way into a category, for a gender. -/
def AnalysisAction.Targets (action : AnalysisAction) (target : Category) (gender : Gender) :
    Prop :=
  ∃ player category measurements, action = .compute player category gender measurements ∧
    category.nextUp = some target

/-- Whether a report is computed for a player who is not in the best category. -/
def AnalysisAction.isLookup : AnalysisAction → Bool
  | .compute _ category _ _ => category ≠ .a
  | _ => false

/-- The category and gender whose requirements a report is computed from. -/
def AnalysisAction.key? : AnalysisAction → Option (Category × Gender)
  | .compute _ category gender _ => category.nextUp.map (·, gender)
  | _ => none

/-- An action, and the state that it meets. -/
structure AnalysisEvent where
  before : AnalysisState MemoryRequirements
  action : AnalysisAction

namespace AnalysisEvent

/-- A report is computed from rows that the cache has. -/
def isHit (event : AnalysisEvent) : Bool :=
  event.action.key?.any fun key => (event.before.cache.find? key.1 key.2).isSome

/-- A report is computed from rows that the cache does not have. -/
def isMiss (event : AnalysisEvent) : Bool :=
  event.action.key?.any fun key => (event.before.cache.find? key.1 key.2).isNone

end AnalysisEvent

/-- A report was computed from what the store answered just then: from its rows of one
category and gender. -/
structure AnalysisEvent.Loads (registry : Registry) (settings : ConstraintSettings)
    (event : AnalysisEvent) (target : Category) (gender : Gender) (rows : List Requirement) :
    Prop where
  computes : ∃ player category measurements report,
    event.action = .compute player category gender measurements ∧
    category.nextUp = some target ∧
    (event.before.compute registry settings player category gender measurements).1 =
      .ok report ∧ report.origin = .store
  answered : ∃ listed, event.before.store.answer target gender = .ok listed ∧
    rows = listed.filter fun row => row.gender = gender

namespace AnalysisState

section Runs

variable (registry : Registry) (settings : ConstraintSettings)

/-- The state after an action. -/
def act (state : AnalysisState MemoryRequirements) :
    AnalysisAction → AnalysisState MemoryRequirements
  | .compute player category gender measurements =>
    (state.compute registry settings player category gender measurements).2
  | .invalidate => { state with cache := state.cache.clear }
  | .invalidateEntry category gender =>
    { state with cache := state.cache.erase category gender }
  | .replaceRows rows => { state with store := { state.store with rows } }
  | .setAvailable available => { state with store := { state.store with available } }
  | .setFailure failure => { state with store := { state.store with failure } }

/-- The state after actions one after the other. -/
def run (state : AnalysisState MemoryRequirements) (actions : List AnalysisAction) :
    AnalysisState MemoryRequirements :=
  actions.foldl (act registry settings) state

/-- The events of actions one after the other. -/
def events (state : AnalysisState MemoryRequirements) : List AnalysisAction → List AnalysisEvent
  | [] => []
  | action :: rest => ⟨state, action⟩ :: events (state.act registry settings action) rest

/-- Rows are what the store answered at the latest load of a key that it served. -/
def LatestLoad (events : List AnalysisEvent) (target : Category) (gender : Gender)
    (rows : List Requirement) : Prop :=
  ∃ earlier event later, events = earlier ++ event :: later ∧
    event.Loads registry settings target gender rows ∧
    ∀ other ∈ later, ∀ rows, ¬ other.Loads registry settings target gender rows

/-- What the cache owes to the events before. -/
structure Transparent (actions : List AnalysisAction) (events : List AnalysisEvent)
    (state : AnalysisState MemoryRequirements) : Prop where
  /-- An entry has rows, all of its gender, and they are those of the latest load. -/
  entries : ∀ target gender rows, state.cache.find? target gender = some rows →
    rows ≠ [] ∧ (∀ row ∈ rows, row.gender = gender) ∧
      LatestLoad registry settings events target gender rows
  /-- A report from an entry is that of a store with just the rows of the entry, apart
  from its origin, and the store, whatever it holds, is not asked. -/
  served : ∀ player category target gender measurements rows (store : MemoryRequirements),
    category.nextUp = some target → state.cache.find? target gender = some rows →
    ∃ report, (compute registry settings player category gender measurements
        (⟨{ rows }, {}⟩ : AnalysisState MemoryRequirements)).1 = .ok report ∧
      (compute registry settings player category gender measurements
        ⟨store, state.cache⟩).1 = .ok { report with origin := .cache } ∧
      (compute registry settings player category gender measurements
        ⟨store, state.cache⟩).2.store = store
  /-- A report that is not from the store, and a failure, leaves every entry. -/
  kept : ∀ player category gender measurements,
    (∀ report, (state.compute registry settings player category gender measurements).1 =
      .ok report → report.origin ≠ .store) →
    ∀ other sex, (state.compute registry settings player category gender
      measurements).2.cache.find? other sex = state.cache.find? other sex
  /-- After a fallback or a failure the next report on the same key asks the store. -/
  retried : ∀ player category target gender measurements, category.nextUp = some target →
    (∀ report, (state.compute registry settings player category gender measurements).1 =
      .ok report → report.origin = .builtinFallback) →
    ∀ rest : List AnalysisAction, (∀ action ∈ rest, ¬ action.Targets target gender) →
    ∀ again values, ((((state.compute registry settings player category gender
        measurements).2.run registry settings rest).compute registry settings again category
        gender values).2.store.calls =
      ((state.compute registry settings player category gender measurements).2.run registry
        settings rest).store.calls + 1)
  /-- Every look-up is a hit or a miss, and is counted as what it is. -/
  classified : events.countP AnalysisEvent.isHit + events.countP AnalysisEvent.isMiss =
    actions.countP AnalysisAction.isLookup
  hits : state.cache.hits = UInt64.ofNat (events.countP AnalysisEvent.isHit)
  misses : state.cache.misses = UInt64.ofNat (events.countP AnalysisEvent.isMiss)
  /-- No counter has turned over below `2 ^ 64` look-ups. -/
  counted : actions.countP AnalysisAction.isLookup < UInt64.size →
    state.cache.hits.toNat + state.cache.misses.toNat =
      actions.countP AnalysisAction.isLookup

end Runs

/-! ## Computing a report -/

section Computing

variable {registry : Registry} {settings : ConstraintSettings} {player : Uuid}
  {category target : Category} {gender : Gender} {measurements : Measurements}
  {state : AnalysisState MemoryRequirements}

/-- A report is made of what was loaded. -/
theorem compute_of_next {Store : Type} [RequirementStore Store] {state : AnalysisState Store}
    (next : category.nextUp = some target) :
    state.compute registry settings player category gender measurements =
      ((state.load registry target gender).1.map fun loaded =>
        .ofRows registry settings player category target gender measurements loaded.1 loaded.2,
        (state.load registry target gender).2) := by
  simp only [compute, next]
  rcases state.load registry target gender with ⟨failure | ⟨rows, origin⟩, after⟩ <;> rfl

theorem compute_of_best {Store : Type} [RequirementStore Store] {state : AnalysisState Store}
    (best : category.nextUp = none) :
    state.compute registry settings player category gender measurements =
      (.error (.notFound "requirement set above category" category.code), state) := by
  simp only [compute, best]

theorem nextUp_eq_none : category.nextUp = none ↔ category = .a := by
  cases category <;> simp [Category.nextUp]

/-- A report is made of what a load replies, and leaves the state that the load leaves. -/
theorem compute_loaded (registry : Registry) (settings : ConstraintSettings) (player : Uuid)
    (gender : Gender) (measurements : Measurements)
    (state : AnalysisState MemoryRequirements) (next : category.nextUp = some target) :
    ∃ reply after, state.Loaded target gender reply after ∧
      state.compute registry settings player category gender measurements =
        (reply.map fun loaded => .ofRows registry settings player category target gender
          measurements loaded.1 loaded.2, after) :=
  ⟨_, _, state.load_loaded registry target gender, compute_of_next next⟩

/-- The origin of a report is that of the rows that were loaded. -/
theorem origin_of_compute (next : category.nextUp = some target) {report : ConstraintReport}
    (computed : (state.compute registry settings player category gender measurements).1 =
      .ok report) :
    ∃ rows, (state.load registry target gender).1 = .ok (rows, report.origin) := by
  rw [compute_of_next next] at computed
  cases loaded : (state.load registry target gender).1 with
  | error failure => rw [loaded] at computed; cases computed
  | ok result =>
      rw [loaded] at computed
      cases computed
      exact ⟨result.1, rfl⟩

end Computing

/-! ## Tracing entries -/

section Tracing

variable {registry : Registry} {settings : ConstraintSettings} {player : Uuid}
  {category target other : Category} {gender sex : Gender} {measurements : Measurements}
  {state after : AnalysisState MemoryRequirements} {rows : List Requirement}
  {past : List AnalysisEvent} {event : AnalysisEvent}

/-- An event that loads a key computes a report on it and is served by the store. -/
theorem targets_of_loads
    (loads : event.Loads registry settings target gender rows) :
    event.action.Targets target gender ∧
      ∃ loaded, (event.before.load registry target gender).1 = .ok (loaded, .store) := by
  obtain ⟨player, category, measurements, report, acts, next, computed, fromStore⟩ :=
    loads.computes
  obtain ⟨loaded, origin⟩ := origin_of_compute next computed
  exact ⟨⟨player, category, measurements, acts, next⟩, loaded, fromStore ▸ origin⟩

/-- A report on one key loads no other, and only what the store serves. -/
theorem loads_of_compute (next : category.nextUp = some target)
    (loads : AnalysisEvent.Loads registry settings
      ⟨state, .compute player category gender measurements⟩ other sex rows) :
    (other, sex) = (target, gender) ∧
      ∃ loaded, (state.load registry target gender).1 = .ok (loaded, .store) := by
  obtain ⟨⟨_, _, _, acts, next'⟩, loaded, served⟩ := targets_of_loads loads
  obtain ⟨-, rfl, rfl, -⟩ := AnalysisAction.compute.inj acts
  obtain rfl := Option.some.inj (next.symm.trans next')
  exact ⟨rfl, loaded, served⟩

/-- What is the latest load stays so with an event that does not load the key. -/
theorem LatestLoad.later (latest : LatestLoad registry settings past target gender rows)
    (quiet : ∀ rows, ¬ event.Loads registry settings target gender rows) :
    LatestLoad registry settings (past ++ [event]) target gender rows := by
  obtain ⟨earlier, load, later, rfl, loads, rest⟩ := latest
  refine ⟨earlier, load, later ++ [event], by simp, loads, ?_⟩
  intro other found
  rcases List.mem_append.mp found with before | last
  · exact rest other before
  · obtain rfl := List.mem_singleton.mp last
    exact quiet

/-- Every entry of a cache can be traced to a load.  The rows have the category of their key
too, which the store sees to. -/
def Traced (registry : Registry) (settings : ConstraintSettings) (past : List AnalysisEvent)
    (state : AnalysisState MemoryRequirements) : Prop :=
  ∀ target gender rows, state.cache.find? target gender = some rows →
    rows ≠ [] ∧ (∀ row ∈ rows, row.category = target ∧ row.gender = gender) ∧
      LatestLoad registry settings past target gender rows

/-- Entries stay traced while none is added and nothing is loaded. -/
theorem Traced.quiet (traced : Traced registry settings past state)
    (entries : ∀ target gender rows, after.cache.find? target gender = some rows →
      state.cache.find? target gender = some rows)
    (quiet : ∀ target gender rows, ¬ event.Loads registry settings target gender rows) :
    Traced registry settings (past ++ [event]) after := by
  intro target gender rows found
  obtain ⟨nonempty, within, latest⟩ := traced target gender rows
    (entries target gender rows found)
  exact ⟨nonempty, within, latest.later (quiet target gender)⟩

/-- Entries stay traced with a report, whatever its load does. -/
theorem Traced.report (traced : Traced registry settings past state)
    (next : category.nextUp = some target) :
    Traced registry settings
      (past ++ [⟨state, .compute player category gender measurements⟩])
      (state.load registry target gender).2 := by
  have loads (other : Category) (sex : Gender) (rows : List Requirement)
      (reads : AnalysisEvent.Loads registry settings
        ⟨state, .compute player category gender measurements⟩ other sex rows) :=
    loads_of_compute next reads
  have loaded := state.load_loaded registry target gender
  generalize served : state.load registry target gender = result at loaded loads ⊢
  rcases result with ⟨reply, after⟩
  cases loaded with
  | @cached rows found =>
      refine traced.quiet (fun _ _ _ => id) fun other sex rows loaded => ?_
      obtain ⟨-, _, fromStore⟩ := loads other sex rows loaded
      cases fromStore
  | @unserved reply missing fallback =>
      refine traced.quiet (fun _ _ _ => id) fun other sex rows loaded => ?_
      obtain ⟨-, _, fromStore⟩ := loads other sex rows loaded
      cases fallback _ _ fromStore
  | @stored listed missing answered nonempty =>
      intro other sex rows found
      rw [RequirementCache.find?_insert] at found
      split at found
      · next same =>
          obtain ⟨rfl, rfl⟩ := Prod.mk.inj same
          cases found
          refine ⟨nonempty, fun row held => ?_, past, _, [], rfl, ⟨?_, listed, answered, rfl⟩,
            by simp⟩
          · exact MemoryRequirements.of_mem_answer answered (List.mem_filter.mp held).1
          · exact ⟨player, category, measurements, _, rfl, next,
              by rw [compute_of_next next, served]; rfl, rfl⟩
      · next different =>
          obtain ⟨nonempty, within, latest⟩ := traced other sex rows found
          exact ⟨nonempty, within, latest.later fun rows loaded =>
            different (loads other sex rows loaded).1⟩

/-- **Entries stay traced with every action.** -/
theorem Traced.step (traced : Traced registry settings past state) (action : AnalysisAction) :
    Traced registry settings (past ++ [⟨state, action⟩])
      (state.act registry settings action) := by
  -- an action other than a report loads nothing
  have silent (other : ∀ target gender, ¬ action.Targets target gender) :
      ∀ target gender rows, ¬ AnalysisEvent.Loads registry settings ⟨state, action⟩ target
        gender rows :=
    fun target gender rows loads => other target gender (targets_of_loads loads).1
  cases action with
  | compute player category gender measurements =>
      cases next : category.nextUp with
      | none =>
          rw [act, compute_of_best next]
          refine traced.quiet (fun _ _ _ => id) (silent ?_)
          rintro target sex ⟨_, _, _, acts, next'⟩
          obtain ⟨-, rfl, -, -⟩ := AnalysisAction.compute.inj acts
          rw [next] at next'
          cases next'
      | some target =>
          rw [act, compute_of_next next]
          exact traced.report next
  | invalidate =>
      refine traced.quiet (fun _ _ _ found => ?_) (silent (by rintro _ _ ⟨_, _, _, ⟨⟩, -⟩))
      cases found
  | invalidateEntry category gender =>
      refine traced.quiet (fun target sex rows found => ?_)
        (silent (by rintro _ _ ⟨_, _, _, ⟨⟩, -⟩))
      rw [act, RequirementCache.find?_erase] at found
      split at found
      · cases found
      · exact found
  | replaceRows | setAvailable | setFailure =>
      exact traced.quiet (fun _ _ _ => id) (silent (by rintro _ _ ⟨_, _, _, ⟨⟩, -⟩))

theorem Traced.steps (traced : Traced registry settings past state)
    (actions : List AnalysisAction) :
    Traced registry settings (past ++ state.events registry settings actions)
      (state.run registry settings actions) := by
  induction actions generalizing past state with
  | nil => simpa [events, AnalysisState.run] using traced
  | cons action rest ih =>
      have later := ih (traced.step action)
      rw [List.append_assoc] at later
      exact later

end Tracing

/-! ## Counting look-ups -/

section Counting

variable (registry : Registry) (settings : ConstraintSettings)

/-- A look-up is a hit or a miss, and nothing else is. -/
theorem isHit_add_isMiss (state : AnalysisState MemoryRequirements) (action : AnalysisAction) :
    ((if AnalysisEvent.isHit ⟨state, action⟩ then 1 else 0) +
      if AnalysisEvent.isMiss ⟨state, action⟩ then 1 else 0) =
        if action.isLookup then 1 else 0 := by
  cases action with
  | compute player category gender measurements =>
      cases next : category.nextUp with
      | none =>
          obtain rfl := nextUp_eq_none.mp next
          rfl
      | some target =>
          have below : category ≠ .a := fun best => by
            rw [nextUp_eq_none.mpr best] at next
            cases next
          cases found : state.cache.find? target gender <;>
            simp [AnalysisEvent.isHit, AnalysisEvent.isMiss, AnalysisAction.key?, next,
              AnalysisAction.isLookup, below, found]
  | invalidate | invalidateEntry | replaceRows | setAvailable | setFailure => rfl

theorem classified_events (state : AnalysisState MemoryRequirements)
    (actions : List AnalysisAction) :
    (state.events registry settings actions).countP AnalysisEvent.isHit +
      (state.events registry settings actions).countP AnalysisEvent.isMiss =
        actions.countP AnalysisAction.isLookup := by
  induction actions generalizing state with
  | nil => rfl
  | cons action rest ih =>
      have later := ih (state.act registry settings action)
      have first := isHit_add_isMiss state action
      simp only [events, List.countP_cons]
      omega

/-- An action counts one hit or one miss, or leaves the counters. -/
theorem counters_act (state : AnalysisState MemoryRequirements) (action : AnalysisAction) :
    (state.act registry settings action).cache.hits =
        state.cache.hits + UInt64.ofNat (if AnalysisEvent.isHit ⟨state, action⟩ then 1 else 0) ∧
      (state.act registry settings action).cache.misses =
        state.cache.misses +
          UInt64.ofNat (if AnalysisEvent.isMiss ⟨state, action⟩ then 1 else 0) := by
  cases action with
  | compute player category gender measurements =>
      cases next : category.nextUp with
      | none =>
          rw [act, compute_of_best next]
          simp [AnalysisEvent.isHit, AnalysisEvent.isMiss, AnalysisAction.key?, next]
      | some target =>
          obtain ⟨reply, after, loaded, computed⟩ :=
            state.compute_loaded registry settings player gender measurements next
          rw [act, computed]
          cases loaded with
          | cached found =>
              simp [AnalysisEvent.isHit, AnalysisEvent.isMiss, AnalysisAction.key?, next, found]
          | stored missing | unserved missing =>
              simp [AnalysisEvent.isHit, AnalysisEvent.isMiss, AnalysisAction.key?, next, missing,
                RequirementCache.insert]
  | invalidate | invalidateEntry | replaceRows | setAvailable | setFailure =>
      exact ⟨(UInt64.add_zero _).symm, (UInt64.add_zero _).symm⟩

/-- **Hits and misses are counted as they occur**, with counters that may turn over. -/
theorem counters_run (state : AnalysisState MemoryRequirements) (actions : List AnalysisAction) :
    (state.run registry settings actions).cache.hits = state.cache.hits +
        UInt64.ofNat ((state.events registry settings actions).countP AnalysisEvent.isHit) ∧
      (state.run registry settings actions).cache.misses = state.cache.misses +
        UInt64.ofNat ((state.events registry settings actions).countP AnalysisEvent.isMiss) := by
  induction actions generalizing state with
  | nil => exact ⟨(UInt64.add_zero _).symm, (UInt64.add_zero _).symm⟩
  | cons action rest ih =>
      obtain ⟨hits, misses⟩ := ih (state.act registry settings action)
      obtain ⟨hit, miss⟩ := counters_act registry settings state action
      simp only [events, List.countP_cons, UInt64.ofNat_add]
      constructor
      · exact hits.trans (by rw [hit, UInt64.add_assoc, UInt64.add_comm (.ofNat _)])
      · exact misses.trans (by rw [miss, UInt64.add_assoc, UInt64.add_comm (.ofNat _)])

end Counting

/-! ## What entries and missing entries lead to -/

section Keys

variable {registry : Registry} {settings : ConstraintSettings} {player : Uuid}
  {category target : Category} {gender : Gender} {measurements : Measurements}
  {state : AnalysisState MemoryRequirements} {rows : List Requirement}

theorem load_of_entry (store : MemoryRequirements) {cache : RequirementCache}
    (found : cache.find? target gender = some rows) :
    (⟨store, cache⟩ : AnalysisState MemoryRequirements).load registry target gender =
      (.ok (rows, .cache), ⟨store, { cache with hits := cache.hits + 1 }⟩) := by
  simp only [load, RequirementCache.get, found]

/-- A store that lists some rows serves those of the gender, which are kept; when there are none,
the registry stands in. -/
theorem load_eq_of_listed {Store : Type} [RequirementStore Store] {state : AnalysisState Store}
    {after : Store} (missing : state.cache.find? target gender = none)
    (answered : RequirementStore.list state.store target gender = (.ok rows, after)) :
    state.load registry target gender =
      if (rows.filter fun row => row.gender = gender) = [] then
        (registry.fallback target gender,
          ⟨after, { state.cache with misses := state.cache.misses + 1 }⟩)
      else
        (.ok (rows.filter fun row => row.gender = gender, .store),
          ⟨after, { state.cache with misses := state.cache.misses + 1 }.insert target gender
            (rows.filter fun row => row.gender = gender)⟩) := by
  simp only [load, RequirementCache.get, missing, answered]
  split
  · next empty => exact (if_pos empty).symm
  · next nonempty => exact (if_neg nonempty).symm

theorem load_of_listed {Store : Type} [RequirementStore Store] {state : AnalysisState Store}
    (missing : state.cache.find? target gender = none)
    (listed : (RequirementStore.list state.store target gender).1 = .ok rows) :
    (state.load registry target gender).1 =
      if (rows.filter fun row => row.gender = gender) = [] then registry.fallback target gender
      else .ok (rows.filter fun row => row.gender = gender, .store) := by
  rw [load_eq_of_listed missing (Prod.ext listed rfl)]
  split <;> rfl

/-- A store with nothing but rows of one key serves them all. -/
theorem load_of_rows (nonempty : rows ≠ [])
    (within : ∀ row ∈ rows, row.category = target ∧ row.gender = gender) :
    ((⟨{ rows }, {}⟩ : AnalysisState MemoryRequirements).load registry target gender).1 =
      .ok (rows, .store) := by
  have listed : (rows.filter fun row => row.category = target && row.gender = gender) = rows :=
    List.filter_eq_self.mpr fun row held => by simp [within row held]
  have kept : (rows.filter fun row => row.gender = gender) = rows :=
    List.filter_eq_self.mpr fun row held => by simp [within row held]
  have answered : (RequirementStore.list ({ rows } : MemoryRequirements) target gender).1 =
      .ok rows := by
    simp [RequirementStore.list, MemoryRequirements.answer, listed]
  rw [load_of_listed rfl answered, kept, if_neg nonempty]

/-- A key without an entry makes a report ask the store. -/
theorem calls_of_missing (next : category.nextUp = some target)
    (missing : state.cache.find? target gender = none) :
    (state.compute registry settings player category gender measurements).2.store.calls =
      state.store.calls + 1 := by
  obtain ⟨reply, after, loaded, computed⟩ :=
    state.compute_loaded registry settings player gender measurements next
  rw [computed]
  cases loaded with
  | cached found => rw [missing] at found; cases found
  | stored | unserved => rfl

/-- A report on a key with an entry is that of a store with just the rows of the entry,
apart from its origin, and leaves the store as it is. -/
theorem compute_of_entry (store : MemoryRequirements) {cache : RequirementCache}
    (next : category.nextUp = some target) (found : cache.find? target gender = some rows)
    (nonempty : rows ≠ [])
    (within : ∀ row ∈ rows, row.category = target ∧ row.gender = gender) :
    ∃ report, (compute registry settings player category gender measurements
        (⟨{ rows }, {}⟩ : AnalysisState MemoryRequirements)).1 = .ok report ∧
      (compute registry settings player category gender measurements ⟨store, cache⟩).1 =
        .ok { report with origin := .cache } ∧
      (compute registry settings player category gender measurements ⟨store, cache⟩).2.store =
        store := by
  refine ⟨.ofRows registry settings player category target gender measurements rows .store,
    ?_, ?_, ?_⟩
  · rw [compute_of_next next, load_of_rows nonempty within]
    rfl
  · rw [compute_of_next next, load_of_entry store found]
    simp only [Except.map, ConstraintReport.ofRows]
  · rw [compute_of_next next, load_of_entry store found]

/-- A report that the store did not serve, and a failure, leaves every entry. -/
theorem find?_compute (unserved : ∀ report,
      (state.compute registry settings player category gender measurements).1 = .ok report →
        report.origin ≠ .store) (other : Category) (sex : Gender) :
    (state.compute registry settings player category gender measurements).2.cache.find? other
      sex = state.cache.find? other sex := by
  cases next : category.nextUp with
  | none => rw [compute_of_best next]
  | some target =>
      obtain ⟨reply, after, loaded, computed⟩ :=
        state.compute_loaded registry settings player gender measurements next
      rw [computed] at unserved ⊢
      cases loaded with
      | cached | unserved => rfl
      | stored => exact absurd rfl (unserved _ rfl)

/-- A fallback or a failure leaves its key without an entry. -/
theorem missing_of_fallback (next : category.nextUp = some target)
    (fellBack : ∀ report,
      (state.compute registry settings player category gender measurements).1 = .ok report →
        report.origin = .builtinFallback) :
    (state.compute registry settings player category gender measurements).2.cache.find? target
      gender = none := by
  obtain ⟨reply, after, loaded, computed⟩ :=
    state.compute_loaded registry settings player gender measurements next
  rw [computed] at fellBack ⊢
  cases loaded with
  | cached => cases fellBack _ rfl
  | stored => cases fellBack _ rfl
  | unserved missing => exact missing

/-- A key without an entry has none after actions that do not compute a report on it. -/
theorem find?_run (missing : state.cache.find? target gender = none)
    {actions : List AnalysisAction} (others : ∀ action ∈ actions, ¬ action.Targets target gender) :
    (state.run registry settings actions).cache.find? target gender = none := by
  induction actions generalizing state with
  | nil => exact missing
  | cons action rest ih =>
      refine ih ?_ fun action later => others action (List.mem_cons_of_mem _ later)
      have other := others action List.mem_cons_self
      cases action with
      | compute player category sex measurements =>
          cases next : category.nextUp with
          | none => rwa [act, compute_of_best next]
          | some goal =>
              obtain ⟨reply, after, loaded, computed⟩ :=
                state.compute_loaded registry settings player sex measurements next
              rw [act, computed]
              cases loaded with
              | cached | unserved => exact missing
              | stored =>
                  refine (RequirementCache.find?_insert _ _ _ _ _ _).trans ?_
                  rw [if_neg]
                  · exact missing
                  · intro same
                    obtain ⟨rfl, rfl⟩ := Prod.mk.inj same
                    exact other ⟨player, category, measurements, rfl, next⟩
      | invalidate => rfl
      | invalidateEntry category sex =>
          rw [act, RequirementCache.find?_erase, missing, ite_self]
      | replaceRows | setAvailable | setFailure => exact missing

end Keys

end AnalysisState

open AnalysisState in
/-- **The cache is transparent over every run** that begins with an empty cache: its
entries are what the store answered last, a report from an entry is that of a store with
just its rows, only rows of the store make entries, and each look-up is counted once. -/
theorem cache_transparent (registry : Registry) (settings : ConstraintSettings)
    (store : MemoryRequirements) (actions : List AnalysisAction) :
    Transparent registry settings actions
      (events registry settings ⟨store, {}⟩ actions)
      (run registry settings ⟨store, {}⟩ actions) := by
  have empty : Traced registry settings [] ⟨store, {}⟩ :=
    fun _ _ _ found => (Option.some_ne_none _ found.symm).elim
  have traced := empty.steps actions
  have classified := classified_events registry settings ⟨store, {}⟩ actions
  obtain ⟨hits, misses⟩ := counters_run registry settings ⟨store, {}⟩ actions
  rw [List.nil_append] at traced
  rw [UInt64.zero_add] at hits misses
  generalize run registry settings ⟨store, {}⟩ actions = state at *
  generalize events registry settings ⟨store, {}⟩ actions = past at *
  constructor
  case entries =>
    intro target gender rows found
    obtain ⟨nonempty, within, latest⟩ := traced target gender rows found
    exact ⟨nonempty, fun row held => (within row held).2, latest⟩
  case served =>
    intro player category target gender measurements rows store next found
    obtain ⟨nonempty, within, -⟩ := traced target gender rows found
    exact compute_of_entry store next found nonempty within
  case kept => exact fun _ _ _ _ unserved => find?_compute unserved
  case retried =>
    intro player category target gender measurements next fellBack rest others again values
    exact calls_of_missing next (find?_run (missing_of_fallback next fellBack) others)
  case classified => exact classified
  case hits => exact hits
  case misses => exact misses
  case counted =>
    intro few
    rw [hits, misses, UInt64.toNat_ofNat_of_lt' (by omega), UInt64.toNat_ofNat_of_lt' (by omega),
      classified]

end GolfProgress
