import GolfProgress.Proofs.ListOrder
import GolfProgress.Proofs.Versions

/-!
# A store by itself

A store is filled, written to, made to lose races and switched off and on, in any order.
Whatever was done to it, its records are valid (`BreakingPointStore.Sound`), a write lands
exactly when it meets the version that it expects and leaves a valid record, and a call
that fails leaves the records as they are, but for the version that a pending conflict
counts up (`BreakingPointStore.Versioned`).

Between two moments without a new record under its identifier, a record changes only by
having its version counted up, so a record with the same version is the same record
(`Lasts`).  `store_is_versioned` puts the two together.
-/

set_option autoImplicit false

namespace GolfProgress

/-! ## Actions -/

/-- What is done to a store from outside. -/
inductive StoreAction where
  | insert (point : BreakingPoint)
  | update (id : Uuid) (expected : UInt64) (patch : Patch)
  | injectConflicts (count : UInt32)
  | setAvailable (available : Bool)
deriving DecidableEq

/-- An action that is to store a new record under an identifier. -/
def StoreAction.Inserts (id : Uuid) (action : StoreAction) : Prop :=
  ∃ point, action = .insert point ∧ point.id = id

namespace BreakingPointStore

/-- The store after an action. -/
def act (store : BreakingPointStore) : StoreAction → BreakingPointStore
  | .insert point =>
    match store.insert point with
    | .ok filled => filled
    | .error _ => store
  | .update id expected patch => (store.update id expected patch).2
  | .injectConflicts count => store.injectConflicts count
  | .setAvailable available => store.setAvailable available

/-- The store after some actions. -/
def play (store : BreakingPointStore) (actions : List StoreAction) : BreakingPointStore :=
  actions.foldl act store

/-- No action counts the version of a record back to zero. -/
def Unwrapped (id : Uuid) (store : BreakingPointStore) : List StoreAction → Prop
  | [] => True
  | action :: rest =>
    (∀ old ∈ store.find? id, ∀ new ∈ (store.act action).find? id,
      old.version.toNat ≤ new.version.toNat) ∧ Unwrapped id (store.act action) rest

/-! ## What a store owes -/

/-- A store after a pending conflict has counted the version of a record up and has
changed nothing else. -/
structure MetConflict (store : BreakingPointStore) (id : Uuid) (after : BreakingPointStore) :
    Prop where
  pending : store.pendingConflicts ≠ 0
  fewer : after.pendingConflicts = store.pendingConflicts - 1
  bumped : ∃ old, store.find? id = some old ∧
    ∀ other, after.find? other = if other = id then some old.bumped else store.find? other

/-- A store that writes by compare-and-update. -/
structure Versioned (store : BreakingPointStore) : Prop where
  /-- Every record is valid, and is the one that is found under its identifier. -/
  valid : ∀ point ∈ store.records, point.Valid ∧ store.find? point.id = some point
  /-- A record is stored exactly when the store answers and the record is valid. -/
  inserts : ∀ point,
    (∃ filled, store.insert point = .ok filled) ↔ store.failure = none ∧ point.Valid
  inserted : ∀ point filled, store.insert point = .ok filled →
    ∀ other, filled.find? other = if other = point.id then some point else store.find? other
  notInserted : ∀ point failure, store.insert point = .error failure →
    store.act (.insert point) = store
  /-- While the store answers and no conflict is pending, a write lands exactly when the
  record is there, has the expected version and is valid with the patch written over it;
  the reply is the patched record, with its version counted up. -/
  lands : store.failure = none → store.pendingConflicts = 0 → ∀ id expected patch new,
    (store.update id expected patch).1 = .ok new ↔ ∃ old, store.find? id = some old ∧
      old.version = expected ∧ (patch.landing old).Valid ∧ new = patch.landing old
  /-- A write that lands stores the record of the reply and no other. -/
  landed : ∀ id expected patch new, (store.update id expected patch).1 = .ok new →
    ∀ other, (store.update id expected patch).2.find? other =
      if other = id then some new else store.find? other
  /-- A write that fails leaves the store as it is, or uses up a pending conflict. -/
  refused : ∀ id expected patch failure, (store.update id expected patch).1 = .error failure →
    (store.update id expected patch).2 = store ∨
      store.MetConflict id (store.update id expected patch).2
  /-- A pending conflict is used up by a write to a record.  The write fails if it expected
  the version of before, and can land only on the record with its version counted up. -/
  outrun : store.failure = none → store.pendingConflicts ≠ 0 →
    ∀ id old, store.find? id = some old → ∀ expected patch,
      (store.update id expected patch).2.pendingConflicts = store.pendingConflicts - 1 ∧
      (expected = old.version → (store.update id expected patch).1 =
        .error (.versionConflict id.toText expected (expected + 1))) ∧
      ∀ new, (store.update id expected patch).1 = .ok new → new = patch.landing old.bumped

section Owed

variable {store : BreakingPointStore} {id : Uuid} {expected : UInt64} {patch : Patch}
  {point old new : BreakingPoint}

/-- A record is stored exactly when the store answers and the record is valid. -/
theorem insert_eq_ok {filled : BreakingPointStore} :
    store.insert point = .ok filled ↔
      (store.failure = none ∧ point.Valid) ∧ filled = store.put point := by
  unfold insert
  cases store.failure with
  | some failure => simp
  | none =>
      by_cases valid : point.Valid
      · simp [valid, eq_comm]
      · simp [valid]

theorem act_insert (store : BreakingPointStore) (point : BreakingPoint) :
    store.act (.insert point) =
      if store.failure = none ∧ point.Valid then store.put point else store := by
  unfold act insert
  cases store.failure with
  | some failure => simp
  | none => by_cases valid : point.Valid <;> simp [valid]

/-- While no conflict is pending, a write lands exactly on a record of the expected version
that is valid with the patch written over it. -/
theorem update_eq_ok (reachable : store.failure = none) (noConflicts : store.pendingConflicts = 0) :
    (store.update id expected patch).1 = .ok new ↔ ∃ old, store.find? id = some old ∧
      old.version = expected ∧ (patch.landing old).Valid ∧ new = patch.landing old := by
  cases found : store.find? id with
  | none => simp [update, reachable, found]
  | some old =>
      rw [update_of_available reachable noConflicts found]
      by_cases met : old.version = expected
      · by_cases valid : (patch.landing old).Valid
        · simp [met, valid, eq_comm]
        · simp [met, valid]
      · simp [met]

/-- A write that lands stores the record of the reply. -/
theorem find?_update_of_ok (landed : (store.update id expected patch).1 = .ok new)
    (other : Uuid) : (store.update id expected patch).2.find? other =
      if other = id then some new else store.find? other := by
  have updated := store.update_updated id expected patch
  rw [landed] at updated
  cases updated with
  | landed _ _ changed => exact changed other

/-- A refused write leaves the store as it is, or uses up a pending conflict. -/
theorem metConflict_of_error {failure : StoreFailure}
    (refused : (store.update id expected patch).1 = .error failure) :
    (store.update id expected patch).2 = store ∨
      store.MetConflict id (store.update id expected patch).2 := by
  rcases update_of_error refused with same | ⟨old, found, pending, met⟩
  · exact .inl same
  · have named : old.id = id := id_of_find? found
    have named : old.bumped.id = id := named
    refine .inr ⟨pending, by rw [met]; rfl, old, found, fun other => ?_⟩
    rw [met, find?_put, named]
    rfl

/-- A pending conflict is used up by a write to a record. -/
theorem update_of_pending (reachable : store.failure = none)
    (pending : store.pendingConflicts ≠ 0) (found : store.find? id = some old) :
    (store.update id expected patch).2.pendingConflicts = store.pendingConflicts - 1 ∧
      (expected = old.version → (store.update id expected patch).1 =
        .error (.versionConflict id.toText expected (expected + 1))) ∧
      ∀ new, (store.update id expected patch).1 = .ok new → new = patch.landing old.bumped := by
  simp only [update, reachable, found, meetConflict_of_pending pending]
  have newer := old.version_bumped_ne
  refine ⟨?_, ?_, ?_⟩
  · split
    · rfl
    · split <;> rfl
  · rintro rfl
    rw [if_pos newer]
    rfl
  · intro new
    split
    · rintro ⟨⟩
    · split
      · rintro ⟨⟩
        rfl
      · rintro ⟨⟩

end Owed

/-! ## Sound stores -/

/-- A store whose records are valid. -/
def Sound (store : BreakingPointStore) : Prop :=
  ∀ id point, store.find? id = some point → point.Valid

section Sound

variable {store : BreakingPointStore}

/-- A new store has no records. -/
theorem Sound.empty : ({} : BreakingPointStore).Sound := by
  intro id point found
  cases found

/-- **Every action keeps a store sound.** -/
theorem Sound.act (sound : store.Sound) (action : StoreAction) : (store.act action).Sound := by
  cases action with
  | insert point =>
      rw [act_insert]
      split
      · next accepted =>
          intro id stored found
          rw [find?_put] at found
          split at found
          · obtain rfl := Option.some.inj found
            exact accepted.2
          · exact sound id stored found
      · exact sound
  | update id expected patch =>
      intro other new found
      rcases (store.update_updated id expected patch).becomes other with
        ⟨-, absent⟩ | ⟨old, _, before, after, becomes⟩
      · cases absent.symm.trans found
      · obtain rfl := Option.some.inj (after.symm.trans found)
        exact becomes.valid (sound other old before)
  | injectConflicts count => exact sound
  | setAvailable available => exact sound

/-- A sound store stays sound, whatever is done to it. -/
theorem Sound.play (sound : store.Sound) (actions : List StoreAction) :
    (store.play actions).Sound := by
  induction actions generalizing store with
  | nil => exact sound
  | cons action rest ih => exact ih (sound.act action)

theorem Sound.versioned (sound : store.Sound) : store.Versioned where
  valid := by
    intro point inside
    have found : store.find? point.id = some point := find?_eq_some.mpr ⟨inside, rfl⟩
    exact ⟨sound point.id point found, found⟩
  inserts := fun point => by simp [insert_eq_ok]
  inserted := by
    intro point filled stores other
    obtain ⟨-, rfl⟩ := insert_eq_ok.mp stores
    exact find?_put store point other
  notInserted := by
    intro point failure refused
    simp only [BreakingPointStore.act, refused]
  lands := fun reachable noConflicts _ _ _ _ => update_eq_ok reachable noConflicts
  landed := fun _ _ _ _ landed => find?_update_of_ok landed
  refused := fun _ _ _ _ refused => metConflict_of_error refused
  outrun := fun reachable pending _ _ found _ _ => update_of_pending reachable pending found

end Sound

/-! ## Records between two moments -/

/-- What is found under an identifier some time after a record was found there: a record
that is not older, and is the same if it has the same version. -/
def Lasts (id : Uuid) (old : BreakingPoint) (store : BreakingPointStore) : Prop :=
  ∃ new, store.find? id = some new ∧ old.version.toNat ≤ new.version.toNat ∧
    (new.version = old.version → new = old)

section Lasts

variable {store : BreakingPointStore} {id : Uuid} {old : BreakingPoint}

/-- An action that does not store a new record under an identifier keeps the one that is
there, or counts its version up. -/
theorem becomes_of_act {action : StoreAction} (found : store.find? id = some old)
    (other : ¬ action.Inserts id) :
    ∃ new, (store.act action).find? id = some new ∧ old.Becomes new := by
  cases action with
  | insert point =>
      have apart : id ≠ point.id := fun same => other ⟨point, rfl, same.symm⟩
      refine ⟨old, ?_, .kept⟩
      rw [act_insert]
      split
      · rw [find?_put, if_neg apart, found]
      · exact found
  | update target expected patch =>
      rcases (store.update_updated target expected patch).becomes id with
        ⟨absent, -⟩ | ⟨stored, new, before, after, becomes⟩
      · cases absent.symm.trans found
      · obtain rfl := Option.some.inj (before.symm.trans found)
        exact ⟨new, after, becomes⟩
  | injectConflicts count => exact ⟨old, found, .kept⟩
  | setAvailable available => exact ⟨old, found, .kept⟩

/-- **Between two moments a record lasts**, unless a new one is stored in its place. -/
theorem Lasts.play (lasts : Lasts id old store) {actions : List StoreAction}
    (others : ∀ action ∈ actions, ¬ action.Inserts id)
    (unwrapped : Unwrapped id store actions) : Lasts id old (store.play actions) := by
  induction actions generalizing store with
  | nil => exact lasts
  | cons action rest ih =>
      obtain ⟨stored, found, ordered, same⟩ := lasts
      obtain ⟨new, after, becomes⟩ := becomes_of_act found (others action (by simp))
      have counted := unwrapped.1 stored found new after
      refine ih ⟨new, after, Nat.le_trans ordered counted, fun version => ?_⟩
        (fun action later => others action (List.mem_cons_of_mem _ later)) unwrapped.2
      -- a newer record than the stored one has another version than the first one
      rcases becomes.newer counted with rfl | newer
      · exact same version
      · rw [version] at newer
        omega

/-- A few actions do not count a version of few bits back to zero. -/
theorem unwrapped_of_small {actions : List StoreAction} (found : store.find? id = some old)
    (others : ∀ action ∈ actions, ¬ action.Inserts id)
    (small : old.version.toNat + 2 * actions.length < UInt64.size) :
    Unwrapped id store actions := by
  induction actions generalizing store old with
  | nil => trivial
  | cons action rest ih =>
      obtain ⟨new, after, becomes⟩ := becomes_of_act found (others action (by simp))
      rw [List.length_cons] at small
      have counted : old.version.toNat ≤ new.version.toNat ∧
          new.version.toNat ≤ old.version.toNat + 2 := by
        rcases becomes.version with rfl | ⟨more, some, few, counted⟩
        · omega
        · unfold UInt64.size at counted small
          omega
      refine ⟨?_, ih after (fun action later => others action (List.mem_cons_of_mem _ later))
        (by omega)⟩
      rintro _ before _ later
      obtain rfl := Option.some.inj (before.symm.trans found)
      obtain rfl := Option.some.inj (later.symm.trans after)
      exact counted.1

end Lasts

end BreakingPointStore

/-- **A store is a versioned compare-and-update store, whatever was done to it since it was
new, and versions identify its records**: a record that is found later on with the version
of before is the record of before, when no new one was stored in its place in between and
its version was not counted back to zero. -/
theorem store_is_versioned (earlier later : List StoreAction) :
    let store := BreakingPointStore.play {} earlier
    store.Versioned ∧
      ∀ id old new, store.find? id = some old → (store.play later).find? id = some new →
        (∀ action ∈ later, ¬ action.Inserts id) → store.Unwrapped id later →
        new.version = old.version → new = old := by
  intro store
  refine ⟨(BreakingPointStore.Sound.empty.play earlier).versioned, ?_⟩
  intro id old new before after others unwrapped version
  have begins : store.Lasts id old := ⟨old, before, Nat.le_refl _, fun _ => rfl⟩
  obtain ⟨_, found, -, same⟩ := begins.play others unwrapped
  obtain rfl := Option.some.inj (found.symm.trans after)
  exact same version

namespace Race

/-- The record is stored and its effort written. -/
def filling : List StoreAction := [.insert record, .update carry 0 { effort := some 40 }]

/-- Three writes fail: the first expects an old version, the second finds the store switched
off, and the third is not valid. -/
def refusals : List StoreAction :=
  [.update carry 0 { progress := some 50 }, .setAvailable false,
    .update carry 1 { progress := some 50 }, .setAvailable true,
    .update carry 1 { status := some .resolved }]

end Race

/-- After three writes that fail the record has the version of before, and so it is the
record of before. -/
theorem refusals_keep_version :
    let store := BreakingPointStore.play {} Race.filling
    ∃ old new, store.find? Race.carry = some old ∧ old.effort = 40 ∧ old.version = 1 ∧
      (store.play Race.refusals).find? Race.carry = some new ∧ new.version = 1 ∧ new = old := by
  intro store
  have known : (store.find? Race.carry).map (fun point => (point.effort, point.version)) =
      some (40, 1) := by
    decide +kernel
  have still : ((store.play Race.refusals).find? Race.carry).map (·.version) = some 1 := by
    decide +kernel
  obtain ⟨old, before, kept⟩ := Option.map_eq_some_iff.mp known
  obtain ⟨new, after, version⟩ := Option.map_eq_some_iff.mp still
  obtain ⟨effort, first⟩ := Prod.mk.inj kept
  have others : ∀ action ∈ Race.refusals, ¬ action.Inserts Race.carry := by
    simp [Race.refusals, StoreAction.Inserts]
  have small : old.version.toNat + 2 * Race.refusals.length < UInt64.size := by
    rw [first]
    decide
  exact ⟨old, new, before, effort, first, after, version,
    (store_is_versioned Race.filling Race.refusals).2 Race.carry old new before after others
      (BreakingPointStore.unwrapped_of_small before others small) (version.trans first.symm)⟩

end GolfProgress
