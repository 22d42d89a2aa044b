import GolfProgress.Tracker.Program

/-!
# What an update does to the records

An update either leaves every record as it was, or finds that a pending conflict
has bumped the version of its record, or lands.  A landed update replaces one
record by a valid one: the old record with the patch written over it and the
version after the expected one (`Landing`).  `Updated` is that case distinction,
`update_updated` says that it covers every update of a store, and
`perform_update_updated` says the same of a workspace that no rival writes to.

While the store is available and no conflict is pending, the reply is decided by
the version and the validity alone (`update_of_available`).
-/

set_option autoImplicit false

namespace GolfProgress

/-! ## Records by identifier -/

namespace BreakingPointStore

theorem id_of_find? {store : BreakingPointStore} {id : Uuid} {point : BreakingPoint}
    (found : store.find? id = some point) : point.id = id := by
  simpa using List.find?_some found

/-- A record that is put is found under its identifier, and the others are found
as before. -/
theorem find?_put (store : BreakingPointStore) (point : BreakingPoint) (id : Uuid) :
    (store.put point).find? id = if id = point.id then some point else store.find? id := by
  change (store.recordsWith point).find? (fun stored => stored.id = id) = _
  unfold recordsWith
  by_cases known : (store.find? point.id).isSome
  · rw [if_pos known]
    -- replacing keeps the identifiers, so the same place of the list is found
    have places : ((fun stored : BreakingPoint => decide (stored.id = id)) ∘
        fun stored => if stored.id = point.id then point else stored) =
        fun stored => decide (stored.id = id) := by
      funext stored
      by_cases same : stored.id = point.id <;> simp [same]
    rw [List.find?_map, places]
    change (store.find? id).map _ = _
    by_cases same : id = point.id
    · subst same
      obtain ⟨stored, found⟩ := Option.isSome_iff_exists.mp known
      simp [found, id_of_find? found]
    · cases found : store.find? id with
      | none => simp [same]
      | some stored => simp [same, id_of_find? found]
  · have unknown : store.find? point.id = none := by simpa using known
    rw [if_neg known, List.find?_append]
    change (store.find? id).or _ = _
    by_cases same : id = point.id
    · simp [same, unknown]
    · simp [same, Ne.symm same]

end BreakingPointStore

/-! ## Bumps and landings -/

/-- A record whose version was counted up and nothing else. -/
def BreakingPoint.bumped (point : BreakingPoint) : BreakingPoint :=
  { point with version := point.version + 1 }

/-- A record with a patch written over it and its version counted up. -/
def Patch.landing (patch : Patch) (point : BreakingPoint) : BreakingPoint :=
  { patch.apply point with version := point.version + 1 }

/-- How an update that lands replaces a record: it meets the expected version,
perhaps only after a pending conflict has bumped the record. -/
structure Landing (expected : UInt64) (patch : Patch) (old new : BreakingPoint) : Prop where
  met : old.version = expected ∨ old.bumped.version = expected
  written : new = { patch.apply old with version := expected + 1 }
  valid : new.Valid

/-- What a bump or a landing makes of a record, if anything. -/
inductive BreakingPoint.Becomes (old : BreakingPoint) : BreakingPoint → Prop where
  | kept : Becomes old old
  | bumped : Becomes old old.bumped
  | landed {expected : UInt64} {patch : Patch} {new : BreakingPoint}
      (landing : Landing expected patch old new) : Becomes old new

/-- What an update makes of the records of a store, with its reply. -/
inductive Updated (before : Uuid → Option BreakingPoint) (id : Uuid) (expected : UInt64)
    (patch : Patch) :
    Except StoreFailure BreakingPoint → (Uuid → Option BreakingPoint) → Prop where
  /-- Nothing was written. -/
  | refused {failure : StoreFailure} : Updated before id expected patch (.error failure) before
  /-- Nothing was written, but a pending conflict bumped the record. -/
  | outrun {failure : StoreFailure} {old : BreakingPoint} {after : Uuid → Option BreakingPoint}
      (found : before id = some old)
      (changed : ∀ other, after other = if other = id then some old.bumped else before other) :
      Updated before id expected patch (.error failure) after
  /-- The patch was written. -/
  | landed {old new : BreakingPoint} {after : Uuid → Option BreakingPoint}
      (found : before id = some old) (landing : Landing expected patch old new)
      (changed : ∀ other, after other = if other = id then some new else before other) :
      Updated before id expected patch (.ok new) after

/-- Under each identifier an update keeps a record, bumps it or lands on it. -/
theorem Updated.change {before after : Uuid → Option BreakingPoint} {id : Uuid}
    {expected : UInt64} {patch : Patch} {reply : Except StoreFailure BreakingPoint}
    (updated : Updated before id expected patch reply after) (other : Uuid) :
    (before other = none ∧ after other = none) ∨
      ∃ old new, before other = some old ∧ after other = some new ∧
        (new = old ∨ new = old.bumped ∨
          (other = id ∧ Landing expected patch old new ∧ reply = .ok new)) := by
  -- what is not changed is kept
  have kept (same : after other = before other) : (before other = none ∧ after other = none) ∨
      ∃ old new, before other = some old ∧ after other = some new ∧
        (new = old ∨ new = old.bumped ∨
          (other = id ∧ Landing expected patch old new ∧ reply = .ok new)) := by
    cases found : before other with
    | none => exact .inl ⟨rfl, same.trans found⟩
    | some old => exact .inr ⟨old, old, rfl, same.trans found, .inl rfl⟩
  cases updated with
  | refused => exact kept rfl
  | @outrun _ old _ found changed =>
      by_cases same : other = id
      · subst same
        exact .inr ⟨old, old.bumped, found, by simp [changed], .inr (.inl rfl)⟩
      · exact kept (by simp [changed, same])
  | @landed old new _ found landing changed =>
      by_cases same : other = id
      · subst same
        exact .inr ⟨old, new, found, by simp [changed], .inr (.inr ⟨rfl, landing, rfl⟩)⟩
      · exact kept (by simp [changed, same])

/-- Under every other identifier an update keeps what is there. -/
theorem Updated.kept {before after : Uuid → Option BreakingPoint} {id other : Uuid}
    {expected : UInt64} {patch : Patch} {reply : Except StoreFailure BreakingPoint}
    (updated : Updated before id expected patch reply after) (apart : other ≠ id) :
    after other = before other := by
  cases updated with
  | refused => rfl
  | outrun _ changed => rw [changed, if_neg apart]
  | landed _ _ changed => rw [changed, if_neg apart]

/-- What becomes of a valid record by a write is valid. -/
theorem BreakingPoint.Becomes.valid {old new : BreakingPoint} (becomes : old.Becomes new)
    (valid : old.Valid) : new.Valid := by
  cases becomes with
  | kept => exact valid
  | bumped => exact valid
  | landed landing => exact landing.valid

/-- Under each identifier an update makes a record of the one that was there. -/
theorem Updated.becomes {before after : Uuid → Option BreakingPoint} {id : Uuid}
    {expected : UInt64} {patch : Patch} {reply : Except StoreFailure BreakingPoint}
    (updated : Updated before id expected patch reply after) (other : Uuid) :
    (before other = none ∧ after other = none) ∨
      ∃ old new, before other = some old ∧ after other = some new ∧ old.Becomes new := by
  rcases updated.change other with absent | ⟨old, new, found, changed, change⟩
  · exact .inl absent
  · refine .inr ⟨old, new, found, changed, ?_⟩
    rcases change with rfl | rfl | ⟨-, landing, -⟩
    · exact .kept
    · exact .bumped
    · exact .landed landing

namespace BreakingPointStore

variable {store : BreakingPointStore} {id : Uuid} {point : BreakingPoint}

/-- A record is read when the store answers and has it. -/
theorem get_eq_some :
    store.get id = .ok (some point) ↔ store.failure = none ∧ store.find? id = some point := by
  unfold get
  cases store.failure <;> simp

theorem meetConflict_of_none (none : store.pendingConflicts = 0) :
    store.meetConflict point = (point, store) := by simp [meetConflict, none]

theorem meetConflict_of_pending (pending : store.pendingConflicts ≠ 0) :
    store.meetConflict point =
      (point.bumped,
        { store with pendingConflicts := store.pendingConflicts - 1 }.put point.bumped) := by
  simp [meetConflict, pending, BreakingPoint.bumped]

/-- **An update is refused, outrun or landed**, whatever the state of the store. -/
theorem update_updated (store : BreakingPointStore) (id : Uuid) (expected : UInt64)
    (patch : Patch) :
    Updated store.find? id expected patch (store.update id expected patch).1
      (store.update id expected patch).2.find? := by
  unfold update
  cases store.failure with
  | some failure => exact .refused
  | none =>
      cases found : store.find? id with
      | none => exact .refused
      | some point =>
          have named : point.id = id := id_of_find? found
          by_cases none : store.pendingConflicts = 0
          · simp only [meetConflict_of_none none]
            split
            · exact .refused
            · next version =>
                have version : point.version = expected := by simpa using version
                split
                · next valid =>
                    refine .landed found ⟨.inl version, by rw [← version], valid⟩ fun other => ?_
                    simp [find?_put, Patch.apply, named]
                · exact .refused
          · -- the conflict is met first, so the expected version is that of the bumped record
            simp only [meetConflict_of_pending none]
            have bumped : ∀ other,
                ({ store with pendingConflicts := store.pendingConflicts - 1 }.put
                  point.bumped).find? other =
                  if other = id then some point.bumped else store.find? other := by
              intro other
              have kept : point.bumped.id = id := named
              rw [find?_put, kept]
              rfl
            split
            · exact .outrun found bumped
            · next version =>
                have version : point.bumped.version = expected := by simpa using version
                split
                · next valid =>
                    refine .landed found ⟨.inr version, ?_, valid⟩ fun other => ?_
                    · rw [← version]; rfl
                    · rw [find?_put, bumped]
                      by_cases same : other = id <;>
                        simp [same, Patch.apply, BreakingPoint.bumped, named]
                · exact .outrun found bumped

/-- In a store that answers and has no pending conflict, the version and the
validity alone decide about an update. -/
theorem update_of_available (reachable : store.failure = none)
    (noConflicts : store.pendingConflicts = 0) (found : store.find? id = some point)
    (expected : UInt64) (patch : Patch) :
    store.update id expected patch =
      if point.version ≠ expected then
        (.error (.versionConflict id.toText expected point.version), store)
      else if (patch.landing point).Valid then
        (.ok (patch.landing point), store.put (patch.landing point))
      else (.error (invalid (patch.landing point).violations), store) := by
  simp only [update, reachable, found, meetConflict_of_none noConflicts]
  rfl

/-- A refused update leaves the store as it is, or has used up a pending conflict that
bumped the record. -/
theorem update_of_error {expected : UInt64} {patch : Patch} {failure : StoreFailure}
    (refused : (store.update id expected patch).1 = .error failure) :
    (store.update id expected patch).2 = store ∨
      ∃ point, store.find? id = some point ∧ store.pendingConflicts ≠ 0 ∧
        (store.update id expected patch).2 =
          { store with pendingConflicts := store.pendingConflicts - 1 }.put point.bumped := by
  unfold update at refused ⊢
  cases failing : store.failure with
  | some failure => exact .inl rfl
  | none =>
      simp only [failing] at refused ⊢
      cases found : store.find? id with
      | none => exact .inl rfl
      | some point =>
          simp only [found] at refused ⊢
          by_cases none : store.pendingConflicts = 0
          · simp only [meetConflict_of_none none] at refused ⊢
            split at refused
            · next outrun => simp [outrun]
            · next met =>
                split at refused
                · cases refused
                · next invalid => simp [met, invalid]
          · simp only [meetConflict_of_pending none] at refused ⊢
            refine .inr ⟨point, rfl, none, ?_⟩
            split at refused
            · next outrun => simp [outrun, failing]
            · next met =>
                split at refused
                · cases refused
                · next invalid => simp [met, invalid, failing]

end BreakingPointStore

/-! ## Updates of a workspace -/

namespace Workspace

variable {workspace : Workspace} {id : Uuid} {expected : UInt64} {patch : Patch}

/-- The record of an identifier, whatever the state of the store. -/
def record? (workspace : Workspace) (id : Uuid) : Option BreakingPoint := workspace.store.find? id

theorem record?_of_get {point : BreakingPoint}
    (read : workspace.store.get id = .ok (some point)) : workspace.record? id = some point :=
  (BreakingPointStore.get_eq_some.mp read).2

theorem meetRival_of_none (alone : workspace.rivals = []) : workspace.meetRival = workspace := by
  simp [meetRival, alone]

/-- **In a workspace that no rival writes to, an update is refused, outrun or
landed.** -/
theorem perform_update_updated (alone : workspace.rivals = []) (id : Uuid) (expected : UInt64)
    (patch : Patch) :
    Updated workspace.record? id expected patch (workspace.perform (.update id expected patch)).1
      (workspace.perform (.update id expected patch)).2.record? := by
  simp only [perform, meetRival_of_none alone]
  cases workspace.updateFailure with
  | some failure => exact .refused
  | none => exact workspace.store.update_updated id expected patch

theorem rivals_perform (alone : workspace.rivals = []) (request : Call) :
    (workspace.perform request).2.rivals = [] := by
  cases request with
  | update id expected patch =>
      simp only [perform, meetRival_of_none alone]
      cases workspace.updateFailure <;> exact alone
  | get | list | count | latest => exact alone

theorem perform_of_not_update {request : Call}
    (reads : ∀ id expected patch, request ≠ .update id expected patch) :
    (workspace.perform request).2 = workspace := by
  cases request with
  | update id expected patch => exact absurd rfl (reads id expected patch)
  | get | list | count | latest => rfl

theorem perform_get_of_reachable (reachable : workspace.store.failure = none) (id : Uuid) :
    workspace.perform (.get id) = (.ok (workspace.record? id), workspace) := by
  change (workspace.store.get id, workspace) = _
  rw [BreakingPointStore.get, reachable]
  rfl

/-- A workspace whose store answers, and in which nothing gets in before an
update. -/
structure Available (workspace : Workspace) : Prop where
  reachable : workspace.store.failure = none
  noConflicts : workspace.store.pendingConflicts = 0
  noRivals : workspace.rivals = []
  writable : workspace.updateFailure = none

theorem Available.perform_get (available : workspace.Available) (id : Uuid) :
    workspace.perform (.get id) = (.ok (workspace.record? id), workspace) :=
  perform_get_of_reachable available.reachable id

/-- Without rivals and with writable updates, the store alone answers an update. -/
theorem perform_update_of_writable (alone : workspace.rivals = [])
    (writable : workspace.updateFailure = none) (id : Uuid) (expected : UInt64) (patch : Patch) :
    workspace.perform (.update id expected patch) =
      ((workspace.store.update id expected patch).1,
        { workspace with store := (workspace.store.update id expected patch).2 }) := by
  simp only [perform, meetRival_of_none alone]
  split
  · next failure => simp [failure] at writable
  · rfl

/-- In an available workspace the version and the validity alone decide about an
update: on another version than the expected one it meets a version conflict, and
on that version it lands when the patched record is valid.  Where it does not land
the workspace is unchanged. -/
theorem Available.perform_update (available : workspace.Available) {point : BreakingPoint}
    (found : workspace.record? id = some point) (expected : UInt64) (patch : Patch) :
    workspace.perform (.update id expected patch) =
      if point.version ≠ expected then
        (.error (.versionConflict id.toText expected point.version), workspace)
      else if (patch.landing point).Valid then
        (.ok (patch.landing point),
          { workspace with store := workspace.store.put (patch.landing point) })
      else
        (.error (BreakingPointStore.invalid (patch.landing point).violations), workspace) := by
  rw [perform_update_of_writable available.noRivals available.writable,
    BreakingPointStore.update_of_available available.reachable available.noConflicts found]
  split
  · rfl
  · split <;> rfl

theorem Available.perform_update_unknown (available : workspace.Available)
    (unknown : workspace.record? id = none) (expected : UInt64) (patch : Patch) :
    workspace.perform (.update id expected patch) = (.error (.notFound id.toText), workspace) := by
  have unknown : workspace.store.find? id = none := unknown
  have refused : workspace.store.update id expected patch =
      (.error (.notFound id.toText), workspace.store) := by
    simp [BreakingPointStore.update, available.reachable, unknown]
  rw [perform_update_of_writable available.noRivals available.writable, refused]
  rfl

theorem Available.perform (available : workspace.Available) (request : Call) :
    (workspace.perform request).2.Available := by
  cases request with
  | get | list | count | latest => exact available
  | update id expected patch =>
      cases found : workspace.record? id with
      | none =>
          rw [available.perform_update_unknown found]
          exact available
      | some point =>
          rw [available.perform_update found]
          split
          · exact available
          · split
            · exact ⟨available.reachable, available.noConflicts, available.noRivals,
                available.writable⟩
            · exact available

theorem Available.perform_of_error (available : workspace.Available) {failure : StoreFailure}
    (refused : (workspace.perform (.update id expected patch)).1 = .error failure) :
    (workspace.perform (.update id expected patch)).2 = workspace := by
  cases found : workspace.record? id with
  | none => rw [available.perform_update_unknown found]
  | some point =>
      rw [available.perform_update found] at refused ⊢
      split at refused
      · next conflict => simp [conflict]
      · next met =>
          split at refused
          · cases refused
          · next invalid => simp [met, invalid]

/-- In an available workspace an update that lands writes the record that it answers
with, and no other. -/
theorem Available.record?_of_ok (available : workspace.Available) {record : BreakingPoint}
    (replied : (workspace.perform (.update id expected patch)).1 = .ok record) (other : Uuid) :
    (workspace.perform (.update id expected patch)).2.record? other =
      if other = record.id then some record else workspace.record? other := by
  cases found : workspace.record? id with
  | none =>
      rw [available.perform_update_unknown found] at replied
      cases replied
  | some point =>
      rw [available.perform_update found] at replied ⊢
      split at replied
      · cases replied
      · next met =>
          split at replied
          · next valid =>
              obtain rfl := Except.ok.inj replied
              rw [if_neg met, if_pos valid]
              exact workspace.store.find?_put _ other
          · cases replied

/-- The reply to an update depends on an available workspace only through the record. -/
theorem Available.reply_update (available : workspace.Available) {other : Workspace}
    (otherwise : other.Available) (record : workspace.record? id = other.record? id)
    (expected : UInt64) (patch : Patch) :
    (workspace.perform (.update id expected patch)).1 =
      (other.perform (.update id expected patch)).1 := by
  cases found : other.record? id with
  | none =>
      rw [available.perform_update_unknown (record.trans found),
        otherwise.perform_update_unknown found]
  | some stored =>
      rw [available.perform_update (record.trans found), otherwise.perform_update found]
      split
      · rfl
      · split <;> rfl

theorem sessions_perform (workspace : Workspace) (request : Call) :
    (workspace.perform request).2.sessions = workspace.sessions := by
  cases request with
  | get | list | count | latest => rfl
  | update id expected patch =>
      have met : workspace.meetRival.sessions = workspace.sessions := by
        unfold meetRival
        split <;> rfl
      simp only [Workspace.perform]
      split <;> exact met

end Workspace

end GolfProgress
