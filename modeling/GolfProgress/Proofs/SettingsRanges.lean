import GolfProgress.CommandLine.Run
import GolfProgress.Proofs.HostRuns
import GolfProgress.Proofs.NumberOrder

/-!
# Settings in range

Settings are good when every number is in its documented range and the weights of the
analysis are in order, the soft one not negative and below the hard one.  The check
lets them pass exactly then (`Settings.check_eq_ok`), but for one gap: a weight is
refused only when a comparison says so, and not-a-number compares with nothing, so
weights of which one is not-a-number pass as well (`ConstraintSettings.Incomparable`).

All settings come out of the check or are those of a profile, so the same holds of the
settings in a document and in a file, of those that the surroundings ask for, and of
those with which an analysis runs (`loaded_settings_are_checked`).
-/

set_option autoImplicit false

namespace GolfProgress

/-! ## Ranges -/

/-- Every number of the settings is in its range, the weights apart. -/
structure Settings.InRange (settings : Settings) : Prop where
  perSession : 1 ≤ settings.effort.perSession.toNat ∧ settings.effort.perSession.toNat ≤ 150
  ceiling : 1 ≤ settings.effort.ceiling.toNat ∧ settings.effort.ceiling.toNat ≤ 150
  highEffort :
    1 ≤ settings.transitions.highEffort.toNat ∧ settings.transitions.highEffort.toNat ≤ 150
  unresolvedCap : settings.progress.unresolvedCap.toNat ≤ 99
  stalledDays : 1 ≤ settings.confidence.stalledDays.toNat
  sessions : settings.confidence.forMedium.toNat ≤ settings.confidence.forHigh.toNat
  maxBinding :
    1 ≤ settings.constraints.maxBinding.toNat ∧ settings.constraints.maxBinding.toNat ≤ 50
  maxAttempts : 1 ≤ settings.store.maxAttempts.toNat ∧ settings.store.maxAttempts.toNat ≤ 20

namespace ConstraintSettings

/-- The weights are numbers, the soft one not negative and below the hard one. -/
structure Ordered (settings : ConstraintSettings) : Prop where
  soft : 0 ≤ settings.softWeight
  hard : settings.softWeight < settings.hardWeight

/-- A weight is not-a-number, and none is a negative number. -/
structure Incomparable (settings : ConstraintSettings) : Prop where
  missing : settings.hardWeight.isNaN = true ∨ settings.softWeight.isNaN = true
  soft : ¬ settings.softWeight < 0
  hard : ¬ settings.hardWeight < 0

variable {settings : ConstraintSettings}

theorem Ordered.not_incomparable (ordered : settings.Ordered) : ¬ settings.Incomparable := by
  intro incomparable
  obtain ⟨soft, hard⟩ := Binary64.not_isNaN_of_lt ordered.hard
  have missing := incomparable.missing
  simp [soft, hard] at missing

/-- **No comparison objects to weights exactly when they are in order or not-a-number keeps
them from being compared.** -/
theorem unopposed_iff : (¬ settings.hardWeight ≤ settings.softWeight ∧
    ¬ settings.hardWeight < 0 ∧ ¬ settings.softWeight < 0) ↔
      settings.Ordered ∨ settings.Incomparable := by
  cases hardNumber : settings.hardWeight.isNaN <;> cases softNumber : settings.softWeight.isNaN
  · -- both are numbers, of which the hard one is not negative since the soft one is not
    rw [Binary64.not_le hardNumber softNumber, Binary64.not_lt softNumber Binary64.isNaN_zero,
      Binary64.not_lt hardNumber Binary64.isNaN_zero]
    constructor
    · rintro ⟨less, -, soft⟩
      exact .inl ⟨soft, less⟩
    · rintro (ordered | incomparable)
      · refine ⟨ordered.hard, ?_, ordered.soft⟩
        have soft := (Binary64.le_iff Binary64.isNaN_zero softNumber).mp ordered.soft
        have hard := (Binary64.lt_iff softNumber hardNumber).mp ordered.hard
        exact (Binary64.le_iff Binary64.isNaN_zero hardNumber).mpr (by omega)
      · have missing := incomparable.missing
        simp [hardNumber, softNumber] at missing
  all_goals
    have apart : ¬ settings.hardWeight ≤ settings.softWeight := fun atMost => by
      simpa [hardNumber, softNumber] using Binary64.not_isNaN_of_le atMost
    constructor
    · rintro ⟨-, hard, soft⟩
      exact .inr ⟨by simp [hardNumber, softNumber], soft, hard⟩
    · rintro (ordered | incomparable)
      · have numbers := Binary64.not_isNaN_of_lt ordered.hard
        simp [hardNumber, softNumber] at numbers
      · exact ⟨apart, incomparable.hard, incomparable.soft⟩

end ConstraintSettings

/-- Settings that pass the check. -/
structure Settings.Accepted (settings : Settings) : Prop where
  inRange : settings.InRange
  weights : settings.constraints.Ordered ∨ settings.constraints.Incomparable

theorem Settings.accepted_iff {settings : Settings} : settings.Accepted ↔ settings.InRange ∧
    (settings.constraints.Ordered ∨ settings.constraints.Incomparable) :=
  ⟨fun accepted => ⟨accepted.inRange, accepted.weights⟩, fun ⟨range, weights⟩ => ⟨range, weights⟩⟩

/-! ## The check -/

theorem Violation.ifNot_eq_nil {holds : Bool} {violation : Violation} :
    Violation.ifNot holds violation = [] ↔ holds = true := by
  cases holds <;> simp [Violation.ifNot]

namespace Settings

variable {settings checked : Settings}

theorem violations_eq_nil : settings.violations = [] ↔ settings.Accepted := by
  simp only [violations, EffortSettings.violations, ProgressSettings.violations,
    TransitionSettings.violations, ConfidenceSettings.violations, ConstraintSettings.violations,
    WriteSettings.violations, List.append_eq_nil_iff, List.map_eq_nil_iff,
    Violation.ifNot_eq_nil, Bool.and_eq_true, Bool.not_eq_true', decide_eq_true_eq,
    decide_eq_false_iff_not]
  constructor
  · rintro ⟨⟨⟨⟨⟨⟨sessions, stalledDays⟩, ⟨⟨apart, hard⟩, maxBinding⟩, soft⟩, perSession, ceiling⟩,
      unresolvedCap⟩, maxAttempts⟩, highEffort⟩
    exact ⟨⟨perSession, ceiling, highEffort, unresolvedCap, stalledDays, sessions, maxBinding,
      maxAttempts⟩, ConstraintSettings.unopposed_iff.mp ⟨apart, hard, soft⟩⟩
  · rintro ⟨range, weights⟩
    obtain ⟨apart, hard, soft⟩ := ConstraintSettings.unopposed_iff.mpr weights
    exact ⟨⟨⟨⟨⟨⟨range.sessions, range.stalledDays⟩, ⟨⟨apart, hard⟩, range.maxBinding⟩, soft⟩,
      range.perSession, range.ceiling⟩, range.unresolvedCap⟩, range.maxAttempts⟩,
      range.highEffort⟩

/-- **The check lets settings pass, as they are, exactly when they are accepted.** -/
theorem check_eq_ok : settings.check = .ok checked ↔ checked = settings ∧ settings.Accepted := by
  unfold check
  split
  · next none =>
      rw [Except.ok.injEq, eq_comm, and_iff_left (violations_eq_nil.mp none)]
  · next some =>
      simp only [reduceCtorEq, false_iff, not_and]
      exact fun _ accepted => some (violations_eq_nil.mpr accepted)

theorem accepted_of_check (passed : settings.check = .ok checked) : checked.Accepted := by
  obtain ⟨rfl, accepted⟩ := check_eq_ok.mp passed
  exact accepted

/-! ## Loading -/

/-- A document that reads as good settings holds them. -/
theorem ofYaml_of_read {text : String}
    (read : (Yaml.parse? text).bind (fun document => read? document.top) = some settings)
    (good : settings.violations = []) : ofYaml text = .ok settings := by
  rw [ofYaml, read]
  exact check_eq_ok.mpr ⟨rfl, violations_eq_nil.mp good⟩

theorem accepted_ofYaml {text : String} (read : ofYaml text = .ok checked) :
    checked.Accepted := by
  unfold ofYaml at read
  split at read
  · cases read
  · exact accepted_of_check read

theorem accepted_ofFile {path : String} {content : Option String}
    (read : ofFile path content = .ok checked) : checked.Accepted := by
  cases content with
  | none => cases read
  | some text => exact accepted_ofYaml read

theorem accepted_ofProfile (name : String) : (ofProfile name).Accepted := by
  unfold ofProfile
  split
  · exact violations_eq_nil.mp (by decide +kernel)
  · exact violations_eq_nil.mp (by decide +kernel)

/-- Good settings in a file or not, the surroundings ask for accepted ones. -/
theorem accepted_ofSurroundings {file : Option (Except Failure Settings)}
    (read : ∀ settings, file = some (.ok settings) → settings.Accepted)
    (profile : Option String) : (ofSurroundings file profile).Accepted := by
  unfold ofSurroundings
  split
  · exact read _ rfl
  · exact accepted_ofProfile _

end Settings

/-! ## Commands in memory -/

namespace MemoryHost

/-- What a command comes to in some surroundings, and the surroundings after it. -/
def carryOut {α : Type} (host : MemoryHost)
    (command : ExceptT CommandFailure (StateM MemoryHost) α) :
    Except CommandFailure α × MemoryHost :=
  StateT.run (ExceptT.run command) host

/-- The text in the file that a path leads to. -/
def textAt? (host : MemoryHost) (path : String) : Option String :=
  match host.files.look? path with
  | some (.file content) => Bytes.toText? content
  | _ => none

variable {α β : Type} {host after : MemoryHost}
  {command : ExceptT CommandFailure (StateM MemoryHost) α}
  {next : α → ExceptT CommandFailure (StateM MemoryHost) β}

/-- A command goes on with what its first part comes to. -/
theorem carryOut_bind_ok {value : α} (done : host.carryOut command = (.ok value, after)) :
    host.carryOut (command >>= next) = after.carryOut (next value) :=
  goes_on done

/-- A command ends where its first part fails. -/
theorem carryOut_bind_error {failure : CommandFailure}
    (failed : host.carryOut command = (.error failure, after)) :
    host.carryOut (command >>= next) = (.error failure, after) :=
  stops failed

/-- What a command comes to, if it does not fail, has a property. -/
def Yields (property : α → Prop) (command : ExceptT CommandFailure (StateM MemoryHost) α) : Prop :=
  ∀ (host : MemoryHost) (value : α) (after : MemoryHost),
    host.carryOut command = (.ok value, after) → property value

variable {property : α → Prop} {other : β → Prop}

theorem Yields.pure {value : α} (holds : property value) : Yields property (pure value) := by
  intro host value' after done
  cases done
  exact holds

theorem Yields.throw (failure : CommandFailure) : Yields property (throw failure) := by
  intro host value after done
  cases done

theorem Yields.ofEngine {answer : Except Failure α}
    (holds : ∀ value, answer = .ok value → property value) :
    Yields property (CommandLine.ofEngine answer) := by
  intro host value after done
  cases answer with
  | error failure => cases done
  | ok answered =>
      cases done
      exact holds _ rfl

/-- A step of the surroundings as a part of a command. -/
theorem Yields.lift {step : StateM MemoryHost α}
    (holds : ∀ host, property (StateT.run step host).1) : Yields property (liftM step) := by
  intro host value after done
  cases done
  exact holds host

theorem Yields.bind (first : Yields property command)
    (rest : ∀ value, property value → Yields other (next value)) :
    Yields other (command >>= next) := by
  intro host value after done
  rcases begun : host.carryOut command with ⟨failure | middle, later⟩
  · rw [carryOut_bind_error begun] at done
    cases done
  · rw [carryOut_bind_ok begun] at done
    exact rest middle (first host middle later begun) later value after done

end MemoryHost

namespace CommandLine

variable {host : MemoryHost}

/-- What an analysis does once it has its settings. -/
def analysis {m : Type → Type} [Monad m] [Host m] (request : AnalyzeRequest)
    (settings : Settings) : ExceptT CommandFailure m Unit := do
  let table ← onTables (loadTable request.table)
  let state : AnalysisState TableRequirements := ⟨.ofTable table, {}⟩
  let report ← ofEngine (state.compute .builtin settings.constraints
    (request.player.getD .nil) request.category request.gender request.measurements).1
  sayAll [report.toJson.pretty]

/-- An analysis gets its settings first. -/
theorem analyze_eq {m : Type → Type} [Monad m] [Host m] (request : AnalyzeRequest) :
    analyze (m := m) request = analysisSettings request >>= analysis request := rfl

theorem run_settingsOfFile (path : String) :
    StateT.run (settingsOfFile (m := StateM MemoryHost) path) host =
      (Settings.ofFile path (host.textAt? path), host) := by
  have looked : StateT.run (Host.look? (m := StateM MemoryHost) path) host =
      (host.files.look? path, host) := rfl
  rw [settingsOfFile, StateT.run_bind, looked, MemoryHost.textAt?]
  rcases host.files.look? path with _ | node
  · rfl
  · cases node <;> rfl

theorem run_settingsOrWarning (host : MemoryHost) (path : String) :
    ∃ lines, StateT.run (settingsOrWarning (m := StateM MemoryHost) path) host =
      (Settings.ofFile path (host.textAt? path), host.complaining lines) := by
  rw [settingsOrWarning, StateT.run_bind, run_settingsOfFile]
  cases Settings.ofFile path (host.textAt? path) with
  | ok settings => exact ⟨host.complaints, rfl⟩
  | error failure =>
      exact ⟨(Warning.ignoredSettings path failure).line :: host.complaints, rfl⟩

/-- The surroundings ask for the settings in the file that they name, or of their profile. -/
theorem run_settingsOfSurroundings (host : MemoryHost) :
    (StateT.run (settingsOfSurroundings (m := StateM MemoryHost)) host).1 =
      Settings.ofSurroundings ((host.values.lookup "EVIDENCE_CONFIG").map fun path =>
        Settings.ofFile path (host.textAt? path)) (host.values.lookup "EVIDENCE_PROFILE") := by
  have asked : StateT.run (Host.valueOf? (m := StateM MemoryHost) "EVIDENCE_CONFIG") host =
      (host.values.lookup "EVIDENCE_CONFIG", host) := rfl
  rw [settingsOfSurroundings, StateT.run_bind, asked]
  cases host.values.lookup "EVIDENCE_CONFIG" with
  | none => rfl
  | some path =>
      obtain ⟨lines, warned⟩ := run_settingsOrWarning host path
      change (StateT.run ((some <$> settingsOrWarning (m := StateM MemoryHost) path) >>= _)
        host).1 = _
      rw [StateT.run_bind, StateT.run_map, warned]
      rfl

/-- **The surroundings ask for accepted settings**, whatever is in them. -/
theorem accepted_settingsOfSurroundings (host : MemoryHost) :
    (StateT.run (settingsOfSurroundings (m := StateM MemoryHost)) host).1.Accepted := by
  rw [run_settingsOfSurroundings]
  refine Settings.accepted_ofSurroundings (fun settings read => ?_) _
  obtain ⟨path, -, read⟩ := Option.map_eq_some_iff.mp read
  exact Settings.accepted_ofFile read

/-- The settings with a request's own limit, if it has one, are accepted as those are. -/
theorem yields_limited {settings : Settings} (accepted : settings.Accepted)
    (limit : Option UInt32) :
    MemoryHost.Yields Settings.Accepted (match limit with
      | none => pure settings
      | some limit => ofEngine (withLimit settings limit)) := by
  cases limit with
  | none => exact .pure accepted
  | some limit => exact .ofEngine fun limited good => Settings.accepted_of_check good

/-- **An analysis gets accepted settings or fails.** -/
theorem yields_analysisSettings (request : AnalyzeRequest) :
    MemoryHost.Yields Settings.Accepted (analysisSettings request) := by
  unfold analysisSettings
  cases request.settings with
  | none =>
      refine .bind (.lift accepted_settingsOfSurroundings) fun settings accepted => ?_
      exact yields_limited accepted request.limit
  | some path =>
      have read : MemoryHost.Yields
          (fun file => ∀ settings, file = .ok settings → settings.Accepted)
          (liftM (settingsOfFile (m := StateM MemoryHost) path)) := by
        refine .lift fun host => ?_
        rw [run_settingsOfFile]
        exact fun _ good => Settings.accepted_ofFile good
      refine read.bind fun file good => ?_
      cases file with
      | error failure => exact .throw _
      | ok settings => exact yields_limited (good settings rfl) request.limit

end CommandLine

/-! ## All accepted settings -/

/-- **Settings pass the check exactly when they are in range with weights in order, or with
weights that not-a-number keeps from being compared, and no others get in**: not from a
document or a file, not from the surroundings, and not into an analysis, which goes on
with accepted settings or fails.  So it is for settings in range with such weights alone
that the check does not tell whether they are in range and in order. -/
theorem loaded_settings_are_checked (settings checked : Settings) (host : MemoryHost)
    (request : AnalyzeRequest) :
    (settings.check = .ok checked ↔ checked = settings ∧ settings.InRange ∧
      (settings.constraints.Ordered ∨ settings.constraints.Incomparable)) ∧
    ((settings.check = .ok settings ↔ settings.InRange ∧ settings.constraints.Ordered) ↔
      ¬ (settings.InRange ∧ settings.constraints.Incomparable)) ∧
    (∀ text, Settings.ofYaml text = .ok checked → checked.Accepted) ∧
    (∀ path content, Settings.ofFile path content = .ok checked → checked.Accepted) ∧
    (StateT.run (CommandLine.settingsOfSurroundings
      (m := StateM MemoryHost)) host).1.Accepted ∧
    ((∃ used after, host.carryOut (CommandLine.analysisSettings request) = (.ok used, after) ∧
        used.Accepted ∧
        host.carryOut (CommandLine.analyze request) =
          after.carryOut (CommandLine.analysis request used)) ∨
      ∃ failure after, host.carryOut (CommandLine.analysisSettings request) =
          (.error failure, after) ∧
        host.carryOut (CommandLine.analyze request) = (.error failure, after)) := by
  refine ⟨?_, ?_, fun text => Settings.accepted_ofYaml,
    fun path content => Settings.accepted_ofFile,
    CommandLine.accepted_settingsOfSurroundings host, ?_⟩
  · rw [Settings.check_eq_ok, Settings.accepted_iff]
  · rw [Settings.check_eq_ok, Settings.accepted_iff, and_iff_right rfl]
    constructor
    · rintro exactly ⟨range, incomparable⟩
      exact (exactly.mp ⟨range, .inr incomparable⟩).2.not_incomparable incomparable
    · intro apart
      exact and_congr_right fun range => or_iff_left fun incomparable => apart ⟨range, incomparable⟩
  · rw [CommandLine.analyze_eq]
    rcases got : host.carryOut (CommandLine.analysisSettings request) with
      ⟨failure | used, after⟩
    · exact .inr ⟨failure, after, rfl, MemoryHost.carryOut_bind_error got⟩
    · exact .inl ⟨used, after, rfl,
        CommandLine.yields_analysisSettings request host used after got,
        MemoryHost.carryOut_bind_ok got⟩

/-- A document that limits the reported constraints to seven holds accepted settings. -/
theorem seven_constraints_accepted :
    ∃ settings, Settings.ofYaml "constraints:\n  max_binding_constraints: 7\n" = .ok settings ∧
      settings.constraints.maxBinding = 7 ∧ settings.Accepted := by
  let settings : Settings := { constraints := { maxBinding := 7 } }
  have loaded : Settings.ofYaml "constraints:\n  max_binding_constraints: 7\n" = .ok settings :=
    Settings.ofYaml_of_read (by decide +kernel) (by decide +kernel)
  obtain ⟨-, -, documents, -⟩ := loaded_settings_are_checked settings settings
    { clock := default } { table := "table.json", category := .b, gender := .male }
  exact ⟨settings, loaded, rfl, documents _ loaded⟩

/-- A hard weight that is not-a-number passes the check, although it is not above the soft
one. -/
theorem incomparable_weight_passes :
    ∃ settings : Settings, Settings.ofYaml "constraints:\n  hard_weight: .nan\n" = .ok settings ∧
      settings.check = .ok settings ∧ ¬ settings.constraints.Ordered := by
  let settings : Settings := { constraints := { hardWeight := .nan } }
  have good : settings.violations = [] := by decide +kernel
  refine ⟨settings, Settings.ofYaml_of_read (by decide +kernel) good,
    Settings.check_eq_ok.mpr ⟨rfl, Settings.violations_eq_nil.mp good⟩, fun ordered => ?_⟩
  exact ordered.not_incomparable ⟨.inl rfl, by decide +kernel, by decide +kernel⟩

end GolfProgress
