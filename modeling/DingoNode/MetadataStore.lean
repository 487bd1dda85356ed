import Mathlib.Data.List.Basic

/-! The SQLite metadata store: `New` with every error path, `init`, `runVacuum`, and the daily
vacuum timer that `scheduleDailyVacuum` keeps alive. The file system, the SQL driver and the Go
runtime's timers are inputs: each step's outcome is given, and the model records what the code asks
of them. -/

namespace DingoNode

/-- How `os.Stat` answers for the data directory. -/
inductive StatResult
  | ok
  | notExist
  | error (msg : String)
  deriving DecidableEq, Repr

/-- What the file system, the SQL driver and gorm answer during one `New`, each as the error they
return, if any. -/
structure MetadataEnv where
  stat : StatResult
  mkdirAll : Option String
  gormOpen : Option String
  usePlugin : Option String
  autoMigrate : String → Option String

/-- What `New` asks of the file system and the database, in order. -/
inductive MetadataOp
  | stat (path : String)
  | mkdirAll (path : String)
  | gormOpen (dsn : String)
  | usePlugin
  | autoMigrate (table : String)
  deriving DecidableEq, Repr

/-- A runtime timer made by `time.AfterFunc`: waiting, stopped by `Stop`, expired with its
function running, or expired with its function returned. -/
inductive TimerState
  | pending
  | stopped
  | running
  | done
  deriving DecidableEq, Repr

/-- A timer that has fired or will fire its function. -/
def TimerState.live : TimerState → Bool
  | .pending | .running => true
  | .stopped | .done => false

/-- `MetadataStoreSqlite` with the fields its modelled methods read. `timers` are the runtime's
timers, by creation order, that `timerVacuum` indexes; `rawStatements` are the statements handed to
`Raw`, which only builds a statement: with no `Exec` after it, none of them is run. `logger` says
whether the logger is set. -/
structure MetadataStoreSqlite where
  dataDir : String
  logger : Bool
  timerVacuum : Option Nat
  timers : List TimerState
  rawStatements : List String
  deriving DecidableEq, Repr

/-- Whether timer `t` is live. -/
def timerLive (timers : List TimerState) (t : Nat) : Bool :=
  timers[t]?.any TimerState.live

/-- `Timer.Stop`: a pending timer is stopped; one that has expired or was stopped is left alone. -/
def stopTimer (timers : List TimerState) (t : Nat) : List TimerState :=
  if timers[t]? = some .pending then timers.set t .stopped else timers

/-- `scheduleDailyVacuum`: stop the current timer, then start a new one. -/
def MetadataStoreSqlite.scheduleDailyVacuum (d : MetadataStoreSqlite) : MetadataStoreSqlite :=
  let timers := match d.timerVacuum with
    | some t => stopTimer d.timers t
    | none => d.timers
  { d with timers := timers ++ [.pending], timerVacuum := some timers.length }

/-- `runVacuum`, with the error `Raw` reports. -/
def MetadataStoreSqlite.runVacuum (d : MetadataStoreSqlite) (rawError : Option String) :
    MetadataStoreSqlite × Option String :=
  if d.dataDir = "" then (d, none)
  else ({ d with rawStatements := d.rawStatements ++ ["VACUUM"] }, rawError)

/-- `init`: set a discarding logger if none is set, install the tracing plugin, and schedule the
vacuum. -/
def MetadataStoreSqlite.init (env : MetadataEnv) (d : MetadataStoreSqlite) :
    MetadataStoreSqlite × Option String :=
  let d := if d.logger then d else { d with logger := true }
  match env.usePlugin with
  | some e => (d, some e)
  | none => (d.scheduleDailyVacuum, none)

/-- What the runtime does to the vacuum timers: timer `t` expires and starts its function, or the
function of timer `t` returns, after `runVacuum` (whose error it only logs) and the deferred
`scheduleDailyVacuum`. -/
inductive VacuumEvent
  | expire (t : Nat)
  | finish (t : Nat) (rawError : Option String)
  deriving DecidableEq, Repr

def VacuumEvent.isFinish : VacuumEvent → Bool
  | .expire _ => false
  | .finish _ _ => true

/-- One runtime event. The function's own timer is marked returned before the deferred
`scheduleDailyVacuum` runs; its `Stop` of an expired timer does nothing either way. -/
def MetadataStoreSqlite.step (d : MetadataStoreSqlite) : VacuumEvent → Option MetadataStoreSqlite
  | .expire t =>
    if d.timers[t]? = some .pending then some { d with timers := d.timers.set t .running } else none
  | .finish t rawError =>
    if d.timers[t]? = some .running then
      let d := (d.runVacuum rawError).1
      some { d with timers := d.timers.set t .done }.scheduleDailyVacuum
    else none

def MetadataStoreSqlite.run (d : MetadataStoreSqlite) : List VacuumEvent → Option MetadataStoreSqlite
  | [] => some d
  | ev :: evs => (d.step ev).bind fun d => d.run evs

/-! ## One live vacuum timer -/

@[simp] theorem timerLive_append_pending (timers : List TimerState) (u : Nat) :
    timerLive (timers ++ [.pending]) u = (timerLive timers u || u == timers.length) := by
  unfold timerLive
  rcases Nat.lt_trichotomy u timers.length with h | rfl | h
  · simp [List.getElem?_append_left h, Nat.ne_of_lt h]
  · simp [List.getElem?_eq_none (le_refl timers.length), TimerState.live]
  · rw [List.getElem?_append_right (Nat.le_of_lt h), List.getElem?_eq_none (by simp; omega)]
    simp [Nat.ne_of_gt h, List.getElem?_eq_none (Nat.le_of_lt h)]

theorem timerLive_set (timers : List TimerState) (t u : Nat) (st : TimerState) :
    timerLive (timers.set t st) u =
      if t = u ∧ t < timers.length then st.live else timerLive timers u := by
  unfold timerLive
  rw [List.getElem?_set]
  by_cases h : t = u
  · subst h
    by_cases hl : t < timers.length
    · simp [hl]
    · simp [hl, List.getElem?_eq_none (Nat.le_of_not_lt hl)]
  · simp [h]

theorem timerLive_of_getElem? {timers : List TimerState} {t : Nat} {st : TimerState}
    (h : timers[t]? = some st) : timerLive timers t = st.live := by
  simp [timerLive, h]

/-- Exactly one timer is live, the one `timerVacuum` names. -/
def MetadataStoreSqlite.OneLiveTimer (d : MetadataStoreSqlite) : Prop :=
  ∃ t, d.timerVacuum = some t ∧ ∀ u, timerLive d.timers u = true ↔ u = t

/-- Scheduling when no timer is live leaves exactly the new one live. -/
theorem scheduleDailyVacuum_oneLiveTimer {d : MetadataStoreSqlite}
    (h : ∀ u, timerLive d.timers u = false) : d.scheduleDailyVacuum.OneLiveTimer := by
  have hstop : ∀ t, stopTimer d.timers t = d.timers := fun t =>
    if_neg fun hp => by simpa [timerLive_of_getElem? hp, TimerState.live] using h t
  refine ⟨d.timers.length, ?_, fun u => ?_⟩ <;> cases hv : d.timerVacuum <;>
    simp [MetadataStoreSqlite.scheduleDailyVacuum, hv, hstop, h]

@[simp] theorem runVacuum_timers (d : MetadataStoreSqlite) (e : Option String) :
    (d.runVacuum e).1.timers = d.timers ∧ (d.runVacuum e).1.timerVacuum = d.timerVacuum ∧
      (d.runVacuum e).1.dataDir = d.dataDir := by
  unfold MetadataStoreSqlite.runVacuum
  split <;> simp

/-- What one runtime event can do: a pending timer expires, or the function of a running one
returns after the vacuum and the next schedule. -/
theorem step_eq_some {d d' : MetadataStoreSqlite} {ev : VacuumEvent} (hs : d.step ev = some d') :
    (∃ t, ev = .expire t ∧ d.timers[t]? = some .pending ∧
      d' = { d with timers := d.timers.set t .running }) ∨
    (∃ t e, ev = .finish t e ∧ d.timers[t]? = some .running ∧
      d' = { (d.runVacuum e).1 with timers := d.timers.set t .done }.scheduleDailyVacuum) := by
  cases ev with
  | expire t =>
    simp only [MetadataStoreSqlite.step] at hs
    split at hs <;> cases hs
    exact .inl ⟨t, rfl, ‹_›, rfl⟩
  | finish t e =>
    simp only [MetadataStoreSqlite.step] at hs
    split at hs <;> cases hs
    exact .inr ⟨t, e, rfl, ‹_›, by rw [(runVacuum_timers d e).1]⟩

theorem step_oneLiveTimer {d d' : MetadataStoreSqlite} {ev : VacuumEvent} (h : d.OneLiveTimer)
    (hs : d.step ev = some d') : d'.OneLiveTimer := by
  obtain ⟨t₀, hv, hlive⟩ := h
  rcases step_eq_some hs with ⟨t, -, hp, rfl⟩ | ⟨t, e, -, hp, rfl⟩
  all_goals
    obtain rfl : t = t₀ := (hlive t).1 (by simp [timerLive_of_getElem? hp, TimerState.live])
    have hlen : t < d.timers.length := (List.getElem?_eq_some_iff.1 hp).1
  · -- the live timer goes from pending to running
    refine ⟨t, hv, fun u => ?_⟩
    rw [timerLive_set]
    by_cases htu : t = u
    · subst htu
      simp [hlen, TimerState.live]
    · simp [htu, hlive u, Ne.symm htu]
  · -- no timer is live until the deferred schedule starts the next one
    refine scheduleDailyVacuum_oneLiveTimer fun u => ?_
    simp only [runVacuum_timers, timerLive_set]
    by_cases htu : t = u
    · subst htu
      simp [hlen, TimerState.live]
    · simpa [htu] using mt (hlive u).1 (Ne.symm htu)

theorem run_oneLiveTimer {d d' : MetadataStoreSqlite} {evs : List VacuumEvent}
    (h : d.OneLiveTimer) (hr : d.run evs = some d') : d'.OneLiveTimer := by
  induction evs generalizing d with
  | nil => cases hr; exact h
  | cons ev evs ih =>
    obtain ⟨d₁, h₁, hr⟩ := Option.bind_eq_some.1 hr
    exact ih (step_oneLiveTimer h h₁) hr

theorem step_rawStatements {d d' : MetadataStoreSqlite} {ev : VacuumEvent}
    (hs : d.step ev = some d') :
    d'.dataDir = d.dataDir ∧ d'.rawStatements =
      d.rawStatements ++ if d.dataDir = "" ∨ ev.isFinish = false then [] else ["VACUUM"] := by
  rcases step_eq_some hs with ⟨t, rfl, -, rfl⟩ | ⟨t, e, rfl, -, rfl⟩
  · simp [VacuumEvent.isFinish]
  · unfold MetadataStoreSqlite.runVacuum
    split <;> simp [MetadataStoreSqlite.scheduleDailyVacuum, VacuumEvent.isFinish, *]

theorem run_rawStatements {d d' : MetadataStoreSqlite} {evs : List VacuumEvent}
    (hr : d.run evs = some d') :
    d'.dataDir = d.dataDir ∧ d'.rawStatements = d.rawStatements ++
      if d.dataDir = "" then [] else List.replicate (evs.countP VacuumEvent.isFinish) "VACUUM" := by
  induction evs generalizing d with
  | nil => cases hr; simp
  | cons ev evs ih =>
    obtain ⟨d₁, h₁, hr⟩ := Option.bind_eq_some.1 hr
    obtain ⟨hd₁, hs₁⟩ := step_rawStatements h₁
    obtain ⟨hd, hs⟩ := ih hr
    refine ⟨hd.trans hd₁, ?_⟩
    rw [hs, hs₁, hd₁, List.countP_cons]
    by_cases h : d.dataDir = "" <;> cases hf : ev.isFinish <;> simp [h, hf, List.replicate_succ]

/-- The migration loop: each table in order, up to and including the first that fails; the
tables tried and the error. -/
def autoMigrateAll (autoMigrate : String → Option String) :
    List String → List String × Option String
  | [] => ([], none)
  | m :: ms =>
    match autoMigrate m with
    | some e => ([m], some e)
    | none => ((m :: (autoMigrateAll autoMigrate ms).1), (autoMigrateAll autoMigrate ms).2)

theorem autoMigrateAll_eq_none_iff (f : String → Option String) (ms : List String) :
    (autoMigrateAll f ms).2 = none ↔ ∀ m ∈ ms, f m = none := by
  induction ms with
  | nil => simp [autoMigrateAll]
  | cons m ms ih => cases hm : f m <;> simp [autoMigrateAll, hm, ih]

def memoryDsn : String := "file::memory:?cache=shared"

def metadataConnOpts : String :=
  "_pragma=journal_mode(WAL)&_pragma=sync(OFF)&_pragma=cache_size(-50000)"

/-- Lines 113–122 of `New`: make sure the data directory exists. -/
def ensureDataDir (env : MetadataEnv) (dataDir : String) : List MetadataOp × Option String :=
  match env.stat with
  | .ok => ([.stat dataDir], none)
  | .error e => ([.stat dataDir], some ("failed to read data dir: " ++ e))
  | .notExist =>
    match env.mkdirAll with
    | none => ([.stat dataDir, .mkdirAll dataDir], none)
    | some e => ([.stat dataDir, .mkdirAll dataDir], some ("failed to create data dir: " ++ e))

section New

variable (filepathJoin : String → String → String) (migrateModels : List String)

/-- Lines 98–142 of `New`: open the database, in memory for an empty `dataDir`, otherwise in the
data directory, which is created if missing. -/
def openMetadataDb (env : MetadataEnv) (dataDir : String) : List MetadataOp × Option String :=
  if dataDir = "" then ([.gormOpen memoryDsn], env.gormOpen)
  else
    match ensureDataDir env dataDir with
    | (ops, some e) => (ops, some e)
    | (ops, none) =>
      (ops ++ [.gormOpen ("file:" ++ filepathJoin dataDir "metadata.sqlite" ++ "?" ++
        metadataConnOpts)], env.gormOpen)

/-- `New`: the operations performed, the store returned and the error returned. The store is
returned with the error of `init` or of a migration, for recovery; `CommitTimestamp` is migrated
before `models.MigrateModels`. -/
def MetadataStoreSqlite.new (env : MetadataEnv) (dataDir : String) (logger : Bool) :
    List MetadataOp × Option MetadataStoreSqlite × Option String :=
  match openMetadataDb filepathJoin env dataDir with
  | (ops, some e) => (ops, none, some e)
  | (ops, none) =>
    match MetadataStoreSqlite.init env ⟨dataDir, logger, none, [], []⟩ with
    | (db, some e) => (ops ++ [.usePlugin], some db, some e)
    | (db, none) =>
      let migrated := autoMigrateAll env.autoMigrate ("CommitTimestamp" :: migrateModels)
      (ops ++ .usePlugin :: migrated.1.map .autoMigrate, some db, migrated.2)

/-- The data directory is usable: none is needed, it exists, or it was missing and was made. -/
def dataDirReady (env : MetadataEnv) (dataDir : String) : Bool :=
  dataDir == "" ||
    match env.stat with
    | .ok => true
    | .notExist => env.mkdirAll.isNone
    | .error _ => false

theorem openMetadataDb_ok_iff (env : MetadataEnv) (dataDir : String) :
    (openMetadataDb filepathJoin env dataDir).2 = none ↔
      dataDirReady env dataDir = true ∧ env.gormOpen = none := by
  unfold openMetadataDb dataDirReady ensureDataDir
  by_cases h : dataDir = ""
  · simp [h]
  · rcases env.stat with _ | _ | e
    · simp [h]
    · cases env.mkdirAll <;> simp [h]
    · simp [h]

theorem init_fresh (env : MetadataEnv) (dataDir : String) (logger : Bool) :
    MetadataStoreSqlite.init env ⟨dataDir, logger, none, [], []⟩ =
      match env.usePlugin with
      | some e => (⟨dataDir, true, none, [], []⟩, some e)
      | none => (⟨dataDir, true, some 0, [.pending], []⟩, none) := by
  obtain ⟨_, _, _, _ | _, _⟩ := env <;> cases logger <;> rfl

/-- What `New` returns, from the outcome of opening the database and of `init`. -/
theorem new_snd (env : MetadataEnv) (dataDir : String) (logger : Bool) :
    (MetadataStoreSqlite.new filepathJoin migrateModels env dataDir logger).2 =
      match (openMetadataDb filepathJoin env dataDir).2, env.usePlugin with
      | some e, _ => (none, some e)
      | none, some e => (some ⟨dataDir, true, none, [], []⟩, some e)
      | none, none => (some ⟨dataDir, true, some 0, [.pending], []⟩,
          (autoMigrateAll env.autoMigrate ("CommitTimestamp" :: migrateModels)).2) := by
  unfold MetadataStoreSqlite.new
  rw [init_fresh]
  rcases openMetadataDb filepathJoin env dataDir with ⟨ops, _ | e⟩ <;> cases env.usePlugin <;> rfl

/-- `New` returns a store exactly when the database opened, and no error exactly when every step
succeeded. The store it returns has a logger and has run no statement; its vacuum timer is
scheduled exactly when the tracing plugin was installed, so also when a migration then failed. -/
theorem new_store_and_error (env : MetadataEnv) (dataDir : String) (logger : Bool) :
    ((MetadataStoreSqlite.new filepathJoin migrateModels env dataDir logger).2.1.isSome ↔
      dataDirReady env dataDir = true ∧ env.gormOpen = none) ∧
    ((MetadataStoreSqlite.new filepathJoin migrateModels env dataDir logger).2.2 = none ↔
      dataDirReady env dataDir = true ∧ env.gormOpen = none ∧ env.usePlugin = none ∧
        ∀ m ∈ "CommitTimestamp" :: migrateModels, env.autoMigrate m = none) ∧
    ∀ d, (MetadataStoreSqlite.new filepathJoin migrateModels env dataDir logger).2.1 = some d →
      d = if env.usePlugin = none then ⟨dataDir, true, some 0, [.pending], []⟩
        else ⟨dataDir, true, none, [], []⟩ := by
  have hopen := openMetadataDb_ok_iff filepathJoin env dataDir
  rw [new_snd]
  cases ho : (openMetadataDb filepathJoin env dataDir).2 with
  | none =>
    have hok : dataDirReady env dataDir = true ∧ env.gormOpen = none := hopen.1 ho
    cases env.usePlugin <;> simp [hok, autoMigrateAll_eq_none_iff]
  | some e =>
    have hno : dataDirReady env dataDir = true → env.gormOpen ≠ none := fun hr hg =>
      Option.some_ne_none e (ho ▸ hopen.2 ⟨hr, hg⟩)
    simp +contextual [hno]

theorem openMetadataDb_dirs (env : MetadataEnv) (dataDir : String) :
    (∀ p, MetadataOp.stat p ∈ (openMetadataDb filepathJoin env dataDir).1 ↔
      p = dataDir ∧ dataDir ≠ "") ∧
    (∀ p, MetadataOp.mkdirAll p ∈ (openMetadataDb filepathJoin env dataDir).1 →
      p = dataDir ∧ dataDir ≠ "" ∧ env.stat = .notExist) := by
  unfold openMetadataDb ensureDataDir
  by_cases h : dataDir = ""
  · simp [h]
  · rcases hs : env.stat with _ | _ | e
    · simp [h]
    · cases env.mkdirAll <;> simp [h]
    · simp [h]

/-- `New` starts with the operations of opening the database. -/
theorem new_starts_with_open_ops (env : MetadataEnv) (dataDir : String) (logger : Bool) :
    (openMetadataDb filepathJoin env dataDir).1 <+:
      (MetadataStoreSqlite.new filepathJoin migrateModels env dataDir logger).1 := by
  unfold MetadataStoreSqlite.new
  rw [init_fresh]
  rcases openMetadataDb filepathJoin env dataDir with ⟨ops, _ | e⟩
  · cases env.usePlugin <;> exact List.prefix_append _ _
  · exact List.prefix_refl _

/-- After opening the database, `New` only installs the plugin and migrates. -/
theorem new_ops_after_open (env : MetadataEnv) (dataDir : String) (logger : Bool) :
    ∀ op ∈ (MetadataStoreSqlite.new filepathJoin migrateModels env dataDir logger).1,
      op ∈ (openMetadataDb filepathJoin env dataDir).1 ∨ op = .usePlugin ∨
        ∃ t, op = .autoMigrate t := by
  unfold MetadataStoreSqlite.new
  rw [init_fresh]
  rcases openMetadataDb filepathJoin env dataDir with ⟨ops, _ | e⟩
  · cases env.usePlugin <;> simp +contextual [or_imp, forall_and]
  · simp +contextual

/-- `New` looks up the data directory, and nothing else, exactly when it is not in-memory, and
makes only the data directory, only when `Stat` reported it missing. -/
theorem new_makes_dir_only_if_missing (env : MetadataEnv) (dataDir : String) (logger : Bool) :
    (∀ p, MetadataOp.stat p ∈ (MetadataStoreSqlite.new filepathJoin migrateModels env dataDir logger).1 ↔
      p = dataDir ∧ dataDir ≠ "") ∧
    (∀ p, MetadataOp.mkdirAll p ∈ (MetadataStoreSqlite.new filepathJoin migrateModels env dataDir logger).1 →
      p = dataDir ∧ dataDir ≠ "" ∧ env.stat = .notExist) := by
  obtain ⟨hstat, hdir⟩ := openMetadataDb_dirs filepathJoin env dataDir
  have hops := new_ops_after_open filepathJoin migrateModels env dataDir logger
  have hpre := (new_starts_with_open_ops filepathJoin migrateModels env dataDir logger).subset
  -- neither a stat nor a mkdirAll is the plugin or a migration
  refine ⟨fun p => ⟨fun hp => (hstat p).1 ?_, fun hp => hpre ((hstat p).2 hp)⟩, fun p hp => hdir p ?_⟩ <;>
    exact (hops _ hp).resolve_right (by rintro (h | ⟨t, h⟩) <;> cases h)

/-- Once `New` has succeeded, whatever the runtime's timers do, exactly one vacuum timer is live,
the one the store holds: the vacuum stays scheduled and never runs from two timers. `VACUUM` is
handed to `Raw` once per run of the timer's function, and never for an in-memory store. -/
theorem new_keeps_one_vacuum_timer {env : MetadataEnv} {dataDir : String} {logger : Bool}
    {d d' : MetadataStoreSqlite} {evs : List VacuumEvent}
    (hnew : (MetadataStoreSqlite.new filepathJoin migrateModels env dataDir logger).2 = (some d, none))
    (hrun : d.run evs = some d') :
    (∃ t, d'.timerVacuum = some t ∧ ∀ u, timerLive d'.timers u = true ↔ u = t) ∧
      d'.rawStatements =
        if dataDir = "" then [] else List.replicate (evs.countP VacuumEvent.isFinish) "VACUUM" := by
  rw [new_snd] at hnew
  have hd : d = ⟨dataDir, true, some 0, [.pending], []⟩ := by
    cases ho : (openMetadataDb filepathJoin env dataDir).2 <;> cases hu : env.usePlugin <;>
      simp [ho, hu] at hnew
    exact hnew.1.symm
  subst hd
  have hone : MetadataStoreSqlite.OneLiveTimer ⟨dataDir, true, some 0, [.pending], []⟩ :=
    ⟨0, rfl, fun u => by cases u <;> simp [timerLive, TimerState.live]⟩
  exact ⟨run_oneLiveTimer hone hrun, by simpa using (run_rawStatements hrun).2⟩

end New

/-- A store opened in `/data` with every step succeeding, whose first timer expires and runs the
vacuum. -/
theorem vacuum_after_first_daily_run :
    let d := (MetadataStoreSqlite.new (fun dir file => dir ++ "/" ++ file) ["Block"]
      ⟨.ok, none, none, none, fun _ => none⟩ "/data" false).2.1.get rfl
    let d' := (d.run [.expire 0, .finish 0 none]).get rfl
    (∃ t, d'.timerVacuum = some t ∧ ∀ u, timerLive d'.timers u = true ↔ u = t) ∧
      d'.rawStatements = if "/data" = "" then [] else
        List.replicate ([VacuumEvent.expire 0, .finish 0 none].countP VacuumEvent.isFinish) "VACUUM" :=
  @new_keeps_one_vacuum_timer (fun dir file => dir ++ "/" ++ file) ["Block"]
    ⟨.ok, none, none, none, fun _ => none⟩ "/data" false _ _ [.expire 0, .finish 0 none] rfl
    (Option.some_get _).symm

end DingoNode
