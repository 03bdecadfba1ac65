import RemoteRollout.Proofs.Startup.Validation

/-!
# What a start-up leaves in the log

Loading a map leaves one event above the debug level (`countAt_load`): a valid map is reported, and a
fault is an error. Only of a file that cannot be read the loading itself tells nothing; the cache has
warned of it. So a refused start-up is found among the errors of the log if the file of the map at
fault could be read, and only then (`start_traced`).
-/

namespace RemoteRollout

/-! ## Events -/

/-- How many of the events have this level. -/
def Event.countAt (level : Level) (events : List Event) : Nat :=
  events.countP fun e => e.level = level

namespace Event

variable {level : Level}

@[simp]
theorem countAt_cons (e : Event) (es : List Event) :
    countAt level (e :: es) = countAt level es + if e.level = level then 1 else 0 := by
  simp [countAt, List.countP_cons]

@[simp]
theorem countAt_append (es fs : List Event) :
    countAt level (es ++ fs) = countAt level es + countAt level fs := List.countP_append

end Event

open Event (countAt)

/-! ## One map -/

/-- The cache warns of what it cannot read, and of nothing else. -/
theorem Cache.level_get (store : FileStore) (c : Cache) (p : Path) :
    (c.get store p).2.2.level = if (c.get store p).1.isSome then .debug else .warn := by
  unfold get
  cases c.entries.get? p with
  | some bytes => rfl
  | none => cases store.read p <;> rfl

/-- The level of the event that tells of the fault. -/
def LoadFault.level : LoadFault → Level
  | absent _ => .warn
  | undecodable .. | invalid _ => .error

theorem LoadFault.countAt_events {level : Level} (f : LoadFault) :
    countAt level f.events = if f.level = .error ∧ level = .error then 1 else 0 := by
  cases f <;> cases level <;> rfl

namespace ClusterMap

variable {root : Path} {name : String} {store : FileStore} {c : Cache}

/-- The cache tells of the file, and then its map is reported or its fault. -/
theorem load_events (root : Path) (name : String) (store : FileStore) (c : Cache) :
    (load root name store c).events =
      (c.get store (root.join name)).2.2 ::
        match (load root name store c).result with
        | .ok m => [validEvent (root.join name) m]
        | .error fault => fault.events := by
  dsimp only [load]
  rcases c.get store (root.join name) with ⟨_ | bytes, after, event⟩
  · rfl
  · dsimp only
    cases ofBytes root (root.join name) store bytes with
    | error fault => rfl
    | ok m => rfl

theorem level_of_ofBytes {path : Path} {bytes : Bytes} {fault : LoadFault}
    (h : ofBytes root path store bytes = .error fault) : fault.level = .error := by
  unfold ofBytes at h
  split at h
  · cases h
    rfl
  · next rows _ =>
    cases hbuild : build root rows store with
    | ok m =>
      rw [hbuild] at h
      cases h
    | error f =>
      rw [hbuild] at h
      cases h
      rfl

/-- A fault is an error, unless the file is neither kept nor in the store. -/
theorem level_of_load {fault : LoadFault} (h : (load root name store c).result = .error fault) :
    fault.level = if (c.get store (root.join name)).1.isSome then .error else .warn := by
  rw [load_result] at h
  cases hbytes : (c.get store (root.join name)).1 with
  | none =>
    rw [hbytes] at h
    cases h
    rfl
  | some bytes =>
    rw [hbytes] at h
    exact level_of_ofBytes h

/-- The file of a map that has been loaded could be read. -/
theorem isSome_get_of_load {m : ClusterMap} (h : (load root name store c).result = .ok m) :
    (c.get store (root.join name)).1.isSome = true := by
  rw [load_result] at h
  cases hbytes : (c.get store (root.join name)).1 with
  | none =>
    rw [hbytes] at h
    cases h
  | some bytes => rfl

/-- The level of the one event above the debug level that loading a map leaves. -/
def traceLevel : Except LoadFault ClusterMap → Level
  | .ok _ => .info
  | .error fault => fault.level

theorem countAt_load {level : Level} (hlevel : level ≠ .debug) (root : Path) (name : String)
    (store : FileStore) (c : Cache) :
    countAt level (load root name store c).events =
      if traceLevel (load root name store c).result = level then 1 else 0 := by
  rw [load_events, Event.countAt_cons, Cache.level_get]
  cases hresult : (load root name store c).result with
  | ok m =>
    rw [isSome_get_of_load hresult]
    cases level with
    | debug => exact absurd rfl hlevel
    | error | warn | info => rfl
  | error fault =>
    -- Either the cache warns and the fault has no event of its own, or it is the other way round.
    rw [traceLevel, level_of_load hresult, LoadFault.countAt_events, level_of_load hresult]
    cases (c.get store (root.join name)).1.isSome with
    | false | true =>
      cases level with
      | debug => exact absurd rfl hlevel
      | error | warn | info => rfl

/-- What the log tells of loading a map from the file with this path, which gave these bytes. -/
inductive Traced (p : Path) (bytes? : Option Bytes) (l : Loaded) : Prop where
  | valid {m : ClusterMap} (h : l.result = .ok m) (herror : countAt .error l.events = 0)
      (hinfo : countAt .info l.events = 1) (hvalid : validEvent p m ∈ l.events)
  | refused {fault : LoadFault} (hread : bytes?.isSome) (h : l.result = .error fault)
      (hkind : fault.error.kind = .configInvalid) (herror : countAt .error l.events = 1)
      (hinfo : countAt .info l.events = 0)
  | unread {fault : LoadFault} (hread : bytes? = none) (h : l.result = .error fault)
      (hkind : fault.error.kind = .configInvalid) (herror : countAt .error l.events = 0)
      (hwarn : countAt .warn l.events = 1) (hinfo : countAt .info l.events = 0)

theorem load_traced (root : Path) (name : String) (store : FileStore) (c : Cache) :
    Traced (root.join name) (c.get store (root.join name)).1 (load root name store c) := by
  have hcount := fun (level : Level) (hlevel : level ≠ .debug) =>
    countAt_load hlevel root name store c
  cases hresult : (load root name store c).result with
  | ok m =>
    have hvalid : validEvent (root.join name) m ∈ (load root name store c).events := by
      rw [load_events, hresult]
      exact List.mem_cons_of_mem _ List.mem_cons_self
    simp only [hresult, traceLevel] at hcount
    exact .valid hresult (hcount .error (by decide)) (hcount .info (by decide)) hvalid
  | error fault =>
    have hlevel := level_of_load hresult
    simp only [hresult, traceLevel] at hcount
    cases hread : (c.get store (root.join name)).1 with
    | none =>
      rw [hread] at hlevel
      simp only [hlevel, Option.isSome_none, Bool.false_eq_true, if_false] at hcount
      exact .unread rfl hresult rfl (hcount .error (by decide)) (hcount .warn (by decide))
        (hcount .info (by decide))
    | some bytes =>
      rw [hread] at hlevel
      simp only [hlevel, Option.isSome_some, if_true] at hcount
      exact .refused rfl hresult rfl (hcount .error (by decide)) (hcount .info (by decide))

end ClusterMap

/-! ## Start-ups -/

namespace Startup

variable {storage : StorageSettings} {store : FileStore}

/-- The file with the map of a cohort can be read. -/
def Readable (storage : StorageSettings) (store : FileStore) (cohort : Cohort) : Prop :=
  ∃ bytes, store.read (mappingPath storage cohort) = .ok bytes

/-- The file of the first map that has a fault cannot be read. -/
def Unread (storage : StorageSettings) (store : FileStore) : Prop :=
  ¬ Readable storage store .stable ∨
    (∃ m, loadedAlone storage store .stable = .ok m) ∧ ¬ Readable storage store .canary

/-- The maps of a start-up leave one event above the levels of reports, if one of them has a fault. -/
theorem countAt_loadMaps {level : Level} (hdebug : level ≠ .debug) (hinfo : level ≠ .info)
    (stableRoot canaryRoot : Path) (name : String) (store : FileStore) (c : Cache) :
    countAt level (loadMaps stableRoot canaryRoot name store c).events =
      match (loadMaps stableRoot canaryRoot name store c).result with
      | .ok _ => 0
      | .error fault => if fault.level = level then 1 else 0 := by
  have hstable := ClusterMap.countAt_load hdebug stableRoot name store c
  have hcanary := ClusterMap.countAt_load hdebug canaryRoot name store
    (ClusterMap.load stableRoot name store c).cache
  dsimp only [loadMaps]
  cases hresult : (ClusterMap.load stableRoot name store c).result with
  | error fault =>
    rw [hresult] at hstable
    exact hstable
  | ok m =>
    rw [hresult, ClusterMap.traceLevel, if_neg (Ne.symm hinfo)] at hstable
    dsimp only
    rw [Event.countAt_append, hstable, hcanary, Nat.zero_add]
    cases (ClusterMap.load canaryRoot name store
        (ClusterMap.load stableRoot name store c).cache).result with
    | error fault => rfl
    | ok n => exact if_neg (Ne.symm hinfo)

theorem isSome_get_iff_readable {cohort : Cohort} :
    (({} : Cache).get store (mappingPath storage cohort)).1.isSome = true ↔
      Readable storage store cohort := by
  rw [Cache.get_new, Readable]
  cases store.read (mappingPath storage cohort) with
  | ok bytes => simp [Except.toOption]
  | error failure => simp [Except.toOption]

theorem readable_of_loadedAlone {cohort : Cohort} {m : ClusterMap}
    (h : loadedAlone storage store cohort = .ok m) : Readable storage store cohort :=
  isSome_get_iff_readable.1 (ClusterMap.isSome_get_of_load h)

/-- The fault of a map loaded alone is an error, unless its file cannot be read. -/
theorem level_of_loadedAlone {cohort : Cohort} {fault : LoadFault}
    (h : loadedAlone storage store cohort = .error fault) :
    Readable storage store cohort ∧ fault.level = .error ∨
      ¬ Readable storage store cohort ∧ fault.level = .warn := by
  have hlevel : fault.level =
      if (({} : Cache).get store (mappingPath storage cohort)).1.isSome then .error else .warn :=
    ClusterMap.level_of_load h
  by_cases hread : Readable storage store cohort
  · exact .inl ⟨hread, hlevel.trans (if_pos (isSome_get_iff_readable.2 hread))⟩
  · exact .inr ⟨hread, hlevel.trans (if_neg (mt isSome_get_iff_readable.1 hread))⟩

/-- The first fault of the two maps is an error, unless its file cannot be read. -/
theorem level_of_mapsOf {s : Settings} {fault : LoadFault}
    (h : (mapsOf s store).result = .error fault) :
    ¬ Unread s.storage store ∧ fault.level = .error ∨
      Unread s.storage store ∧ fault.level = .warn := by
  rw [mapsOf_result] at h
  cases hstable : loadedAlone s.storage store .stable with
  | error first =>
    rw [hstable] at h
    cases h
    rcases level_of_loadedAlone hstable with ⟨hread, hlevel⟩ | ⟨hread, hlevel⟩
    · refine .inl ⟨?_, hlevel⟩
      rintro (hunread | ⟨⟨m, hm⟩, -⟩)
      · exact hunread hread
      · cases hstable.symm.trans hm
    · exact .inr ⟨.inl hread, hlevel⟩
  | ok m =>
    cases hcanary : loadedAlone s.storage store .canary with
    | ok n =>
      rw [hstable, hcanary] at h
      cases h
    | error second =>
      rw [hstable, hcanary] at h
      cases h
      rcases level_of_loadedAlone hcanary with ⟨hread, hlevel⟩ | ⟨hread, hlevel⟩
      · refine .inl ⟨?_, hlevel⟩
        rintro (hunread | ⟨-, hunread⟩)
        · exact hunread (readable_of_loadedAlone hstable)
        · exact hunread hread
      · exact .inr ⟨.inr ⟨⟨m, hstable⟩, hread⟩, hlevel⟩

/-- A new selector at most warns. -/
theorem countAt_error_events_selector (selector : Selector) :
    countAt .error selector.events = 0 := by
  unfold Selector.events
  split
  · rfl
  · rfl

/-- What the log tells of a start-up. -/
inductive Traced (storage : StorageSettings) (store : FileStore) (st : Started) : Prop where
  | ready {started : Service × ServiceState} (h : st.result = .ok started)
      (herror : countAt .error st.events = 0)
  | refused {e : ServiceError} (hread : ¬ Unread storage store) (h : st.result = .error e)
      (herror : countAt .error st.events = 1)
  | unread {e : ServiceError} (hread : Unread storage store) (h : st.result = .error e)
      (herror : countAt .error st.events = 0) (hwarn : countAt .warn st.events = 1)

theorem start_traced (s : Settings) (given : Option Evaluator) (store : FileStore) :
    Traced s.storage store (start s given store) := by
  have hcount := fun (level : Level) (hdebug : level ≠ .debug) (hinfo : level ≠ .info) =>
    countAt_loadMaps hdebug hinfo (cohortRoot s .stable) (cohortRoot s .canary)
      s.storage.clusterMapping store {}
  have herror := hcount .error (by decide) (by decide)
  have hwarn := hcount .warn (by decide) (by decide)
  rw [← mapsOf] at herror hwarn
  -- A refused start-up has the events of its maps and no others.
  cases hmaps : (mapsOf s store).result with
  | error fault =>
    rw [hmaps] at herror hwarn
    rw [start_of_fault hmaps]
    rcases level_of_mapsOf hmaps with ⟨hread, hlevel⟩ | ⟨hread, hlevel⟩
    · exact .refused hread rfl (herror.trans (if_pos hlevel))
    · refine .unread hread rfl (herror.trans (if_neg ?_)) (hwarn.trans (if_pos hlevel))
      rw [hlevel]
      decide
  | ok maps =>
    obtain ⟨stable, canary⟩ := maps
    rw [hmaps] at herror
    rw [start_of_maps hmaps]
    refine .ready rfl ?_
    simp only [Event.countAt_append, herror, countAt_error_events_selector]
    rfl

/-- **Refusals are traced**, all but one: loading a map reports a valid one and tells of every fault as
one error, and a start-up tells of one error if it is refused and of none otherwise; except that where
the file of the map at fault cannot be read, the only trace is the warning of the cache. -/
theorem refusals_traced (store : FileStore) :
    (∀ (root : Path) (name : String) (c : Cache),
      ClusterMap.Traced (root.join name) (c.get store (root.join name)).1
        (ClusterMap.load root name store c)) ∧
    ∀ (s : Settings) (given : Option Evaluator),
      Traced s.storage store (start s given store) := by
  constructor
  · intro root name c
    exact ClusterMap.load_traced root name store c
  · intro s given
    exact start_traced s given store

/-- Without any files, neither loading a map nor a start-up tells of an error. -/
theorem not_always_traced :
    (¬ ∀ (root : Path) (name : String) (store : FileStore),
      (∃ m, (ClusterMap.load root name store {}).result = .ok m ∧
        countAt .error (ClusterMap.load root name store {}).events = 0 ∧
        countAt .info (ClusterMap.load root name store {}).events = 1) ∨
      ∃ fault, (ClusterMap.load root name store {}).result = .error fault ∧
        fault.error.kind = .configInvalid ∧
        countAt .error (ClusterMap.load root name store {}).events = 1 ∧
        countAt .info (ClusterMap.load root name store {}).events = 0) ∧
    ¬ ∀ (s : Settings) (given : Option Evaluator) (store : FileStore) (e : ServiceError),
      (start s given store).result = .error e → countAt .error (start s given store).events = 1 := by
  constructor
  · intro h
    rcases h ⟨"/remote/stable"⟩ "map.json" (MemoryStore.fileStore {}) with
      ⟨m, hresult, -⟩ | ⟨fault, -, -, herror, -⟩
    · cases hresult
    · exact absurd herror (by decide)
  · intro h
    exact absurd (h {} none (MemoryStore.fileStore {}) _ rfl) (by decide)

end Startup

end RemoteRollout
