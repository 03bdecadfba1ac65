import RemoteRollout.Proofs.ClusterMap.Floor
import RemoteRollout.Proofs.Service.Requests
import RemoteRollout.Proofs.Spelling
import RemoteRollout.Proofs.Startup

/-!
# Build metadata never matters

Versions that differ in their build metadata only are the same to every comparison
(`Version.precedence_congr`). So rows with other build metadata make a map if and only if the old
ones do, with each floor at its old place (`ClusterMap.SameFloors`); and a request is served alike
for every version that is level with its own (`Service.ServedAlike`).
-/

namespace RemoteRollout

namespace Version

variable {u u' v v' : Version}

theorem precedence_congr (hu : u.Level u') (hv : v.Level v') :
    u.precedence v = u'.precedence v' := by
  rw [precedence, precedence, hu.major, hu.minor, hu.patch, hu.pre, hv.major, hv.minor, hv.patch,
    hv.pre]

theorem before_congr (hu : u.Level u') (hv : v.Level v') : u.Before v ↔ u'.Before v' := by
  rw [← precedence_eq_lt_iff, ← precedence_eq_lt_iff, precedence_congr hu hv]

theorem atMost_congr (hu : u.Level u') (hv : v.Level v') : u.AtMost v ↔ u'.AtMost v' := by
  rw [← precedence_ne_gt_iff, ← precedence_ne_gt_iff, precedence_congr hu hv]

end Version

namespace ClusterMap

open Version (Level SameButBuild Ascending)

variable {root : Path} {store : FileStore} {rows rows' : List (List String)}
  {row row' : List String} {entries entries' : List MapEntry} {m m' : ClusterMap} {v w : Version}

/-! ## Rows -/

/-- The rows are the same but for build metadata of their version. -/
inductive SameRow : List String → List String → Prop where
  | same (row : List String) : SameRow row row
  | retagged {text text' : String} (rest : List String) (h : SameButBuild text text') :
      SameRow (text :: rest) (text' :: rest)

/-- The entries are the same but for build metadata of their version. -/
structure SameEntry (a b : MapEntry) : Prop where
  level : a.version.Level b.version
  artifact : a.artifact = b.artifact

theorem SameRow.symm (h : SameRow row row') : SameRow row' row := by
  cases h with
  | same => exact .same row
  | retagged rest h => exact .retagged rest h.symm

theorem SameRow.exists_entry {entry : MapEntry} (h : SameRow row row')
    (hentry : entryOfRow root store row = .ok entry) :
    ∃ entry', entryOfRow root store row' = .ok entry' ∧ SameEntry entry entry' := by
  obtain ⟨text, rfl, hversion, hlocal, hfile⟩ := entryOfRow_eq_ok_iff.1 hentry
  cases h with
  | same => exact ⟨entry, hentry, .refl _, rfl⟩
  | @retagged _ text' _ h =>
    obtain ⟨w, hw, hlevel⟩ := Version.exists_level_of_sameButBuild h hversion
    exact ⟨⟨w, entry.artifact⟩, entryOfRow_eq_ok_iff.2 ⟨text', rfl, hw, hlocal, hfile⟩, hlevel, rfl⟩

theorem exists_readAs (h : List.Forall₂ SameRow rows rows')
    (hread : ReadAs root store rows entries) :
    ∃ entries', ReadAs root store rows' entries' ∧ List.Forall₂ SameEntry entries entries' := by
  induction h generalizing entries with
  | nil =>
    cases hread
    exact ⟨[], .nil, .nil⟩
  | cons hrow _ ih =>
    cases hread with
    | cons hentry hrest =>
      obtain ⟨entry', hentry', hsame⟩ := hrow.exists_entry hentry
      obtain ⟨entries', hrest', hsames⟩ := ih hrest
      exact ⟨entry' :: entries', .cons hentry' hrest', .cons hsame hsames⟩

theorem ascending_congr (h : List.Forall₂ SameEntry entries entries')
    (hascending : Ascending (entries.map MapEntry.version)) :
    Ascending (entries'.map MapEntry.version) := by
  rw [ascending_iff] at hascending ⊢
  intro i j a' b' hij ha' hb'
  obtain ⟨a, ha, hsameA⟩ := exists_left_of_related h ha'
  obtain ⟨b, hb, hsameB⟩ := exists_left_of_related h hb'
  exact (Version.before_congr hsameA.level hsameB.level).1 (hascending i j a b hij ha hb)

theorem exists_build (h : List.Forall₂ SameRow rows rows')
    (hbuild : build root rows store = .ok m) :
    ∃ m', build root rows' store = .ok m' ∧ List.Forall₂ SameEntry m.entries m'.entries := by
  obtain ⟨entries', hread', hsame⟩ := exists_readAs h (build_eq_ok_iff.1 hbuild).2
  have hnonempty : entries' ≠ [] := by
    rintro rfl
    exact m.nonempty (List.forall₂_nil_right_iff.1 hsame)
  exact ⟨⟨root, entries', hnonempty, ascending_congr hsame m.ascending⟩,
    build_eq_ok_iff.2 ⟨rfl, hread'⟩, hsame⟩

/-! ## Floors -/

/-- The version resolves to the entry at this place. -/
def Picks (m : ClusterMap) (v : Version) (place : Nat) : Prop :=
  ∃ entry, m.entries[place]? = some entry ∧ m.resolve v = .ok entry

theorem picks_iff_rank {place : Nat} : m.Picks v place ↔ m.rank v = place + 1 := by
  constructor
  · rintro ⟨entry, hentry, hresolve⟩
    obtain ⟨i, hrank, hi⟩ := floor?_eq_some_iff_rank.1 (resolve_eq_ok_iff.1 hresolve)
    rw [hrank, place_unique hi hentry]
  · intro hrank
    obtain ⟨entry, hentry, -⟩ := lt_rank_iff.1 (show place < m.rank v by omega)
    have hfloor := floor?_eq_some_iff_rank.2 ⟨place, hrank, hentry⟩
    exact ⟨entry, hentry, resolve_eq_ok_iff.2 hfloor⟩

/-- Maps that are the same but for build metadata rank versions alike that are. -/
theorem rank_congr (h : List.Forall₂ SameEntry m.entries m'.entries) (hv : v.Level w) :
    m.rank v = m'.rank w := by
  have hiff : ∀ i, i < m.rank v ↔ i < m'.rank w := by
    intro i
    rw [lt_rank_iff, lt_rank_iff]
    constructor
    · rintro ⟨e, he, hle⟩
      obtain ⟨e', he', hsame⟩ := exists_right_of_related h he
      exact ⟨e', he', (Version.atMost_congr hsame.level hv).1 hle⟩
    · rintro ⟨e', he', hle⟩
      obtain ⟨e, he, hsame⟩ := exists_left_of_related h he'
      exact ⟨e, he, (Version.atMost_congr hsame.level hv).2 hle⟩
  exact Nat.le_antisymm (Nat.le_of_not_lt fun hlt => Nat.lt_irrefl _ ((hiff _).1 hlt))
    (Nat.le_of_not_lt fun hlt => Nat.lt_irrefl _ ((hiff _).2 hlt))

/-- A version of a map finds the same entry whatever its build metadata is. -/
theorem resolve_congr (m : ClusterMap) (hv : v.Level w) (entry : MapEntry) :
    m.resolve v = .ok entry ↔ m.resolve w = .ok entry := by
  have hsame : List.Forall₂ SameEntry m.entries m.entries :=
    List.forall₂_same.2 fun e _ => ⟨.refl _, rfl⟩
  rw [resolve_eq_ok_iff, resolve_eq_ok_iff, floor?_eq_some_iff_rank, floor?_eq_some_iff_rank,
    rank_congr hsame hv]

/-- Rows that are the same but for build metadata make a map if these do, and then every version has
its floor at the same place, or has none. -/
structure SameFloors (root : Path) (rows rows' : List (List String)) (store : FileStore) :
    Prop where
  accepted_iff : (∃ m, build root rows store = .ok m) ↔ ∃ m', build root rows' store = .ok m'
  picks_iff : ∀ m m', build root rows store = .ok m → build root rows' store = .ok m' →
    ∀ v place, m.Picks v place ↔ m'.Picks v place
  notFound_iff : ∀ m m', build root rows store = .ok m → build root rows' store = .ok m' →
    ∀ v, (∃ message, m.resolve v = .error (.notFound message)) ↔
      ∃ message, m'.resolve v = .error (.notFound message)

theorem sameFloors_of_sameRow (h : List.Forall₂ SameRow rows rows') :
    SameFloors root rows rows' store := by
  have hrank : ∀ m m', build root rows store = .ok m → build root rows' store = .ok m' →
      ∀ v, m.rank v = m'.rank v := by
    intro m m' hm hm' v
    obtain ⟨found, hfound, hsame⟩ := exists_build h hm
    cases hfound.symm.trans hm'
    exact rank_congr hsame (.refl v)
  constructor
  case accepted_iff =>
    constructor
    · rintro ⟨m, hm⟩
      obtain ⟨m', hm', -⟩ := exists_build h hm
      exact ⟨m', hm'⟩
    · rintro ⟨m', hm'⟩
      obtain ⟨m, hm, -⟩ := exists_build (h.flip.imp fun _ _ hrow => hrow.symm) hm'
      exact ⟨m, hm⟩
  case picks_iff =>
    intro m m' hm hm' v place
    rw [picks_iff_rank, picks_iff_rank, hrank m m' hm hm' v]
  case notFound_iff =>
    intro m m' hm hm' v
    rw [resolve_notFound_iff, resolve_notFound_iff, floor?_eq_none_iff_rank,
      floor?_eq_none_iff_rank, hrank m m' hm hm' v]

end ClusterMap

namespace Service

variable {s : Service} {store : FileStore} {state : ServiceState} {r : Request}
  {text text' : String} {v w : Version}

/-! ## Requests -/

/-- Requests for the versions that two texts spell are served the same, and leave the same state
with the same counter behind. -/
structure ServedAlike (s : Service) (store : FileStore) (state : ServiceState) (r : Request)
    (text text' : String) : Prop where
  served_iff : ∀ configuration,
    (s.remoteConfiguration store state r text).result = .ok configuration ↔
      (s.remoteConfiguration store state r text').result = .ok configuration
  state_eq : (s.remoteConfiguration store state r text).state =
    (s.remoteConfiguration store state r text').state
  /-- What is served is recorded under the same labels. -/
  recorded : ∀ configuration,
    (s.remoteConfiguration store state r text).result = .ok configuration → ∃ file,
      (s.remoteConfiguration store state r text).state.metrics =
          state.metrics.record file configuration.version ∧
        (s.remoteConfiguration store state r text').state.metrics =
          state.metrics.record file configuration.version

theorem servedAlike_of_level (hv : Version.parse text = .ok v) (hw : Version.parse text' = .ok w)
    (hlevel : v.Level w) : ServedAlike s store state r text text' := by
  have hsame : ∀ entry, s.entryFor state.asked r v = .ok entry ↔
      s.entryFor state.asked r w = .ok entry := fun entry => ClusterMap.resolve_congr _ hlevel entry
  cases he : s.entryFor state.asked r v with
  | ok entry =>
    have he' := (hsame entry).1 he
    have hresult : (s.remoteConfiguration store state r text).result =
        (s.remoteConfiguration store state r text').result :=
      (remoteConfiguration_of_entry hv he).1.trans (remoteConfiguration_of_entry hw he').1.symm
    have hstate : (s.remoteConfiguration store state r text).state =
        (s.remoteConfiguration store state r text').state := by
      rw [(remoteConfiguration_of_entry hv he).2, (remoteConfiguration_of_entry hw he').2, hresult]
    constructor
    case served_iff =>
      intro configuration
      rw [hresult]
    case state_eq => exact hstate
    case recorded =>
      intro configuration hserved
      have hmetrics : (s.remoteConfiguration store state r text).state.metrics =
          state.metrics.record entry.artifact configuration.version := by
        rw [(remoteConfiguration_of_entry hv he).2, hserved]
        rfl
      exact ⟨_, hmetrics, hstate ▸ hmetrics⟩
  | error e =>
    cases he' : s.entryFor state.asked r w with
    | ok entry => cases he.symm.trans ((hsame entry).2 he')
    | error e' =>
      -- The versions are named in the two refusals as they are written.
      have hresult : (s.remoteConfiguration store state r text).result = .error e :=
        (remoteConfiguration_of_noEntry hv he).1
      have hresult' : (s.remoteConfiguration store state r text').result = .error e' :=
        (remoteConfiguration_of_noEntry hw he').1
      constructor
      case served_iff =>
        intro configuration
        simp [hresult, hresult']
      case state_eq =>
        rw [(remoteConfiguration_of_noEntry hv he).2, (remoteConfiguration_of_noEntry hw he').2]
      case recorded =>
        intro configuration hserved
        cases hresult.symm.trans hserved

/-- **Build metadata never matters**: neither in the rows of a map, for whether they are accepted
and where a version finds its floor, nor in the version that is looked up or asked for. -/
theorem build_metadata_never_matters :
    (∀ root rows rows' store, List.Forall₂ ClusterMap.SameRow rows rows' →
      ClusterMap.SameFloors root rows rows' store) ∧
    (∀ (m : ClusterMap) (v w : Version), v.Level w → ∀ entry,
      m.resolve v = .ok entry ↔ m.resolve w = .ok entry) ∧
    ∀ (s : Service) (store : FileStore) (state : ServiceState) (r : Request) (text text' : String)
      (v w : Version), Version.parse text = .ok v → Version.parse text' = .ok w → v.Level w →
        ServedAlike s store state r text text' :=
  ⟨fun _ _ _ _ h => ClusterMap.sameFloors_of_sameRow h, fun m _ _ h => m.resolve_congr h,
    fun _ _ _ _ _ _ _ _ hv hw h => servedAlike_of_level hv hw h⟩

/-- The rows around a pre-release with metadata dropped, added and given to a release. -/
def retaggedRows : List (List String) :=
  [["1.0.0", "old.json"], ["4.17.0-0+x-1.02", "./dir//new.json"], ["4.17.0+b", "newer.json"]]

theorem sameRow_retaggedRows :
    List.Forall₂ ClusterMap.SameRow ClusterMap.boundaryRows retaggedRows := by
  have hdropped : Version.SameButBuild "1.0.0+build.1" "1.0.0" := by
    have htext : "1.0.0+build.1".toList = "1.0.0".toList ++ '+' :: "build.1".toList := by rfl
    exact ⟨"1.0.0".toList, by decide, htext ▸ .tagged (by decide), .bare⟩
  have hadded : Version.SameButBuild "4.17.0-0" "4.17.0-0+x-1.02" := by
    have htext : "4.17.0-0+x-1.02".toList = "4.17.0-0".toList ++ '+' :: "x-1.02".toList := by rfl
    exact ⟨"4.17.0-0".toList, by decide, .bare, htext ▸ .tagged (by decide)⟩
  have hgiven : Version.SameButBuild "4.17.0" "4.17.0+b" := by
    have htext : "4.17.0+b".toList = "4.17.0".toList ++ '+' :: "b".toList := by rfl
    exact ⟨"4.17.0".toList, by decide, .bare, htext ▸ .tagged (by decide)⟩
  exact .cons (.retagged _ hdropped) (.cons (.retagged _ hadded) (.cons (.retagged _ hgiven) .nil))

/-- These rows have the floors of the rows they are made from; `4.17.0+b` is looked up as `4.17.0`
is, and a running service takes `1.5.0+a.01` for `1.5.0`. -/
theorem retaggedRows_indistinguishable :
    List.Forall₂ ClusterMap.SameRow ClusterMap.boundaryRows retaggedRows ∧
      ClusterMap.SameFloors ⟨"/remote/stable"⟩ ClusterMap.boundaryRows retaggedRows
        ClusterMap.boundaryFiles.fileStore ∧
      (∃ m entry, ClusterMap.build ⟨"/remote/stable"⟩ ClusterMap.boundaryRows
          ClusterMap.boundaryFiles.fileStore = .ok m ∧
        m.resolve ⟨4, 17, 0, [], []⟩ = .ok entry ∧ m.resolve ⟨4, 17, 0, [], ['b']⟩ = .ok entry) ∧
      Version.parse "1.5.0" = .ok ⟨1, 5, 0, [], []⟩ ∧
      Version.parse "1.5.0+a.01" = .ok ⟨1, 5, 0, [], "a.01".toList⟩ ∧
      ∃ s state, (Startup.start Startup.slashedSettings none
          Startup.slashedFiles.fileStore).result = .ok (s, state) ∧
        ServedAlike s Startup.slashedFiles.fileStore state ⟨some "io cluster/c1"⟩ "1.5.0"
          "1.5.0+a.01" := by
  obtain ⟨hrows, hlookup, hserved⟩ := build_metadata_never_matters
  obtain ⟨s, state, hstart⟩ := Startup.start_slashedFiles
  obtain ⟨m, hbuild⟩ := ClusterMap.build_boundaryRows
  have hfound : ((ClusterMap.build ⟨"/remote/stable"⟩ ClusterMap.boundaryRows
      ClusterMap.boundaryFiles.fileStore).toOption.map fun m =>
        (m.resolve ⟨4, 17, 0, [], []⟩).toBool) = some true := by
    decide +kernel
  rw [hbuild] at hfound
  obtain ⟨entry, hentry⟩ := exists_eq_ok_of_toBool (Option.some.inj hfound)
  have hlevel : (⟨4, 17, 0, [], []⟩ : Version).Level ⟨4, 17, 0, [], ['b']⟩ := ⟨rfl, rfl, rfl, rfl⟩
  have hbare : Version.parse "1.5.0" = .ok ⟨1, 5, 0, [], []⟩ := by rfl
  have htagged : Version.parse "1.5.0+a.01" = .ok ⟨1, 5, 0, [], "a.01".toList⟩ := by rfl
  exact ⟨sameRow_retaggedRows, hrows _ _ _ _ sameRow_retaggedRows,
    ⟨m, entry, hbuild, hentry, (hlookup m _ _ hlevel entry).1 hentry⟩, hbare, htagged,
    s, state, hstart, hserved s _ state _ _ _ _ _ hbare htagged ⟨rfl, rfl, rfl, rfl⟩⟩

end Service

end RemoteRollout
