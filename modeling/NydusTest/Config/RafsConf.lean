import NydusTest.Python.Encode
import NydusTest.Python.Host

/-!
`RafsConf`, the generator of nydusd's working configuration file. Its state is
the namespace tree `_device_conf`, the snapshot `device_conf` last serialized and
the temporary file the snapshot is dumped to. Every setter is a run of
`_configure_rafs` assignments, listed here in source order; direct attribute
assignments such as `self._device_conf.iostats_files = True` are the same
assignment. The namespaces the setters assign under (`device`, `device.backend`,
`device.backend.config`, `fs_prefetch`) stay namespaces along every run, so no
setter but `set_rafs_backend(LOCALFS, image=...)` with an image that has no
backing blob ever raises.
-/

namespace NydusTest

open Json

/-- The attributes of the test anchor (`NydusAnchor`, outside this file) that
the modelled code reads. -/
structure Anchor where
  fsVersion : Nat
  registryNamespace : String
  registryUrl : String
  registryAuth : String
  ossEndpoint : String
  ossAkId : String
  ossAkSecret : String
  ossBucket : String
  backendProxyUrl : String
  backendProxyBlobsDir : Path
  localfsWorkdir : Path
  blobcacheDir : Path
  logLevel : String
  imageBin : String
  deriving Inhabited, Repr

/-- `class Backend(enum.Enum)`. -/
inductive Backend where
  | oss
  | registry
  | localfs
  | backendProxy
  deriving DecidableEq, Repr

/-- `Backend.__str__`, the enum value. -/
def Backend.value : Backend → String
  | .oss => "oss"
  | .registry => "registry"
  | .localfs => "localfs"
  | .backendProxy => "backend_proxy"

/-- The keyword arguments `set_rafs_backend` reads. `image` is the
`localfs_backing_blob` attribute of the image passed, `none` inside when that
image has none. -/
structure BackendKwargs where
  repo : Option String := none
  scheme : Option String := none
  keyPrefix : Option String := none
  image : Option (Option Path) := none

/-- A `RafsConf` object. -/
structure RafsConf where
  deviceConf : Json
  deviceConfDict : Json
  confFile : TextFile

/-- `_rafs_conf_default`, with `mode` from `PREFERRED_MODE`. -/
def rafsConfDefault (mode : String) : Json :=
  .obj [("device", .obj [("backend", .obj [("type", .str "oss"), ("config", .obj [])])]),
    ("mode", .str mode), ("iostats_files", .bool false), ("fs_prefetch", .obj [("enable", .bool false)])]

/-- `RafsConf.__init__`; the `json.loads(json.dumps(...))` round trip gives back
the same tree. -/
def RafsConf.init (preferredMode : Option String) : RafsConf :=
  let d := rafsConfDefault (preferredMode.getD "direct")
  { deviceConf := d, deviceConfDict := d, confFile := ⟨[], 0⟩ }

/-! ### Assignments -/

/-- One `_configure_rafs(k, v)` statement: the attribute path and the argument,
whose evaluation may itself raise. -/
structure Assign where
  path : List String
  value : Except PyError Json

/-- `_configure_rafs(k, v)`. -/
def configureRafs (k : List String) (v : Json) : EStateM PyError RafsConf Unit := fun c =>
  match c.deviceConf.setPath k v with
  | some d => .ok () { c with deviceConf := d }
  | none => .error (.attributeError (".".intercalate k)) c

/-- A run of assignments, stopping at the first that raises. -/
def configureAll : List Assign → EStateM PyError RafsConf Unit
  | [] => fun c => .ok () c
  | a :: rest => fun c =>
      match a.value with
      | .error e => .error e c
      | .ok v =>
          match configureRafs a.path v c with
          | .ok _ c' => configureAll rest c'
          | .error e c' => .error e c'

/-- The attributes `set_rafs_backend` assigns. -/
inductive BackendAttr where
  | type
  | config (key : String)

/-- `device.backend.type` and `device.backend.config.<key>`. -/
def BackendAttr.path : BackendAttr → List String
  | .type => ["device", "backend", "type"]
  | .config k => ["device", "backend", "config", k]

/-- The `_configure_rafs` calls of `set_rafs_backend(backend_type, **kwargs)`. -/
def backendAssignments (anchor : Anchor) (b : Backend) (kw : BackendKwargs) :
    List (BackendAttr × Except PyError Json) :=
  (.type, .ok (.str b.value)) ::
  match b with
  | .registry =>
      kw.repo.toList.map (fun r => (.config "repo", .ok (.str (posixJoin anchor.registryNamespace r)))) ++
      [(.config "scheme", .ok (.str (kw.scheme.getD "http"))),
        (.config "host", .ok (.str anchor.registryUrl)),
        (.config "auth", .ok (.str anchor.registryAuth))]
  | .oss =>
      kw.keyPrefix.toList.map (fun p => (.config "object_prefix", .ok (.str p))) ++
      [(.config "endpoint", .ok (.str anchor.ossEndpoint)),
        (.config "access_key_id", .ok (.str anchor.ossAkId)),
        (.config "access_key_secret", .ok (.str anchor.ossAkSecret)),
        (.config "bucket_name", .ok (.str anchor.ossBucket))]
  | .backendProxy =>
      [(.type, .ok (.str "registry")),
        (.config "scheme", .ok (.str "http")),
        (.config "repo", .ok (.str "nydus")),
        (.config "host", .ok (.str anchor.backendProxyUrl))]
  | .localfs =>
      match kw.image with
      | some blob => [(.config "blob_file", match blob with
          | some p => .ok (.str p)
          | none => .error (.attributeError "localfs_backing_blob"))]
      | none => [(.config "dir", .ok (.str anchor.localfsWorkdir))]

/-- The assignments of `set_rafs_backend` as attribute paths. -/
def backendAssigns (anchor : Anchor) (b : Backend) (kw : BackendKwargs) : List Assign :=
  (backendAssignments anchor b kw).map fun av => ⟨av.1.path, av.2⟩

/-- `set_rafs_backend(backend_type, **kwargs)`. -/
def setRafsBackend (anchor : Anchor) (b : Backend) (kw : BackendKwargs) :
    EStateM PyError RafsConf Unit :=
  configureAll (backendAssigns anchor b kw)

/-- `get_rafs_backend()`. -/
def getRafsBackend (c : RafsConf) : Option Json := c.deviceConf.getPath ["device", "backend", "type"]

/-- `self._device_conf.device.cache = Namespace(...)` of `enable_rafs_blobcache`. -/
def blobcacheConf (anchor : Anchor) (isCompressed : Bool) (workDir : Option Path) : Json :=
  .obj [("type", .str "blobcache"),
    ("config", .obj [("work_dir", .str (workDir.getD anchor.blobcacheDir))]),
    ("compressed", .bool isCompressed)]

/-- The assignments of every setter other than `set_rafs_backend`. -/
inductive Setter where
  | setRegistryRepo (repo : String)
  | enableFilesIostats
  | enableLatestReadFiles
  | enableAccessPattern
  | enableRafsBlobcache (isCompressed : Bool := false) (workDir : Option Path := none)
  | enableFsPrefetch (threadsCount : Int := 8) (mergingSize : Int := 128 * 1024)
      (bandwidthRate : Int := 0) (prefetchAll : Bool := false)
  | enableValidation
  | amplifyIo (size : Int)
  | rafsMemMode (v : String)
  | enableXattr

/-- The `_configure_rafs` calls (or direct assignments) of each setter. -/
def Setter.assigns (anchor : Anchor) : Setter → List Assign
  | .setRegistryRepo repo => [⟨["device", "backend", "config", "repo"], .ok (.str repo)⟩]
  | .enableFilesIostats => [⟨["iostats_files"], .ok (.bool true)⟩]
  | .enableLatestReadFiles => [⟨["latest_read_files"], .ok (.bool true)⟩]
  | .enableAccessPattern => [⟨["access_pattern"], .ok (.bool true)⟩]
  | .enableRafsBlobcache c w => [⟨["device", "cache"], .ok (blobcacheConf anchor c w)⟩]
  | .enableFsPrefetch t m b all =>
      [⟨["fs_prefetch", "enable"], .ok (.bool true)⟩,
        ⟨["fs_prefetch", "threads_count"], .ok (.num t)⟩,
        ⟨["fs_prefetch", "merging_size"], .ok (.num m)⟩,
        ⟨["fs_prefetch", "bandwidth_rate"], .ok (.num b)⟩,
        ⟨["fs_prefetch", "prefetch_all"], .ok (.bool all)⟩]
  | .enableValidation =>
      if anchor.fsVersion = 6 then [] else [⟨["digest_validate"], .ok (.bool true)⟩]
  | .amplifyIo size => [⟨["amplify_io"], .ok (.num size)⟩]
  | .rafsMemMode v => [⟨["mode"], .ok (.str v)⟩]
  | .enableXattr => [⟨["enable_xattr"], .ok (.bool true)⟩]

/-- `enable_rafs_blobcache(is_compressed=False, work_dir=None)`. -/
def enableRafsBlobcache (anchor : Anchor) (isCompressed : Bool := false)
    (workDir : Option Path := none) : EStateM PyError RafsConf Unit :=
  configureAll ((Setter.enableRafsBlobcache isCompressed workDir).assigns anchor)

/-- What `dump_rafs_conf` does after forcing the cache: `truncate(0)`, `seek(0)`,
the snapshot `device_conf = object_to_dict(deepcopy(_device_conf))` and
`json.dump(device_conf, file)`; `flush` changes no content. -/
def RafsConf.dumped (c : RafsConf) : RafsConf :=
  { c with
    deviceConfDict := c.deviceConf
    confFile := ((c.confFile.truncate 0).seek 0).writeAll (iterencode c.deviceConf) }

@[simp] theorem RafsConf.dumped_deviceConf (c : RafsConf) : c.dumped.deviceConf = c.deviceConf :=
  rfl

/-- `dump_rafs_conf`: with `fs_version` 6 it first calls `enable_rafs_blobcache()`. -/
def dumpRafsConf (anchor : Anchor) : EStateM PyError RafsConf Unit := fun c =>
  match (if anchor.fsVersion = 6 then enableRafsBlobcache anchor false none c else .ok () c) with
  | .ok _ c' => .ok () c'.dumped
  | .error e c' => .error e c'

/-! ### Runs -/

/-- A call of the public interface of `RafsConf`. -/
inductive ConfCall where
  | backend (b : Backend) (kw : BackendKwargs)
  | setter (s : Setter)
  | dump

/-- One call. -/
def ConfCall.run (anchor : Anchor) : ConfCall → EStateM PyError RafsConf Unit
  | .backend b kw => setRafsBackend anchor b kw
  | .setter s => configureAll (s.assigns anchor)
  | .dump => dumpRafsConf anchor

/-- The state after a sequence of calls; a caller that catches an exception may
go on with the state the raise left. -/
def runCalls (anchor : Anchor) : List ConfCall → RafsConf → RafsConf
  | [], c => c
  | call :: rest, c => runCalls anchor rest (resultState (call.run anchor c))

/-- The states a test can drive a fresh `RafsConf` to. -/
def Reachable (anchor : Anchor) (preferredMode : Option String) (c : RafsConf) : Prop :=
  ∃ calls, runCalls anchor calls (RafsConf.init preferredMode) = c

/-! ### The shape every run keeps -/

/-- The namespaces the setters assign under. -/
def shapePaths : List (List String) :=
  [[], ["device"], ["device", "backend"], ["device", "backend", "config"], ["fs_prefetch"]]

/-- Every namespace a setter assigns under is a namespace. -/
def Shaped (d : Json) : Prop := ∀ q ∈ shapePaths, d.objAt q

/-- An assignment that replaces none of those namespaces. -/
def SafePath (p : List String) : Prop := ∀ q ∈ shapePaths, ¬ p <+: q

instance : DecidablePred Shaped := fun d =>
  inferInstanceAs (Decidable (∀ q ∈ shapePaths, d.objAt q))

instance : DecidablePred SafePath := fun p =>
  inferInstanceAs (Decidable (∀ q ∈ shapePaths, ¬ p <+: q))

theorem shaped_init (preferredMode : Option String) :
    Shaped (RafsConf.init preferredMode).deviceConf := by
  intro q hq
  simp only [shapePaths, List.mem_cons, List.mem_singleton, List.not_mem_nil, or_false] at hq
  rcases hq with rfl | rfl | rfl | rfl | rfl <;> rfl

theorem shaped_setPath {d d' : Json} {p : List String} {v : Json} (hd : Shaped d)
    (hp : SafePath p) (h : d.setPath p v = some d') : Shaped d' :=
  fun q hq => objAt_setPath h (hp q hq) (hd q hq)

theorem configureRafs_of_setPath {c : RafsConf} {k : List String} {v d : Json}
    (h : c.deviceConf.setPath k v = some d) :
    configureRafs k v c = .ok () { c with deviceConf := d } := by
  simp [configureRafs, h]

/-- An assignment keeps every property of the tree that a successful
`setPath` keeps. -/
theorem configureRafs_invariant {P : Json → Prop} {k : List String} {v : Json}
    (hstep : ∀ {d d'}, P d → d.setPath k v = some d' → P d') {c : RafsConf}
    (hc : P c.deviceConf) : P (resultState (configureRafs k v c)).deviceConf := by
  unfold configureRafs
  split
  · next d hd => exact hstep hc hd
  · exact hc

/-- A run of assignments keeps every property of the tree that each of its
assignments keeps, whether it returns or raises. -/
theorem configureAll_invariant {P : Json → Prop} {as : List Assign}
    (hstep : ∀ a ∈ as, ∀ {v d d'}, a.value = .ok v → P d → d.setPath a.path v = some d' → P d')
    {c : RafsConf} (hc : P c.deviceConf) : P (resultState (configureAll as c)).deviceConf := by
  induction as generalizing c with
  | nil => exact hc
  | cons a rest ih =>
      unfold configureAll
      split
      · exact hc
      · next v hv =>
          have h1 := configureRafs_invariant (hstep a (List.mem_cons_self _ _) hv) hc
          split
          · next c' hr =>
              rw [hr] at h1
              exact ih (fun a' h => hstep a' (List.mem_cons_of_mem _ h)) h1
          · next c' hr => rw [hr] at h1; exact h1

/-- `device.backend.type` and `device.backend.config.<key>` replace no
namespace the setters rely on. -/
theorem BackendAttr.path_safe : ∀ a : BackendAttr, SafePath a.path
  | .type => by decide
  | .config k => fun q hq h => by
      have := h.length_le
      simp only [shapePaths, List.mem_cons, List.mem_singleton, List.not_mem_nil, or_false] at hq
      rcases hq with rfl | rfl | rfl | rfl | rfl <;> simp [BackendAttr.path] at this

theorem backendAssigns_safe (anchor : Anchor) (b : Backend) (kw : BackendKwargs) :
    ∀ a ∈ backendAssigns anchor b kw, SafePath a.path := by
  simp only [backendAssigns, List.mem_map]
  rintro _ ⟨av, -, rfl⟩
  exact av.1.path_safe

theorem Setter.assigns_safe (anchor : Anchor) (s : Setter) :
    ∀ a ∈ s.assigns anchor, SafePath a.path := by
  cases s <;> simp only [Setter.assigns] <;> (try split) <;> simp <;> decide

/-- The assignments each call makes: `dump_rafs_conf` makes those of
`enable_rafs_blobcache()` when `fs_version` is 6, and no other. -/
def ConfCall.assigns (anchor : Anchor) : ConfCall → List Assign
  | .backend b kw => backendAssigns anchor b kw
  | .setter s => s.assigns anchor
  | .dump => if anchor.fsVersion = 6 then (Setter.enableRafsBlobcache false none).assigns anchor else []

/-- A call changes the tree by its assignments and in no other way, whether it
returns or raises. -/
theorem ConfCall.run_deviceConf (anchor : Anchor) (call : ConfCall) (c : RafsConf) :
    (resultState (call.run anchor c)).deviceConf =
      (resultState (configureAll (call.assigns anchor) c)).deviceConf := by
  cases call with
  | backend | setter => rfl
  | dump =>
      simp only [ConfCall.run, ConfCall.assigns, dumpRafsConf]
      split_ifs
      · show _ = (resultState (enableRafsBlobcache anchor false none c)).deviceConf
        cases enableRafsBlobcache anchor false none c <;> rfl
      · rfl

/-- The step: every call keeps each property of the tree that its assignments
keep. -/
theorem ConfCall.run_invariant {P : Json → Prop} (anchor : Anchor) (call : ConfCall)
    (hstep : ∀ a ∈ call.assigns anchor, ∀ {v d d'}, a.value = .ok v → P d →
      d.setPath a.path v = some d' → P d')
    {c : RafsConf} (hc : P c.deviceConf) : P (resultState (call.run anchor c)).deviceConf := by
  rw [call.run_deviceConf]
  exact configureAll_invariant hstep hc

theorem ConfCall.assigns_safe (anchor : Anchor) :
    ∀ call : ConfCall, ∀ a ∈ call.assigns anchor, SafePath a.path
  | .backend b kw => backendAssigns_safe anchor b kw
  | .setter s => s.assigns_safe anchor
  | .dump => by
      unfold ConfCall.assigns
      split_ifs
      · exact Setter.assigns_safe anchor _
      · exact fun _ h => nomatch h

/-- The step: every call keeps the shape. -/
theorem ConfCall.run_shaped (anchor : Anchor) (call : ConfCall) {c : RafsConf}
    (hc : Shaped c.deviceConf) : Shaped (resultState (call.run anchor c)).deviceConf :=
  call.run_invariant anchor
    (fun a ha _ _ _ _ hd hs => shaped_setPath hd (call.assigns_safe anchor a ha) hs) hc

/-- The run: a property of the fresh object that every call keeps holds of
every state a test reaches. -/
theorem Reachable.induction {anchor : Anchor} {mode : Option String} {P : RafsConf → Prop}
    (h0 : P (RafsConf.init mode))
    (hstep : ∀ (call : ConfCall) {c : RafsConf}, P c → P (resultState (call.run anchor c)))
    {c : RafsConf} (h : Reachable anchor mode c) : P c := by
  obtain ⟨calls, rfl⟩ := h
  suffices ∀ c₀, P c₀ → P (runCalls anchor calls c₀) from this _ h0
  induction calls with
  | nil => exact fun _ h => h
  | cons call rest ih => exact fun c₀ h => ih _ (hstep call h)

/-- Every state a test reaches has the shape. -/
theorem Reachable.shaped {anchor : Anchor} {mode : Option String} {c : RafsConf}
    (h : Reachable anchor mode c) : Shaped c.deviceConf :=
  h.induction (P := fun c => Shaped c.deviceConf) (shaped_init mode)
    (fun call _ hc => call.run_shaped anchor hc)

end NydusTest
