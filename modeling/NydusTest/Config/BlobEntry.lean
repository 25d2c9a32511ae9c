import NydusTest.Config.RafsConf

/-!
`BlobEntryConf`, the blob-cache entry a test hands to nydusd in fscache mode.
Its `conf_base` is `BLOB_CONF_TEMPLATE` parsed into a namespace tree; every
setter assigns attributes along paths of that tree, and `dumps` writes it with
`json.dumps(conf_base, default=vars)`, keys in the order they were created.
Every setter assigns under a namespace the template has and replaces none of
them, so along every sequence of calls no setter raises.
-/

namespace NydusTest

open Json

/-- `BLOB_CONF_TEMPLATE`, the text as the source writes it. -/
def blobConfTemplateText : String := "
\x7b
  \"type\": \"bootstrap\",
  \"id\": \"5a74e7f26a2970c36ffd8963a278ea11e1fd752705a13c2ec0cb20b40e2a6699\",
  \"domain_id\": \"5a74e7f26a2970c36ffd8963a278ea11e1fd752705a13c2ec0cb20b40e2a6699\",
  \"config\": \x7b
    \"id\": \"5a74e7f26a2970c36ffd8963a278ea11e1fd752705a13c2ec0cb20b40e2a6699\",
    \"backend_type\": \"registry\",
    \"backend_config\": \x7b
      \"readahead\": false,
      \"host\": \"hub.byted.org\",
      \"repo\": \"gechangwei/java\",
      \"auth\": \"\",
      \"scheme\": \"http\",
      \"proxy\": \x7b
        \"fallback\": false
      \x7d
    \x7d,
    \"cache_type\": \"fscache\",
    \"cache_config\": \x7b
      \"work_dir\": \"/var/lib/containerd-nydus-grpc/snapshots/3754/fs\"
    \x7d,
    \"metadata_path\": \"/var/lib/containerd-nydus-grpc/snapshots/3754/fs/image/image.boot\"
  \x7d,
  \"fs_prefetch\": \x7b
    \"enable\": false,
    \"prefetch_all\": false,
    \"threads_count\": 0,
    \"merging_size\": 0,
    \"bandwidth_rate\": 0
  \x7d
\x7d
"

/-- `json.loads(BLOB_CONF_TEMPLATE, object_hook=...)`: the template's tree, keys
in the order written. -/
def blobConfTemplate : Json :=
  .obj [("type", .str "bootstrap"),
    ("id", .str "5a74e7f26a2970c36ffd8963a278ea11e1fd752705a13c2ec0cb20b40e2a6699"),
    ("domain_id", .str "5a74e7f26a2970c36ffd8963a278ea11e1fd752705a13c2ec0cb20b40e2a6699"),
    ("config", .obj [
      ("id", .str "5a74e7f26a2970c36ffd8963a278ea11e1fd752705a13c2ec0cb20b40e2a6699"),
      ("backend_type", .str "registry"),
      ("backend_config", .obj [("readahead", .bool false), ("host", .str "hub.byted.org"),
        ("repo", .str "gechangwei/java"), ("auth", .str ""), ("scheme", .str "http"),
        ("proxy", .obj [("fallback", .bool false)])]),
      ("cache_type", .str "fscache"),
      ("cache_config", .obj [("work_dir", .str "/var/lib/containerd-nydus-grpc/snapshots/3754/fs")]),
      ("metadata_path", .str "/var/lib/containerd-nydus-grpc/snapshots/3754/fs/image/image.boot")]),
    ("fs_prefetch", .obj [("enable", .bool false), ("prefetch_all", .bool false),
      ("threads_count", .num 0), ("merging_size", .num 0), ("bandwidth_rate", .num 0)])]

/-- A `BlobEntryConf` object: its `conf_base`. The arguments of its setters are
any values `json.dumps` can write. -/
structure BlobEntryConf where
  confBase : Json
  deriving DecidableEq

namespace BlobEntryConf

/-- `self.conf_base.<path> = value` for each assignment in order; reading a
missing namespace on the way raises `AttributeError`. -/
def assign : List (List String × Json) → EStateM PyError BlobEntryConf Unit
  | [] => pure ()
  | (p, v) :: rest => fun c =>
      match c.confBase.setPath p v with
      | some d => assign rest ⟨d⟩
      | none => .error (.attributeError (".".intercalate p)) c

/-- `BlobEntryConf(anchor)`: the template, its cache work dir the anchor's
blobcache dir. -/
def init (anchor : Anchor) : BlobEntryConf :=
  resultState (assign [(["config", "cache_config", "work_dir"], .str anchor.blobcacheDir)]
    ⟨blobConfTemplate⟩)

/-- `set_type(t)`. -/
def setType (t : Json) : EStateM PyError BlobEntryConf Unit := assign [(["type"], t)]

/-- `set_repo(repo)`. -/
def setRepo (repo : Json) : EStateM PyError BlobEntryConf Unit := assign [(["config", "repo"], repo)]

/-- `set_metadata_path(path)`. -/
def setMetadataPath (path : Json) : EStateM PyError BlobEntryConf Unit :=
  assign [(["config", "metadata_path"], path)]

/-- `set_fsid(fsid)`. -/
def setFsid (fsid : Json) : EStateM PyError BlobEntryConf Unit :=
  assign [(["id"], fsid), (["domain_id"], fsid), (["config", "id"], fsid)]

/-- `set_backend()`. -/
def setBackend (anchor : Anchor) : EStateM PyError BlobEntryConf Unit :=
  assign [(["config", "backend_config", "host"], .str anchor.backendProxyUrl),
    (["config", "backend_config", "repo"], .str "nydus")]

/-- `set_prefetch(threads_cnt=4)`. -/
def setPrefetch (threadsCnt : Json := .num 4) : EStateM PyError BlobEntryConf Unit :=
  assign [(["fs_prefetch", "enable"], .bool true), (["fs_prefetch", "prefetch_all"], .bool true),
    (["fs_prefetch", "threads_count"], threadsCnt)]

/-- `dumps()`: `json.dumps(self.conf_base, default=vars)`, which writes every
namespace as the dict of its attributes. -/
def dumps (c : BlobEntryConf) : String := Json.dumps c.confBase

end BlobEntryConf

/-- A call of a `BlobEntryConf` setter, with its arguments. -/
inductive BlobEntryCall where
  | setType (t : Json)
  | setRepo (repo : Json)
  | setMetadataPath (path : Json)
  | setFsid (fsid : Json)
  | setBackend
  | setPrefetch (threadsCnt : Json)

/-- One call. -/
def BlobEntryCall.run (anchor : Anchor) : BlobEntryCall → EStateM PyError BlobEntryConf Unit
  | .setType t => BlobEntryConf.setType t
  | .setRepo repo => BlobEntryConf.setRepo repo
  | .setMetadataPath path => BlobEntryConf.setMetadataPath path
  | .setFsid fsid => BlobEntryConf.setFsid fsid
  | .setBackend => BlobEntryConf.setBackend anchor
  | .setPrefetch n => BlobEntryConf.setPrefetch n

/-- The object after a sequence of calls. -/
def runBlobEntryCalls (anchor : Anchor) : List BlobEntryCall → BlobEntryConf → BlobEntryConf
  | [], c => c
  | call :: rest, c => runBlobEntryCalls anchor rest (resultState (call.run anchor c))

/-- The objects a test can drive a fresh `BlobEntryConf` to. -/
def BlobEntryReachable (anchor : Anchor) (c : BlobEntryConf) : Prop :=
  ∃ calls, runBlobEntryCalls anchor calls (BlobEntryConf.init anchor) = c

/-! ### The namespaces every run keeps -/

/-- The namespaces the setters assign under. -/
def blobShapePaths : List (List String) :=
  [[], ["config"], ["config", "backend_config"], ["config", "cache_config"], ["fs_prefetch"]]

/-- Every namespace a setter assigns under is a namespace. -/
def BlobShaped (d : Json) : Prop := ∀ q ∈ blobShapePaths, d.objAt q

/-- An attribute of one of those namespaces that is none of them. -/
def BlobSafePath (p : List String) : Prop :=
  p ≠ [] ∧ p.dropLast ∈ blobShapePaths ∧ ∀ q ∈ blobShapePaths, ¬ p <+: q

instance : DecidablePred BlobShaped := fun d =>
  inferInstanceAs (Decidable (∀ q ∈ blobShapePaths, d.objAt q))

instance : DecidablePred BlobSafePath := fun p =>
  inferInstanceAs (Decidable (p ≠ [] ∧ p.dropLast ∈ blobShapePaths ∧ ∀ q ∈ blobShapePaths, ¬ p <+: q))

/-- An assignment to a safe path succeeds and keeps the namespaces. -/
theorem blobShaped_setPath {d : Json} {p : List String} (hd : BlobShaped d) (hp : BlobSafePath p)
    (v : Json) : ∃ d', d.setPath p v = some d' ∧ BlobShaped d' := by
  obtain ⟨hne, hq, hs⟩ := hp
  obtain ⟨fs, hfs⟩ := getPath_of_objAt (hd _ hq)
  obtain ⟨d', hd', -⟩ := setPath_append_singleton hfs (p.getLast hne) v
  rw [List.dropLast_append_getLast hne] at hd'
  exact ⟨d', hd', fun q hq => objAt_setPath hd' (hs q hq) (hd q hq)⟩

namespace BlobEntryConf

theorem assign_cons_of_setPath {p : List String} {v d : Json} {rest : List (List String × Json)}
    {c : BlobEntryConf} (h : c.confBase.setPath p v = some d) :
    assign ((p, v) :: rest) c = assign rest ⟨d⟩ := by
  simp only [assign, h]

/-- A run of safe assignments returns and keeps the namespaces. -/
theorem assign_shaped {as : List (List String × Json)} (has : ∀ p ∈ as.map Prod.fst, BlobSafePath p)
    {c : BlobEntryConf} (hc : BlobShaped c.confBase) :
    ∃ c', assign as c = .ok () c' ∧ BlobShaped c'.confBase := by
  induction as generalizing c with
  | nil => exact ⟨c, rfl, hc⟩
  | cons a rest ih =>
      obtain ⟨d, hd, hs⟩ := blobShaped_setPath hc (has a.1 (List.mem_cons_self _ _)) a.2
      rw [assign_cons_of_setPath hd]
      exact ih (fun p hp => has p (List.mem_cons_of_mem _ hp)) hs

theorem assign_cons_eq_ok {p : List String} {v : Json} {rest : List (List String × Json)}
    {c c' : BlobEntryConf} (h : assign ((p, v) :: rest) c = .ok () c') :
    ∃ d, c.confBase.setPath p v = some d ∧ assign rest ⟨d⟩ = .ok () c' := by
  simp only [assign] at h
  split at h
  · next d hd => exact ⟨d, hd, h⟩
  · cases h

/-- A run of assignments leaves every path off their lines as it was. -/
theorem assign_getPath_of_disjoint {as : List (List String × Json)} {c c' : BlobEntryConf}
    (h : assign as c = .ok () c') {q : List String}
    (hq : ∀ p ∈ as.map Prod.fst, ¬ p <+: q ∧ ¬ q <+: p) :
    c'.confBase.getPath q = c.confBase.getPath q := by
  induction as generalizing c with
  | nil => cases h; rfl
  | cons a rest ih =>
      obtain ⟨d, hd, h⟩ := assign_cons_eq_ok h
      have ha := hq a.1 (List.mem_cons_self _ _)
      rw [ih h fun p hp => hq p (List.mem_cons_of_mem _ hp), getPath_setPath_of_disjoint hd ha.1 ha.2]

/-- A path assigned and not touched by the rest of the run reads the value
assigned. -/
theorem assign_cons_getPath {p : List String} {v : Json} {rest : List (List String × Json)}
    {c c' : BlobEntryConf} (h : assign ((p, v) :: rest) c = .ok () c')
    (hr : ∀ p' ∈ rest.map Prod.fst, ¬ p' <+: p ∧ ¬ p <+: p') :
    c'.confBase.getPath p = some v := by
  obtain ⟨d, hd, h⟩ := assign_cons_eq_ok h
  rw [assign_getPath_of_disjoint h hr]
  exact getPath_setPath_self hd

end BlobEntryConf

/-- `__init__` returns, and the object has the shape. -/
theorem BlobEntryConf.init_eq_ok (anchor : Anchor) :
    assign [(["config", "cache_config", "work_dir"], .str anchor.blobcacheDir)] ⟨blobConfTemplate⟩ =
      .ok () (init anchor) ∧ BlobShaped (init anchor).confBase := by
  obtain ⟨c, hc, hs⟩ := @assign_shaped [(["config", "cache_config", "work_dir"], .str anchor.blobcacheDir)]
    (by simp only [List.map_cons, List.map_nil]; decide) ⟨blobConfTemplate⟩ (by decide)
  rw [init, hc]
  exact ⟨rfl, hs⟩

theorem blobShaped_init (anchor : Anchor) : BlobShaped (BlobEntryConf.init anchor).confBase :=
  (BlobEntryConf.init_eq_ok anchor).2

/-- The step: every call on a shaped object returns and keeps the shape. -/
theorem BlobEntryCall.run_shaped (anchor : Anchor) (call : BlobEntryCall) {c : BlobEntryConf}
    (hc : BlobShaped c.confBase) :
    ∃ c', call.run anchor c = .ok () c' ∧ BlobShaped c'.confBase := by
  cases call <;> exact BlobEntryConf.assign_shaped (by simp only [List.map_cons, List.map_nil]; decide) hc

/-- The run: from a shaped object, every sequence of calls keeps the shape and
every property that each returning call keeps. -/
theorem runBlobEntryCalls_invariant {anchor : Anchor} {P : BlobEntryConf → Prop}
    (calls : List BlobEntryCall)
    (hstep : ∀ call ∈ calls, ∀ {c c' : BlobEntryConf}, BlobShaped c.confBase →
      call.run anchor c = .ok () c' → P c → P c')
    {c₀ : BlobEntryConf} (hs : BlobShaped c₀.confBase) (hp : P c₀) :
    BlobShaped (runBlobEntryCalls anchor calls c₀).confBase ∧ P (runBlobEntryCalls anchor calls c₀) := by
  induction calls generalizing c₀ with
  | nil => exact ⟨hs, hp⟩
  | cons call rest ih =>
      obtain ⟨c', hc', hs'⟩ := call.run_shaped anchor hs
      rw [runBlobEntryCalls, hc']
      exact ih (fun call h => hstep call (List.mem_cons_of_mem _ h)) hs'
        (hstep call (List.mem_cons_self _ _) hs hc' hp)

/-- Every object a test reaches has the shape. -/
theorem BlobEntryReachable.shaped {anchor : Anchor} {c : BlobEntryConf}
    (h : BlobEntryReachable anchor c) : BlobShaped c.confBase := by
  obtain ⟨calls, rfl⟩ := h
  exact (runBlobEntryCalls_invariant (P := fun _ => True) calls (fun _ _ _ _ _ _ h => h)
    (blobShaped_init anchor) trivial).1

/-! ### `set_repo` -/

/-- After any sequence of calls, `set_repo(r)` returns having assigned
`config.repo`, a key the template does not have, and left
`config.backend_config.repo`, the repository the entry names, as it was. -/
theorem setRepo_misses_backend_repo {anchor : Anchor} {c : BlobEntryConf}
    (hc : BlobEntryReachable anchor c) (r : Json) :
    ∃ c', BlobEntryConf.setRepo r c = .ok () c' ∧
      blobConfTemplate.getPath ["config", "repo"] = none ∧
      c'.confBase.getPath ["config", "repo"] = some r ∧
      c'.confBase.getPath ["config", "backend_config", "repo"] =
        c.confBase.getPath ["config", "backend_config", "repo"] := by
  obtain ⟨c', hc', -⟩ := (BlobEntryCall.setRepo r).run_shaped anchor hc.shaped
  refine ⟨c', hc', rfl, BlobEntryConf.assign_cons_getPath hc' (by simp),
    BlobEntryConf.assign_getPath_of_disjoint hc' ?_⟩
  simp only [List.map_cons, List.map_nil]
  decide

theorem setRepo_misses_backend_repo_fresh :
    BlobEntryReachable default (BlobEntryConf.init default) ∧
      ∃ c', BlobEntryConf.setRepo (.str "library/busybox") (BlobEntryConf.init default) = .ok () c' ∧
        blobConfTemplate.getPath ["config", "repo"] = none ∧
        c'.confBase.getPath ["config", "repo"] = some (.str "library/busybox") ∧
        c'.confBase.getPath ["config", "backend_config", "repo"] =
          (BlobEntryConf.init default).confBase.getPath ["config", "backend_config", "repo"] :=
  ⟨⟨[], rfl⟩, setRepo_misses_backend_repo ⟨[], rfl⟩ (.str "library/busybox")⟩

example : (resultState (BlobEntryConf.setRepo (.str "library/busybox")
    (BlobEntryConf.init default))).confBase.getPath ["config", "backend_config", "repo"] =
      some (.str "gechangwei/java") := by
  decide

/-! ### The ids -/

/-- The paths `set_fsid` assigns. -/
def idPaths : List (List String) := [["id"], ["domain_id"], ["config", "id"]]

/-- `id`, `domain_id` and `config.id` read the same. -/
def IdsAgree (d : Json) : Prop := ∀ q ∈ idPaths, d.getPath q = d.getPath ["id"]

instance : DecidablePred IdsAgree := fun d =>
  inferInstanceAs (Decidable (∀ q ∈ idPaths, d.getPath q = d.getPath ["id"]))

theorem idsAgree_of_getPath_eq {d d' : Json} (h : ∀ q ∈ idPaths, d'.getPath q = d.getPath q)
    (hi : IdsAgree d) : IdsAgree d' :=
  fun q hq => (h q hq).trans ((hi q hq).trans (h ["id"] (List.mem_cons_self _ _)).symm)

/-- A run of assignments off the ids keeps them agreeing. -/
theorem BlobEntryConf.assign_idsAgree {as : List (List String × Json)}
    (has : ∀ q ∈ idPaths, ∀ p ∈ as.map Prod.fst, ¬ p <+: q ∧ ¬ q <+: p) {c c' : BlobEntryConf}
    (h : assign as c = .ok () c') (hi : IdsAgree c.confBase) : IdsAgree c'.confBase :=
  idsAgree_of_getPath_eq (fun q hq => assign_getPath_of_disjoint h (has q hq)) hi

theorem idsAgree_init (anchor : Anchor) : IdsAgree (BlobEntryConf.init anchor).confBase :=
  BlobEntryConf.assign_idsAgree (by simp only [List.map_cons, List.map_nil]; decide)
    (BlobEntryConf.init_eq_ok anchor).1 (by decide)

/-- The step: `set_fsid` assigns the three ids together, and no other call
assigns any of them. -/
theorem BlobEntryCall.run_idsAgree (anchor : Anchor) (call : BlobEntryCall) {c c' : BlobEntryConf}
    (hr : call.run anchor c = .ok () c') (hi : IdsAgree c.confBase) : IdsAgree c'.confBase := by
  cases call
  case setFsid f =>
    obtain ⟨_, -, h₁⟩ := BlobEntryConf.assign_cons_eq_ok hr
    obtain ⟨_, -, h₂⟩ := BlobEntryConf.assign_cons_eq_ok h₁
    have hid : c'.confBase.getPath ["id"] = some f :=
      BlobEntryConf.assign_cons_getPath hr (by simp only [List.map_cons, List.map_nil]; decide)
    have hdom : c'.confBase.getPath ["domain_id"] = some f :=
      BlobEntryConf.assign_cons_getPath h₁ (by simp only [List.map_cons, List.map_nil]; decide)
    have hcid : c'.confBase.getPath ["config", "id"] = some f :=
      BlobEntryConf.assign_cons_getPath h₂ (by simp)
    intro q hq
    simp only [idPaths, List.mem_cons, List.mem_singleton, List.not_mem_nil, or_false] at hq
    rcases hq with rfl | rfl | rfl <;> simp only [hid, hdom, hcid]
  all_goals
    exact BlobEntryConf.assign_idsAgree (by simp only [List.map_cons, List.map_nil]; decide) hr hi

/-- The run: along every sequence of calls, `id`, `domain_id` and `config.id`
read the same. -/
theorem BlobEntryReachable.idsAgree {anchor : Anchor} {c : BlobEntryConf}
    (h : BlobEntryReachable anchor c) : IdsAgree c.confBase := by
  obtain ⟨calls, rfl⟩ := h
  exact (runBlobEntryCalls_invariant (P := fun c => IdsAgree c.confBase) calls
    (fun call _ _ _ _ hr hi => call.run_idsAgree anchor hr hi) (blobShaped_init anchor)
    (idsAgree_init anchor)).2

theorem BlobEntryReachable.idsAgree_after_setFsid :
    BlobEntryReachable default (runBlobEntryCalls default [.setFsid (.str "fs1"), .setType (.str "t")]
        (BlobEntryConf.init default)) ∧
      IdsAgree (runBlobEntryCalls default [.setFsid (.str "fs1"), .setType (.str "t")]
        (BlobEntryConf.init default)).confBase :=
  ⟨⟨_, rfl⟩, BlobEntryReachable.idsAgree ⟨_, rfl⟩⟩

/-! ### The repository `set_backend` names -/

/-- The path of the repository the entry names. -/
def backendRepoPath : List String := ["config", "backend_config", "repo"]

/-- The step: `set_backend` assigns `nydus` there, and no other call assigns
that path. -/
theorem BlobEntryCall.run_backendRepo (anchor : Anchor) (call : BlobEntryCall) {c c' : BlobEntryConf}
    (hr : call.run anchor c = .ok () c') (hn : c.confBase.getPath backendRepoPath = some (.str "nydus")) :
    c'.confBase.getPath backendRepoPath = some (.str "nydus") := by
  cases call
  case setBackend =>
    obtain ⟨_, -, h₁⟩ := BlobEntryConf.assign_cons_eq_ok hr
    exact BlobEntryConf.assign_cons_getPath h₁ (by simp)
  all_goals
    rw [BlobEntryConf.assign_getPath_of_disjoint hr (by simp only [List.map_cons, List.map_nil]; decide), hn]

/-- After `set_backend()`, from any object a test reaches and whatever calls
follow, `config.backend_config.repo` names `nydus`. -/
theorem setBackend_names_nydus {anchor : Anchor} {c : BlobEntryConf} (hc : BlobEntryReachable anchor c)
    (calls : List BlobEntryCall) :
    ∃ c₁, BlobEntryConf.setBackend anchor c = .ok () c₁ ∧
      (runBlobEntryCalls anchor calls c₁).confBase.getPath backendRepoPath = some (.str "nydus") := by
  obtain ⟨c₁, h₁, hs⟩ := BlobEntryCall.setBackend.run_shaped anchor hc.shaped
  obtain ⟨_, -, h₂⟩ := BlobEntryConf.assign_cons_eq_ok h₁
  exact ⟨c₁, h₁, (runBlobEntryCalls_invariant (P := fun c => c.confBase.getPath backendRepoPath = _)
    calls (fun call _ _ _ _ hr hn => call.run_backendRepo anchor hr hn) hs
    (BlobEntryConf.assign_cons_getPath h₂ (by simp))).2⟩

theorem setBackend_names_nydus_then_setRepo :
    BlobEntryReachable default (BlobEntryConf.init default) ∧
      ∃ c₁, BlobEntryConf.setBackend default (BlobEntryConf.init default) = .ok () c₁ ∧
        (runBlobEntryCalls default [.setRepo (.str "library/busybox")] c₁).confBase.getPath
          backendRepoPath = some (.str "nydus") :=
  ⟨⟨[], rfl⟩, setBackend_names_nydus ⟨[], rfl⟩ [.setRepo (.str "library/busybox")]⟩

/-! ### The keys of the document -/

/-- A call that writes no key the template lacks: any call but `set_repo`, with
an argument that is `None`, a `bool`, an `int` or a `str`. -/
def BlobEntryCall.KeepsKeys : BlobEntryCall → Prop
  | .setType t | .setMetadataPath t | .setFsid t | .setPrefetch t => skeleton t = .null
  | .setRepo _ => False
  | .setBackend => True

instance : DecidablePred BlobEntryCall.KeepsKeys
  | .setType t | .setMetadataPath t | .setFsid t | .setPrefetch t =>
      inferInstanceAs (Decidable (skeleton t = .null))
  | .setRepo _ => inferInstanceAs (Decidable False)
  | .setBackend => inferInstanceAs (Decidable True)

/-- A run that assigns scalars to paths that hold a scalar in the template
keeps the template's keys. -/
theorem BlobEntryConf.assign_keys {as : List (List String × Json)}
    (hp : ∀ p ∈ as.map Prod.fst, (blobConfTemplate.getPath p).map skeleton = some .null)
    (hv : ∀ v ∈ as.map Prod.snd, skeleton v = .null) {c c' : BlobEntryConf}
    (h : assign as c = .ok () c') (hc : skeleton c.confBase = skeleton blobConfTemplate) :
    skeleton c'.confBase = skeleton blobConfTemplate := by
  induction as generalizing c with
  | nil => cases h; exact hc
  | cons a rest ih =>
      obtain ⟨d, hd, h⟩ := assign_cons_eq_ok h
      have hold : (c.confBase.getPath a.1).map skeleton = some .null := by
        rw [← getPath_skeleton, hc, getPath_skeleton]
        exact hp a.1 (List.mem_cons_self _ _)
      obtain ⟨old, hold, hs⟩ := Option.map_eq_some'.1 hold
      refine ih (fun p h => hp p (List.mem_cons_of_mem _ h)) (fun v h => hv v (List.mem_cons_of_mem _ h)) h ?_
      rw [← hc]
      exact skeleton_setPath hd hold ((hv a.2 (List.mem_cons_self _ _)).trans hs.symm)

theorem keys_init (anchor : Anchor) :
    skeleton (BlobEntryConf.init anchor).confBase = skeleton blobConfTemplate :=
  BlobEntryConf.assign_keys (by simp only [List.map_cons, List.map_nil]; decide) (by simp [skeleton])
    (BlobEntryConf.init_eq_ok anchor).1 rfl

/-- The step: a call that keeps the keys keeps them. -/
theorem BlobEntryCall.run_keys (anchor : Anchor) (call : BlobEntryCall) (hk : call.KeepsKeys)
    {c c' : BlobEntryConf} (hr : call.run anchor c = .ok () c')
    (hc : skeleton c.confBase = skeleton blobConfTemplate) :
    skeleton c'.confBase = skeleton blobConfTemplate := by
  cases call
  case setRepo => exact hk.elim
  all_goals
    exact BlobEntryConf.assign_keys (by simp only [List.map_cons, List.map_nil]; decide)
      (by revert hk; simp [BlobEntryCall.KeepsKeys, skeleton]) hr hc

/-- Along every sequence of calls without `set_repo` whose arguments are
scalars, the document `dumps()` writes has exactly the template's keys, in the
template's order. -/
theorem runBlobEntryCalls_keys (anchor : Anchor) (calls : List BlobEntryCall)
    (hk : ∀ call ∈ calls, call.KeepsKeys) :
    skeleton (runBlobEntryCalls anchor calls (BlobEntryConf.init anchor)).confBase =
      skeleton blobConfTemplate :=
  (runBlobEntryCalls_invariant (P := fun c => skeleton c.confBase = skeleton blobConfTemplate) calls
    (fun call hm _ _ _ hr hc => call.run_keys anchor (hk call hm) hr hc) (blobShaped_init anchor)
    (keys_init anchor)).2

theorem runBlobEntryCalls_keys_fsid_backend_prefetch :
    (∀ call ∈ [BlobEntryCall.setFsid (.str "fs1"), .setBackend, .setPrefetch (.num 8)], call.KeepsKeys) ∧
      skeleton (runBlobEntryCalls default [.setFsid (.str "fs1"), .setBackend, .setPrefetch (.num 8)]
        (BlobEntryConf.init default)).confBase = skeleton blobConfTemplate :=
  ⟨by decide, runBlobEntryCalls_keys default _ (by decide)⟩

end NydusTest
