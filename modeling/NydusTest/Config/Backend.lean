import NydusTest.Config.RafsConf

/-!
What `set_rafs_backend` does to `device.backend`. The method only assigns:
`device.backend.type`, then the attributes of the selected variant under
`device.backend.config`; nothing removes an attribute. Seen through
`BackendView` (the type and the config attributes), the namespace tree refines
an abstract run of the assignments, and on that run the type written does not
depend on the state while the config is the previous config with the fresh
variant's attributes assigned over it. Attributes of an earlier selection stay.
-/

namespace NydusTest

open Json

/-- `device.backend.type` and the attributes of `device.backend.config`. -/
structure BackendView where
  type : Option Json
  config : List (String × Json)
  deriving DecidableEq

/-- The backend sub-document of a configuration tree. -/
def backendView (d : Json) : Option BackendView :=
  match d.getPath ["device", "backend", "config"] with
  | some (.obj fs) => some ⟨d.getPath ["device", "backend", "type"], fs⟩
  | _ => none

namespace BackendView

/-- One assignment on the view. -/
def apply (w : BackendView) : BackendAttr → Json → BackendView
  | .type, v => { w with type := some v }
  | .config k, v => { w with config := setField w.config k v }

/-- A run of assignments on the view, stopping at the first that raises. -/
def run (w : BackendView) : List (BackendAttr × Except PyError Json) → BackendView
  | [] => w
  | (a, .ok v) :: rest => (w.apply a v).run rest
  | (_, .error _) :: _ => w

/-- The config attributes a run assigns, in order, up to its first raise. -/
def configWrites : List (BackendAttr × Except PyError Json) → List (String × Json)
  | [] => []
  | (.config k, .ok v) :: rest => (k, v) :: configWrites rest
  | (.type, .ok _) :: rest => configWrites rest
  | (_, .error _) :: _ => []

theorem run_config (w : BackendView) (as : List (BackendAttr × Except PyError Json)) :
    (w.run as).config = setFields w.config (configWrites as) := by
  induction as generalizing w with
  | nil => rfl
  | cons av rest ih =>
      obtain ⟨a, v | v⟩ := av
      · cases a <;> rfl
      · cases a <;> simp [run, apply, configWrites, ih, setFields]

theorem run_type_congr {w₁ w₂ : BackendView} (h : w₁.type = w₂.type)
    (as : List (BackendAttr × Except PyError Json)) : (w₁.run as).type = (w₂.run as).type := by
  induction as generalizing w₁ w₂ with
  | nil => exact h
  | cons av rest ih =>
      obtain ⟨a, v | v⟩ := av
      · exact h
      · cases a <;> exact ih (by simp [apply, h])

/-- A run that starts by writing the type ends with a type that does not depend
on the view it started from. -/
theorem run_type_cons_type (w₁ w₂ : BackendView) (v : Json)
    (rest : List (BackendAttr × Except PyError Json)) :
    (w₁.run ((.type, .ok v) :: rest)).type = (w₂.run ((.type, .ok v) :: rest)).type :=
  run_type_congr (show (w₁.apply .type v).type = (w₂.apply .type v).type from rfl) rest

end BackendView

/-! ### The tree refines the view -/

variable {anchor : Anchor}

/-- One `_configure_rafs` of `set_rafs_backend` on a tree with the shape. -/
theorem setPath_backendAttr {d : Json} {w : BackendView} (hd : Shaped d)
    (hw : backendView d = some w) (a : BackendAttr) (v : Json) :
    ∃ d', d.setPath a.path v = some d' ∧ Shaped d' ∧ backendView d' = some (w.apply a v) := by
  unfold backendView at hw
  split at hw
  case h_2 => cases hw
  next fs hfs =>
  cases hw
  cases a with
  | type =>
      obtain ⟨gs, hgs⟩ := getPath_of_objAt (hd ["device", "backend"] (by simp [shapePaths]))
      obtain ⟨d', hd', -⟩ := setPath_append_singleton hgs "type" v
      replace hd' : d.setPath ["device", "backend", "type"] v = some d' := hd'
      have hcfg := getPath_setPath_of_disjoint hd' (q := ["device", "backend", "config"])
        (by decide) (by decide)
      refine ⟨d', hd', shaped_setPath hd BackendAttr.type.path_safe hd', ?_⟩
      simp [backendView, hcfg, hfs, getPath_setPath_self hd', BackendView.apply]
  | config k =>
      obtain ⟨d', hd', hcfg⟩ := setPath_append_singleton hfs k v
      replace hd' : d.setPath ["device", "backend", "config", k] v = some d' := hd'
      have htype := getPath_setPath_of_disjoint hd' (q := ["device", "backend", "type"])
        (fun h => absurd h.length_le (by simp)) (by rintro ⟨t, ht⟩; simp at ht)
      refine ⟨d', hd', shaped_setPath hd (BackendAttr.config k).path_safe hd', ?_⟩
      simp [backendView, hcfg, htype, BackendView.apply]

theorem backendView_of_shaped {d : Json} (hd : Shaped d) : ∃ w, backendView d = some w := by
  obtain ⟨fs, hfs⟩ := getPath_of_objAt (hd ["device", "backend", "config"] (by simp [shapePaths]))
  exact ⟨⟨d.getPath ["device", "backend", "type"], fs⟩, by simp [backendView, hfs]⟩

/-- The run: `configureAll` on the tree is the view's run, and keeps the shape,
whether it returns or raises. -/
theorem configureAll_backendView {c : RafsConf} {w : BackendView} (hc : Shaped c.deviceConf)
    (hw : backendView c.deviceConf = some w) (as : List (BackendAttr × Except PyError Json)) :
    Shaped (resultState (configureAll (as.map fun av => ⟨av.1.path, av.2⟩) c)).deviceConf ∧
      backendView (resultState (configureAll (as.map fun av => ⟨av.1.path, av.2⟩) c)).deviceConf =
        some (w.run as) := by
  induction as generalizing c w with
  | nil => exact ⟨hc, hw⟩
  | cons av rest ih =>
      obtain ⟨a, v | v⟩ := av
      · exact ⟨hc, hw⟩
      · obtain ⟨d', hd', hs', hw'⟩ := setPath_backendAttr hc hw a v
        simpa [configureAll, configureRafs_of_setPath hd', BackendView.run] using
          ih (c := { c with deviceConf := d' }) hs' hw'

theorem getPath_type_of_backendView {d : Json} {w : BackendView} (h : backendView d = some w) :
    d.getPath ["device", "backend", "type"] = w.type := by
  unfold backendView at h
  split at h <;> cases h
  rfl

/-- After `set_rafs_backend(b)`, from any state a test reaches and whether the
call returned or raised, `get_rafs_backend()` reads `str(b)`, except that a
backend proxy is configured as a registry. -/
theorem getRafsBackend_setRafsBackend {mode : Option String} {c : RafsConf}
    (hc : Reachable anchor mode c) (b : Backend) (kw : BackendKwargs) :
    getRafsBackend (resultState (setRafsBackend anchor b kw c)) =
      some (.str (if b = .backendProxy then "registry" else b.value)) := by
  obtain ⟨old, hold⟩ := backendView_of_shaped hc.shaped
  obtain ⟨-, hr⟩ := configureAll_backendView hc.shaped hold (backendAssignments anchor b kw)
  rw [getRafsBackend, setRafsBackend, backendAssigns, getPath_type_of_backendView hr]
  obtain ⟨repo, scheme, keyPrefix, image⟩ := kw
  cases b
  case oss => cases keyPrefix <;> rfl
  case registry => cases repo <;> rfl
  case localfs => rcases image with _ | _ | _ <;> rfl
  case backendProxy => rfl

/-- OSS first, then a backend proxy: the type reads `registry`. -/
theorem getRafsBackend_setRafsBackend_proxy_after_oss :
    let c := resultState (setRafsBackend default .oss {} (RafsConf.init none))
    Reachable default none c ∧
      getRafsBackend (resultState (setRafsBackend default .backendProxy {} c)) = some (.str "registry") := by
  intro c
  have hc : Reachable default none c := ⟨[.backend .oss {}], rfl⟩
  exact ⟨hc, getRafsBackend_setRafsBackend hc .backendProxy {}⟩

theorem configWrites_backendAssignments_nodup (anchor : Anchor) (b : Backend) (kw : BackendKwargs) :
    ((BackendView.configWrites (backendAssignments anchor b kw)).map Prod.fst).Nodup := by
  obtain ⟨repo, scheme, keyPrefix, image⟩ := kw
  cases b
  case oss => cases keyPrefix <;> simp [backendAssignments, BackendView.configWrites]
  case registry => cases repo <;> simp [backendAssignments, BackendView.configWrites]
  case localfs => rcases image with _ | _ | _ <;> simp [backendAssignments, BackendView.configWrites]
  case backendProxy => simp [backendAssignments, BackendView.configWrites]

/-- `set_rafs_backend(b, **kwargs)` from any state a test reaches writes the
type a fresh `RafsConf` would get, and assigns the fresh config's attributes
over the config already there, which keeps every attribute it does not assign. -/
theorem setRafsBackend_assigns_over_config {mode : Option String} {c : RafsConf}
    (hc : Reachable anchor mode c) (b : Backend) (kw : BackendKwargs) :
    ∃ old fresh : BackendView,
      backendView c.deviceConf = some old ∧
      backendView (resultState (setRafsBackend anchor b kw (RafsConf.init mode))).deviceConf =
        some fresh ∧
      backendView (resultState (setRafsBackend anchor b kw c)).deviceConf =
        some ⟨fresh.type, setFields old.config fresh.config⟩ := by
  obtain ⟨old, hold⟩ := backendView_of_shaped hc.shaped
  have hinit : backendView (RafsConf.init mode).deviceConf = some ⟨some (.str "oss"), []⟩ := by
    simp [backendView, RafsConf.init, rafsConfDefault, getField]
  obtain ⟨-, hf⟩ := configureAll_backendView (shaped_init mode) hinit (backendAssignments anchor b kw)
  obtain ⟨-, hr⟩ := configureAll_backendView hc.shaped hold (backendAssignments anchor b kw)
  refine ⟨old, _, hold, hf, hr.trans ?_⟩
  have hnil : setFields [] (BackendView.configWrites (backendAssignments anchor b kw)) =
      BackendView.configWrites (backendAssignments anchor b kw) :=
    (setFields_of_fresh (configWrites_backendAssignments_nodup anchor b kw) (by simp)).trans
      (List.nil_append _)
  have ht : (old.run (backendAssignments anchor b kw)).type =
      (BackendView.run ⟨some (.str "oss"), []⟩ (backendAssignments anchor b kw)).type :=
    BackendView.run_type_cons_type old _ (.str b.value) _
  have hcfg : (old.run (backendAssignments anchor b kw)).config =
      setFields old.config ((BackendView.run ⟨some (.str "oss"), []⟩ (backendAssignments anchor b kw)).config) := by
    rw [BackendView.run_config, BackendView.run_config, hnil]
  rw [← ht, ← hcfg]

/-- OSS, then localfs: the fresh localfs config holds `dir` only, and the OSS
credentials stay beside it. -/
theorem setRafsBackend_assigns_over_config_after_oss :
    let anchor : Anchor := { (default : Anchor) with ossAkSecret := "sk", localfsWorkdir := "/wd" }
    let c := resultState (setRafsBackend anchor .oss {} (RafsConf.init none))
    Reachable anchor none c ∧
      (∃ old fresh : BackendView,
        backendView c.deviceConf = some old ∧
        backendView (resultState (setRafsBackend anchor .localfs {} (RafsConf.init none))).deviceConf =
          some fresh ∧
        backendView (resultState (setRafsBackend anchor .localfs {} c)).deviceConf =
          some ⟨fresh.type, setFields old.config fresh.config⟩) ∧
      (resultState (setRafsBackend anchor .localfs {} c)).deviceConf.getPath
        ["device", "backend", "config", "access_key_secret"] = some (.str "sk") := by
  intro anchor c
  have hc : Reachable anchor none c := ⟨[.backend .oss {}], rfl⟩
  exact ⟨hc, setRafsBackend_assigns_over_config hc .localfs {}, by decide⟩

/-- An OSS selection followed by a localfs one is not what a localfs selection
gives on a fresh `RafsConf`: the OSS credentials stay in the config. -/
theorem setRafsBackend_keeps_earlier_variant :
    (resultState (setRafsBackend default .localfs {}
        (resultState (setRafsBackend default .oss {} (RafsConf.init none))))).deviceConf.getPath
        ["device", "backend"] ≠
      (resultState (setRafsBackend default .localfs {} (RafsConf.init none))).deviceConf.getPath
        ["device", "backend"] := by
  decide

end NydusTest
