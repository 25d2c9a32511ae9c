import NydusTest.Python.Loads
import NydusTest.Config.Dump
import NydusTest.Config.BlobEntry

/-!
What `json.loads` reads back from the JSON texts of the configuration objects.
`RafsConf.__init__` builds `_device_conf` as `json.loads(json.dumps(...))` of the
default dict, which gives back the default tree for every `PREFERRED_MODE`. No
namespace of a state a test reaches has an attribute twice, so every config file
`dump_rafs_conf` writes for nydusd reads back as exactly the tree the object
holds. `BlobEntryConf.__init__` parses `BLOB_CONF_TEMPLATE` into the template
tree, and after any calls with values the model stands for (`None`, booleans,
ints, strings and namespaces of them) the text `dumps()` returns reads back as
`conf_base`.
-/

namespace NydusTest

open Json

/-! ### `RafsConf` -/

theorem wellKeyed_rafsConfDefault (mode : String) : wellKeyed (rafsConfDefault mode) := rfl

/-- `json.loads(json.dumps(self._rafs_conf_default), object_hook=...)` in
`__init__` gives back the default tree, the model's `_device_conf`, for every
`PREFERRED_MODE`. -/
theorem init_loads_dumps (preferredMode : Option String) :
    loads (dumps (rafsConfDefault (preferredMode.getD "direct"))) =
      .ok (RafsConf.init preferredMode).deviceConf :=
  loads_dumps_of_wellKeyed (wellKeyed_rafsConfDefault _)

/-- The value an assignment writes, when its evaluation returns, has each
attribute once. -/
def Assign.WellKeyed (a : Assign) : Bool :=
  match a.value with
  | .ok v => wellKeyed v
  | .error _ => true

/-- Every call of `RafsConf` assigns values with each attribute once. -/
theorem ConfCall.assigns_wellKeyed (anchor : Anchor) (call : ConfCall) :
    (call.assigns anchor).all Assign.WellKeyed := by
  rcases call with ⟨b, ⟨_ | _, _, _ | _, _ | _ | _⟩⟩ | s | _
  all_goals try (cases b <;> rfl)
  · cases s <;> (try rfl)
    show (if anchor.fsVersion = 6 then [] else _).all _ = true
    split <;> rfl
  · show (if anchor.fsVersion = 6 then _ else []).all _ = true
    split <;> rfl

/-- The run: no namespace of a state a test reaches has an attribute twice. -/
theorem Reachable.wellKeyed_deviceConf {anchor : Anchor} {mode : Option String} {c : RafsConf}
    (h : Reachable anchor mode c) : wellKeyed c.deviceConf :=
  h.induction (P := fun c => wellKeyed c.deviceConf) (wellKeyed_rafsConfDefault _)
    fun call _ hc => call.run_invariant anchor (fun a ha _ _ _ hv hd hs =>
      wellKeyed_setPath hd (by
        simpa [Assign.WellKeyed, hv] using List.all_eq_true.1 (call.assigns_wellKeyed anchor) a ha) hs) hc

set_option maxRecDepth 20000 in
/-- `json.loads(BLOB_CONF_TEMPLATE, object_hook=...)` is the template tree
`BlobEntryConf.__init__` starts from. -/
theorem loads_blobConfTemplateText : loads blobConfTemplateText = .ok blobConfTemplate := by rfl

/-- The arguments of a call are values the model stands for: `None`, booleans,
ints, strings and namespaces of them, each attribute of a namespace once. -/
def BlobEntryCall.WellKeyedArgs : BlobEntryCall → Bool
  | .setType t | .setRepo t | .setMetadataPath t | .setFsid t | .setPrefetch t => wellKeyed t
  | .setBackend => true

theorem BlobEntryConf.assign_wellKeyed {as : List (List String × Json)}
    (hv : ∀ p ∈ as, wellKeyed p.2) {c c' : BlobEntryConf} (h : assign as c = .ok () c')
    (hc : wellKeyed c.confBase) : wellKeyed c'.confBase := by
  induction as generalizing c with
  | nil => cases h; exact hc
  | cons a rest ih =>
      obtain ⟨d, hd, h⟩ := assign_cons_eq_ok h
      exact ih (fun p hp => hv p (List.mem_cons_of_mem _ hp)) h
        (wellKeyed_setPath hc (hv a (List.mem_cons_self _ _)) hd)

theorem wellKeyed_init (anchor : Anchor) : wellKeyed (BlobEntryConf.init anchor).confBase :=
  BlobEntryConf.assign_wellKeyed (by simp [wellKeyed]) (BlobEntryConf.init_eq_ok anchor).1 (by decide)

/-- The step: a call with such arguments keeps each attribute once. -/
theorem BlobEntryCall.run_wellKeyed (anchor : Anchor) (call : BlobEntryCall)
    (hk : call.WellKeyedArgs) {c c' : BlobEntryConf} (hr : call.run anchor c = .ok () c')
    (hc : wellKeyed c.confBase) : wellKeyed c'.confBase := by
  cases call <;> refine BlobEntryConf.assign_wellKeyed ?_ hr hc
  case setBackend => simp [wellKeyed]
  all_goals simpa [BlobEntryCall.WellKeyedArgs, wellKeyed] using hk

end NydusTest
