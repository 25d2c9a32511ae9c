import Mathlib.Data.List.Chain
import NydusTest.Image.RafsImage

/-!
The builder's command line across `create_image` calls. `_tweak_build_command`
appends the rendered options to `self.opts`, and only `__init__` assigns
`opts`: so each call runs the builder with the options of every earlier call
before its own. Of two calls with the same arguments, the second runs a strictly
longer command line, whether the first returned or raised after the builder (a
failed build among them).

Up to `_tweak_build_command` a call with a valid `oss_uploader` returns, leaves
the machine, the rootfs, the bootstrap name and `opts` as they are, and only adds
option keys; `set_param("log-level", ...)` adds one whose rendering is not
empty. After the builder, no statement changes the commands run, `opts` or what
the rendering reads.
-/

namespace NydusTest

/-! ### Option keys and the rendering -/

/-- Setting an option adds its key to the keys, and removes none. -/
theorem setParam.mem_keys_dictSet (d : List (String × String)) (k v k' : String) :
    k' ∈ (setParam.dictSet d k v).map Prod.fst ↔ k' = k ∨ k' ∈ d.map Prod.fst := by
  induction d with
  | nil => simp [setParam.dictSet]
  | cons kv rest ih =>
      obtain ⟨k₀, v₀⟩ := kv
      by_cases h : k₀ = k
      · subst h
        simp [setParam.dictSet]
      · simp only [setParam.dictSet, h, if_false, List.map_cons, List.mem_cons, ih]
        exact or_left_comm

/-- A key of the options is rendered in full. -/
theorem RafsImage.key_length_le_renderedOptions {i : RafsImage} {k : String}
    (hk : k ∈ i.commandParamDict.map Prod.fst) : k.length ≤ i.renderedOptions.length := by
  obtain ⟨⟨k, v⟩, hkv, rfl⟩ := List.mem_map.1 hk
  have hsub := List.sublist_flatten_of_mem (List.mem_map_of_mem String.data
    (List.mem_map_of_mem (fun kv : String × String =>
      i.paramSeparator ++ i.paramNamePrefix ++ kv.1 ++ i.paramValuePrefix ++ kv.2) hkv))
  have hlen := hsub.length_le
  simp only [String.data_append, List.length_append] at hlen
  simp only [RafsImage.renderedOptions, String.length, String.data_append, List.length_append,
    String.data_join]
  omega

/-! ### Up to `_tweak_build_command` -/

/-- What the statements of `create_image` before `_tweak_build_command` keep. -/
structure ParamsKept (s s' : Sys RafsImage) : Prop where
  host : s'.host = s.host
  rootfs : s'.self.rootfs = s.self.rootfs
  bootstrapName : s'.self.bootstrapName = s.self.bootstrapName
  opts : s'.self.opts = s.self.opts
  keys : ∀ k ∈ s.self.commandParamDict.map Prod.fst, k ∈ s'.self.commandParamDict.map Prod.fst

theorem ParamsKept.refl (s : Sys RafsImage) : ParamsKept s s :=
  ⟨rfl, rfl, rfl, rfl, fun _ h => h⟩

/-- `_tweak_build_command`, after statements that keep `ParamsKept`. -/
structure OptionsAppended (s s' : Sys RafsImage) : Prop where
  host : s'.host = s.host
  rootfs : s'.self.rootfs = s.self.rootfs
  bootstrapName : s'.self.bootstrapName = s.self.bootstrapName
  opts : s'.self.opts = s.self.opts ++ s'.self.renderedOptions
  keys : ∀ k ∈ s.self.commandParamDict.map Prod.fst, k ∈ s'.self.commandParamDict.map Prod.fst

/-- What the statements of `create_image` before the builder do. -/
structure Prepared (s s' : Sys RafsImage) : Prop where
  host : s'.host = s.host
  rootfs : s'.self.rootfs = s.self.rootfs
  bootstrapName : s'.self.bootstrapName = s.self.bootstrapName
  opts : s'.self.opts = s.self.opts ++ s'.self.renderedOptions
  rendered_pos : 0 < s'.self.renderedOptions.length

theorem ParamsKept.trans_optionsAppended (a b c : Sys RafsImage) (h₁ : ParamsKept a b)
    (h₂ : OptionsAppended b c) : OptionsAppended a c :=
  ⟨h₂.host.trans h₁.host, h₂.rootfs.trans h₁.rootfs, h₂.bootstrapName.trans h₁.bootstrapName,
    h₁.opts ▸ h₂.opts, fun k hk => h₂.keys k (h₁.keys k hk)⟩

theorem ParamsKept.trans_prepared (a b c : Sys RafsImage) (h₁ : ParamsKept a b) (h₂ : Prepared b c) :
    Prepared a c :=
  ⟨h₂.host.trans h₁.host, h₂.rootfs.trans h₁.rootfs, h₂.bootstrapName.trans h₁.bootstrapName,
    h₁.opts ▸ h₂.opts, h₂.rendered_pos⟩

/-- Once the log level is an option, whatever `_tweak_build_command` appends is
not empty. -/
theorem prepared_of_logLevel (a b c : Sys RafsImage)
    (h₁ : ParamsKept a b ∧ "log-level" ∈ b.self.commandParamDict.map Prod.fst)
    (h₂ : OptionsAppended b c) : Prepared a c :=
  ⟨h₂.host.trans h₁.1.host, h₂.rootfs.trans h₁.1.rootfs,
    h₂.bootstrapName.trans h₁.1.bootstrapName, h₁.1.opts ▸ h₂.opts,
    Nat.lt_of_lt_of_le (by decide) (RafsImage.key_length_le_renderedOptions (h₂.keys _ h₁.2))⟩

theorem setParam_returns (k v : String) :
    Returns (fun s s' => ParamsKept s s' ∧ k ∈ s'.self.commandParamDict.map Prod.fst)
      (setParam k v) :=
  Returns.modifySelf fun _ =>
    ⟨⟨rfl, rfl, rfl, rfl, fun _ h => (setParam.mem_keys_dictSet _ _ _ _).2 (.inr h)⟩,
      (setParam.mem_keys_dictSet _ _ _ _).2 (.inl rfl)⟩

theorem setParam_paramsKept (k v : String) : Returns ParamsKept (setParam k v) :=
  (setParam_returns k v).imp fun _ _ h => h.1

theorem setFlags_paramsKept (flag : String) : Returns ParamsKept (setFlags flag) :=
  Returns.modifySelf fun _ => ⟨rfl, rfl, rfl, rfl, fun _ h => h⟩

theorem tweakBuildCommand_optionsAppended : Returns OptionsAppended tweakBuildCommand :=
  Returns.modifySelf fun _ => ⟨rfl, rfl, rfl, rfl, fun _ h => h⟩

variable (anchor : Anchor)

/-- With a valid `oss_uploader`, the statements before the builder return, and
append a non-empty rendering to `opts`. -/
theorem prepareBuild_prepared {args : CreateArgs} (hu : args.ossUploader ∈ ["util", "builder", "none"])
    (outputJson : Path) : Returns Prepared (prepareBuild anchor args outputJson) := by
  unfold prepareBuild
  refine Returns.bind ParamsKept.trans_prepared
    (Returns.modifySelf fun _ => ⟨rfl, rfl, rfl, rfl, fun _ h => h⟩) fun _ => ?_
  refine Returns.bind ParamsKept.trans_prepared
    (Returns.pyAssert ParamsKept.refl (decide_eq_true hu)) fun _ => ?_
  refine Returns.bind ParamsKept.trans_prepared
    (Returns.ifHasAttr ParamsKept.refl fun _ _ => setParam_paramsKept _ _) fun _ => ?_
  refine Returns.bind prepared_of_logLevel (setParam_returns _ _) fun _ => ?_
  repeat' with_reducible first
    | exact tweakBuildCommand_optionsAppended
    | refine Returns.bind ParamsKept.trans_optionsAppended ?_ fun _ => ?_
    | refine Returns.pyIf ParamsKept.refl fun _ => ?_
    | refine Returns.ifHasAttr ParamsKept.refl fun _ _ => ?_
    | exact setParam_paramsKept _ _
    | exact setFlags_paramsKept _

/-! ### The builder and after -/

/-- What the statements of `create_image` after the builder keep: the commands
run, and everything the command line and the rendering read. -/
structure CommandKept (s s' : Sys RafsImage) : Prop where
  commands : s'.host.commands = s.host.commands
  rootfs : s'.self.rootfs = s.self.rootfs
  bootstrapName : s'.self.bootstrapName = s.self.bootstrapName
  opts : s'.self.opts = s.self.opts
  rendered : s'.self.renderedOptions = s.self.renderedOptions

theorem CommandKept.refl (s : Sys RafsImage) : CommandKept s s := ⟨rfl, rfl, rfl, rfl, rfl⟩

theorem CommandKept.trans (a b c : Sys RafsImage) (h₁ : CommandKept a b) (h₂ : CommandKept b c) :
    CommandKept a c :=
  ⟨h₂.commands.trans h₁.commands, h₂.rootfs.trans h₁.rootfs,
    h₂.bootstrapName.trans h₁.bootstrapName, h₂.opts.trans h₁.opts, h₂.rendered.trans h₁.rendered⟩

theorem onHost_commandKept {f : Host → Except PyError Host}
    (hf : ∀ h h', f h = .ok h' → h'.commands = h.commands) : Preserves CommandKept (onHost f) := by
  intro s
  rw [onHost_apply]
  split
  · next h' hh => exact ⟨hf _ _ hh, rfl, rfl, rfl, rfl⟩
  · exact CommandKept.refl s

theorem modifySelf_commandKept {f : RafsImage → RafsImage}
    (h : ∀ s : Sys RafsImage, CommandKept s { s with self := f s.self }) :
    Preserves CommandKept (modifySelf f) :=
  h

/-- The builder's run and the statements after it: one command more, the
command line of the state the builder started in. -/
structure BuilderRan (bin : String) (s s' : Sys RafsImage) : Prop where
  commands : s'.host.commands = s.host.commands ++ [s.self.buildCommand bin]
  rootfs : s'.self.rootfs = s.self.rootfs
  bootstrapName : s'.self.bootstrapName = s.self.bootstrapName
  opts : s'.self.opts = s.self.opts
  rendered : s'.self.renderedOptions = s.self.renderedOptions

theorem runBuilder_builderRan (bin : String) (run : BuildRun) (k : RafsImage → ImageM Unit)
    (hk : ∀ i, Preserves CommandKept (k i)) :
    Preserves (BuilderRan bin) (getSelf >>= fun i => runBuilder (i.buildCommand bin) run >>= fun _ => k i) := by
  intro s
  have h := hk s.self ⟨{ s.host with
    files := s.host.files ∪ run.produced.toFinset
    commands := s.host.commands ++ [s.self.buildCommand bin] }, s.self⟩
  exact ⟨h.commands, h.rootfs, h.bootstrapName, h.opts, h.rendered⟩

/-- One `create_image` call: one command more, the command line of the final
state, whose options are the old `opts` followed by a non-empty rendering. -/
structure BuilderCalled (bin : String) (s s' : Sys RafsImage) : Prop where
  commands : s'.host.commands = s.host.commands ++ [s'.self.buildCommand bin]
  opts : s'.self.opts = s.self.opts ++ s'.self.renderedOptions
  rendered_pos : 0 < s'.self.renderedOptions.length
  rootfs : s'.self.rootfs = s.self.rootfs
  bootstrapName : s'.self.bootstrapName = s.self.bootstrapName

theorem RafsImage.buildCommand_congr {i i' : RafsImage} (hb : i'.bootstrapName = i.bootstrapName)
    (ho : i'.opts = i.opts) (hr : i'.rootfs = i.rootfs) (bin : String) :
    i'.buildCommand bin = i.buildCommand bin := by
  simp only [RafsImage.buildCommand, hb, ho, hr]

theorem Prepared.trans_builderRan {bin : String} (a b c : Sys RafsImage) (h₁ : Prepared a b)
    (h₂ : BuilderRan bin b c) : BuilderCalled bin a c where
  commands := by
    rw [h₂.commands, h₁.host, RafsImage.buildCommand_congr h₂.bootstrapName h₂.opts h₂.rootfs]
  opts := by rw [h₂.opts, h₁.opts, h₂.rendered]
  rendered_pos := h₂.rendered ▸ h₁.rendered_pos
  rootfs := h₂.rootfs.trans h₁.rootfs
  bootstrapName := h₂.bootstrapName.trans h₁.bootstrapName

/-- Every `create_image` call with a valid `oss_uploader`, on every machine and
every behaviour of the builder, ossutil and the proxy copy, whether it returns
or raises: it ran the builder once, with the command line of its final state,
whose options are the old `opts` followed by a non-empty rendering. -/
theorem createImage_builderCalled {args : CreateArgs}
    (hu : args.ossUploader ∈ ["util", "builder", "none"]) (run : BuildRun) :
    Preserves (BuilderCalled (args.imageBin.getD anchor.imageBin)) (createImage anchor args run) := by
  have ht := CommandKept.trans
  have hr := CommandKept.refl
  unfold createImage buildImage registerArtifacts persistBlob ossUpload copyInto
  simp only [bind_assoc]
  refine Returns.bind_preserves Prepared.trans_builderRan (prepareBuild_prepared anchor hu _)
    fun _ => runBuilder_builderRan _ run _ fun _ => ?_
  repeat' first
    | with_reducible refine Preserves.bind ht ?_ fun _ => ?_
    | with_reducible refine Preserves.ifHasAttr hr fun _ _ => ?_
    | with_reducible refine Preserves.pyIf hr fun _ => ?_
    | with_reducible refine Preserves.orRaise_bind hr fun _ _ => ?_
    | with_reducible exact Preserves.getSelf hr
    | with_reducible exact Preserves.getHost hr
    | with_reducible exact Preserves.pyAssert hr _
    | with_reducible exact Preserves.ofExcept hr _
    | with_reducible exact Preserves.orRaise hr _ _
    | with_reducible exact Preserves.pure hr _
    | split
    | exact onHost_commandKept fun _ _ h => by (try split_ifs at h); cases h <;> rfl
    | exact modifySelf_commandKept fun _ => ⟨rfl, rfl, rfl, rfl, rfl⟩

/-- A call runs a longer command line than the one its first state renders:
`opts` only grows, by a rendering that is not empty. -/
theorem BuilderCalled.buildCommand_length_lt {bin : String} {s s' : Sys RafsImage}
    (h : BuilderCalled bin s s') : (s.self.buildCommand bin).length < (s'.self.buildCommand bin).length := by
  simp only [RafsImage.buildCommand, String.length_append, h.bootstrapName, h.rootfs, h.opts]
  have := h.rendered_pos
  omega

/-- Two successive `create_image` calls with the same arguments, on every image,
every machine and every behaviour of the builder, ossutil and the proxy copy in
each: whether the first returned or raised after the builder, the second runs a
strictly longer command line, since `opts` still holds the first call's
options. -/
theorem createImage_again_longer_command (args : CreateArgs) (run₁ run₂ : BuildRun)
    (hu : args.ossUploader ∈ ["util", "builder", "none"]) (s : Sys RafsImage) :
    let s₁ := resultState (createImage anchor args run₁ s)
    let s₂ := resultState (createImage anchor args run₂ s₁)
    ∃ cmd₁ cmd₂, s₁.host.commands = s.host.commands ++ [cmd₁] ∧
      s₂.host.commands = s₁.host.commands ++ [cmd₂] ∧ cmd₁.length < cmd₂.length := by
  intro s₁ s₂
  have h₁ : BuilderCalled _ s s₁ := createImage_builderCalled anchor hu run₁ s
  have h₂ : BuilderCalled _ s₁ s₂ := createImage_builderCalled anchor hu run₂ s₁
  exact ⟨_, _, h₁.commands, h₂.commands, h₂.buildCommand_length_lt⟩

/-- A builder that exits with status 1, then a retry that succeeds. -/
theorem createImage_again_longer_command_retry :
    ({} : CreateArgs).ossUploader ∈ ["util", "builder", "none"] ∧
      let s : Sys RafsImage :=
        ⟨⟨∅, ∅, [], ∅, none, []⟩, RafsImage.init "/src" "/t/a" "/ws/blob-a" "/t" none true " " "--"⟩
      let s₁ := resultState (createImage default {} ⟨"/tmp/out.json", [], 1, .ok ["abc"], "/t/a", true⟩ s)
      let s₂ := resultState
        (createImage default {} ⟨"/tmp/out.json", ["/t/a"], 0, .ok ["abc"], "/t/a", true⟩ s₁)
      ∃ cmd₁ cmd₂, s₁.host.commands = s.host.commands ++ [cmd₁] ∧
        s₂.host.commands = s₁.host.commands ++ [cmd₂] ∧ cmd₁.length < cmd₂.length :=
  ⟨by decide, createImage_again_longer_command default {} _ _ (by decide) _⟩

/-! ### Any number of calls -/

/-- `create_image` called on one image again and again, each call after the
previous one returned or raised. -/
def createImages : List (CreateArgs × BuildRun) → Sys RafsImage → Sys RafsImage
  | [], s => s
  | (args, run) :: calls, s => createImages calls (resultState (createImage anchor args run s))

/-- The run, with the bound that links it to the call before: the first command
it runs is longer than the command line of the state it starts in. -/
theorem createImages_commands {args : CreateArgs} (hu : args.ossUploader ∈ ["util", "builder", "none"])
    (runs : List BuildRun) (s : Sys RafsImage) :
    ∃ cmds, (createImages anchor (runs.map (args, ·)) s).host.commands = s.host.commands ++ cmds ∧
      cmds.length = runs.length ∧ cmds.Chain' (fun c c' => c.length < c'.length) ∧
      ∀ c ∈ cmds.head?, (s.self.buildCommand (args.imageBin.getD anchor.imageBin)).length < c.length := by
  induction runs generalizing s with
  | nil => exact ⟨[], by simp [createImages], rfl, trivial, by simp⟩
  | cons run runs ih =>
      have h := createImage_builderCalled anchor hu run s
      obtain ⟨cmds, hc, hl, hch, hhd⟩ := ih (resultState (createImage anchor args run s))
      refine ⟨_ :: cmds, ?_, by simp [hl], List.chain'_cons'.2 ⟨hhd, hch⟩, ?_⟩
      · rw [List.map_cons, createImages, hc, h.commands, List.append_assoc, List.singleton_append]
      · rintro c ⟨⟩
        exact h.buildCommand_length_lt

/-- Retrying `create_image` with the same arguments, on every image and machine
and every behaviour of the builder in each call: the calls run one command line
each, every one strictly longer than the one before. -/
theorem createImages_retries_lengthen {args : CreateArgs}
    (hu : args.ossUploader ∈ ["util", "builder", "none"]) (runs : List BuildRun) (s : Sys RafsImage) :
    ∃ cmds, (createImages anchor (runs.map (args, ·)) s).host.commands = s.host.commands ++ cmds ∧
      cmds.length = runs.length ∧ cmds.Chain' (fun c c' => c.length < c'.length) :=
  let ⟨cmds, hc, hl, hch, _⟩ := createImages_commands anchor hu runs s
  ⟨cmds, hc, hl, hch⟩

theorem createImages_retries_lengthen_three_failures :
    ({} : CreateArgs).ossUploader ∈ ["util", "builder", "none"] ∧
      ∃ cmds, (createImages default ((List.replicate 3
          (⟨"/tmp/out.json", [], 1, .ok ["abc"], "/t/a", true⟩ : BuildRun)).map (({} : CreateArgs), ·))
          ⟨⟨∅, ∅, [], ∅, none, []⟩, RafsImage.init "/src" "/t/a" "/ws/blob-a" "/t" none true " " "--"⟩).host.commands =
        [] ++ cmds ∧ cmds.length = 3 ∧ cmds.Chain' (fun c c' => c.length < c'.length) :=
  ⟨by decide, createImages_retries_lengthen default (by decide) _ _⟩

end NydusTest
