import NydusTest.Image.BuildCommand
import NydusTest.Daemon.Lifecycle

/-!
The command line of a `NydusDaemon`: the `RafsMountParam` kept as `self.params`,
with `self.mountpoint` and `self.__apisock`. `__init__` makes it with the mode as
subcommand and, by default, runs `_set_default_mount_param`. After that a test
calls the daemon's setters (the namespace `Nydusd` here), or the methods of the
`RafsMountParam` that `__call__` returns.

Options are a dict (`LinuxCommand.set_param`, modelled from the spec as for the
builder): every option is on the command line once, with the value last written
to it. The daemon's own methods keep `get_apisock()` equal to `--apisock`, with
its socket in the anchor's dustbin, and `--mountpoint`, once set, equal to the
mountpoint `mount()` waits for. So `mount()` points the anchor's `checker_sock`
at the socket nydusd is told to serve, or raises before it launches anything.
`str(self)` is `LinuxCommand.__str__`, which is not in the source: the lifecycle
takes any rendering.
-/

namespace NydusTest

/-! ### `RafsMountParam` -/

/-- `RafsMountParam(LinuxCommand)`: the attributes of `LinuxCommand` its methods
change, the binary, the subcommand, the options dict and the flags. -/
structure RafsMountParam where
  commandName : String
  subcommand : Option String
  paramDict : List (String × String)
  flags : List String
  deriving DecidableEq, Repr

namespace RafsMountParam

/-- `RafsMountParam(command_name)`. -/
def init (commandName : String) : RafsMountParam := ⟨commandName, none, [], []⟩

/-- Modelled from the spec: `LinuxCommand.set_param`, the dict `setParam` keeps
for the builder. -/
def setParam (m : RafsMountParam) (key value : String) : RafsMountParam :=
  { m with paramDict := NydusTest.setParam.dictSet m.paramDict key value }

/-- Modelled from the spec: `LinuxCommand.set_flags`. -/
def setFlags (m : RafsMountParam) (flag : String) : RafsMountParam :=
  { m with flags := m.flags ++ [flag] }

/-- Modelled from the spec: `LinuxCommand.set_subcommand`. -/
def setSubcommand (m : RafsMountParam) (subcommand : String) : RafsMountParam :=
  { m with subcommand := some subcommand }

/-- `bootstrap(bootstrap_file)`. -/
def bootstrap (m : RafsMountParam) (bootstrapFile : Path) : RafsMountParam :=
  m.setParam "bootstrap" bootstrapFile

/-- `config(config_file)`. -/
def config (m : RafsMountParam) (configFile : Path) : RafsMountParam :=
  m.setParam "config" configFile

/-- `sock(vhost_user_sock)`. -/
def sock (m : RafsMountParam) (vhostUserSock : Path) : RafsMountParam :=
  m.setParam "sock" vhostUserSock

/-- `log_level(log_level)`. -/
def logLevel (m : RafsMountParam) (logLevel : String) : RafsMountParam :=
  m.setParam "log-level" logLevel

/-- `mountpoint(path)`. -/
def mountpoint (m : RafsMountParam) (path : Path) : RafsMountParam :=
  m.setParam "mountpoint" path

/-- The value of the option `--key`, if it is set. -/
def paramValue (m : RafsMountParam) (key : String) : Option String := m.paramDict.lookup key

end RafsMountParam

/-! ### The daemon's methods -/

/-- The attributes of a `NydusDaemon` its command line is made of:
`self.mountpoint`, `self.params`, and `self.__apisock` once `apisock()` set it. -/
structure DaemonCommand where
  mountpoint : Path
  params : RafsMountParam
  apisock : Option Path

/-- The state the command-line methods of `NydusDaemon` run on. -/
abbrev CommandM := EStateM PyError (Sys DaemonCommand)

/-- The arguments of `NydusDaemon(anchor, image, conf, with_defaults, bin, mode)`
the command line reads, with the constructor's defaults: `anchor.mountpoint`,
`anchor.nydusd_bin`, `conf.path()` when a `RafsConf` is given, and the
`RafsImage`. -/
structure DaemonArgs where
  mountpoint : Path
  nydusdBin : String
  confPath : Option Path
  image : Option RafsImage
  withDefaults : Bool := true
  bin : Option String := none
  mode : String := "fuse"

namespace Nydusd

/-- `self.params.set_param(key, value)`, all that a setter of one option does. -/
def setParam (key value : String) : CommandM Unit :=
  modifySelf fun d => { d with params := d.params.setParam key value }

/-- `thread_num(num)`. -/
def threadNum (num : Nat) : CommandM Unit := setParam "thread-num" (toString num)

/-- `fscache_thread_num(num)`. -/
def fscacheThreadNum (num : Nat) : CommandM Unit := setParam "fscache-threads" (toString num)

/-- `set_fscache()`, with the anchor's `fscache_dir`. -/
def setFscache (fscacheDir : Path) : CommandM Unit := setParam "fscache" fscacheDir

/-- `log_level(level)`: `self.params.log_level(level)`. -/
def logLevel (level : String) : CommandM Unit :=
  modifySelf fun d => { d with params := d.params.logLevel level }

/-- `prefetch_files(file_path)`. -/
def prefetchFiles (filePath : String) : CommandM Unit := setParam "prefetch-files" filePath

/-- `shared_dir(shared_dir)`. -/
def sharedDir (sharedDir : Path) : CommandM Unit := setParam "shared-dir" sharedDir

/-- `set_mountpoint(mp)`: the option, and `self.mountpoint`. -/
def setMountpoint (mp : Path) : CommandM Unit := do
  setParam "mountpoint" mp
  modifySelf fun d => { d with mountpoint := mp }

/-- `supervisor(path)`. -/
def supervisor (path : Path) : CommandM Unit := setParam "supervisor" path

/-- `id(daemon_id)`. -/
def id (daemonId : String) : CommandM Unit := setParam "id" daemonId

/-- `upgrade()`: a flag, appended. -/
def upgrade : CommandM Unit :=
  modifySelf fun d => { d with params := d.params.setFlags "upgrade" }

/-- `failover_policy(p)`. -/
def failoverPolicy (p : String) : CommandM Unit := setParam "failover-policy" p

/-- `apisock(apisock)`: the option, `self.__apisock`, and the socket into the
anchor's dustbin. -/
def apisock (apisock : Path) : CommandM Unit := do
  setParam "apisock" apisock
  modifySelf fun d => { d with apisock := some apisock }
  putDustbin apisock

/-- `get_apisock()`: `self.__apisock`, which is missing until `apisock()` set it. -/
def getApisock : CommandM Path := do
  orRaise (.attributeError "_NydusDaemon__apisock") (← getSelf).apisock

/-- `bootstrap(b)`. -/
def bootstrap (b : Path) : CommandM Unit := setParam "bootstrap" b

variable (anchor : Anchor)

/-- `_set_default_mount_param()`: the API socket `api_sock` and the anchor's log
level; with a conf, `self.params.mountpoint(self.mountpoint).config(conf.path())`;
with an image, its `bootstrap_path`, which only `create_image` sets. -/
def setDefaultMountParam (args : DaemonArgs) : CommandM Unit := do
  apisock "api_sock"
  logLevel anchor.logLevel
  ifHasAttr args.confPath fun confPath =>
    modifySelf fun d => { d with params := (d.params.mountpoint d.mountpoint).config confPath }
  ifHasAttr args.image fun image => do
    let b ← orRaise (.attributeError "bootstrap_path") image.bootstrapPath
    modifySelf fun d => { d with params := d.params.bootstrap b }

/-- The object `__init__` has built when it comes to the defaults: the anchor's
mountpoint, and `RafsMountParam(bin)` with the mode as subcommand. -/
def fresh (args : DaemonArgs) : DaemonCommand where
  mountpoint := args.mountpoint
  params := (RafsMountParam.init (args.bin.getD args.nydusdBin)).setSubcommand args.mode
  apisock := none

/-- `NydusDaemon.__init__` on the machine `h`. -/
def init (args : DaemonArgs) (h : Host) : EStateM.Result PyError (Sys DaemonCommand) Unit :=
  pyIf args.withDefaults (setDefaultMountParam anchor args) ⟨h, fresh args⟩

end Nydusd

/-- A method of the `RafsMountParam` that `NydusDaemon.__call__` returns. -/
inductive ParamCall where
  | bootstrap (bootstrapFile : Path)
  | config (configFile : Path)
  | sock (vhostUserSock : Path)
  | logLevel (logLevel : String)
  | mountpoint (path : Path)
  | setParam (key value : String)
  | setFlags (flag : String)
  deriving Repr

/-- Run a `RafsMountParam` method. -/
def ParamCall.run (m : RafsMountParam) : ParamCall → RafsMountParam
  | .bootstrap f => m.bootstrap f
  | .config f => m.config f
  | .sock s => m.sock s
  | .logLevel l => m.logLevel l
  | .mountpoint p => m.mountpoint p
  | .setParam k v => m.setParam k v
  | .setFlags f => m.setFlags f

/-- A method a test calls on a `NydusDaemon` after `__init__`: one of its setters,
or a method of `daemon()`. -/
inductive DaemonCall where
  | threadNum (num : Nat)
  | fscacheThreadNum (num : Nat)
  | setFscache
  | logLevel (level : String)
  | prefetchFiles (filePath : String)
  | sharedDir (sharedDir : Path)
  | setMountpoint (mp : Path)
  | supervisor (path : Path)
  | id (daemonId : String)
  | upgrade
  | failoverPolicy (p : String)
  | apisock (apisock : Path)
  | bootstrap (b : Path)
  | params (call : ParamCall)
  deriving Repr

/-- Run a method on a daemon whose anchor has `fscache_dir = fscacheDir`. -/
def DaemonCall.run (fscacheDir : Path) : DaemonCall → CommandM Unit
  | .threadNum n => Nydusd.threadNum n
  | .fscacheThreadNum n => Nydusd.fscacheThreadNum n
  | .setFscache => Nydusd.setFscache fscacheDir
  | .logLevel l => Nydusd.logLevel l
  | .prefetchFiles f => Nydusd.prefetchFiles f
  | .sharedDir d => Nydusd.sharedDir d
  | .setMountpoint mp => Nydusd.setMountpoint mp
  | .supervisor p => Nydusd.supervisor p
  | .id i => Nydusd.id i
  | .upgrade => Nydusd.upgrade
  | .failoverPolicy p => Nydusd.failoverPolicy p
  | .apisock a => Nydusd.apisock a
  | .bootstrap b => Nydusd.bootstrap b
  | .params c => modifySelf fun d => { d with params := c.run d.params }

/-- A method of the daemon itself, not of `daemon()`. -/
def DaemonCall.own : DaemonCall → Bool
  | .params _ => false
  | _ => true

/-- A sequence of calls; none of them raises. -/
def runDaemonCalls (fscacheDir : Path) : List DaemonCall → Sys DaemonCommand → Sys DaemonCommand
  | [], s => s
  | call :: rest, s => runDaemonCalls fscacheDir rest (resultState (call.run fscacheDir s))

/-! ### The options dict -/

namespace setParam

/-- The lookup of a key in a dict with `(k, v)` in front. -/
theorem lookup_pair_cons (d : List (String × String)) (k v k' : String) :
    ((k, v) :: d).lookup k' = if k' = k then some v else d.lookup k' := by
  rw [List.lookup_cons]
  by_cases h : k' = k
  · rw [h, beq_self_eq_true, if_pos rfl]
  · rw [beq_false_of_ne h, if_neg h]

/-- A lookup after a write sees the write in front of the dict. -/
theorem lookup_dictSet (d : List (String × String)) (key value k : String) :
    (dictSet d key value).lookup k = ((key, value) :: d).lookup k := by
  induction d with
  | nil => rfl
  | cons kv rest ih =>
      obtain ⟨k₀, v₀⟩ := kv
      by_cases h : k₀ = key
      · subst h
        simp only [dictSet, if_true, lookup_pair_cons]
        split_ifs <;> rfl
      · simp only [dictSet, if_neg h, lookup_pair_cons, ih]
        split_ifs with h₁ h₂ <;> first | rfl | (subst h₁; subst h₂; exact absurd rfl h)

end setParam

namespace RafsMountParam

theorem paramValue_setParam_self (m : RafsMountParam) (k v : String) :
    (m.setParam k v).paramValue k = some v := by
  rw [paramValue, setParam, setParam.lookup_dictSet, setParam.lookup_pair_cons, if_pos rfl]

theorem paramValue_setParam_of_ne (m : RafsMountParam) {k k' : String} (v : String)
    (h : k' ≠ k) : (m.setParam k v).paramValue k' = m.paramValue k' := by
  rw [paramValue, setParam, setParam.lookup_dictSet, setParam.lookup_pair_cons, if_neg h, paramValue]

end RafsMountParam

/-! ### What the daemon's own methods keep -/

/-- `get_apisock()` is the `--apisock` option, and its socket is in the anchor's
dustbin; `--mountpoint`, once set, is `self.mountpoint`. -/
structure Consistent (s : Sys DaemonCommand) : Prop where
  apisock_param : s.self.apisock = s.self.params.paramValue "apisock"
  apisock_dustbin : ∀ a, s.self.apisock = some a → a ∈ s.host.dustbin
  mountpoint_param : s.self.params.paramValue "mountpoint" = none ∨
    s.self.params.paramValue "mountpoint" = some s.self.mountpoint

namespace Consistent

variable {s : Sys DaemonCommand}

/-- A write of an option other than `--apisock`; one of `--mountpoint` writes
`self.mountpoint`. -/
theorem setParam (hc : Consistent s) {k v : String} (hk : k ≠ "apisock")
    (hm : k = "mountpoint" → v = s.self.mountpoint) :
    Consistent ⟨s.host, { s.self with params := s.self.params.setParam k v }⟩ where
  apisock_param := hc.apisock_param.trans (s.self.params.paramValue_setParam_of_ne v hk.symm).symm
  apisock_dustbin := hc.apisock_dustbin
  mountpoint_param := by
    by_cases h : k = "mountpoint"
    · subst h
      exact .inr ((hm rfl) ▸ s.self.params.paramValue_setParam_self _ v)
    · exact (s.self.params.paramValue_setParam_of_ne v (Ne.symm h)) ▸ hc.mountpoint_param

theorem setParam_other (hc : Consistent s) {k v : String} (hk : k ≠ "apisock")
    (hm : k ≠ "mountpoint") :
    Consistent ⟨s.host, { s.self with params := s.self.params.setParam k v }⟩ :=
  hc.setParam hk fun h => absurd h hm

theorem apisock (hc : Consistent s) (a : Path) : Consistent (resultState (Nydusd.apisock a s)) where
  apisock_param := (s.self.params.paramValue_setParam_self _ a).symm
  apisock_dustbin := by
    rintro _ ⟨⟩
    exact List.mem_append_right _ (List.mem_singleton_self _)
  mountpoint_param :=
    (s.self.params.paramValue_setParam_of_ne a (show "mountpoint" ≠ "apisock" by decide)) ▸
      hc.mountpoint_param

theorem setMountpoint (hc : Consistent s) (mp : Path) :
    Consistent (resultState (Nydusd.setMountpoint mp s)) where
  apisock_param :=
    hc.apisock_param.trans (s.self.params.paramValue_setParam_of_ne mp (by decide)).symm
  apisock_dustbin := hc.apisock_dustbin
  mountpoint_param := .inr (s.self.params.paramValue_setParam_self _ mp)

end Consistent

section Own

variable (anchor : Anchor) (fscacheDir : Path)

/-- Each method of the daemon itself keeps the relation. -/
theorem DaemonCall.run_consistent {call : DaemonCall} (hown : call.own) {s : Sys DaemonCommand}
    (hc : Consistent s) : Consistent (resultState (call.run fscacheDir s)) := by
  cases call with
  | setMountpoint mp => exact hc.setMountpoint mp
  | apisock a => exact hc.apisock a
  | upgrade => exact ⟨hc.1, hc.2, hc.3⟩
  | params => cases hown
  | _ => exact hc.setParam_other (by decide) (by decide)

theorem Consistent.runDaemonCalls {calls : List DaemonCall} (hown : ∀ c ∈ calls, c.own)
    {s : Sys DaemonCommand} (hc : Consistent s) : Consistent (runDaemonCalls fscacheDir calls s) := by
  induction calls generalizing s with
  | nil => exact hc
  | cons call calls ih =>
      exact ih (fun c hm => hown c (.tail _ hm))
        (DaemonCall.run_consistent fscacheDir (hown call (.head _)) hc)

/-- `_set_default_mount_param` keeps the relation, whether it returns or raises. -/
theorem Consistent.setDefaultMountParam (args : DaemonArgs) :
    Preserves (fun s s' => Consistent s → Consistent s') (Nydusd.setDefaultMountParam anchor args) := by
  have hr : ∀ s : Sys DaemonCommand, Consistent s → Consistent s := fun _ h => h
  have ht : ∀ a b c : Sys DaemonCommand, (Consistent a → Consistent b) →
      (Consistent b → Consistent c) → Consistent a → Consistent c := fun _ _ _ f g h => g (f h)
  unfold Nydusd.setDefaultMountParam
  refine Preserves.bind ht (fun s hc => hc.apisock _) fun _ =>
    Preserves.bind ht (fun s hc => hc.setParam_other (by decide) (by decide)) fun _ =>
    Preserves.bind ht (Preserves.ifHasAttr hr fun p _ s hc =>
      (hc.setParam (by decide) fun _ => rfl).setParam_other (by decide) (by decide)) fun _ =>
    Preserves.ifHasAttr hr fun i _ => Preserves.orRaise_bind hr fun b _ s hc =>
      hc.setParam_other (by decide) (by decide)

/-- What `__init__` returns keeps the relation. -/
theorem Nydusd.init_consistent {args : DaemonArgs} {h : Host} {s : Sys DaemonCommand}
    (hi : Nydusd.init anchor args h = .ok () s) : Consistent s := by
  have hf : Consistent ⟨h, Nydusd.fresh args⟩ := ⟨rfl, (fun _ h => nomatch h), .inl rfl⟩
  have := Preserves.pyIf (b := args.withDefaults) (fun _ h => h)
    (fun _ => Consistent.setDefaultMountParam anchor args) ⟨h, Nydusd.fresh args⟩ hf
  rwa [← Nydusd.init, hi] at this

/-- After `__init__` and any calls of the daemon's own methods, `get_apisock()`
is `--apisock`, whose socket is in the anchor's dustbin, and `--mountpoint`,
once set, is the mountpoint the daemon waits for and unmounts. -/
theorem runDaemonCalls_own_consistent {args : DaemonArgs} {h : Host} {s : Sys DaemonCommand}
    (hi : Nydusd.init anchor args h = .ok () s) {calls : List DaemonCall}
    (hown : ∀ c ∈ calls, c.own) : Consistent (runDaemonCalls fscacheDir calls s) :=
  (Nydusd.init_consistent anchor hi).runDaemonCalls fscacheDir hown

theorem runDaemonCalls_own_consistent_setMountpoint :
    let args : DaemonArgs := ⟨"/mnt", "nydusd", some "rafs.json", none, true, none, "fuse"⟩
    let s := resultState (Nydusd.init default args ⟨∅, ∅, [], ∅, none, []⟩)
    let calls := [DaemonCall.setMountpoint "/mnt2", .apisock "/run/api.sock"]
    Nydusd.init default args ⟨∅, ∅, [], ∅, none, []⟩ = .ok () s ∧ (∀ c ∈ calls, c.own) ∧
      Consistent (runDaemonCalls "/fscache" calls s) := by
  intro args s calls
  have hi : Nydusd.init default args ⟨∅, ∅, [], ∅, none, []⟩ = .ok () s := rfl
  exact ⟨hi, by decide, runDaemonCalls_own_consistent default "/fscache" hi (by decide)⟩

end Own

/-! ### `mount()` and the API socket -/

/-- The `NydusDaemon` the lifecycle methods see: the command line rendered as
`command` (`str(self)`), with `self.conf`, before `mount()` launched it. -/
def DaemonCommand.toDaemon (d : DaemonCommand) (command : String) (conf : Option RafsConf) :
    NydusDaemon :=
  ⟨d.mountpoint, command, d.apisock, conf, none, false⟩

section Mount

variable (anchor : Anchor) {run : DaemonRun} {fuel : Nat}

/-- The attributes of the anchor that launching and waiting for a daemon leave
alone: `checker_sock` and the dustbin. -/
def KeepsAnchor (s s' : Sys NydusDaemon) : Prop :=
  s'.host.checkerSock = s.host.checkerSock ∧ s'.host.dustbin = s.host.dustbin

theorem keepsAnchor_refl (s : Sys NydusDaemon) : KeepsAnchor s s := ⟨rfl, rfl⟩

theorem keepsAnchor_trans (a b c : Sys NydusDaemon) (h₁ : KeepsAnchor a b) (h₂ : KeepsAnchor b c) :
    KeepsAnchor a c :=
  ⟨h₂.1.trans h₁.1, h₂.2.trans h₁.2⟩

theorem onConf_keepsAnchor (x : EStateM PyError RafsConf Unit) : Preserves KeepsAnchor (onConf x) := by
  intro s
  unfold onConf
  split
  · exact keepsAnchor_refl _
  · split <;> exact keepsAnchor_refl _

theorem start_keepsAnchor : Preserves KeepsAnchor start := fun _ => ⟨rfl, rfl⟩

theorem waitMount_keepsAnchor : Preserves KeepsAnchor (waitMount run fuel) := by
  intro s
  simp only [waitMount, bind_apply, getSelf_apply]
  rcases s.self.p with _ | q <;> rcases waitForMount run.probe run.poll fuel with _ | ⟨_ | _, n⟩ <;>
    first | exact ⟨rfl, rfl⟩ | (cases run.probe 0 <;> exact ⟨rfl, rfl⟩)

/-- Once `mount()` has read `get_apisock()`, nothing it does changes
`checker_sock` or the dustbin, whether it returns or raises. -/
theorem mount_keepsAnchor {s : Sys NydusDaemon} {a : Path} (ha : s.self.apisock = some a)
    (args : MountArgs) :
    KeepsAnchor ⟨{ s.host with checkerSock := some a }, s.self⟩
      (resultState (mount anchor run fuel args s)) := by
  rw [mount, bind_apply, getSelf_apply]
  dsimp only
  rw [ha]
  dsimp only [orRaise]
  rw [bind_apply, pure_apply]
  dsimp only
  rw [bind_apply, onHost_apply]
  dsimp only
  exact Preserves.bind keepsAnchor_trans
    (Preserves.pyIf keepsAnchor_refl fun _ => onConf_keepsAnchor _) (fun _ =>
    Preserves.bind keepsAnchor_trans
      (Preserves.pyIf keepsAnchor_refl fun _ => Preserves.throw keepsAnchor_refl _) fun _ =>
    Preserves.bind keepsAnchor_trans start_keepsAnchor fun _ =>
    Preserves.pyIf keepsAnchor_refl fun _ => waitMount_keepsAnchor) _

variable (fscacheDir : Path)

/-- After `__init__` and any calls of the daemon's own methods, `mount()` points
the anchor's `checker_sock` at the socket of `--apisock`, which is in the
anchor's dustbin, whether it then returns or raises. Without `--apisock` it
raises `AttributeError` first, and changes nothing. -/
theorem mount_checkerSock_apisock {args : DaemonArgs} {h : Host} {s : Sys DaemonCommand}
    (hi : Nydusd.init anchor args h = .ok () s) {calls : List DaemonCall}
    (hown : ∀ c ∈ calls, c.own) (command : String) (conf : Option RafsConf) (margs : MountArgs) :
    let d := runDaemonCalls fscacheDir calls s
    let m : Sys NydusDaemon := ⟨d.host, d.self.toDaemon command conf⟩
    (d.self.params.paramValue "apisock" = none →
        mount anchor run fuel margs m = .error (.attributeError "_NydusDaemon__apisock") m) ∧
      ∀ a, d.self.params.paramValue "apisock" = some a →
        (resultState (mount anchor run fuel margs m)).host.checkerSock = some a ∧
          a ∈ (resultState (mount anchor run fuel margs m)).host.dustbin := by
  intro d m
  have hc := (Nydusd.init_consistent anchor hi).runDaemonCalls fscacheDir hown
  refine ⟨fun hn => ?_, fun a ha => ?_⟩
  · have hm : m.self.apisock = none := hc.apisock_param.trans hn
    rw [mount, bind_apply, getSelf_apply]
    dsimp only
    rw [hm]
    rfl
  · have hm : m.self.apisock = some a := hc.apisock_param.trans ha
    have hk : KeepsAnchor _ (resultState (mount anchor run fuel margs m)) :=
      mount_keepsAnchor anchor hm margs
    exact ⟨hk.1, hk.2 ▸ hc.apisock_dustbin a hm⟩

theorem mount_checkerSock_apisock_withoutDefaults :
    let args : DaemonArgs := ⟨"/mnt", "nydusd", none, none, false, none, "fuse"⟩
    let s := resultState (Nydusd.init default args ⟨∅, ∅, [], ∅, none, []⟩)
    let calls := [DaemonCall.apisock "/run/api.sock"]
    let d := runDaemonCalls "/fscache" calls s
    let m : Sys NydusDaemon := ⟨d.host, d.self.toDaemon "nydusd fuse" none⟩
    let run : DaemonRun := ⟨fun _ => true, fun _ => none⟩
    Nydusd.init default args ⟨∅, ∅, [], ∅, none, []⟩ = .ok () s ∧ (∀ c ∈ calls, c.own) ∧
      ((d.self.params.paramValue "apisock" = none →
        mount default run 1 {} m = .error (.attributeError "_NydusDaemon__apisock") m) ∧
      ∀ a, d.self.params.paramValue "apisock" = some a →
        (resultState (mount default run 1 {} m)).host.checkerSock = some a ∧
          a ∈ (resultState (mount default run 1 {} m)).host.dustbin) := by
  intro args s calls d m run
  have hi : Nydusd.init default args ⟨∅, ∅, [], ∅, none, []⟩ = .ok () s := rfl
  exact ⟨hi, by decide, mount_checkerSock_apisock default "/fscache" hi (by decide) _ _ _⟩

end Mount

end NydusTest
