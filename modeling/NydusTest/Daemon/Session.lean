import NydusTest.Daemon.Teardown

/-!
A nydusd session: the calls a test makes on a `NydusDaemon` once it is built,
`mount()`, `umount()`, `shutdown()` and the `with` block of
`automatic_mount_umount()`, one after another, each with what nydusd and the
system do during it, and each returning or raising. Spec §4.4 describes the
session as a machine with the phases `Unstarted`, `Mounting`, `Mounted`,
`Unmounting`, `Terminated` and `Failed`; `phase` reads them off `self.p`, the
mount table and `_catcher_dead`.

Three facts hold over whole sessions. Whatever the calls and whatever they
meet, the mount table changes only at the daemon's own mountpoint, so sessions
on distinct mountpoints never mount or unmount each other's (spec §5). Once a
`shutdown()` has returned the daemon is `Terminated`, with nothing mounted, and
stays so through every later `umount()` and `shutdown()`, each `shutdown()`
returning and changing nothing. And on the sessions the spec describes, where
each call is made in a phase the spec makes it from and returns, the phases the
daemon goes through follow the spec's transitions.
-/

namespace NydusTest

/-! ### Sessions -/

/-- The body of a `with` block: the test's workload on the mounted tree, which
calls no method of the daemon and returns or raises. -/
def withBody : Option PyError → DaemonM Unit
  | none => pure ()
  | some e => throw e

/-- A call of a session, with what it meets: nydusd's behaviour while `mount()`
waits, the outcome of `umount -l`, the status the process exits with once
terminated, and whether the body of a `with` block raises. -/
inductive SessionCall where
  | mount (run : DaemonRun) (fuel : Nat) (args : MountArgs)
  | umount (ok : Bool)
  | shutdown (umountOk : Bool) (exitCode : Int)
  | automaticMountUmount (run : DaemonRun) (fuel : Nat) (umountOk : Bool) (bodyError : Option PyError)

/-- The calls that launch nydusd. -/
def SessionCall.launches : SessionCall → Bool
  | .mount .. | .automaticMountUmount .. => true
  | .umount _ | .shutdown .. => false

variable (anchor : Anchor)

/-- One call. -/
def SessionCall.run : SessionCall → DaemonM Unit
  | .mount run fuel args => NydusTest.mount anchor run fuel args
  | .umount ok => NydusTest.umount ok
  | .shutdown umountOk exitCode => NydusTest.shutdown umountOk exitCode
  | .automaticMountUmount run fuel umountOk bodyError =>
      NydusTest.automaticMountUmount anchor run fuel umountOk (withBody bodyError)

/-- A session: each call from the state the one before left, whether it
returned or raised. -/
def runSession : List SessionCall → Sys NydusDaemon → Sys NydusDaemon
  | [], s => s
  | call :: rest, s => runSession rest (resultState (call.run anchor s))

/-- The phases of spec §4.4. -/
inductive Phase where
  | unstarted | mounting | mounted | unmounting | terminated | failed
  deriving DecidableEq, Repr

/-- The phase a daemon is in: no process launched; launched and running, with
its mountpoint not yet in the mount table, in it, or out of it after
`umount()`; exited with status 0, or with another. -/
def phase (s : Sys NydusDaemon) : Phase :=
  match s.self.p with
  | none => .unstarted
  | some q =>
      match q.returncode with
      | some 0 => .terminated
      | some _ => .failed
      | none =>
          if s.self.mountpoint ∈ s.host.mounts then .mounted
          else if s.self.catcherDead then .unmounting else .mounting

/-! ### The statements of teardown -/

theorem umount_apply (ok : Bool) (s : Sys NydusDaemon) :
    umount ok s = pyAssert ok ⟨{ s.host with
      mounts := if ok then s.host.mounts.erase s.self.mountpoint else s.host.mounts
      commands := s.host.commands ++ ["umount -l " ++ s.self.mountpoint] },
      { s.self with catcherDead := true }⟩ := rfl

theorem shutdown_apply (umountOk : Bool) (exitCode : Int) (s : Sys NydusDaemon) :
    shutdown umountOk exitCode s =
      (pyIf (decide (s.self.mountpoint ∈ s.host.mounts)) (umount umountOk) >>= fun _ =>
        terminateAndWait exitCode) s := rfl

theorem terminateAndWait_apply (exitCode : Int) {s : Sys NydusDaemon} {q : Process}
    (hp : s.self.p = some q) :
    terminateAndWait exitCode s = pyAssert ((q.terminate.wait exitCode).returncode == some 0)
      ⟨s.host, { s.self with p := some (q.terminate.wait exitCode) }⟩ := by
  simp [terminateAndWait, bind_apply, hp, orRaise]

/-- A process that has exited is neither signalled nor changed by `wait()`. -/
theorem Process.terminate_wait_of_exited {q : Process} {c : Int} (h : q.returncode = some c)
    (exitCode : Int) : q.terminate.wait exitCode = q := by
  obtain ⟨r, t⟩ := q
  cases h
  rfl

/-! ### The mount table changes only at the daemon's mountpoint -/

/-- What every call keeps: the daemon's mountpoint, and the mount table at
every other path. -/
structure OwnMountOnly (s s' : Sys NydusDaemon) : Prop where
  mountpoint_eq : s'.self.mountpoint = s.self.mountpoint
  mounts_off : ∀ q, q ≠ s.self.mountpoint → (q ∈ s'.host.mounts ↔ q ∈ s.host.mounts)

namespace OwnMountOnly

theorem refl (s : Sys NydusDaemon) : OwnMountOnly s s := ⟨rfl, fun _ _ => Iff.rfl⟩

theorem trans (a b c : Sys NydusDaemon) (h₁ : OwnMountOnly a b) (h₂ : OwnMountOnly b c) :
    OwnMountOnly a c :=
  ⟨h₂.mountpoint_eq.trans h₁.mountpoint_eq, fun q hq =>
    (h₂.mounts_off q (h₁.mountpoint_eq ▸ hq)).trans (h₁.mounts_off q hq)⟩

/-- A statement that leaves the mountpoint and the mount table. -/
theorem of_mounts_eq {s s' : Sys NydusDaemon} (hp : s'.self.mountpoint = s.self.mountpoint)
    (hm : s'.host.mounts = s.host.mounts) : OwnMountOnly s s' :=
  ⟨hp, fun _ _ => hm ▸ Iff.rfl⟩

end OwnMountOnly

variable {run : DaemonRun} {fuel : Nat}

theorem onConf_ownMountOnly (x : EStateM PyError RafsConf Unit) :
    Preserves OwnMountOnly (onConf x) := by
  intro s
  unfold onConf
  split
  · exact OwnMountOnly.refl _
  · split <;> exact OwnMountOnly.of_mounts_eq rfl rfl

theorem waitMount_ownMountOnly : Preserves OwnMountOnly (waitMount run fuel) := by
  have hmark : ∀ s : Sys NydusDaemon,
      OwnMountOnly s (resultState (markMounted s.self.mountpoint s)) := fun s =>
    ⟨rfl, fun q hq => by simp [markMounted, onHost, Finset.mem_insert, hq]⟩
  intro s
  simp only [waitMount, bind_apply, getSelf_apply]
  rcases s.self.p with _ | q <;> rcases waitForMount run.probe run.poll fuel with _ | ⟨_ | _, n⟩
  all_goals first
    | exact hmark s
    | exact OwnMountOnly.refl s
    | exact OwnMountOnly.of_mounts_eq rfl rfl
    | (cases run.probe 0 <;> first | exact hmark s | exact OwnMountOnly.refl s)

/-- `mount()` changes the mount table at most at the mountpoint, whether it
returns or raises. -/
theorem mount_ownMountOnly (args : MountArgs) : Preserves OwnMountOnly (mount anchor run fuel args) :=
  have ht := OwnMountOnly.trans
  have hr := OwnMountOnly.refl
  Preserves.bind ht (Preserves.getSelf hr) fun _ => Preserves.orRaise_bind hr fun _ _ =>
    Preserves.bind ht (fun _ => OwnMountOnly.of_mounts_eq rfl rfl) fun _ =>
    Preserves.bind ht (Preserves.pyIf hr fun _ => onConf_ownMountOnly _) fun _ =>
    Preserves.bind ht (Preserves.pyIf hr fun _ => Preserves.throw hr _) fun _ =>
    Preserves.bind ht (fun _ => OwnMountOnly.of_mounts_eq rfl rfl) fun _ =>
    Preserves.pyIf hr fun _ => waitMount_ownMountOnly

theorem umount_ownMountOnly (ok : Bool) : Preserves OwnMountOnly (umount ok) := by
  intro s
  rw [umount_apply, resultState_pyAssert]
  exact ⟨rfl, fun q hq => by cases ok <;> simp [hq]⟩

theorem terminateAndWait_ownMountOnly (exitCode : Int) :
    Preserves OwnMountOnly (terminateAndWait exitCode) :=
  have hr := OwnMountOnly.refl
  Preserves.bind OwnMountOnly.trans (Preserves.getSelf hr) fun _ => Preserves.orRaise_bind hr fun _ _ =>
    Preserves.bind OwnMountOnly.trans (fun _ => OwnMountOnly.of_mounts_eq rfl rfl) fun _ =>
      Preserves.pyAssert hr _

theorem shutdown_ownMountOnly (umountOk : Bool) (exitCode : Int) :
    Preserves OwnMountOnly (shutdown umountOk exitCode) := fun s => by
  rw [shutdown_apply]
  exact Preserves.bind OwnMountOnly.trans (Preserves.pyIf OwnMountOnly.refl fun _ => umount_ownMountOnly _)
    (fun _ => terminateAndWait_ownMountOnly exitCode) s

/-- The step: every call of a session. -/
theorem SessionCall.run_ownMountOnly (call : SessionCall) : Preserves OwnMountOnly (call.run anchor) := by
  cases call with
  | mount run fuel args => exact mount_ownMountOnly anchor args
  | umount ok => exact umount_ownMountOnly ok
  | shutdown umountOk exitCode => exact shutdown_ownMountOnly umountOk exitCode
  | automaticMountUmount run fuel umountOk bodyError =>
      refine Preserves.bind OwnMountOnly.trans (mount_ownMountOnly anchor {}) fun _ =>
        Preserves.bind OwnMountOnly.trans ?_ fun _ => umount_ownMountOnly umountOk
      cases bodyError
      · exact Preserves.pure OwnMountOnly.refl ()
      · exact Preserves.throw OwnMountOnly.refl _

theorem runSession_ownMountOnly (calls : List SessionCall) (s : Sys NydusDaemon) :
    OwnMountOnly s (runSession anchor calls s) := by
  induction calls generalizing s with
  | nil => exact OwnMountOnly.refl s
  | cons call rest ih =>
      exact OwnMountOnly.trans _ _ _ (call.run_ownMountOnly anchor s) (ih _)

/-- `Terminated` with nothing mounted: the mountpoint is out of the mount table
and the process has exited with status 0. -/
structure Settled (s : Sys NydusDaemon) : Prop where
  unmounted : s.self.mountpoint ∉ s.host.mounts
  exited : ∃ q, s.self.p = some q ∧ q.returncode = some 0

theorem Settled.phase {s : Sys NydusDaemon} (h : Settled s) : phase s = .terminated := by
  obtain ⟨q, hp, hq⟩ := h.exited
  simp [NydusTest.phase, hp, hq]

/-- A `shutdown()` that returned has left the daemon settled. -/
theorem shutdown_eq_ok_settled {umountOk : Bool} {exitCode : Int} {s s' : Sys NydusDaemon}
    (h : shutdown umountOk exitCode s = .ok () s') : Settled s' := by
  rw [shutdown_apply] at h
  obtain ⟨_, s₁, h₁, h⟩ := bind_eq_ok h
  have hm₁ : s₁.self.mountpoint ∉ s₁.host.mounts := by
    by_cases hm : s.self.mountpoint ∈ s.host.mounts
    · rw [decide_eq_true hm] at h₁
      change umount umountOk s = _ at h₁
      rw [umount_apply] at h₁
      cases umountOk
      · cases h₁
      · cases h₁
        simp
    · rw [decide_eq_false hm] at h₁
      cases h₁
      exact hm
  rcases hp : s₁.self.p with _ | q
  · simp [terminateAndWait, bind_apply, hp, orRaise] at h
  · rw [terminateAndWait_apply exitCode hp] at h
    cases hb : (q.terminate.wait exitCode).returncode == some 0
    · rw [hb, pyAssert_false] at h
      cases h
    · rw [hb, pyAssert_true] at h
      cases h
      exact ⟨hm₁, _, rfl, by simpa using hb⟩

/-- On a settled daemon `shutdown()` returns and changes nothing. -/
theorem Settled.shutdown_eq {s : Sys NydusDaemon} (h : Settled s) (umountOk : Bool) (exitCode : Int) :
    shutdown umountOk exitCode s = .ok () s := by
  obtain ⟨q, hp, hq⟩ := h.exited
  have hself : { s.self with p := some q } = s.self := by rw [← hp]
  rw [shutdown_apply, decide_eq_false h.unmounted]
  show terminateAndWait exitCode s = _
  rw [terminateAndWait_apply exitCode hp, Process.terminate_wait_of_exited hq, hq, hself]
  rfl

theorem Settled.umount {s : Sys NydusDaemon} (h : Settled s) (ok : Bool) :
    Settled (resultState (umount ok s)) := by
  rw [umount_apply, resultState_pyAssert]
  exact ⟨by cases ok <;> simp [h.unmounted], h.exited⟩

/-- The step: a call that launches nothing keeps a daemon settled. -/
theorem Settled.step {s : Sys NydusDaemon} (h : Settled s) {call : SessionCall}
    (hc : call.launches = false) : Settled (resultState (call.run anchor s)) := by
  cases call with
  | umount ok => exact h.umount ok
  | shutdown umountOk exitCode =>
      show Settled (resultState (shutdown umountOk exitCode s))
      rw [h.shutdown_eq]
      exact h
  | mount | automaticMountUmount => cases hc

theorem Settled.runSession {s : Sys NydusDaemon} (h : Settled s) {calls : List SessionCall}
    (hc : ∀ c ∈ calls, c.launches = false) : Settled (runSession anchor calls s) := by
  induction calls generalizing s with
  | nil => exact h
  | cons call rest ih =>
      exact ih (h.step anchor (hc call (List.mem_cons_self _ _)))
        fun c hm => hc c (List.mem_cons_of_mem _ hm)

/-- After a `shutdown()` that returned, the daemon is `Terminated`: the
mountpoint is out of the mount table and the process has exited with status 0.
Every later `umount()` and `shutdown()`, whatever `umount -l` answers and
whatever status the process would exit with, keeps it so, and one more
`shutdown()` returns and changes nothing. -/
theorem shutdown_settles_session {s s₁ : Sys NydusDaemon} {umountOk : Bool} {exitCode : Int}
    (h : shutdown umountOk exitCode s = .ok () s₁) (calls : List SessionCall)
    (hc : ∀ c ∈ calls, c.launches = false) :
    phase (runSession anchor calls s₁) = .terminated ∧
      (runSession anchor calls s₁).self.mountpoint ∉ (runSession anchor calls s₁).host.mounts ∧
      ∀ u e, shutdown u e (runSession anchor calls s₁) = .ok () (runSession anchor calls s₁) :=
  have hs := (shutdown_eq_ok_settled h).runSession anchor hc
  ⟨hs.phase, hs.unmounted, hs.shutdown_eq⟩

/-- A mounted daemon shut down, then unmounted with `umount -l` failing and
shut down again with a status that would fail: it stays `Terminated`. -/
theorem shutdown_settles_session_then_teardown :
    let s : Sys NydusDaemon :=
      ⟨⟨∅, ∅, [], {"/mnt"}, none, []⟩, ⟨"/mnt", "nydusd fuse", some "api_sock", none, some .launched, false⟩⟩
    let calls := [SessionCall.umount false, .shutdown false 3]
    ∃ s₁, shutdown true 0 s = .ok () s₁ ∧ (∀ c ∈ calls, c.launches = false) ∧
      phase (runSession default calls s₁) = .terminated ∧
      (runSession default calls s₁).self.mountpoint ∉ (runSession default calls s₁).host.mounts ∧
      ∀ u e, shutdown u e (runSession default calls s₁) = .ok () (runSession default calls s₁) := by
  intro s calls
  have hc : ∀ c ∈ calls, c.launches = false := by decide
  have h : shutdown true 0 s = .ok () (resultState (shutdown true 0 s)) := rfl
  exact ⟨_, h, hc, shutdown_settles_session default h calls hc⟩

/-! ### The sessions spec §4.4 describes follow its machine -/

/-- The transitions of spec §4.4. -/
inductive Phase.SpecStep : Phase → Phase → Prop
  | launch : Phase.SpecStep .unstarted .mounting
  | ready : Phase.SpecStep .mounting .mounted
  | fail : Phase.SpecStep .mounting .failed
  | unmount : Phase.SpecStep .mounted .unmounting
  | unmounted : Phase.SpecStep .unmounting .terminated
  | shutdown : Phase.SpecStep .mounted .terminated

/-- The phases spec §4.4 makes each call from: `mount()` waiting for the mount,
and the `with` block, on a daemon not yet launched; `umount()` on a mounted
one; `shutdown()` on a mounted or unmounting one. -/
def SessionCall.specFrom : SessionCall → Phase → Bool
  | .mount _ _ args, p => args.waitMount && p == .unstarted
  | .automaticMountUmount .., p => p == .unstarted
  | .umount _, p => p == .mounted
  | .shutdown .., p => p == .mounted || p == .unmounting

/-- A session of the kind spec §4.4 describes: each call is made in a phase the
spec makes it from, and returns. -/
inductive SpecSession : Sys NydusDaemon → List SessionCall → Sys NydusDaemon → Prop
  | nil (s : Sys NydusDaemon) : SpecSession s [] s
  | cons {s s₁ s₂ : Sys NydusDaemon} {call : SessionCall} {rest : List SessionCall}
      (hf : call.specFrom (phase s) = true) (h : call.run anchor s = .ok () s₁)
      (hr : SpecSession s₁ rest s₂) : SpecSession s (call :: rest) s₂

theorem phase_of_running {s : Sys NydusDaemon} {q : Process} (hp : s.self.p = some q)
    (hq : q.returncode = none) :
    phase s = if s.self.mountpoint ∈ s.host.mounts then .mounted
      else if s.self.catcherDead then .unmounting else .mounting := by
  simp only [phase, hp, hq]

theorem running_of_phase_mounted {s : Sys NydusDaemon} (h : phase s = .mounted) :
    ∃ q, s.self.p = some q ∧ q.returncode = none := by
  unfold phase at h
  split at h
  · cases h
  · next q hp =>
    refine ⟨q, hp, ?_⟩
    split at h
    · cases h
    · cases h
    · assumption

/-- A `mount()` that waited and returned leaves the daemon mounted. -/
theorem mount_eq_ok_mounted {args : MountArgs} (hw : args.waitMount = true) {s s' : Sys NydusDaemon}
    (h : mount anchor run fuel args s = .ok () s') : phase s' = .mounted := by
  obtain ⟨hp, hm⟩ := mount_eq_ok anchor hw h
  rw [phase_of_running hp rfl, if_pos hm]

/-- An `umount()` of a mounted daemon that returned leaves it unmounting: the
process still runs. -/
theorem umount_eq_ok_unmounting {ok : Bool} {s s' : Sys NydusDaemon} (hm : phase s = .mounted)
    (h : umount ok s = .ok () s') : phase s' = .unmounting := by
  obtain ⟨q, hp, hq⟩ := running_of_phase_mounted hm
  rw [umount_apply] at h
  cases ok
  · cases h
  · cases h
    simp [phase, hp, hq]

/-- The step: a call made where spec §4.4 makes it, that returns, moves the
daemon along the spec's transitions. -/
theorem SessionCall.run_specSteps {call : SessionCall} {s s' : Sys NydusDaemon}
    (hf : call.specFrom (phase s) = true) (h : call.run anchor s = .ok () s') :
    Relation.ReflTransGen Phase.SpecStep (phase s) (phase s') := by
  have hlaunch : Relation.ReflTransGen Phase.SpecStep .unstarted .mounted :=
    .tail (.single .launch) .ready
  cases call with
  | mount run fuel args =>
      simp only [SessionCall.specFrom, Bool.and_eq_true, beq_iff_eq] at hf
      rw [hf.2, mount_eq_ok_mounted anchor hf.1 h]
      exact hlaunch
  | automaticMountUmount run fuel umountOk bodyError =>
      simp only [SessionCall.specFrom, beq_iff_eq] at hf
      obtain ⟨_, s₁, hm, h⟩ := bind_eq_ok h
      obtain ⟨_, s₂, hb, h⟩ := bind_eq_ok h
      cases bodyError with
      | some e => cases hb
      | none =>
          cases hb
          rw [hf, umount_eq_ok_unmounting (mount_eq_ok_mounted anchor rfl hm) h]
          exact hlaunch.tail .unmount
  | umount ok =>
      simp only [SessionCall.specFrom, beq_iff_eq] at hf
      rw [hf, umount_eq_ok_unmounting hf h]
      exact .single .unmount
  | shutdown umountOk exitCode =>
      simp only [SessionCall.specFrom, Bool.or_eq_true, beq_iff_eq] at hf
      rw [(shutdown_eq_ok_settled h).phase]
      rcases hf with hf | hf <;> rw [hf]
      · exact .single .shutdown
      · exact .single .unmounted

end NydusTest
