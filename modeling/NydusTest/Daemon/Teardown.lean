import NydusTest.Daemon.Lifecycle

/-!
Teardown of a daemon: what a `mount()` that returned leaves, what `shutdown`
leaves of the process when `umount -l` fails, and what leaves the `with` block
of `automatic_mount_umount` on each exit path of its body. Whole sessions of
these calls are in `Daemon.Session`.
-/

namespace NydusTest

/-! ### What a returned mount leaves -/

theorem start_apply (s : Sys NydusDaemon) :
    start s = .ok () ⟨{ s.host with commands := s.host.commands ++ [s.self.command] },
      { s.self with p := some .launched }⟩ := rfl

/-- A wait on a launched process that returned has seen the mountpoint in the
mount table, and changed nothing else. -/
theorem waitMount_eq_ok {run : DaemonRun} {fuel : Nat} {s s' : Sys NydusDaemon} {q : Process}
    (hp : s.self.p = some q) (h : waitMount run fuel s = .ok () s') :
    s' = ⟨{ s.host with mounts := insert s.self.mountpoint s.host.mounts }, s.self⟩ := by
  simp only [waitMount, bind_apply, getSelf_apply, hp] at h
  rcases hw : waitForMount run.probe run.poll fuel with _ | ⟨_ | _, n⟩ <;> simp only [hw] at h
  · cases h
  · simp only [bind_apply, modifySelf_apply, throw_apply] at h
    cases h
  · simp only [markMounted, onHost_apply] at h
    cases h
    rfl

variable (anchor : Anchor) {run : DaemonRun} {fuel : Nat}

/-- A `mount()` that waited for the mount and returned has launched the daemon
and seen its mountpoint in the mount table. -/
theorem mount_eq_ok {args : MountArgs} (hw : args.waitMount = true) {s s' : Sys NydusDaemon}
    (h : mount anchor run fuel args s = .ok () s') :
    s'.self.p = some .launched ∧ s'.self.mountpoint ∈ s'.host.mounts := by
  iterate 5 obtain ⟨_, _, _, h⟩ := bind_eq_ok h
  obtain ⟨_, _, hstart, h⟩ := bind_eq_ok h
  rw [start_apply] at hstart
  cases hstart
  rw [hw] at h
  cases waitMount_eq_ok rfl h
  exact ⟨rfl, Finset.mem_insert_self _ _⟩

/-! ### Shutdown -/

section Shutdown

variable {umountOk : Bool} {exitCode : Int}

/-- On a mounted daemon whose `umount -l` fails, `shutdown` raises the assertion
of `umount` before `terminate()` and `wait()`: the process is left as it was. -/
theorem shutdown_leaves_process_on_failed_umount {s : Sys NydusDaemon}
    (hm : s.self.mountpoint ∈ s.host.mounts) (exitCode : Int) :
    ∃ s', shutdown false exitCode s = .error .assertionError s' ∧ s'.self.p = s.self.p := by
  simp only [shutdown, isMounted, umount, bind_apply, getSelf_apply, getHost_apply, pure_apply,
    hm, pyIf, modifySelf_apply, onHost_apply, decide_True, if_true, pyAssert_false]
  simp

/-- After a `mount()` that returned, a `shutdown` whose `umount -l` fails raises
before `terminate()`: the process is still the one launched, never signalled
nor waited for. -/
theorem shutdown_after_mount_leaves_process_running {s s₁ : Sys NydusDaemon}
    (hm : mount anchor run fuel {} s = .ok () s₁) (exitCode : Int) :
    ∃ s', shutdown false exitCode s₁ = .error .assertionError s' ∧ s'.self.p = some .launched := by
  obtain ⟨hp, hmp⟩ := mount_eq_ok anchor rfl hm
  obtain ⟨s', h, hp'⟩ := shutdown_leaves_process_on_failed_umount hmp exitCode
  exact ⟨s', h, hp'.trans hp⟩

theorem shutdown_after_mount_leaves_process_running_at_mnt :
    let s : Sys NydusDaemon :=
      ⟨⟨∅, ∅, [], ∅, none, []⟩, ⟨"/mnt", "nydusd fuse", some "api_sock", none, none, false⟩⟩
    ∃ s₁, mount default ⟨fun _ => true, fun _ => none⟩ 1 {} s = .ok () s₁ ∧
      ∃ s', shutdown false 0 s₁ = .error .assertionError s' ∧ s'.self.p = some .launched := by
  intro s
  exact ⟨_, rfl,
    @shutdown_after_mount_leaves_process_running default ⟨fun _ => true, fun _ => none⟩ 1 s _ rfl 0⟩

end Shutdown

/-! ### The scoped mount -/

section Scoped

variable {umountOk : Bool} {body : DaemonM Unit}

/-- A body that returns resumes the generator into `umount()`. -/
theorem automaticMountUmount_of_body_returns {s s₁ s₂ : Sys NydusDaemon}
    (hm : mount anchor run fuel {} s = .ok () s₁) (hb : body s₁ = .ok () s₂) :
    automaticMountUmount anchor run fuel umountOk body s = umount umountOk s₂ := by
  simp only [automaticMountUmount, bind_apply, hm, hb]

/-- A body that raises ends the `with` block with its own exception and state:
nothing of `umount()` runs. -/
theorem automaticMountUmount_of_body_raises {s s₁ s₂ : Sys NydusDaemon} {e : PyError}
    (hm : mount anchor run fuel {} s = .ok () s₁) (hb : body s₁ = .error e s₂) :
    automaticMountUmount anchor run fuel umountOk body s = .error e s₂ := by
  simp only [automaticMountUmount, bind_apply, hm, hb]

/-- A body that raises at once leaves the `with` block with the mountpoint
still mounted, in the very state `mount()` left. -/
theorem automaticMountUmount_raising_body_stays_mounted {s s₁ : Sys NydusDaemon}
    (hm : mount anchor run fuel {} s = .ok () s₁) (umountOk : Bool) (e : PyError) :
    automaticMountUmount anchor run fuel umountOk (throw e) s = .error e s₁ ∧
      s₁.self.mountpoint ∈ s₁.host.mounts :=
  ⟨automaticMountUmount_of_body_raises anchor hm rfl, (mount_eq_ok anchor rfl hm).2⟩

theorem automaticMountUmount_raising_body_stays_mounted_at_mnt :
    let s : Sys NydusDaemon :=
      ⟨⟨∅, ∅, [], ∅, none, []⟩, ⟨"/mnt", "nydusd fuse", some "api_sock", none, none, false⟩⟩
    ∃ s₁, mount default ⟨fun _ => true, fun _ => none⟩ 1 {} s = .ok () s₁ ∧
      automaticMountUmount default ⟨fun _ => true, fun _ => none⟩ 1 true
          (throw (.external "test body")) s = .error (.external "test body") s₁ ∧
        s₁.self.mountpoint ∈ s₁.host.mounts := by
  intro s
  exact ⟨_, rfl, @automaticMountUmount_raising_body_stays_mounted default
    ⟨fun _ => true, fun _ => none⟩ 1 s _ rfl true (.external "test body")⟩

end Scoped

end NydusTest
