import NydusTest.Config.RafsConf
import NydusTest.Daemon.WaitForMount

/-!
`NydusDaemon`, the lifecycle of one nydusd. `mount` points the anchor's
`checker_sock` at the API socket, dumps the configuration, launches the daemon
and waits for the mountpoint; `umount` issues `umount -l`; `shutdown` unmounts
what is still mounted, then terminates the process and waits for it;
`automatic_mount_umount` is a generator context manager around a body. What
nydusd and the system do (the readiness probe and `poll()` at each pass of the
wait, whether `umount -l` succeeds, the status the process exits with) is a
parameter of each call, so every theorem ranges over all of it.

The command line (`RafsMountParam`) is kept as the string `str(self)`: the
methods modelled here only pass it on.
-/

namespace NydusTest

/-- The `subprocess.Popen` of nydusd: its `returncode`, `None` while it runs,
and whether `terminate()` signalled it. -/
structure Process where
  returncode : Option Int
  terminated : Bool
  deriving DecidableEq, Repr

namespace Process

/-- A process just launched. -/
def launched : Process := ⟨none, false⟩

/-- `p.terminate()` as in CPython 3.8 and earlier: a process whose
`returncode` is already set is not signalled. From 3.9 on it polls first, and
so also skips a process that has exited without being polled. -/
def terminate (q : Process) : Process :=
  if q.returncode.isNone then { q with terminated := true } else q

/-- `p.wait()`: the status the process exited with, `code` if it was still
running. -/
def wait (q : Process) (code : Int) : Process :=
  { q with returncode := some (q.returncode.getD code) }

end Process

/-- A `NydusDaemon` object, with the attributes its lifecycle methods read:
`str(self)` as `command`, `self.__apisock` once `apisock()` set it, `self.conf`,
`self.p` once launched, and `_catcher_dead`. -/
structure NydusDaemon where
  mountpoint : Path
  command : String
  apisock : Option Path
  conf : Option RafsConf
  p : Option Process
  catcherDead : Bool

/-- A method of `NydusDaemon`. -/
abbrev DaemonM := EStateM PyError (Sys NydusDaemon)

/-- What nydusd does while `_wait_for_mount` polls it: the answers of the probe
`os.path.ismount(mountpoint)` and of `p.poll()` at each pass. -/
structure DaemonRun where
  probe : Nat → Bool
  poll : Nat → Option Int

/-- The arguments of `mount()`, with its defaults; `limitedMem` is a `Size`
passed as `limited_mem`. -/
structure MountArgs where
  limitedMem : Option Nat := none
  waitMount : Bool := true
  dumpConfig : Bool := true

/-- `if self.conf is not None: x(self.conf)`. -/
def onConf (x : EStateM PyError RafsConf Unit) : DaemonM Unit := fun s =>
  match s.self.conf with
  | none => .ok () s
  | some c =>
      match x c with
      | .ok _ c' => .ok () { s with self := { s.self with conf := some c' } }
      | .error e c' => .error e { s with self := { s.self with conf := some c' } }

/-- `start()`: `utils.run(cmd, False)` launches `str(self)` and the `Popen` is
kept as `self.p`. -/
def start : DaemonM Unit := do
  let d ← getSelf
  onHost fun h => .ok { h with commands := h.commands ++ [d.command] }
  modifySelf fun d => { d with p := some .launched }

/-- The probe found the mountpoint in the mount table. -/
def markMounted (mp : Path) : DaemonM Unit :=
  onHost fun h => .ok { h with mounts := insert mp h.mounts }

/-- `wait_mount()`, that is `_wait_for_mount()`, for at most `fuel` passes. A
process seen exited keeps the status `poll()` read; without `self.p` the first
failed probe raises at `self.p.poll()`. -/
def waitMount (run : DaemonRun) (fuel : Nat) : DaemonM Unit := do
  let d ← getSelf
  match d.p, waitForMount run.probe run.poll fuel with
  | none, _ => if run.probe 0 then markMounted d.mountpoint else throw (.attributeError "p")
  | some _, none => throw .exhausted
  | some _, some (.ok _, _) => markMounted d.mountpoint
  | some q, some (.error msg, n) => do
      modifySelf fun d => { d with p := some { q with returncode := run.poll (n - 1) } }
      throw (.failed msg)

variable (anchor : Anchor)

/-- `mount()`. A `Size` for `limited_mem` makes `f"ulimit -v ...;" + cmd` add a
string to the list `cmd`, which raises `TypeError` before the launch. -/
def mount (run : DaemonRun) (fuel : Nat) (args : MountArgs) : DaemonM Unit := do
  let d ← getSelf
  let sock ← orRaise (.attributeError "_NydusDaemon__apisock") d.apisock
  onHost fun h => .ok { h with checkerSock := some sock }
  pyIf args.dumpConfig (onConf (dumpRafsConf anchor))
  pyIf args.limitedMem.isSome (throw .typeError)
  start
  pyIf args.waitMount (waitMount run fuel)

/-- `umount()`. Its docstring says it cannot assert, and it asserts `ret`, the
success flag of `umount -l`; the mount table loses the mountpoint only when the
command succeeded. -/
def umount (ok : Bool) : DaemonM Unit := do
  modifySelf fun d => { d with catcherDead := true }
  let d ← getSelf
  onHost fun h => .ok { h with
    mounts := if ok then h.mounts.erase d.mountpoint else h.mounts
    commands := h.commands ++ ["umount -l " ++ d.mountpoint] }
  pyAssert ok

/-- `is_mounted()`: `os.path.ismount(self.mountpoint)`; the inner `_costum` is
never called. -/
def isMounted : DaemonM Bool := do
  let d ← getSelf
  let h ← getHost
  pure (decide (d.mountpoint ∈ h.mounts))

/-- The end of `shutdown()`: `self.p.terminate()`, `self.p.wait()` and the
assertion on the status; `exitCode` is the status the process exits with once
terminated. -/
def terminateAndWait (exitCode : Int) : DaemonM Unit := do
  let q ← orRaise (.attributeError "p") (← getSelf).p
  let q := q.terminate.wait exitCode
  modifySelf fun d => { d with p := some q }
  pyAssert (q.returncode == some 0)

/-- `shutdown()`. -/
def shutdown (umountOk : Bool) (exitCode : Int) : DaemonM Unit := do
  let mounted ← isMounted
  pyIf mounted (umount umountOk)
  terminateAndWait exitCode

/-- `with self.automatic_mount_umount(): body`. The generator runs `mount()` up
to its `yield`, the body runs, and only a body that returns resumes the
generator into `umount()`. An exception of the body is thrown in at the `yield`,
which no `try` surrounds, so the generator ends at once and the `with`
statement re-raises it. -/
def automaticMountUmount (run : DaemonRun) (fuel : Nat) (umountOk : Bool) (body : DaemonM Unit) :
    DaemonM Unit := do
  mount anchor run fuel {}
  body
  umount umountOk

end NydusTest
