import NydusTest.Python.Host

/-!
`NydusDaemon._wait_for_mount`, the mount-readiness loop. Each pass calls the
probe `test_fn(mountpoint)`, then `self.p.poll()`, then does `elapsed -= 1` and
sleeps. Both external answers are arbitrary functions of the pass number. The
counter goes down, so the guard `elapsed < 300` never fails: the loop ends at
the first pass where the probe succeeds or the process has exited, and runs for
ever when neither happens. The model runs on fuel; `none` is a call that has
not returned when the fuel is spent.
-/

namespace NydusTest

/-- `pytest.fail` message for a daemon that died while mounting. -/
def terminatedMsg : String := "file system process terminated prematurely"

/-- `pytest.fail` message after the polling budget. -/
def timeoutMsg : String := "mountpoint failed to come up"

/-- The loop state: `elapsed`, and the calls of the probe so far, which number
the passes. -/
structure WaitLoop where
  elapsed : Int
  probes : Nat
  deriving DecidableEq, Repr

/-- What one pass ends in: the call's result with the final state, or the next
pass. -/
inductive WaitStep where
  | done (r : Except String Bool) (w : WaitLoop)
  | next (w : WaitLoop)

/-- One pass of `while elapsed < 300`. -/
def waitStep (testFn : Nat → Bool) (poll : Nat → Option Int) (w : WaitLoop) : WaitStep :=
  if w.elapsed < 300 then
    if testFn w.probes then .done (.ok true) { w with probes := w.probes + 1 }
    else if (poll w.probes).isSome then .done (.error terminatedMsg) { w with probes := w.probes + 1 }
    else .next ⟨w.elapsed - 1, w.probes + 1⟩
  else .done (.error timeoutMsg) w

/-- The loop, for at most `fuel` passes. -/
def waitLoop (testFn : Nat → Bool) (poll : Nat → Option Int) : Nat → WaitLoop →
    Option (Except String Bool × WaitLoop)
  | 0, _ => none
  | fuel + 1, w =>
      match waitStep testFn poll w with
      | .done r w' => some (r, w')
      | .next w' => waitLoop testFn poll fuel w'

/-- `_wait_for_mount(test_fn)`: its result (`pytest.fail(msg)` is `.error msg`)
and the number of probe calls, or `none` if it has not returned after `fuel`
passes. -/
def waitForMount (testFn : Nat → Bool) (poll : Nat → Option Int) (fuel : Nat) :
    Option (Except String Bool × Nat) :=
  (waitLoop testFn poll fuel ⟨0, 0⟩).map fun rw => (rw.1, rw.2.probes)

variable {testFn : Nat → Bool} {poll : Nat → Option Int}

@[simp] theorem waitLoop_zero (w : WaitLoop) : waitLoop testFn poll 0 w = none := rfl

theorem waitLoop_succ (fuel : Nat) (w : WaitLoop) :
    waitLoop testFn poll (fuel + 1) w = match waitStep testFn poll w with
      | .done r w' => some (r, w')
      | .next w' => waitLoop testFn poll fuel w' := rfl

/-- The step: a quiet pass counts one probe and one unit down. -/
theorem waitStep_quiet {w : WaitLoop} (he : w.elapsed < 300) (ht : testFn w.probes = false)
    (hp : poll w.probes = none) : waitStep testFn poll w = .next ⟨w.elapsed - 1, w.probes + 1⟩ := by
  simp [waitStep, he, ht, hp]

/-- The run: `n` quiet passes from `⟨e, i⟩` lead to `⟨e - n, i + n⟩`. -/
theorem waitLoop_quiet (fuel n : Nat) {e : Int} {i : Nat} (he : e ≤ 0)
    (hq : ∀ j, i ≤ j → j < i + n → testFn j = false ∧ poll j = none) :
    waitLoop testFn poll (n + fuel) ⟨e, i⟩ = waitLoop testFn poll fuel ⟨e - n, i + n⟩ := by
  induction n generalizing e i with
  | zero => simp
  | succ n ih =>
      obtain ⟨ht, hp⟩ := hq i le_rfl (by omega)
      rw [Nat.add_right_comm, waitLoop_succ, waitStep_quiet (by simp; omega) ht hp]
      dsimp only
      rw [ih (by omega) fun j h₁ h₂ => hq j (by omega) (by omega)]
      congr 2 <;> omega

/-- The step keeps `elapsed ≤ 0`, and a pass that ends the call has not read the
timeout branch. -/
theorem waitStep_of_nonpos {w : WaitLoop} (he : w.elapsed ≤ 0) :
    (∃ r w', waitStep testFn poll w = .done r w' ∧ r ≠ .error timeoutMsg) ∨
      ∃ w', waitStep testFn poll w = .next w' ∧ w'.elapsed ≤ 0 := by
  have hg : w.elapsed < 300 := by omega
  unfold waitStep
  by_cases ht : testFn w.probes
  · exact .inl ⟨.ok true, { w with probes := w.probes + 1 }, by simp [hg, ht], nofun⟩
  · by_cases hp : (poll w.probes).isSome
    · refine .inl ⟨.error terminatedMsg, { w with probes := w.probes + 1 }, by simp [hg, ht, hp], ?_⟩
      simp [terminatedMsg, timeoutMsg]
    · exact .inr ⟨⟨w.elapsed - 1, w.probes + 1⟩, by simp [hg, ht, hp], show w.elapsed - 1 ≤ 0 by omega⟩

/-- The run: from a counter at most `0`, the loop never reports the timeout. -/
theorem waitLoop_ne_timeout (fuel : Nat) {w : WaitLoop} (he : w.elapsed ≤ 0)
    {r : Except String Bool} {w' : WaitLoop} (h : waitLoop testFn poll fuel w = some (r, w')) :
    r ≠ .error timeoutMsg := by
  induction fuel generalizing w with
  | zero => cases h
  | succ fuel ih =>
      rw [waitLoop_succ] at h
      rcases @waitStep_of_nonpos testFn poll w he with ⟨r₀, w₀, hs, hr⟩ | ⟨w₀, hs, he₀⟩
      · rw [hs] at h; cases h; exact hr
      · rw [hs] at h; exact ih he₀ h

/-- Whatever the probe and the process do, `_wait_for_mount` never fails with
"mountpoint failed to come up": `elapsed` only goes down. -/
theorem waitForMount_ne_timeout (testFn : Nat → Bool) (poll : Nat → Option Int) (fuel : Nat)
    {r : Except String Bool} {n : Nat} (h : waitForMount testFn poll fuel = some (r, n)) :
    r ≠ .error timeoutMsg := by
  obtain ⟨⟨r', w⟩, hw, he⟩ := Option.map_eq_some'.1 h
  cases he
  exact waitLoop_ne_timeout fuel le_rfl hw

/-- A mountpoint that comes up only at pass 400, long past the 300 passes the
loop was meant to allow: the call returns `True` after 401 probes. -/
theorem waitForMount_ne_timeout_late_mount :
    waitForMount (fun j => decide (400 ≤ j)) (fun _ => none) 401 = some (.ok true, 401) ∧
      (.ok true : Except String Bool) ≠ .error timeoutMsg :=
  have h : waitForMount (fun j => decide (400 ≤ j)) (fun _ => none) 401 = some (.ok true, 401) := by
    show Option.map _ (waitLoop _ _ (400 + 1) ⟨0, 0⟩) = _
    rw [waitLoop_quiet 1 400 le_rfl fun j _ hj => ⟨decide_eq_false (by omega), rfl⟩]
    rfl
  ⟨h, waitForMount_ne_timeout _ _ 401 h⟩

/-- With a probe that never succeeds and a process that never exits, the loop
spends every fuel it is given: the call does not return. -/
theorem waitForMount_quiet (hq : ∀ j, testFn j = false ∧ poll j = none) (fuel : Nat) :
    waitForMount testFn poll fuel = none := by
  rw [waitForMount, ← Nat.add_zero fuel, waitLoop_quiet 0 fuel le_rfl fun j _ _ => hq j]
  rfl

/-- A mountpoint that never comes up, under a daemon that stays alive. -/
theorem waitForMount_hangs_when_never_mounted (fuel : Nat) :
    waitForMount (fun _ => false) (fun _ => none) fuel = none :=
  waitForMount_quiet (fun _ => ⟨rfl, rfl⟩) fuel

/-- The first event decides: after `k` quiet passes the call returns at pass
`k`, with `k + 1` probe calls, `True` when the probe succeeds there (whether
or not the process has exited) and the premature-exit failure otherwise. -/
theorem waitForMount_first_event (k fuel : Nat) (hfuel : k < fuel)
    (hquiet : ∀ j < k, testFn j = false ∧ poll j = none)
    (hevent : testFn k = true ∨ (poll k).isSome = true) :
    waitForMount testFn poll fuel =
      some (if testFn k then .ok true else .error terminatedMsg, k + 1) := by
  obtain ⟨m, rfl⟩ := Nat.exists_eq_add_of_lt hfuel
  have hrun := @waitLoop_quiet testFn poll (m + 1) k 0 0 le_rfl fun j _ hj => hquiet j (by omega)
  have hg : -(k : Int) < 300 := by omega
  simp only [waitForMount, Nat.add_assoc, hrun, waitLoop_succ, waitStep, Int.zero_sub, Nat.zero_add,
    hg, if_true]
  cases ht : testFn k
  · have hp : (poll k).isSome = true := by simpa [ht] using hevent
    simp [hp]
  · simp

theorem waitForMount_first_event_at_two :
    2 < 3 ∧ (∀ j < 2, (j == 2) = false ∧ (none : Option Int) = none) ∧
      ((2 == 2) = true ∨ (none : Option Int).isSome = true) ∧
      waitForMount (fun j => j == 2) (fun _ => none) 3 = some (.ok true, 3) :=
  have hq : ∀ j < 2, (j == 2) = false ∧ (none : Option Int) = none := fun j hj => ⟨by simp; omega, rfl⟩
  ⟨by decide, hq, .inl rfl, waitForMount_first_event 2 3 (by decide) hq (.inl rfl)⟩

end NydusTest
