import UsbHal.Proofs.Threads

/-!
# Clearing the callback

`setCallback(nullptr)` takes `mLock`, sends `SIGUSR1` to `mPoll` and joins it while it still
holds `mLock`. The signal only sets `destroyThread`, which `work` reads at the head of its loop;
if `mPoll` has matched a status line and waits for `mLock` in `queryVersionHelper`, it never gets
there. The joiner waits for a thread that waits for the joiner's lock (`JoinDeadlock`), and no
step of any thread leaves that state (`JoinDeadlock.step`). The service reaches it with one
uevent in flight (`setCallback_null_deadlock`).
-/

namespace UsbHal

/-- Caller `j`'s `setCallback(nullptr)` holds `mLock` in `pthread_join`, and `mPoll` waits for
`mLock` in `queryVersionHelper`. -/
def JoinDeadlock (s : Sys) (j : Nat) : Prop :=
  s.callers[j]? = some (.setCallback false .joining) ∧ s.lock = some (.caller j) ∧
    s.reactor = .queryLocking

section Deadlock

variable {k : Consts} {s s' : Sys} {j : Nat}

/-- While `j` holds `mLock`, a step of another caller keeps it: taking it needs it free, and
releasing it needs to be inside it. -/
theorem lock_kept {i : Nat} {b a : Bool} {o' : Option Who} (hx : s.Exclusive .lock)
    (hl : s.lock = some (.caller j)) (hij : i ≠ j) (hb : s.Holds .lock (.caller i) ↔ b = true)
    (hm : Moves (.caller i) b a (s.mutex .lock) o') : o' = some (.caller j) := by
  rcases hm with ⟨-, rfl⟩ | ⟨ho, -⟩ | ⟨hb', -⟩
  · exact hl
  · simp [Sys.mutex, hl] at ho
  · have := (hx (.caller i)).1 (hb.2 hb')
    simp [Sys.mutex, hl, hij.symm] at this

/-- No step of any thread, nor the kernel's, leaves the deadlock. -/
theorem JoinDeadlock.step (hr : Reachable k s) (hdl : JoinDeadlock s j) {a : Act}
    (h : step k s a = some s') : JoinDeadlock s' j := by
  obtain ⟨hj, hl, hq⟩ := hdl
  have hx := (hr.disciplined (step_crashed h)).exclusive .lock
  have hjl : j < s.callers.length := (List.getElem?_eq_some_iff.1 hj).1
  cases a with
  | caller i c =>
    obtain ⟨th, hth, h⟩ := step_caller_eq h
    by_cases hij : i = j
    · subst hij
      rw [hj] at hth
      cases hth
      simp [callerStep, setterStep, hq] at h
    have hb : s.Holds .lock (.caller i) ↔ th.holds .lock = true := Sys.holds_caller hth
    have other : ∀ c', s'.callers = s.callers.set i c' → s'.callers[j]? = s.callers[j]? :=
      fun c' hs => by rw [hs, List.getElem?_set_ne hij]
    cases th with
    | switchRole =>
      obtain ⟨_, hs, hr', -, -, hm⟩ := switchStep_moves h
      exact ⟨(other _ hs).trans hj, lock_kept hx hl hij hb (hm .lock), hr'.trans hq⟩
    | enableUsbData =>
      obtain ⟨_, hs, -, -, -, hr', -, -, ho⟩ := dataStep_moves h
      exact ⟨(other _ hs).trans hj, (ho .lock).trans hl, hr'.trans hq⟩
    | method =>
      obtain ⟨_, hs, -, ⟨-, hn⟩ | ⟨hr', -, hm⟩⟩ := methodStep_moves h
      · simp [hl] at hn
      · exact ⟨(other _ hs).trans hj, lock_kept hx hl hij hb (hm .lock), hr'.trans hq⟩
    | tail =>
      obtain ⟨_, hs, ⟨-, hn⟩ | ⟨hr', -, hm⟩⟩ := tailStep_moves h
      · simp [hl] at hn
      · exact ⟨(other _ hs).trans hj, lock_kept hx hl hij hb (hm .lock), hr'.trans hq⟩
    | setCallback cb pc =>
      cases pc with
      | start => simp [callerStep, setterStep, hl] at h
      | done => simp [callerStep, setterStep] at h
      | _ =>
        have := (hx (.caller i)).1 (hb.2 rfl)
        simp [Sys.mutex, hl, Ne.symm hij] at this
  | reactor c =>
    have h := step_reactor_eq h
    simp [reactorStep, hq, Sys.query, hl] at h
  | signal =>
    simp only [UsbHal.step] at h
    split_ifs at h with _ hp <;> cases h
    · simp [hq] at hp
    · exact ⟨hj, hl, hq⟩
  | emit _ | tick | kernel _ =>
    simp only [UsbHal.step] at h
    split_ifs at h
    cases h
    exact ⟨hj, hl, hq⟩

theorem JoinDeadlock.run (hr : Reachable k s) (hdl : JoinDeadlock s j) {acts : List Act}
    (h : run k s acts = some s') : JoinDeadlock s' j := by
  induction acts generalizing s with
  | nil => cases h; exact hdl
  | cons a acts ih =>
    obtain ⟨s₁, h₁, h⟩ := Option.bind_eq_some.1 h
    exact ih (.step a hr h₁) (hdl.step hr h₁) h

end Deadlock

/-- A uevent of a Type-C port change, whose `DEVTYPE=typec_port` line is a status line. -/
def portChange : Msg :=
  ["change@/devices/platform/10d60000.hsi2c/i2c-8/8-0025/typec/port0", "ACTION=change",
    "DEVTYPE=typec_port"]

/-- In any nodes: register a callback, let `mPoll` match the status line of a uevent, then clear
the callback before `mPoll` takes `mLock`. The two threads are then blocked for good. -/
theorem setCallback_null_deadlock (env : Env) :
    ∃ s, Reachable udcConsts s ∧ JoinDeadlock s 1 ∧
      ∀ acts s', run udcConsts s acts = some s' → JoinDeadlock s' 1 := by
  have hr := @reachable_of_run udcConsts _ (.init env [.setCallback true, .setCallback false])
    [.caller 0 ⟨true, 0, 0⟩, .caller 0 ⟨true, 0, 0⟩, .caller 0 ⟨true, 0, 0⟩,
      .reactor ⟨true, 0, 0⟩, .reactor ⟨true, 0, 0⟩, .emit portChange, .reactor ⟨true, 0, 0⟩,
      .reactor ⟨true, 0, 0⟩, .reactor ⟨true, 0, 0⟩, .reactor ⟨true, 0, 0⟩,
      .caller 1 ⟨true, 0, 0⟩, .caller 1 ⟨true, 0, 0⟩] _ rfl
  exact ⟨_, hr, ⟨rfl, rfl, rfl⟩, fun _ _ h => JoinDeadlock.run hr ⟨rfl, rfl, rfl⟩ h⟩

end UsbHal
