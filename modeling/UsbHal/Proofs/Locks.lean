import UsbHal.Proofs.Threads

/-!
# Every mutex is released before its thread returns

The binder threads running the methods of `IUsb` and `mPoll` take `mLock`, `mRoleSwitchLock` and
`mPartnerLock` with `pthread_mutex_lock`, `pthread_mutex_trylock` or the wake of
`pthread_cond_timedwait`, and give them back with `pthread_mutex_unlock` or the wait itself. In
every state the service reaches, with any calls made and any outcome of every I/O call, wait and
trylock, until a fault ends the process:

* a step changes who holds a mutex only by its own thread locking it while it is free or
  unlocking it while it holds it (`step_lockUnlock`);
* a call that has returned, and `mPoll` outside `uevent_event`, hold no mutex; so every lock a
  thread takes is undone by exactly one unlock before it returns;
* a thread that waits for a mutex waits for another thread, the one holding it
  (`Sys.Disciplined.waitsFor_other`): no thread locks a mutex it already holds, and in particular
  none enters `queryVersionHelper` holding `mLock` (`lock_discipline`).

Each follows from `Sys.Disciplined`: a mutex is held by the thread whose program counter is
inside it, and no step from inside a mutex tests whether it is free (`step_release`).
-/

namespace UsbHal

/-- The thread that takes an action; the signal handler and the kernel take no mutex. -/
def Act.thread : Act → Option Who
  | .caller i _ => some (.caller i)
  | .reactor _ => some .reactor
  | _ => none

/-- `w` locks the mutex while it is free, or unlocks it while it holds it. -/
def LockUnlock (w : Who) (o o' : Option Who) : Prop :=
  o = none ∧ o' = some w ∨ o = some w ∧ o' = none

/-- The call has returned: `switchRole` and `setCallback` at their last line, every other method
after its tail. -/
def Caller.returned : Caller → Bool
  | .switchRole _ _ _ .done | .setCallback _ .done | .tail .done => true
  | _ => false

/-- `mPoll` is outside `uevent_event`: not yet created, at the head of `work`'s loop or in
`epoll_wait`, or gone. -/
def ReactorPc.outside : ReactorPc → Bool
  | .absent | .start | .top | .polling | .exited => true
  | _ => false

/-- `w` is about to call `queryVersionHelper`: at the end of a method, in `queryPortStatus`, or in
`uevent_event` after a status line. -/
def Sys.AtQuery (s : Sys) : Who → Prop
  | .caller i => s.callers[i]? = some (.tail .queryLocking) ∨
      ∃ t, s.callers[i]? = some (.method (.portQuery t))
  | .reactor => s.reactor = .queryLocking

/-- The state with `m` free. -/
def Sys.release (s : Sys) : Mutex → Sys
  | .lock => { s with lock := none }
  | .roleSwitch => { s with roleSwitchLock := none }
  | .partner => { s with partnerLock := none }

/-- A step of `w`, resolved by `c`. -/
def Who.act : Who → Choice → Act
  | .caller i, c => .caller i c
  | .reactor, c => .reactor c

/-- `w` waits for `m`: no step of `w` is possible, and one would be if `m` were free. -/
def WaitsFor (k : Consts) (s : Sys) (w : Who) (m : Mutex) : Prop :=
  (∀ c, step k s (w.act c) = none) ∧ ∃ c s', step k (s.release m) (w.act c) = some s'

/-! ## Where threads hold nothing -/

theorem Caller.holds_of_returned {th : Caller} (h : th.returned = true) (m : Mutex) :
    th.holds m = false := by
  unfold Caller.returned at h
  split at h
  all_goals first | (cases m <;> rfl) | cases h

theorem ReactorPc.holds_of_outside {r : ReactorPc} (h : r.outside = true) (m : Mutex) :
    r.holds m = false := by
  cases r <;> cases m <;> simp_all [ReactorPc.outside, ReactorPc.holds]

/-! ## Who moves a mutex -/

section Owner

variable {k : Consts} {s s' : Sys} {m : Mutex}

/-- A move of `m` by `w`'s program counter, where `m`'s holder is the thread inside it. -/
theorem lockUnlock_of_moves {w : Who} {b a : Bool} {o' : Option Who} (hx : s.Exclusive m)
    (hb : s.Holds m w ↔ b = true) (hm : Moves w b a (s.mutex m) o') :
    o' = s.mutex m ∨ LockUnlock w (s.mutex m) o' := by
  rcases hm with ⟨-, rfl⟩ | ⟨ho, -, rfl⟩ | ⟨hb', -, rfl⟩
  · exact .inl rfl
  · exact .inr (.inl ⟨ho, rfl⟩)
  · exact .inr (.inr ⟨(hx w).1 (hb.2 hb'), rfl⟩)

/-- Every step moves each mutex as its own thread locking it while free or unlocking it while it
holds it, or leaves it. -/
theorem step_lockUnlock (hd : s.Disciplined) {a : Act} (h : step k s a = some s') (m : Mutex) :
    s'.mutex m = s.mutex m ∨ ∃ w, a.thread = some w ∧ LockUnlock w (s.mutex m) (s'.mutex m) := by
  cases a with
  | caller i c =>
    obtain ⟨th, hth, h⟩ := step_caller_eq h
    have moves : ∀ th' : Caller, Moves (.caller i) (th.holds m) (th'.holds m) (s.mutex m) (s'.mutex m) →
        s'.mutex m = s.mutex m ∨ ∃ w, (Act.caller i c).thread = some w ∧
          LockUnlock w (s.mutex m) (s'.mutex m) := fun _ hm =>
      (lockUnlock_of_moves (hd.exclusive m) (Sys.holds_caller hth) hm).imp_right (⟨_, rfl, ·⟩)
    cases th with
    | switchRole p r t pc =>
      obtain ⟨pc', -, -, -, -, hm⟩ := switchStep_moves h
      exact moves (.switchRole p r t pc') (hm m)
    | setCallback => obtain ⟨_, -, hm⟩ := setterStep_moves h; exact moves _ (hm m)
    | enableUsbData => obtain ⟨_, -, -, -, -, -, -, -, ho⟩ := dataStep_moves h; exact .inl (ho m)
    | method =>
      obtain ⟨_, -, -, ⟨-, -, ho⟩ | ⟨-, -, hm⟩⟩ := methodStep_moves h
      exacts [.inl (congrFun ho m), moves _ (hm m)]
    | tail =>
      obtain ⟨_, -, ⟨-, -, ho⟩ | ⟨-, -, hm⟩⟩ := tailStep_moves h
      exacts [.inl (congrFun ho m), moves _ (hm m)]
  | reactor c =>
    obtain ⟨-, ⟨-, ho⟩ | ⟨-, -, hm⟩⟩ := reactorStep_moves (step_reactor_eq h)
    · exact .inl (congrFun ho m)
    · exact (lockUnlock_of_moves (hd.exclusive m)
        (Iff.rfl : s.Holds m .reactor ↔ s.reactor.holds m = true) (hm m)).imp_right (⟨_, rfl, ·⟩)
  | signal | emit _ | tick | kernel _ =>
    simp only [UsbHal.step] at h
    split_ifs at h <;> cases h <;> exact .inl (by cases m <;> rfl)

end Owner

/-! ## Waiting for a mutex -/

section Release

variable {k : Consts} {s : Sys} {m : Mutex}

@[simp] theorem Sys.release_callers (s : Sys) (m : Mutex) : (s.release m).callers = s.callers := by
  cases m <;> rfl

@[simp] theorem Sys.release_reactor (s : Sys) (m : Mutex) : (s.release m).reactor = s.reactor := by
  cases m <;> rfl

@[simp] theorem Sys.release_crashed (s : Sys) (m : Mutex) : (s.release m).crashed = s.crashed := by
  cases m <;> rfl

theorem Sys.release_of_none (h : s.mutex m = none) : s.release m = s := by
  cases m <;> cases s <;> simp only [Sys.mutex] at h <;> subst h <;> rfl

/-- No step of a call from inside `m` tests whether `m` is free. -/
theorem callerStep_release {i : Nat} {th : Caller} {c : Choice} {s'' : Sys}
    (hh : th.holds m = true) (h : callerStep k (s.release m) i th c = some s'') :
    ∃ s', callerStep k s i th c = some s' := by
  cases th with
  | switchRole p r t pc =>
    cases pc <;> cases m <;> simp [Caller.holds, SwitchPc.holds] at hh <;>
      simp only [callerStep, switchStep, Sys.release] at h ⊢ <;> (try split_ifs at h ⊢) <;>
      exact ⟨_, rfl⟩
  | setCallback cb pc =>
    cases pc <;> cases m <;> simp [Caller.holds, SetterPc.holdsLock] at hh <;>
      simp only [callerStep, setterStep, Sys.release] at h ⊢ <;> (try split_ifs at h ⊢) <;>
      exact ⟨_, rfl⟩
  | enableUsbData => cases m <;> cases hh
  | method pc =>
    cases m <;> (try cases hh)
    cases pc <;> simp [Caller.holds, MethodPc.holdsLock] at hh <;> exact ⟨_, rfl⟩
  | tail t =>
    cases m <;> (try cases hh)
    cases t <;> simp [Caller.holds, Tail.holdsLock] at hh <;> exact ⟨_, rfl⟩

/-- No step of `mPoll` from inside `m` tests whether `m` is free. -/
theorem reactorStep_release {c : Choice} {s'' : Sys} (hh : s.reactor.holds m = true)
    (h : reactorStep k (s.release m) c = some s'') : ∃ s', reactorStep k s c = some s' := by
  unfold reactorStep
  split <;> simp only [*, ReactorPc.holds] at hh <;> cases m <;> (try cases hh) <;>
    exact ⟨_, rfl⟩

/-- A thread inside `m` has a step whenever it would have one with `m` free. -/
theorem step_release {w : Who} {c : Choice} {s'' : Sys} (hh : s.Holds m w)
    (h : step k (s.release m) (w.act c) = some s'') : ∃ s', step k s (w.act c) = some s' := by
  cases w with
  | caller i =>
    simp only [Sys.Holds, List.getElem?_map, Option.map_eq_some'] at hh
    obtain ⟨th, hth, hh⟩ := hh
    simp only [Who.act, UsbHal.step, Sys.release_crashed, Sys.release_callers, hth,
      Option.bind_some] at h ⊢
    split_ifs at h ⊢
    exact callerStep_release hh h
  | reactor =>
    simp only [Who.act, UsbHal.step, Sys.release_crashed] at h ⊢
    split_ifs at h ⊢
    exact reactorStep_release hh h

/-- A thread that waits for a mutex waits for another thread, the one that holds it. -/
theorem Sys.Disciplined.waitsFor_other (hd : s.Disciplined) {w : Who} (hw : WaitsFor k s w m) :
    ∃ w', w' ≠ w ∧ s.mutex m = some w' := by
  obtain ⟨hnone, c, s'', h⟩ := hw
  cases ho : s.mutex m with
  | none =>
    rw [Sys.release_of_none ho, hnone c] at h
    cases h
  | some w' =>
    refine ⟨w', fun hw' => ?_, rfl⟩
    subst hw'
    obtain ⟨s', h'⟩ := step_release ((hd.exclusive m w').2 ho) h
    rw [hnone c] at h'
    cases h'

end Release

/-- Over every run of the service, until a fault ends it: a returned call and `mPoll` outside
`uevent_event` hold no mutex; a step moves a mutex only as its own thread locking it while free or
unlocking it while it holds it; a thread waiting for a mutex waits for another thread; and a
thread about to enter `queryVersionHelper` does not hold `mLock`. -/
theorem lock_discipline {k : Consts} {s : Sys} (hr : Reachable k s) (hc : s.crashed = false) :
    (∀ i th, s.callers[i]? = some th → th.returned = true → ∀ m, s.mutex m ≠ some (.caller i)) ∧
    (s.reactor.outside = true → ∀ m, s.mutex m ≠ some .reactor) ∧
    (∀ a s', step k s a = some s' → ∀ m, s'.mutex m = s.mutex m ∨
      ∃ w, a.thread = some w ∧ LockUnlock w (s.mutex m) (s'.mutex m)) ∧
    (∀ w m, WaitsFor k s w m → ∃ w', w' ≠ w ∧ s.mutex m = some w') ∧
    (∀ w, s.AtQuery w → s.lock ≠ some w) := by
  have hd := hr.disciplined hc
  refine ⟨fun i th hth hret m hm => ?_, fun ho m hm => ?_, fun a s' h => step_lockUnlock hd h,
    fun w m => hd.waitsFor_other, fun w hq hl => ?_⟩
  · have hh := (Sys.holds_caller hth).1 ((hd.exclusive m (.caller i)).2 hm)
    rw [Caller.holds_of_returned hret] at hh
    cases hh
  · have hh : s.reactor.holds m = true := (hd.exclusive m .reactor).2 hm
    rw [ReactorPc.holds_of_outside ho] at hh
    cases hh
  · have hh := (hd.exclusive .lock w).2 hl
    cases w with
    | caller i =>
      rcases hq with hq | ⟨t, hq⟩ <;> simp [Sys.Holds, hq, Caller.holds, Tail.holdsLock,
        MethodPc.holdsLock] at hh
    | reactor =>
      have hq : s.reactor = .queryLocking := hq
      simp [Sys.Holds, hq, ReactorPc.holds] at hh

/-- A device whose tcpc client is `i2c-8`, and nothing else readable. -/
def i2c8 : Env := Env.build none (fun _ _ => none) (fun _ => none) "i2c-8"

/-- A `limitPowerTransfer` and a `queryPortStatus`. -/
def limitThenQuery : List Call := [.limitPowerTransfer "port0" true 1, .queryPortStatus 2]

/-- The `limitPowerTransfer` has looked up its client and taken `mLock`. -/
def limitLocked : Sys :=
  (run udcConsts (.init i2c8 limitThenQuery) (List.replicate 6 (.caller 0 ⟨true, 0, 0⟩))).getD
    (Sys.init noNodes [])

theorem lock_discipline_limitLocked :
    Reachable udcConsts limitLocked ∧ limitLocked.crashed = false ∧
      limitLocked.lock = some (.caller 0) ∧ limitLocked.AtQuery (.caller 1) ∧
      ((∀ i th, limitLocked.callers[i]? = some th → th.returned = true →
          ∀ m, limitLocked.mutex m ≠ some (.caller i)) ∧
        (limitLocked.reactor.outside = true → ∀ m, limitLocked.mutex m ≠ some .reactor) ∧
        (∀ a s', step udcConsts limitLocked a = some s' → ∀ m, s'.mutex m = limitLocked.mutex m ∨
          ∃ w, a.thread = some w ∧ LockUnlock w (limitLocked.mutex m) (s'.mutex m)) ∧
        (∀ w m, WaitsFor udcConsts limitLocked w m → ∃ w', w' ≠ w ∧ limitLocked.mutex m = some w') ∧
        (∀ w, limitLocked.AtQuery w → limitLocked.lock ≠ some w)) :=
  have hr : Reachable udcConsts limitLocked := @reachable_of_run udcConsts _
    (.init i2c8 limitThenQuery) (List.replicate 6 (.caller 0 ⟨true, 0, 0⟩)) _ rfl
  ⟨hr, rfl, rfl, .inr ⟨2, rfl⟩, lock_discipline hr rfl⟩

end UsbHal
