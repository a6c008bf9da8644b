import UsbHal.Machine

/-!
# The three mutexes

`mLock`, `mRoleSwitchLock` and `mPartnerLock` are held by exactly the threads whose program
counters are between their `pthread_mutex_lock` and their `pthread_mutex_unlock`
(`Sys.Exclusive`). A step moves a mutex only as its own thread takes it while it is free or
releases it after holding it (`Moves`, `exclusive_of_moves`); the footprint lemmas
(`switchStep_moves`, `dataStep_moves`, `tailStep_moves`, `reactorStep_moves`) say so for each
thread's code.

`setCallback` creates `mPoll` without asking whether an older one still runs, so the single
reactor of the model needs two more facts: a `setCallback` about to create the thread finds it
stopped, and a running `mPoll` has a callback or a `setCallback(nullptr)` that is killing or
joining it. With exclusion these make `Sys.Disciplined`, which holds in every state the service
reaches before a fault ends it (`Reachable.disciplined`).
-/

namespace UsbHal

/-! ## Updates of the state -/

namespace Sys

@[simp] theorem setCaller_eq (s : Sys) (i : Nat) (c : Caller) :
    s.setCaller i c = { s with callers := s.callers.set i c } := rfl

@[simp] theorem record_eq (s : Sys) (e : Event) : s.record e = { s with log := e :: s.log } := rfl

@[simp] theorem deliver_eq (s : Sys) (w : Who) (n : Notification) :
    s.deliver w n = { s with log := if s.usb.callback then .notify w n :: s.log else s.log } := by
  unfold deliver
  split <;> rfl

end Sys

/-! ## What a query changes -/

theorem Usb.lookupI2c_eq (u : Usb) (env : Env) :
    u.lookupI2c env = { u with i2cClientPath := (u.lookupI2c env).i2cClientPath } := by
  unfold Usb.lookupI2c
  split <;> rfl

@[simp] theorem Usb.lookupI2c_callback (u : Usb) (env : Env) : (u.lookupI2c env).callback = u.callback := by
  rw [u.lookupI2c_eq env]

/-- The members a query can change: the i2c client path and the contaminant node. -/
def Usb.Rebound (u u' : Usb) : Prop :=
  ∃ c e, u' = { u with i2cClientPath := c, enabledPath := e }

theorem Usb.Rebound.trans {u u' u'' : Usb} (h : u.Rebound u') (h' : u'.Rebound u'') :
    u.Rebound u'' := by
  obtain ⟨c, e, rfl⟩ := h
  obtain ⟨c', e', rfl⟩ := h'
  exact ⟨c', e', rfl⟩

theorem Usb.rebound_lookupI2c (u : Usb) (env : Env) : u.Rebound (u.lookupI2c env) :=
  ⟨_, u.enabledPath, u.lookupI2c_eq env⟩

theorem queryMoistureDetectionStatus_rebound {u u' : Usb} {env : Env} {v v' : List PortStatus}
    {st : Status} (h : queryMoistureDetectionStatus u env v = .ok (st, u', v')) : u.Rebound u' := by
  obtain ⟨w, -, h⟩ := Except.bind_eq_ok.1 h
  have hl := u.rebound_lookupI2c env
  dsimp only at h
  split_ifs at h
  · cases h
    exact hl
  · have hr : u.Rebound { u.lookupI2c env with
        enabledPath := .i2c (u.lookupI2c env).i2cClientPath "contaminant_detection" } :=
      hl.trans ⟨_, _, rfl⟩
    split at h
    · cases h
      exact hr
    · split_ifs at h
      · split at h
        · cases h
          exact hr
        · obtain ⟨_, -, h⟩ := Except.map_eq_ok.1 h
          cases h
          exact hr
      · cases h
        exact hr

theorem queryPowerTransferStatus_rebound {u u' : Usb} {env : Env} {v v' : List PortStatus}
    {st : Status} (h : queryPowerTransferStatus u env v = .ok (st, u', v')) : u.Rebound u' := by
  have hl := u.rebound_lookupI2c env
  unfold queryPowerTransferStatus at h
  dsimp only at h
  split_ifs at h
  · cases h
    exact hl
  · split at h
    · cases h
      exact hl
    · obtain ⟨_, -, h⟩ := Except.map_eq_ok.1 h
      cases h
      exact hl

theorem queryVersionHelper_rebound {u : Usb} {env : Env} {q : Query}
    (h : queryVersionHelper u env = .ok q) : u.Rebound q.usb := by
  obtain ⟨⟨st, v⟩, -, h⟩ := Except.bind_eq_ok.1 h
  obtain ⟨⟨st1, u1, v1⟩, h1, h⟩ := Except.bind_eq_ok.1 h
  obtain ⟨⟨st2, u2, v2⟩, h2, h⟩ := Except.bind_eq_ok.1 h
  obtain ⟨v3, -, h⟩ := Except.bind_eq_ok.1 h
  cases h
  exact (queryMoistureDetectionStatus_rebound h1).trans (queryPowerTransferStatus_rebound h2)

/-- `queryVersionHelper` under `mLock`: it finds the mutex free, and either ends the process or
takes the mutex, rebinds the members and delivers the snapshot. -/
theorem Sys.query_eq_some {s s' : Sys} {w : Who} {ports : List String}
    (h : s.query w = some (s', ports)) :
    s.lock = none ∧ (s' = { s with crashed := true } ∨ ∃ u v st, s.usb.Rebound u ∧
      s' = ({ s with lock := some w, usb := u }).deliver w (.portStatusChange v st)) := by
  unfold Sys.query at h
  split_ifs at h with hl
  refine ⟨hl, ?_⟩
  split at h
  · cases h
    exact .inr ⟨_, _, _, queryVersionHelper_rebound ‹_›, rfl⟩
  · cases h
    exact .inl rfl

/-! ## Who holds a mutex -/

/-- `mLock`, `mRoleSwitchLock` and `mPartnerLock`. -/
inductive Mutex
  | lock | roleSwitch | partner
  deriving DecidableEq, Repr

def Sys.mutex (s : Sys) : Mutex → Option Who
  | .lock => s.lock
  | .roleSwitch => s.roleSwitchLock
  | .partner => s.partnerLock

/-- A `switchRole` call holds `mRoleSwitchLock` from its dispatch to its last unlock,
`mPartnerLock` across the `port_type` write and between waits, and `mLock` while it notifies. -/
def SwitchPc.holds : SwitchPc → Mutex → Bool
  | .notified, .lock => true
  | .start, .roleSwitch | .done, .roleSwitch => false
  | _, .roleSwitch => true
  | .modeWrite, .partner | .waitAgain, .partner | .partnerUnlock _, .partner => true
  | _, _ => false

/-- `setCallback` holds `mLock` from its first line to its return. -/
def SetterPc.holdsLock : SetterPc → Bool
  | .start | .done => false
  | _ => true

def Tail.holdsLock : Tail → Bool
  | .notified _ | .queried => true
  | _ => false

/-- `limitPowerTransfer` holds `mLock` across its writes and its notification, `queryPortStatus`
inside `queryVersionHelper`. -/
def MethodPc.holdsLock : MethodPc → Bool
  | .limitCurrent .. | .limitSink .. | .limitSource .. | .limitNotify .. | .portQueried _ => true
  | _ => false

def Caller.holds : Caller → Mutex → Bool
  | .switchRole _ _ _ pc, m => pc.holds m
  | .setCallback _ pc, .lock => pc.holdsLock
  | .method pc, .lock => pc.holdsLock
  | .tail t, .lock => t.holdsLock
  | _, _ => false

def ReactorPc.holds : ReactorPc → Mutex → Bool
  | .queryLocked _, .lock | .reconcile _, .roleSwitch | .partnerSignalled _, .partner => true
  | _, _ => false

/-- Thread `w`'s program counter is inside `m`. -/
def Sys.Holds (s : Sys) (m : Mutex) : Who → Prop
  | .caller i => (s.callers.map (·.holds m))[i]? = some true
  | .reactor => s.reactor.holds m = true

theorem Sys.holds_caller {s : Sys} {m : Mutex} {i : Nat} {th : Caller}
    (hth : s.callers[i]? = some th) : s.Holds m (.caller i) ↔ th.holds m = true := by
  simp [Sys.Holds, hth]

/-- `m` is held by exactly the thread whose program counter is inside it. -/
def Sys.Exclusive (s : Sys) (m : Mutex) : Prop :=
  ∀ w, s.Holds m w ↔ s.mutex m = some w

/-- A step of `w` keeps mutex `m` and whether `w` is inside it, takes `m` while it is free, or
releases it after being inside it. -/
def Moves (w : Who) (before after : Bool) (o o' : Option Who) : Prop :=
  (after = before ∧ o' = o) ∨ (o = none ∧ after = true ∧ o' = some w) ∨
    (before = true ∧ after = false ∧ o' = none)

/-- A step that moves `m` as its thread does, and moves no other thread in or out of `m`,
keeps `m` exclusive. -/
theorem exclusive_of_moves {s s' : Sys} {m : Mutex} {w : Who} {b a : Bool}
    (hx : s.Exclusive m) (hb : s.Holds m w ↔ b = true) (ha : s'.Holds m w ↔ a = true)
    (hother : ∀ w', w' ≠ w → (s'.Holds m w' ↔ s.Holds m w'))
    (hm : Moves w b a (s.mutex m) (s'.mutex m)) : s'.Exclusive m := by
  intro w'
  by_cases hw : w' = w
  · subst hw
    rw [ha]
    rcases hm with ⟨rfl, ho⟩ | ⟨-, rfl, ho⟩ | ⟨-, rfl, ho⟩
    · rw [ho, ← hb, hx]
    · simp [ho]
    · simp [ho]
  · rw [hother w' hw, hx w']
    rcases hm with ⟨-, ho⟩ | ⟨ho, -, ho'⟩ | ⟨hb', -, ho'⟩
    · rw [ho]
    · simp [ho, ho', Ne.symm hw]
    · rw [(hx w).1 (hb.2 hb')] at *
      simp [ho', Ne.symm hw]

/-- A step of caller `i` that sets its program counter to `c'` and leaves `mPoll`'s alone. -/
theorem exclusive_caller_step {s s' : Sys} {m : Mutex} {i : Nat} {c c' : Caller}
    (hx : s.Exclusive m) (hc : s.callers[i]? = some c) (hs : s'.callers = s.callers.set i c')
    (hr : s'.reactor.holds m = s.reactor.holds m)
    (hm : Moves (.caller i) (c.holds m) (c'.holds m) (s.mutex m) (s'.mutex m)) :
    s'.Exclusive m := by
  have hi : i < (s.callers.map (·.holds m)).length := by
    simpa using (List.getElem?_eq_some_iff.1 hc).1
  refine exclusive_of_moves hx (by simp [Sys.Holds, hc]) ?_ ?_ hm
  · simp [Sys.Holds, hs, List.map_set, List.getElem?_set_self hi]
  · rintro (j | _) hj
    · have hij : i ≠ j := fun h => hj (h ▸ rfl)
      simp [Sys.Holds, hs, List.map_set, List.getElem?_set_ne hij]
    · simp [Sys.Holds, hr]

/-- `pthread_cond_signal` moves no waiter in or out of a mutex. -/
@[simp] theorem Caller.holds_wakeWaiter (c : Caller) (m : Mutex) :
    (wakeWaiter c).holds m = c.holds m := by
  unfold wakeWaiter
  split <;> cases m <;> rfl

/-- A step of `mPoll` that leaves the callers' program counters, or only wakes waiters. -/
theorem exclusive_reactor_step {s s' : Sys} {m : Mutex} (hx : s.Exclusive m)
    (hs : s'.callers.map (·.holds m) = s.callers.map (·.holds m))
    (hm : Moves .reactor (s.reactor.holds m) (s'.reactor.holds m) (s.mutex m) (s'.mutex m)) :
    s'.Exclusive m := by
  refine @exclusive_of_moves _ _ _ .reactor _ _ hx Iff.rfl Iff.rfl ?_ hm
  rintro (j | _) hj
  · simp only [Sys.Holds, hs]
  · exact absurd rfl hj

/-! ## The footprints of the threads' steps -/

section Footprint

variable {k : Consts} {s s' : Sys} {i : Nat}

theorem switchStep_moves {p : String} {r : PortRole} {t : Int} {pc : SwitchPc} {c : Choice}
    (h : switchStep k s i p r t pc c = some s') :
    ∃ pc', s'.callers = s.callers.set i (.switchRole p r t pc') ∧ s'.reactor = s.reactor ∧
      s'.usb = s.usb ∧ s'.crashed = s.crashed ∧
      ∀ m, Moves (.caller i) (pc.holds m) (pc'.holds m) (s.mutex m) (s'.mutex m) := by
  cases pc <;> simp only [switchStep, Sys.setCaller_eq, Sys.record_eq, Sys.deliver_eq] at h <;>
    (try split_ifs at h) <;> cases h <;>
    refine ⟨_, rfl, rfl, rfl, rfl, fun m => ?_⟩ <;> (try split) <;> cases m <;>
    simp [Moves, Sys.mutex, SwitchPc.holds, *]

theorem setterStep_moves {cb : Bool} {pc : SetterPc} {c : Choice}
    (h : setterStep s i cb pc c = some s') :
    ∃ pc', s'.callers = s.callers.set i (.setCallback cb pc') ∧ ∀ m, Moves (.caller i)
      ((Caller.setCallback cb pc).holds m) ((Caller.setCallback cb pc').holds m) (s.mutex m)
      (s'.mutex m) := by
  cases pc <;> simp only [setterStep, Sys.setCaller_eq] at h <;> (try split_ifs at h) <;>
    cases h <;> refine ⟨_, rfl, fun m => ?_⟩ <;> cases m <;>
    simp [Moves, Sys.mutex, Caller.holds, SetterPc.holdsLock, *]

/-- A `setCallback` between its decision and its unlock, where it creates or stops `mPoll`. -/
def Caller.busySetter : Caller → Bool
  | .setCallback _ .creating | .setCallback _ .killing | .setCallback _ .joining => true
  | _ => false

theorem dataStep_moves {p : String} {e : Bool} {t : Int} {pc : DataPc} {c : Choice}
    (h : dataStep k s i p e t pc c = some s') :
    ∃ c', s'.callers = s.callers.set i c' ∧
      ((∃ pc', c' = .enableUsbData p e t pc') ∨ ∃ n, c' = .tail (.notifyLocking n true)) ∧
      c'.busySetter = false ∧ (∀ m, c'.holds m = false) ∧ s'.reactor = s.reactor ∧
      s'.usb.callback = s.usb.callback ∧ s'.crashed = s.crashed ∧ ∀ m, s'.mutex m = s.mutex m := by
  cases pc <;> simp only [dataStep, Sys.setCaller_eq, Sys.record_eq, Sys.writeBy] at h <;>
    (try split_ifs at h) <;> cases h <;>
    exact ⟨_, rfl, by first | exact .inl ⟨_, rfl⟩ | exact .inr ⟨_, rfl⟩, rfl,
      fun m => by cases m <;> rfl, rfl, rfl, rfl, fun m => by cases m <;> rfl⟩

theorem tailStep_moves {tl : Tail} (h : tailStep s i tl = some s') :
    ∃ t', s'.callers = s.callers.set i (.tail t') ∧
      (s'.crashed = true ∧ s.lock = none ∧ s'.mutex = s.mutex ∨
      s'.reactor = s.reactor ∧ s'.usb.callback = s.usb.callback ∧
      ∀ m, Moves (.caller i) ((Caller.tail tl).holds m) ((Caller.tail t').holds m) (s.mutex m)
        (s'.mutex m)) := by
  cases tl with
  | queryLocking =>
    obtain ⟨⟨s'', ports⟩, hq, rfl⟩ := Option.map_eq_some'.1 h
    obtain ⟨hl, rfl | ⟨u, v, st, ⟨a, b, rfl⟩, rfl⟩⟩ := Sys.query_eq_some hq
    · exact ⟨.queried, rfl, .inl ⟨rfl, hl, rfl⟩⟩
    · refine ⟨.queried, by simp, .inr ⟨by simp, by simp, fun m => ?_⟩⟩
      cases m <;> simp [Moves, Sys.mutex, Caller.holds, Tail.holdsLock, hl]
  | _ =>
    simp only [tailStep, Sys.setCaller_eq, Sys.deliver_eq] at h
    (try split_ifs at h) <;> cases h <;> refine ⟨_, rfl, .inr ⟨rfl, rfl, fun m => ?_⟩⟩ <;>
      cases m <;> simp_all [Moves, Sys.mutex, Caller.holds, Tail.holdsLock]

theorem methodStep_moves {pc : MethodPc} {c : Choice} (h : methodStep s i pc c = some s') :
    ∃ c', s'.callers = s.callers.set i c' ∧ ((∃ pc', c' = .method pc') ∨ ∃ t', c' = .tail t') ∧
      (s'.crashed = true ∧ s.lock = none ∧ s'.mutex = s.mutex ∨
        s'.reactor = s.reactor ∧ s'.usb.callback = s.usb.callback ∧
        ∀ m, Moves (.caller i) ((Caller.method pc).holds m) (c'.holds m) (s.mutex m) (s'.mutex m)) := by
  cases pc with
  | portQuery t =>
    obtain ⟨⟨s'', ports⟩, hq, rfl⟩ := Option.map_eq_some'.1 h
    obtain ⟨hl, rfl | ⟨u, v, st, ⟨a, b, rfl⟩, rfl⟩⟩ := Sys.query_eq_some hq
    · exact ⟨_, rfl, .inl ⟨_, rfl⟩, .inl ⟨rfl, hl, rfl⟩⟩
    · refine ⟨.method (.portQueried t), by simp, .inl ⟨_, rfl⟩, .inr ⟨by simp, by simp, fun m => ?_⟩⟩
      cases m <;> simp [Moves, Sys.mutex, Caller.holds, MethodPc.holdsLock, hl]
  | _ =>
    simp only [methodStep, Sys.setCaller_eq, Sys.deliver_eq, Sys.writeBy, Sys.record_eq] at h
    (try split_ifs at h) <;> cases h <;>
      refine ⟨_, rfl, by first | exact .inl ⟨_, rfl⟩ | exact .inr ⟨_, rfl⟩, .inr ⟨rfl, by simp,
        fun m => ?_⟩⟩ <;>
      cases m <;> simp [Moves, Sys.mutex, Caller.holds, MethodPc.holdsLock, Tail.holdsLock, *]

/-- The footprint of a step of `mPoll` that does not end the process: it was running, and it
moves the mutexes as its program counter does. -/
def ReactorMoves (s s' : Sys) : Prop :=
  s.reactor.running = true ∧ s'.usb.callback = s.usb.callback ∧
    ∀ m, Moves .reactor (s.reactor.holds m) (s'.reactor.holds m) (s.mutex m) (s'.mutex m)

/-- The line scan of `uevent_event` moves `mPoll` to a program counter outside every mutex, or
ends the process in `report_overheat_event`. -/
theorem reactorStep_scan {c : Choice} {lines : List String} (hr : s.reactor = .scan lines)
    (h : reactorStep k s c = some s') :
    (∃ r : ReactorPc, s' = { s with reactor := r } ∧ r.running = true ∧
      r.holds = ReactorPc.holds .top) ∨ s' = { s with crashed := true } := by
  cases lines <;> simp only [reactorStep, hr] at h <;> (try split_ifs at h) <;>
    (try split at h) <;> cases h
  all_goals first | exact .inl ⟨_, rfl, rfl, rfl⟩ | exact .inr (by rw [hr])

/-- A step of `mPoll` only wakes waiters, and ends the process or moves as `ReactorMoves`. -/
theorem reactorStep_moves {c : Choice} (h : reactorStep k s c = some s') :
    (s'.callers = s.callers ∨ s'.callers = s.callers.map wakeWaiter) ∧
      (s'.crashed = true ∧ s'.mutex = s.mutex ∨ ReactorMoves s s') := by
  have keep : ∀ r : ReactorPc, s.reactor.running = true → s.reactor.holds = r.holds →
      ReactorMoves s { s with reactor := r } := fun r hr hh =>
    ⟨hr, rfl, fun m => .inl ⟨by rw [hh], rfl⟩⟩
  cases hr : s.reactor with
  | absent | exited => simp [reactorStep, hr] at h
  | queryLocking =>
    simp only [reactorStep, hr] at h
    obtain ⟨⟨s'', ports⟩, hq, rfl⟩ := Option.map_eq_some'.1 h
    obtain ⟨hl, rfl | ⟨u, v, st, ⟨a, b, rfl⟩, rfl⟩⟩ := Sys.query_eq_some hq
    · exact ⟨.inl rfl, .inl ⟨rfl, rfl⟩⟩
    · refine ⟨.inl (by simp), .inr ⟨by rw [hr]; rfl, by simp, fun m => ?_⟩⟩
      cases m <;> simp [Moves, Sys.mutex, ReactorPc.holds, hl, hr]
  | scan lines =>
    obtain ⟨r, rfl, -, hh⟩ | rfl := reactorStep_scan hr h
    · exact ⟨.inl rfl, .inr (keep _ (by rw [hr]; rfl) (by rw [hr, hh]; rfl))⟩
    · exact ⟨.inl rfl, .inl ⟨rfl, rfl⟩⟩
  | reconcile ports =>
    cases ports with
    | nil =>
      simp only [reactorStep, hr, Option.some.injEq] at h
      subst h
      refine ⟨.inl rfl, .inr ⟨by rw [hr]; rfl, rfl, fun m => ?_⟩⟩
      cases m <;> simp [Moves, Sys.mutex, ReactorPc.holds, hr]
    | cons p rest =>
      simp only [reactorStep, hr, Option.some.injEq] at h
      subst h
      refine ⟨.inl ?_, .inr ⟨by rw [hr]; rfl, ?_, fun m => .inl ⟨?_, ?_⟩⟩⟩ <;> split <;>
        simp [hr, Sys.mutex] <;> cases m <;> rfl
  | _ =>
    clear keep
    simp only [reactorStep, hr, Sys.record_eq] at h
    (try split at h) <;> (try split_ifs at h) <;> cases h <;>
      refine ⟨by simp, .inr ⟨by rw [hr]; rfl, rfl, fun m => ?_⟩⟩ <;> cases m <;>
      simp_all [Moves, Sys.mutex, ReactorPc.holds]

end Footprint

/-! ## The discipline -/

/-- What every state the service reaches keeps, until a fault ends the process. -/
structure Sys.Disciplined (s : Sys) : Prop where
  exclusive : ∀ m, s.Exclusive m
  /-- A `setCallback` about to create `mPoll` has set the callback, and finds no thread. -/
  creating : ∀ (j : Nat) (cb : Bool), s.callers[j]? = some (.setCallback cb .creating) →
    s.usb.callback = true ∧ s.reactor.running = false
  /-- A running `mPoll` has a callback to serve, or a `setCallback(nullptr)` stopping it. -/
  running : s.reactor.running = true → s.usb.callback = true ∨
    ∃ (j : Nat) (cb : Bool), s.callers[j]? = some (.setCallback cb .killing) ∨
      s.callers[j]? = some (.setCallback cb .joining)

theorem Sys.Exclusive.holder {s : Sys} {m : Mutex} {j : Nat} {c : Caller} (hx : s.Exclusive m)
    (hc : s.callers[j]? = some c) (hh : c.holds m = true) : s.mutex m = some (.caller j) :=
  (hx (.caller j)).1 (by simp [Sys.Holds, hc, hh])

theorem ReactorPc.holds_of_running {r : ReactorPc} (h : r.running = false) (m : Mutex) :
    r.holds m = false := by
  cases r <;> cases m <;> simp_all [ReactorPc.running, ReactorPc.holds]

/-- A call as it is made holds no mutex. -/
theorem Call.start_holds (c : Call) (m : Mutex) : c.start.holds m = false := by
  cases c <;> cases m <;> rfl

theorem Sys.disciplined_init (env : Env) (calls : List Call) : (Sys.init env calls).Disciplined where
  exclusive m w := by
    have hm : (Sys.init env calls).mutex m = none := by cases m <;> rfl
    rw [hm]
    cases w with
    | caller j => simp [Sys.Holds, Sys.init, Call.start_holds]
    | reactor => cases m <;> simp [Sys.Holds, Sys.init, ReactorPc.holds]
  creating j cb h := by
    simp only [Sys.init, List.getElem?_map, Option.map_eq_some'] at h
    obtain ⟨c, -, hc⟩ := h
    cases c <;> simp [Call.start] at hc
  running h := by simp [Sys.init, ReactorPc.running] at h

section Preservation

variable {k : Consts} {s s' : Sys} {i : Nat}

/-- A step of caller `i` that is not creating or stopping `mPoll`, before or after, and leaves
the callback and `mPoll` alone, keeps the facts on `setCallback`. -/
theorem Sys.Disciplined.of_caller_step {c c' : Caller} (hd : s.Disciplined)
    (hx : ∀ m, s'.Exclusive m) (hc : s.callers[i]? = some c) (hs : s'.callers = s.callers.set i c')
    (hb : c.busySetter = false) (hb' : c'.busySetter = false) (hr : s'.reactor = s.reactor)
    (hu : s'.usb.callback = s.usb.callback) : s'.Disciplined := by
  have hi : i < s.callers.length := (List.getElem?_eq_some_iff.1 hc).1
  have other : ∀ (j : Nat) (cb : Bool) (pc : SetterPc), pc = .creating ∨ pc = .killing ∨ pc = .joining →
      (s'.callers[j]? = some (.setCallback cb pc) ↔ s.callers[j]? = some (.setCallback cb pc)) := by
    intro j cb pc hpc
    rw [hs]
    by_cases hij : i = j
    · subst hij
      rw [List.getElem?_set_self hi, hc]
      constructor <;> rintro ⟨⟩ <;> rcases hpc with rfl | rfl | rfl <;> simp_all [Caller.busySetter]
    · rw [List.getElem?_set_ne hij]
  refine ⟨hx, fun j cb h => ?_, fun h => ?_⟩
  · rw [hu, hr]
    exact hd.creating j cb ((other j cb _ (.inl rfl)).1 h)
  · rw [hr] at h
    rcases hd.running h with h | ⟨j, cb, h⟩
    · exact .inl (hu ▸ h)
    · refine .inr ⟨j, cb, ?_⟩
      rwa [other j cb _ (.inr (.inl rfl)), other j cb _ (.inr (.inr rfl))]

theorem Caller.holds_of_busySetter {c : Caller} (h : c.busySetter = true) : c.holds .lock = true := by
  unfold Caller.busySetter at h
  split at h <;> first | rfl | cases h

/-- Two callers that hold one mutex are one. -/
theorem Sys.Exclusive.unique {s : Sys} {m : Mutex} {i j : Nat} {c d : Caller}
    (hx : s.Exclusive m) (hc : s.callers[i]? = some c) (hh : c.holds m = true)
    (hd : s.callers[j]? = some d) (hh' : d.holds m = true) : i = j := by
  have := (hx.holder hc hh).symm.trans (hx.holder hd hh')
  simpa using this

/-- A `setCallback` that moves to anything but `creating` leaves the creating calls as they were,
all of them others. -/
theorem creating_of_set {l : List Caller} {j : Nat} {cb cb' : Bool} {pc : SetterPc}
    (hpc : pc ≠ .creating) (hj : (l.set i (.setCallback cb pc))[j]? = some (.setCallback cb' .creating)) :
    j ≠ i ∧ l[j]? = some (.setCallback cb' .creating) := by
  by_cases hji : j = i
  · subst hji
    simp [List.getElem?_set, hpc] at hj
  · exact ⟨hji, by rwa [List.getElem?_set_ne (Ne.symm hji)] at hj⟩

theorem Sys.Disciplined.setter_step {cb : Bool} {pc : SetterPc} {c : Choice} (hd : s.Disciplined)
    (hc : s.callers[i]? = some (.setCallback cb pc)) (h : setterStep s i cb pc c = some s') :
    s'.Disciplined := by
  have hi : i < s.callers.length := (List.getElem?_eq_some_iff.1 hc).1
  have self : ∀ {d : Caller}, (s.callers.set i d)[i]? = some d := List.getElem?_set_self hi
  have ne : ∀ {j : Nat} {d : Caller}, j ≠ i → (s.callers.set i d)[j]? = s.callers[j]? :=
    fun hj => List.getElem?_set_ne (Ne.symm hj)
  cases pc with
  | start =>
    by_cases hfree : s.lock = none
    swap
    · simp [setterStep, hfree] at h
    have idle : ∀ (j : Nat) (d : Caller), s.callers[j]? = some d → d.busySetter = false :=
      fun j d hj => Bool.eq_false_iff.2 fun hb => by
        simpa [hfree, Sys.mutex] using (hd.exclusive .lock).holder hj (Caller.holds_of_busySetter hb)
    have served : s.reactor.running = true → s.usb.callback = true := fun hr =>
      (hd.running hr).resolve_right fun ⟨j, cb', hj⟩ => by
        rcases hj with hj | hj <;> simpa [Caller.busySetter] using idle j _ hj
    simp only [setterStep, Sys.setCaller_eq, hfree, ite_true, Option.some.injEq] at h
    subst h
    refine ⟨fun m => exclusive_caller_step (hd.exclusive m) hc rfl rfl ?_, fun j cb' hj => ?_,
      fun hr => ?_⟩
    · cases m <;> simp only [Moves, Sys.mutex, Caller.holds, SetterPc.holdsLock, hfree] <;>
        (try split_ifs) <;> simp
    · by_cases hji : j = i
      · subst hji
        rw [self] at hj
        split_ifs at hj with h1 h2 <;> cases hj
        exact ⟨h2, Bool.eq_false_iff.2 fun hr => h1 ((served hr).trans h2.symm)⟩
      · rw [ne hji] at hj
        exact absurd (idle j _ hj) (by simp [Caller.busySetter])
    · cases cb
      · exact .inr ⟨i, false, .inl (by simp [self, served hr])⟩
      · exact .inl rfl
  | killing =>
    simp only [setterStep, Sys.setCaller_eq] at h
    have hx : ∀ pc', pc'.holdsLock = true → s'.callers = s.callers.set i (.setCallback cb pc') →
        s'.reactor.holds = s.reactor.holds → s'.mutex = s.mutex → ∀ m, s'.Exclusive m :=
      fun pc' hh hs hr ho m => exclusive_caller_step (hd.exclusive m) hc hs (by rw [hr])
        (.inl ⟨by cases m <;> first | rfl | exact hh, by rw [ho]⟩)
    split_ifs at h with hr <;> cases h
    · refine ⟨hx .joining rfl rfl rfl rfl, fun j cb' hj => ?_, fun _ => .inr ⟨i, cb, .inr self⟩⟩
      exact absurd hr (by simp [(hd.creating j cb' (creating_of_set (by decide) hj).2).2])
    · exact ⟨hx .unlocking rfl rfl rfl rfl,
        fun j cb' hj => hd.creating j cb' (creating_of_set (by decide) hj).2, fun h => absurd h hr⟩
  | joining =>
    simp only [setterStep, Sys.setCaller_eq] at h
    split_ifs at h with hr
    cases h
    refine ⟨fun m => exclusive_caller_step (hd.exclusive m) hc rfl ?_ (.inl ⟨?_, rfl⟩),
      fun j cb' hj => ?_, fun h => by simp [ReactorPc.running] at h⟩
    · simp [hr, ReactorPc.holds]
    · cases m <;> rfl
    · exact ⟨(hd.creating j cb' (creating_of_set (by decide) hj).2).1, rfl⟩
  | creating =>
    obtain ⟨hcb, hr⟩ := hd.creating i cb hc
    simp only [setterStep, Sys.setCaller_eq, Option.some.injEq] at h
    subst h
    refine ⟨fun m => exclusive_caller_step (hd.exclusive m) hc rfl ?_ (.inl ⟨?_, rfl⟩),
      fun j cb' hj => ?_, fun h => ?_⟩
    · split
      · rw [ReactorPc.holds_of_running hr]
        cases m <;> rfl
      · rfl
    · cases m <;> rfl
    · obtain ⟨hji, hj⟩ := creating_of_set (by decide) hj
      exact absurd ((hd.exclusive .lock).unique hc rfl hj rfl) (Ne.symm hji)
    · split at h
      · simp [*]
      · simp [hr] at h
  | unlocking =>
    simp only [setterStep, Sys.setCaller_eq, Option.some.injEq] at h
    subst h
    refine hd.of_caller_step (fun m => exclusive_caller_step (hd.exclusive m) hc rfl rfl ?_) hc rfl
      rfl rfl rfl rfl
    cases m <;> simp [Moves, Sys.mutex, Caller.holds, SetterPc.holdsLock]
  | done => simp [setterStep] at h

/-- No action moves a process that a fault ended. -/
theorem step_crashed {a : Act} (h : step k s a = some s') : s.crashed = false := by
  by_contra hc
  simp only [Bool.not_eq_false] at hc
  cases a <;> simp [step, hc] at h

/-- `pthread_cond_signal` wakes only callers in `switchMode`'s wait. -/
theorem wakeWaiter_setCallback {c : Caller} {cb : Bool} {pc : SetterPc} :
    wakeWaiter c = .setCallback cb pc ↔ c = .setCallback cb pc := by
  unfold wakeWaiter
  split <;> simp

theorem Sys.Disciplined.step (hd : s.Disciplined) {a : Act} (h : step k s a = some s')
    (hc : s'.crashed = false) : s'.Disciplined := by
  cases a with
  | caller j c =>
    simp only [UsbHal.step, Bool.false_eq_true, step_crashed h, ite_false] at h
    obtain ⟨th, hth, h⟩ := Option.bind_eq_some.1 h
    cases th with
    | switchRole p r t pc =>
      obtain ⟨pc', hs, hr, hu, -, hm⟩ := switchStep_moves h
      exact hd.of_caller_step
        (fun m => exclusive_caller_step (hd.exclusive m) hth hs (by rw [hr]) (hm m))
        hth hs rfl rfl hr (by rw [hu])
    | setCallback cb pc => exact hd.setter_step hth h
    | enableUsbData p e t pc =>
      obtain ⟨c', hs, -, hb', hh, hr, hu, -, ho⟩ := dataStep_moves h
      exact hd.of_caller_step (fun m => exclusive_caller_step (hd.exclusive m) hth hs (by rw [hr])
        (.inl ⟨by rw [hh m]; rfl, ho m⟩)) hth hs rfl hb' hr hu
    | method pc =>
      obtain ⟨c', hs, hc' | hc', ⟨hcr, -⟩ | ⟨hr, hu, hm⟩⟩ := methodStep_moves h <;>
        obtain ⟨_, rfl⟩ := hc' <;> first
        | simp [hcr] at hc
        | exact hd.of_caller_step
            (fun m => exclusive_caller_step (hd.exclusive m) hth hs (by rw [hr]) (hm m))
            hth hs rfl rfl hr hu
    | tail tl =>
      obtain ⟨t', hs, ⟨hcr, -⟩ | ⟨hr, hu, hm⟩⟩ := tailStep_moves h
      · simp [hcr] at hc
      · exact hd.of_caller_step
          (fun m => exclusive_caller_step (hd.exclusive m) hth hs (by rw [hr]) (hm m))
          hth hs rfl rfl hr hu
  | reactor c =>
    simp only [UsbHal.step, Bool.false_eq_true, step_crashed h, ite_false] at h
    obtain ⟨hcs, hcr | ⟨hrun, hu, hm⟩⟩ := reactorStep_moves h
    · simp [hcr] at hc
    have setters : ∀ (j : Nat) (cb : Bool) (pc : SetterPc),
        s'.callers[j]? = some (.setCallback cb pc) ↔ s.callers[j]? = some (.setCallback cb pc) := by
      intro j cb pc
      rcases hcs with hcs | hcs
      · rw [hcs]
      · simp only [hcs, List.getElem?_map, Option.map_eq_some', wakeWaiter_setCallback,
          exists_eq_right]
    refine ⟨fun m => exclusive_reactor_step (hd.exclusive m) ?_ (hm m), fun j cb hj => ?_,
      fun _ => ?_⟩
    · rcases hcs with hcs | hcs <;> simp [hcs, Function.comp_def]
    · exact absurd hrun (by simp [(hd.creating j cb ((setters j cb _).1 hj)).2])
    · rcases hd.running hrun with h1 | ⟨j, cb, h1⟩
      · exact .inl (hu ▸ h1)
      · exact .inr ⟨j, cb, by rwa [setters, setters]⟩
  | signal =>
    simp only [UsbHal.step, step_crashed h, Bool.false_or] at h
    split_ifs at h with _ hp <;> cases h
    · refine ⟨fun m => exclusive_reactor_step (hd.exclusive m) rfl
        (.inl ⟨by rw [hp]; cases m <;> rfl, rfl⟩), fun j cb hj => ?_, fun _ => hd.running ?_⟩
      · exact absurd (hd.creating j cb hj).2 (by rw [hp]; decide)
      · rw [hp]
        rfl
    · exact ⟨fun m => exclusive_reactor_step (hd.exclusive m) rfl (.inl ⟨rfl, rfl⟩), hd.creating,
        hd.running⟩
  | emit _ | tick | kernel _ =>
    simp only [UsbHal.step, step_crashed h, Bool.false_eq_true, ite_false, Option.some.injEq] at h
    subst h
    exact ⟨hd.exclusive, hd.creating, hd.running⟩

end Preservation

/-! ## What else a step can change -/

section Frame

variable {k : Consts} {s s' : Sys}

theorem step_caller_eq {i : Nat} {c : Choice} (h : step k s (.caller i c) = some s') :
    ∃ th, s.callers[i]? = some th ∧ callerStep k s i th c = some s' := by
  simp only [UsbHal.step, step_crashed h, Bool.false_eq_true, ite_false] at h
  exact Option.bind_eq_some.1 h

theorem step_reactor_eq {c : Choice} (h : step k s (.reactor c) = some s') :
    reactorStep k s c = some s' := by
  simpa [UsbHal.step, step_crashed h] using h

/-- A step moves at most the program counter of the caller that takes it, except that `mPoll`
wakes the waiters on `mPartnerCV`. -/
theorem step_callers {a : Act} (h : step k s a = some s') :
    (∃ i c th, a = .caller i c ∧ s.callers[i]? = some th ∧ ∃ th', s'.callers = s.callers.set i th') ∨
      s'.callers = s.callers ∨ s'.callers = s.callers.map wakeWaiter := by
  cases a with
  | caller i c =>
    obtain ⟨th, hth, h⟩ := step_caller_eq h
    refine .inl ⟨i, c, th, rfl, hth, ?_⟩
    cases th with
    | switchRole => obtain ⟨_, hs, -⟩ := switchStep_moves h; exact ⟨_, hs⟩
    | setCallback => obtain ⟨_, hs, -⟩ := setterStep_moves h; exact ⟨_, hs⟩
    | enableUsbData => obtain ⟨_, hs, -⟩ := dataStep_moves h; exact ⟨_, hs⟩
    | method => obtain ⟨_, hs, -⟩ := methodStep_moves h; exact ⟨_, hs⟩
    | tail => obtain ⟨_, hs, -⟩ := tailStep_moves h; exact ⟨_, hs⟩
  | reactor c => exact .inr (reactorStep_moves (step_reactor_eq h)).1
  | signal | emit _ | tick | kernel _ =>
    simp only [UsbHal.step] at h
    split_ifs at h <;> cases h <;> exact .inr (.inl rfl)

/-- The caller `i` keeps its program counter through the steps of the others, except that
`mPoll` may wake it. -/
theorem step_other {a : Act} {i : Nat} (h : step k s a = some s') (ha : ∀ c, a ≠ .caller i c) :
    s'.callers[i]? = s.callers[i]? ∨ s'.callers[i]? = s.callers[i]?.map wakeWaiter := by
  rcases step_callers h with ⟨j, c, _, rfl, -, _, hs⟩ | hs | hs
  · have hji : j ≠ i := fun e => ha c (e ▸ rfl)
    exact .inl (by rw [hs, List.getElem?_set_ne hji])
  · exact .inl (by rw [hs])
  · exact .inr (by rw [hs, List.getElem?_map])

end Frame

/-- A device whose nodes show nothing: no `/sys/class/typec` listing and no readable node. -/
def noNodes : Env := Env.build none (fun _ _ => none) (fun _ => none) ""

theorem reachable_of_run {k : Consts} {s : Sys} (hs : Reachable k s) :
    ∀ {acts : List Act} {s' : Sys}, run k s acts = some s' → Reachable k s'
  | [], _, h => by cases h; exact hs
  | a :: acts, _, h => by
    obtain ⟨s₁, h₁, h⟩ := Option.bind_eq_some.1 h
    exact reachable_of_run (.step a hs h₁) h

/-- Every state the service reaches keeps the discipline, until a fault ends the process. -/
theorem Reachable.disciplined {k : Consts} {s : Sys} (h : Reachable k s) (hc : s.crashed = false) :
    s.Disciplined := by
  induction h with
  | init env calls => exact Sys.disciplined_init env calls
  | step a _ hs ih => exact (ih (step_crashed hs)).step hs hc

end UsbHal
