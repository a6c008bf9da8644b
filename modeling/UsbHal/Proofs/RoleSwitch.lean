import UsbHal.Proofs.Threads

/-!
# Role switches and the partner flag

Every write of a role node, by `switchRole`, by `switchMode`, by `switchToDrp` or by the
reconciliation of `uevent_event`, is made by the thread that holds `mRoleSwitchLock`
(`role_write_holds_lock`): two switches never interleave their writes, and no reconciliation
writes `dual` inside a switch.

A mode switch reports `SUCCESS` only after `mPoll` handled a partner-add line following the
switch's clear of `mPartnerUp` (`mode_switch_success_seen_partner`). Nothing ties that line to
the port or to the `port_type` write: a partner-add of another port, queued before the switch
began, confirms it (`stale_partner_add_confirms`). Conversely a partner-add that `mPoll` handles
while `switchMode` waits is never lost: the switch goes on to report `SUCCESS` and never reaches
`switchToDrp` (`partner_add_confirms_mode_switch`).
-/

namespace UsbHal

/-! ## What records an event -/

section Events

variable {k : Consts} {s s' : Sys}

/-- What the step that records `e` tells of the thread that took it: a role-node write is made
inside `mRoleSwitchLock`, which it leaves alone, and a `notifyRoleSwitchStatus` comes from the
end of `switchRole` or from a notification tail. -/
def SwitchEventOrigin (s s' : Sys) : Event → Prop
  | .roleWrite w _ _ _ => s.Holds .roleSwitch w ∧ s'.roleSwitchLock = s.roleSwitchLock
  | .notify (.caller i) (.roleSwitchStatus p r st t) =>
    (∃ rs, s.callers[i]? = some (.switchRole p r t (.notifyLocking rs)) ∧ st = .ofBool rs) ∨
      ∃ q, s.callers[i]? = some (.tail (.notifyLocking (.roleSwitchStatus p r st t) q))
  | _ => True

/-- The log only grows, and each event a step records has the origin `SwitchEventOrigin` names. -/
def LogMoves (s s' : Sys) : Prop :=
  s.log <:+ s'.log ∧ ∀ e, s'.log = e :: s.log → SwitchEventOrigin s s' e

theorem LogMoves.of_eq (h : s'.log = s.log) : LogMoves s s' :=
  ⟨by simp [h], fun e he => by simp [h] at he⟩

/-- A step that records at most a status change. -/
theorem LogMoves.of_status {w : Who}
    (h : s'.log = s.log ∨ ∃ v st, s'.log = .notify w (.portStatusChange v st) :: s.log) :
    LogMoves s s' := by
  rcases h with h | ⟨v, st, h⟩
  · exact .of_eq h
  · refine ⟨by simp [h], fun e he => ?_⟩
    rw [h] at he
    obtain ⟨rfl, -⟩ := List.cons.inj he
    cases w <;> trivial

/-- `queryVersionHelper` leaves `mPartnerUp` alone and records at most its status change. -/
theorem Sys.query_events {w : Who} {s'' : Sys} {ports : List String}
    (hq : s.query w = some (s'', ports)) : s''.partnerUp = s.partnerUp ∧
      (s''.log = s.log ∨ ∃ v st, s''.log = .notify w (.portStatusChange v st) :: s.log) := by
  obtain ⟨-, rfl | ⟨u, v, st, -, rfl⟩⟩ := Sys.query_eq_some hq
  · exact ⟨rfl, .inl rfl⟩
  · simp only [Sys.deliver_eq]
    refine ⟨trivial, ?_⟩
    split
    exacts [.inr ⟨v, st, rfl⟩, .inl rfl]

/-- A step of a method of `mLock` alone leaves `mPartnerUp` alone, and records at most a node
write or a notification other than a role switch's. -/
theorem methodStep_events {i : Nat} {pc : MethodPc} {c : Choice} (h : methodStep s i pc c = some s') :
    s'.partnerUp = s.partnerUp ∧ LogMoves s s' := by
  cases pc with
  | portQuery t =>
    obtain ⟨⟨s'', ports⟩, hq, rfl⟩ := Option.map_eq_some'.1 h
    obtain ⟨hp, hl⟩ := Sys.query_events hq
    exact ⟨hp, .of_status hl⟩
  | _ =>
    simp only [methodStep, Sys.setCaller_eq, Sys.record_eq, Sys.deliver_eq, Sys.writeBy] at h
    (try split_ifs at h) <;> cases h <;> refine ⟨rfl, by simp, fun e he => ?_⟩ <;> simp at he <;>
      subst he <;> trivial

/-- A step of a call: `mPartnerUp` changes only at `switchMode`'s clear. -/
theorem callerStep_events {i : Nat} {th : Caller} {c : Choice} (hth : s.callers[i]? = some th)
    (h : callerStep k s i th c = some s') : LogMoves s s' ∧ (s'.partnerUp = s.partnerUp ∨
      ∃ p r t, th = .switchRole p r t .partnerLocking ∧ s'.partnerUp = false ∧
        s'.log = .clear i :: s.log) := by
  cases th with
  | switchRole p r t pc =>
    cases pc <;> simp only [callerStep, switchStep, Sys.setCaller_eq, Sys.record_eq,
      Sys.deliver_eq] at h <;> (try split_ifs at h) <;> cases h <;>
      refine ⟨⟨by simp, fun e he => ?_⟩, ?_⟩
    all_goals first
      | exact .inr ⟨p, r, t, rfl, rfl, rfl⟩
      | exact .inl rfl
      | (simp at he <;> subst he <;> first
          | exact .inl ⟨_, hth, rfl⟩
          | exact ⟨(Sys.holds_caller hth).2 rfl, rfl⟩
          | exact trivial)
  | setCallback cb pc =>
    cases pc <;> simp only [callerStep, setterStep, Sys.setCaller_eq] at h <;>
      (try split_ifs at h) <;> cases h <;> exact ⟨.of_eq rfl, .inl rfl⟩
  | enableUsbData p e t pc =>
    cases pc <;> simp only [callerStep, dataStep, Sys.setCaller_eq, Sys.record_eq,
      Sys.writeBy] at h <;> (try split_ifs at h) <;> cases h <;>
      exact ⟨⟨by simp, fun e he => by simp at he <;> subst he <;> trivial⟩, .inl rfl⟩
  | method pc =>
    obtain ⟨hp, hl⟩ := methodStep_events h
    exact ⟨hl, .inl hp⟩
  | tail tl =>
    cases tl with
    | queryLocking =>
      obtain ⟨⟨s'', ports⟩, hq, rfl⟩ := Option.map_eq_some'.1 h
      obtain ⟨hp, hl⟩ := Sys.query_events hq
      exact ⟨.of_status hl, .inl hp⟩
    | notifyLocking n q =>
      simp only [callerStep, tailStep, Sys.setCaller_eq, Sys.deliver_eq] at h
      split_ifs at h <;> cases h <;> refine ⟨⟨by simp, fun e he => ?_⟩, .inl rfl⟩ <;> simp at he
      subst he
      cases n <;> simp [SwitchEventOrigin, hth]
    | _ =>
      simp only [callerStep, tailStep, Sys.setCaller_eq] at h
      cases h <;> exact ⟨.of_eq rfl, .inl rfl⟩

/-- A step of `mPoll`: `mPartnerUp` changes only where it handles a partner-add line. -/
theorem reactorStep_events {c : Choice} (h : reactorStep k s c = some s') :
    LogMoves s s' ∧ (s'.partnerUp = s.partnerUp ∨ ∃ l rest, s.reactor = .partnerLocking l rest ∧
      s'.partnerUp = true ∧ s'.log = .partnerUp l :: s.log) := by
  cases hr : s.reactor with
  | queryLocking =>
    simp only [reactorStep, hr] at h
    obtain ⟨⟨s'', ports⟩, hq, rfl⟩ := Option.map_eq_some'.1 h
    obtain ⟨hp, hl⟩ := Sys.query_events hq
    exact ⟨.of_status hl, .inl hp⟩
  | partnerLocking l rest =>
    simp only [reactorStep, hr, Sys.record_eq] at h
    split_ifs at h
    cases h
    exact ⟨⟨by simp, fun e he => by simp at he; subst he; trivial⟩, .inr ⟨l, rest, rfl, rfl, rfl⟩⟩
  | scan lines =>
    obtain ⟨r, rfl, -⟩ | rfl := reactorStep_scan hr h <;> exact ⟨.of_eq rfl, .inl rfl⟩
  | reconcile ports =>
    cases ports with
    | nil =>
      simp only [reactorStep, hr] at h
      cases h
      exact ⟨.of_eq rfl, .inl rfl⟩
    | cons p rest =>
      simp only [reactorStep, hr, Sys.record_eq] at h
      cases h
      by_cases hp : (!partnerListed s.env p && c.ok) = true
      · refine ⟨⟨by simp [hp], fun e he => ?_⟩, .inl (by simp [hp])⟩
        simp [hp] at he
        subst he
        simp [SwitchEventOrigin, Sys.Holds, hr, ReactorPc.holds, hp]
      · exact ⟨.of_eq (by simp [hp]), .inl (by simp [hp])⟩
  | _ =>
    simp only [reactorStep, hr, Sys.record_eq] at h
    (try split at h) <;> (try split_ifs at h) <;> cases h <;> exact ⟨.of_eq rfl, .inl rfl⟩

/-- What a step does to the log and to `mPartnerUp`: the flag changes only where `switchMode`
clears it and where `mPoll` sets it for a line, each recording it; the log only grows; and each
event recorded has the origin `SwitchEventOrigin` names. -/
theorem step_events {a : Act} (h : step k s a = some s') :
    ((s'.partnerUp = s.partnerUp ∧ s.log <:+ s'.log) ∨
    (∃ j c p r t, a = .caller j c ∧ s.callers[j]? = some (.switchRole p r t .partnerLocking) ∧
      s'.partnerUp = false ∧ s'.log = .clear j :: s.log) ∨
    (∃ c l rest, a = .reactor c ∧ s.reactor = .partnerLocking l rest ∧ s'.partnerUp = true ∧
      s'.log = .partnerUp l :: s.log)) ∧ ∀ e, s'.log = e :: s.log → SwitchEventOrigin s s' e := by
  cases a with
  | caller j c =>
    obtain ⟨th, hth, h⟩ := step_caller_eq h
    obtain ⟨⟨hs, ho⟩, hp | ⟨p, r, t, rfl, hf, hl⟩⟩ := callerStep_events hth h
    · exact ⟨.inl ⟨hp, hs⟩, ho⟩
    · exact ⟨.inr (.inl ⟨j, c, p, r, t, rfl, hth, hf, hl⟩), ho⟩
  | reactor c =>
    obtain ⟨⟨hs, ho⟩, hp | ⟨l, rest, hr, hu, hl⟩⟩ := reactorStep_events (step_reactor_eq h)
    · exact ⟨.inl ⟨hp, hs⟩, ho⟩
    · exact ⟨.inr (.inr ⟨c, l, rest, rfl, hr, hu, hl⟩), ho⟩
  | signal | emit _ | tick | kernel _ =>
    simp only [UsbHal.step, Sys.record_eq] at h
    split_ifs at h <;> cases h <;>
      exact ⟨.inl ⟨rfl, by simp⟩, fun e he => by simp at he <;> subst he <;> trivial⟩

theorem step_switchEventOrigin {a : Act} {e : Event} (h : step k s a = some s')
    (he : s'.log = e :: s.log) : SwitchEventOrigin s s' e :=
  (step_events h).2 e he

end Events

/-! ## Role-node writes -/

/-- Every write of a role node is made by the thread that holds `mRoleSwitchLock`, and that
thread still holds it after the write. -/
theorem role_write_holds_lock {k : Consts} {s s' : Sys} {a : Act} {w : Who} {p f v : String}
    (hr : Reachable k s) (h : step k s a = some s')
    (hw : s'.log = .roleWrite w p f v :: s.log) :
    s.roleSwitchLock = some w ∧ s'.roleSwitchLock = some w := by
  obtain ⟨hh, hl⟩ := step_switchEventOrigin h hw
  have hs := ((hr.disciplined (step_crashed h)).exclusive .roleSwitch w).1 hh
  exact ⟨hs, hl.trans hs⟩

theorem role_write_holds_lock_power_role :
    ∃ s s', Reachable udcConsts s ∧ step udcConsts s (.caller 0 ⟨true, 0, 0⟩) = some s' ∧
      s'.log = .roleWrite (.caller 0) "port0" "power_role" "source" :: s.log ∧
      s.roleSwitchLock = some (.caller 0) ∧ s'.roleSwitchLock = some (.caller 0) :=
  have hr := @reachable_of_run udcConsts _
    (.init noNodes [.switchRole "port0" (.powerRole .source) 1])
    [.caller 0 ⟨true, 0, 0⟩, .caller 0 ⟨true, 0, 0⟩] _ rfl
  ⟨_, _, hr, rfl, rfl,
    @role_write_holds_lock udcConsts _ _ (.caller 0 ⟨true, 0, 0⟩) _ _ _ _ hr rfl rfl⟩

/-! ## The partner flag -/

section Partner

variable {k : Consts} {s s' : Sys}

/-- `mPartnerUp` changes only where `switchMode` clears it and where `mPoll` sets it for a line,
each recording it; every step only adds to the log. -/
theorem step_partner {a : Act} (h : step k s a = some s') :
    (s'.partnerUp = s.partnerUp ∧ s.log <:+ s'.log) ∨
    (∃ j c p r t, a = .caller j c ∧ s.callers[j]? = some (.switchRole p r t .partnerLocking) ∧
      s'.partnerUp = false ∧ s'.log = .clear j :: s.log) ∨
    (∃ c l rest, a = .reactor c ∧ s.reactor = .partnerLocking l rest ∧ s'.partnerUp = true ∧
      s'.log = .partnerUp l :: s.log) :=
  (step_events h).1

theorem step_log_suffix {a : Act} (h : step k s a = some s') : s.log <:+ s'.log := by
  rcases step_partner h with ⟨-, hs⟩ | ⟨_, _, _, _, _, -, -, -, hs⟩ | ⟨_, _, _, -, -, -, hs⟩
  · exact hs
  all_goals rw [hs]; exact List.suffix_cons _ _

/-- `mPoll` handled a partner-add line after caller `i`'s `switchMode` cleared `mPartnerUp`. -/
def PartnerSeen (log : List Event) (i : Nat) : Prop :=
  ∃ l pre post, log = pre ++ .partnerUp l :: post ∧ .clear i ∈ post

theorem PartnerSeen.suffix {log log' : List Event} {i : Nat} (h : PartnerSeen log i)
    (hs : log <:+ log') : PartnerSeen log' i := by
  obtain ⟨l, pre, post, rfl, hc⟩ := h
  obtain ⟨pre', rfl⟩ := hs
  exact ⟨l, pre' ++ pre, post, by simp, hc⟩

/-- What a mode switch at `pc` knows of `mPartnerUp`. From its clear to the end of its wait the
flag is set only by a partner-add handled since the clear, and once the switch saw the flag
such a line was handled; a mode switch never takes `switchRole`'s own write. -/
def PartnerOk (log : List Event) (up : Bool) (i : Nat) : SwitchPc → Prop
  | .roleWrite | .roleRead _ => False
  | .modeWrite | .waitAgain | .waiting _ | .woken _ =>
    .clear i ∈ log ∧ (up = true → PartnerSeen log i)
  | .partnerUnlock true | .notifyLocking true => PartnerSeen log i
  | _ => True

/-- A longer log keeps what a switch knows, as long as the flag rises only with a handled
partner-add. -/
theorem PartnerOk.advance {log log' : List Event} {up up' : Bool} {i : Nat} {pc : SwitchPc}
    (h : PartnerOk log up i pc) (hs : log <:+ log')
    (hup : up' = true → up = true ∨ ∃ l, log' = .partnerUp l :: log) : PartnerOk log' up' i pc := by
  have waiting : .clear i ∈ log ∧ (up = true → PartnerSeen log i) →
      .clear i ∈ log' ∧ (up' = true → PartnerSeen log' i) := fun ⟨hc, hp⟩ =>
    ⟨hs.subset hc, fun hu => (hup hu).elim (fun hu => (hp hu).suffix hs)
      fun ⟨l, hl⟩ => ⟨l, [], log, hl, hc⟩⟩
  cases pc with
  | modeWrite | waitAgain | waiting | woken => exact waiting h
  | partnerUnlock rs | notifyLocking rs => cases rs; trivial; exact PartnerSeen.suffix h hs
  | roleWrite | roleRead => exact h.elim
  | _ => trivial

/-- Every mode switch knows of `mPartnerUp` what its program counter says. -/
def PartnerInv (s : Sys) : Prop :=
  ∀ i p m t pc, s.callers[i]? = some (.switchRole p (.mode m) t pc) →
    PartnerOk s.log s.partnerUp i pc

/-- The step of a mode switch keeps what it knows. -/
theorem switchStep_partnerOk {i : Nat} {p : String} {m : PortMode} {t : Int} {pc : SwitchPc}
    {c : Choice} (h : switchStep k s i p (.mode m) t pc c = some s')
    (ho : PartnerOk s.log s.partnerUp i pc) :
    ∃ pc', s'.callers = s.callers.set i (.switchRole p (.mode m) t pc') ∧
      PartnerOk s'.log s'.partnerUp i pc' := by
  cases pc with
  | roleWrite | roleRead => exact ho.elim
  | partnerLocking =>
    simp only [switchStep, Sys.setCaller_eq, Sys.record_eq] at h
    split_ifs at h
    cases h
    exact ⟨_, rfl, List.mem_cons_self _ _, fun h => absurd h Bool.false_ne_true⟩
  | modeWrite =>
    simp only [switchStep, Sys.setCaller_eq, Sys.record_eq] at h
    cases h
    refine ⟨_, rfl, ?_⟩
    split
    · exact ⟨List.mem_cons_of_mem _ ho.1, fun hu => (ho.2 hu).suffix (List.suffix_cons _ _)⟩
    · trivial
  | waitAgain | waiting =>
    simp only [switchStep, Sys.setCaller_eq] at h
    (try split_ifs at h) <;> cases h <;> exact ⟨_, rfl, ho⟩
  | woken err =>
    simp only [switchStep, Sys.setCaller_eq] at h
    split_ifs at h with hl he hu <;> cases h
    · exact ⟨_, rfl, trivial⟩
    · exact ⟨_, rfl, ho.2 hu⟩
    · exact ⟨_, rfl, ho⟩
  | partnerUnlock rs =>
    simp only [switchStep, Sys.setCaller_eq] at h
    cases h
    refine ⟨_, rfl, ?_⟩
    cases rs
    · trivial
    · exact ho
  | _ =>
    simp only [switchStep, Sys.setCaller_eq, Sys.record_eq, Sys.deliver_eq] at h
    (try split_ifs at h) <;> cases h <;> refine ⟨_, rfl, ?_⟩ <;> trivial

theorem partnerInv_init (env : Env) (calls : List Call) : PartnerInv (Sys.init env calls) := by
  intro i p m t pc h
  simp only [Sys.init, List.getElem?_map, Option.map_eq_some'] at h
  obtain ⟨c, -, hc⟩ := h
  cases c <;> simp only [Call.start, Caller.switchRole.injEq, reduceCtorEq] at hc
  obtain ⟨-, -, -, rfl⟩ := hc
  trivial

theorem PartnerInv.step (hi : PartnerInv s) {a : Act} (h : step k s a = some s') :
    PartnerInv s' := by
  intro j p m t pc hj
  have adv : ∀ pc, PartnerOk s.log s.partnerUp j pc → PartnerOk s'.log s'.partnerUp j pc :=
    fun pc ho => ho.advance (step_log_suffix h) fun hu => by
      rcases step_partner h with ⟨he, -⟩ | ⟨_, _, _, _, _, -, -, hf, -⟩ | ⟨_, l, _, -, -, -, hl⟩
      · exact .inl (he ▸ hu)
      · simp [hf] at hu
      · exact .inr ⟨l, hl⟩
  by_cases ha : ∃ c, a = .caller j c
  · obtain ⟨c, rfl⟩ := ha
    obtain ⟨th, hth, h⟩ := step_caller_eq h
    have hi' : j < s.callers.length := (List.getElem?_eq_some_iff.1 hth).1
    have hset : ∀ {c'}, s'.callers = s.callers.set j c' → c' = .switchRole p (.mode m) t pc :=
      fun hs => by simpa [hs, List.getElem?_set_self hi'] using hj
    cases th with
    | switchRole p' r t' pc0 =>
      obtain ⟨pc', hs, -⟩ := switchStep_moves h
      obtain ⟨rfl, rfl, rfl, rfl⟩ := by simpa using hset hs
      obtain ⟨pc'', hs', ho⟩ := switchStep_partnerOk h (hi j _ _ _ _ hth)
      obtain rfl : pc'' = pc' := by
        simpa [List.getElem?_set_self hi'] using congrArg (·[j]?) (hs'.symm.trans hs)
      exact ho
    | setCallback => obtain ⟨_, hs, -⟩ := setterStep_moves h; cases hset hs
    | enableUsbData =>
      obtain ⟨_, hs, ⟨_, rfl⟩ | ⟨_, rfl⟩, -⟩ := dataStep_moves h <;> cases hset hs
    | method =>
      obtain ⟨_, hs, ⟨_, rfl⟩ | ⟨_, rfl⟩, -⟩ := methodStep_moves h <;> cases hset hs
    | tail => obtain ⟨_, hs, -⟩ := tailStep_moves h; cases hset hs
  · rcases step_other h (fun c hc => ha ⟨c, hc⟩) with hs | hs <;> rw [hs] at hj
    · exact adv pc (hi j p m t pc hj)
    · obtain ⟨c0, hc0, hw⟩ := Option.map_eq_some'.1 hj
      cases c0 with
      | switchRole p' r t' pc0 =>
        cases pc0 <;> simp only [wakeWaiter, Caller.switchRole.injEq] at hw <;>
          obtain ⟨rfl, rfl, rfl, rfl⟩ := hw <;>
          first | exact adv _ (hi j _ _ _ _ hc0) | exact adv (.waiting _) (hi j _ _ _ _ hc0)
      | _ => cases hw

theorem Reachable.partnerInv {s : Sys} (h : Reachable k s) : PartnerInv s := by
  induction h with
  | init env calls => exact partnerInv_init env calls
  | step a _ hs ih => exact ih.step hs

end Partner

/-- A step that delivers `SUCCESS` for caller `i`'s mode switch comes after `mPoll` handled a
partner-add line following the switch's clear of `mPartnerUp`. -/
theorem mode_switch_success_seen_partner {k : Consts} {s s' : Sys} {a : Act} {i : Nat}
    {p : String} {m : PortMode} {t : Int} {pc : SwitchPc} (hr : Reachable k s)
    (hi : s.callers[i]? = some (.switchRole p (.mode m) t pc)) (h : step k s a = some s')
    (hn : s'.log = .notify (.caller i) (.roleSwitchStatus p (.mode m) .success t) :: s.log) :
    PartnerSeen s.log i := by
  rcases step_switchEventOrigin h hn with ⟨rs, hc, hst⟩ | ⟨q, hc⟩ <;> rw [hi] at hc <;> cases hc
  cases rs
  · cases hst
  · exact hr.partnerInv i p m t _ hi

/-- A `setCallback` and then a switch of `port0` to `DFP`. -/
def modeSwitchCalls : List Call := [.setCallback true, .switchRole "port0" (.mode .dfp) 1]

/-- The first call registers the callback and starts `mPoll`, which waits for uevents. -/
def callbackSet : List Act :=
  [.caller 0 ⟨true, 0, 0⟩, .caller 0 ⟨true, 0, 0⟩, .caller 0 ⟨true, 0, 0⟩,
    .reactor ⟨true, 0, 0⟩, .reactor ⟨true, 0, 0⟩]

/-- The switch takes `mRoleSwitchLock`, clears `mPartnerUp`, writes `port_type` and waits. -/
def switchWaits : List Act :=
  [.caller 1 ⟨true, 0, 0⟩, .caller 1 ⟨true, 0, 0⟩, .caller 1 ⟨true, 0, 0⟩, .caller 1 ⟨true, 0, 0⟩,
    .caller 1 ⟨true, 0, 0⟩]

def partnerAdd (port : String) : Msg :=
  ["add@/devices/platform/10d60000.hsi2c/i2c-8/8-0025/typec/" ++ port ++ "/" ++ port ++ "-partner"]

/-- The switch's own partner-add, emitted after its `port_type` write, confirms it. -/
theorem mode_switch_success_fresh_partner :
    ∃ s s', Reachable udcConsts s ∧
      s.callers[1]? = some (.switchRole "port0" (.mode .dfp) 1 (.notifyLocking true)) ∧
      step udcConsts s (.caller 1 ⟨true, 0, 0⟩) = some s' ∧
      s'.log = .notify (.caller 1) (.roleSwitchStatus "port0" (.mode .dfp) .success 1) :: s.log ∧
      PartnerSeen s.log 1 :=
  have hr := @reachable_of_run udcConsts _ (.init noNodes modeSwitchCalls)
    (callbackSet ++ switchWaits ++ ([.emit (partnerAdd "port0"), .reactor ⟨true, 0, 0⟩,
      .reactor ⟨true, 0, 0⟩, .reactor ⟨true, 0, 0⟩, .reactor ⟨true, 0, 0⟩, .caller 1 ⟨true, 0, 0⟩,
      .caller 1 ⟨true, 0, 0⟩] : List Act)) _ rfl
  ⟨_, _, hr, rfl, rfl, rfl, @mode_switch_success_seen_partner udcConsts _ _
    (.caller 1 ⟨true, 0, 0⟩) 1 "port0" .dfp 1 _ hr rfl rfl rfl⟩

/-- A partner-add for `port1`, queued before the switch of `port0` begins, is taken as the
switch's confirmation: the switch reports `SUCCESS`. -/
theorem stale_partner_add_confirms :
    (run udcConsts (Sys.init noNodes modeSwitchCalls) (callbackSet ++ .emit (partnerAdd "port1") ::
      switchWaits ++ [.reactor ⟨true, 0, 0⟩, .reactor ⟨true, 0, 0⟩, .reactor ⟨true, 0, 0⟩,
        .reactor ⟨true, 0, 0⟩, .caller 1 ⟨true, 0, 0⟩, .caller 1 ⟨true, 0, 0⟩,
        .caller 1 ⟨true, 0, 0⟩])).map (·.log) = some
      [.notify (.caller 1) (.roleSwitchStatus "port0" (.mode .dfp) .success 1),
        .partnerUp "add@/devices/platform/10d60000.hsi2c/i2c-8/8-0025/typec/port1/port1-partner",
        .roleWrite (.caller 1) "port0" "port_type" "source", .clear 1, .emit (partnerAdd "port1")] := by
  decide

/-! ## A partner-add is never lost -/

/-- Caller `i`'s switch has seen its partner: it is back from the wait with `mPartnerUp` set,
or past the check on its way to report `SUCCESS`. -/
def SwitchConfirmed (s : Sys) (i : Nat) (p : String) (r : PortRole) (t : Int) : Prop :=
  (s.callers[i]? = some (.switchRole p r t (.woken 0)) ∧ s.partnerUp = true) ∨
    ∃ pc ∈ [SwitchPc.partnerUnlock true, .notifyLocking true, .notified, .rsUnlock, .done],
      s.callers[i]? = some (.switchRole p r t pc)

section Confirmed

variable {k : Consts} {s s' : Sys} {i : Nat} {p : String} {r : PortRole} {t : Int}

/-- Caller `i`'s own step after the wake goes on to report `SUCCESS`. -/
theorem SwitchConfirmed.own_step {c : Choice} (hc : SwitchConfirmed s i p r t)
    (h : step k s (.caller i c) = some s') : SwitchConfirmed s' i p r t := by
  obtain ⟨th, hth, h⟩ := step_caller_eq h
  have hi : i < s.callers.length := (List.getElem?_eq_some_iff.1 hth).1
  have next : ∀ pc, s'.callers = s.callers.set i (.switchRole p r t pc) →
      s'.callers[i]? = some (.switchRole p r t pc) := fun pc hs => by
    rw [hs, List.getElem?_set_self hi]
  rcases hc with ⟨hw, hu⟩ | ⟨pc, hpc, hw⟩ <;> rw [hw] at hth <;> cases hth
  · simp only [callerStep, switchStep, Sys.setCaller_eq] at h
    split_ifs at h with hl he <;> cases h
    · exact absurd he (by decide)
    · exact .inr ⟨_, by simp, next _ rfl⟩
  · simp only [List.mem_cons, List.mem_singleton, List.not_mem_nil, or_false] at hpc
    rcases hpc with rfl | rfl | rfl | rfl | rfl <;>
      simp only [callerStep, switchStep, Sys.setCaller_eq, Sys.deliver_eq] at h <;>
      (try split_ifs at h) <;> cases h <;> exact .inr ⟨_, by simp, next _ rfl⟩

/-- The other threads cannot undo it: no other switch clears `mPartnerUp` while caller `i`
holds `mRoleSwitchLock`, and `mPoll` only sets it. -/
theorem SwitchConfirmed.step (hr : Reachable k s) (hc : SwitchConfirmed s i p r t) {a : Act}
    (h : step k s a = some s') : SwitchConfirmed s' i p r t := by
  by_cases ha : ∃ c, a = .caller i c
  · obtain ⟨c, rfl⟩ := ha
    exact hc.own_step h
  have ha' : ∀ c, a ≠ .caller i c := fun c hc => ha ⟨c, hc⟩
  have same : ∀ pc, (∀ d, pc ≠ .waiting d) → s.callers[i]? = some (.switchRole p r t pc) →
      s'.callers[i]? = some (.switchRole p r t pc) := fun pc hw hi => by
    rcases step_other h ha' with hs | hs <;> rw [hs, hi]
    cases pc <;> simp_all [wakeWaiter]
  rcases hc with ⟨hw, hu⟩ | ⟨pc, hpc, hw⟩
  · refine .inl ⟨same _ (fun _ => by simp) hw, ?_⟩
    rcases step_partner h with ⟨he, -⟩ | ⟨j, c, _, _, _, rfl, hj, -, -⟩ | ⟨_, _, _, -, -, hu', -⟩
    · rwa [he]
    · have := ((hr.disciplined (step_crashed h)).exclusive .roleSwitch).unique hw rfl hj rfl
      exact absurd (this ▸ rfl) (ha' c)
    · exact hu'
  · refine .inr ⟨pc, hpc, same pc ?_ hw⟩
    simp only [List.mem_cons, List.mem_singleton, List.not_mem_nil, or_false] at hpc
    rcases hpc with rfl | rfl | rfl | rfl | rfl <;> simp

theorem SwitchConfirmed.run (hr : Reachable k s) (hc : SwitchConfirmed s i p r t)
    {acts : List Act} (h : UsbHal.run k s acts = some s') : SwitchConfirmed s' i p r t := by
  induction acts generalizing s with
  | nil => cases h; exact hc
  | cons a acts ih =>
    obtain ⟨s₁, h₁, h⟩ := Option.bind_eq_some.1 h
    exact ih (.step a hr h₁) (hc.step hr h₁) h

end Confirmed

/-- When `mPoll` handles a partner-add line while caller `i`'s mode switch waits, the switch is
confirmed for good: in every run from there it reports `SUCCESS` if anything and never reaches
`switchToDrp`, and it can report at once, after `mPoll` leaves `mPartnerLock`. -/
theorem partner_add_confirms_mode_switch {k : Consts} {s s' : Sys} {i : Nat} {p l : String}
    {m : PortMode} {t : Int} {d : Nat} {rest : List String} {c : Choice} (hr : Reachable k s)
    (hi : s.callers[i]? = some (.switchRole p (.mode m) t (.waiting d)))
    (hl : s.reactor = .partnerLocking l rest) (h : step k s (.reactor c) = some s') :
    (∀ acts s'', run k s' acts = some s'' → SwitchConfirmed s'' i p (.mode m) t) ∧
      ∃ s'', run k s' [.reactor c, .caller i c, .caller i c] = some s'' ∧
        s''.callers[i]? = some (.switchRole p (.mode m) t (.notifyLocking true)) := by
  have hcr := step_crashed h
  have h' := step_reactor_eq h
  simp only [reactorStep, hl, Sys.record_eq] at h'
  split_ifs at h' with hfree
  cases h'
  have hw : (s.callers.map wakeWaiter)[i]? = some (.switchRole p (.mode m) t (.woken 0)) := by
    simp [hi, wakeWaiter]
  refine ⟨fun acts s'' hrun => SwitchConfirmed.run (.step _ hr h) (.inl ⟨hw, rfl⟩) hrun, ?_⟩
  have hlen : i < (s.callers.map wakeWaiter).length := (List.getElem?_eq_some_iff.1 hw).1
  simp [run, UsbHal.step, hcr, reactorStep, callerStep, switchStep, hw, etimedout,
    List.getElem?_set_self hlen]

theorem partner_add_confirms_mode_switch_port0 :
    ∃ s s', Reachable udcConsts s ∧
      s.callers[1]? = some (.switchRole "port0" (.mode .dfp) 1 (.waiting 8)) ∧
      s.reactor = .partnerLocking (partnerAdd "port0").head! [] ∧
      step udcConsts s (.reactor ⟨true, 0, 0⟩) = some s' ∧
      (∀ acts s'', run udcConsts s' acts = some s'' →
        SwitchConfirmed s'' 1 "port0" (.mode .dfp) 1) ∧
      ∃ s'', run udcConsts s' [.reactor ⟨true, 0, 0⟩, .caller 1 ⟨true, 0, 0⟩,
        .caller 1 ⟨true, 0, 0⟩] = some s'' ∧
        s''.callers[1]? = some (.switchRole "port0" (.mode .dfp) 1 (.notifyLocking true)) :=
  have hr := @reachable_of_run udcConsts _ (.init noNodes modeSwitchCalls)
    (callbackSet ++ switchWaits ++ ([.emit (partnerAdd "port0"), .reactor ⟨true, 0, 0⟩,
      .reactor ⟨true, 0, 0⟩] : List Act)) _ rfl
  ⟨_, _, hr, rfl, rfl, rfl, partner_add_confirms_mode_switch hr rfl rfl rfl⟩

end UsbHal
