import UsbHal.Status
import Mathlib.Data.List.Forall2

/-!
# What the snapshot holds

A pass of the loop builds its entry only when its three role queries return `SUCCESS`
(`fillPort_built`); any other status stops the loop with the entry as the pass left it
(`fillPort_done`), and `fillPorts_shape` gives the whole vector: complete entries, then at most
one cut-short entry, then the defaults of `resize`.

The merges after the loop touch entry `0` only in fields other than the roles, so the roles of
each entry of the delivered snapshot are those `queryNonCompliantChargerStatus` leaves
(`queryVersionHelper_roles`). A disconnected port keeps `NONE` roles unless its
`non_compliant_reasons` gives a warning.

The merges index entry `0` without a check, so an enumeration that yields no port ends the
process (`queryVersionHelper_no_port`).
-/

namespace UsbHal

/-! ## The loop -/

section Loop

variable {env : Env} {en : Bool}

theorem fillPort_built {port : String × Bool} {ps : PortStatus}
    (h : fillPort env en port = .ok (.built ps)) :
    ∃ pr dr m q, queryRole env port (.powerRole .none) PortRole.getPowerRole = .ok (some pr) ∧
      queryRole env port (.dataRole .none) PortRole.getDataRole = .ok (some dr) ∧
      queryRole env port (.mode .none) PortRole.getMode = .ok (some m) ∧
      setUsbDataStatus env en (setCapabilities env port
        { portName := port.1, currentPowerRole := pr, currentDataRole := dr, currentMode := m })
        = .ok q ∧
      ps = setPowerBrickStatus env port q := by
  unfold fillPort at h
  rcases h1 : queryRole env port (.powerRole .none) PortRole.getPowerRole with f | _ | pr <;>
    simp only [h1, bind, Except.bind, pure, Except.pure, reduceCtorEq, Except.ok.injEq] at h
  rcases h2 : queryRole env port (.dataRole .none) PortRole.getDataRole with f | _ | dr <;>
    simp only [h2, reduceCtorEq, Except.ok.injEq] at h
  rcases h3 : queryRole env port (.mode .none) PortRole.getMode with f | _ | m <;>
    simp only [h3, reduceCtorEq, Except.ok.injEq] at h
  split at h
  · cases h
  · rename_i q h4
    simp only [Except.ok.injEq, PortFill.built.injEq] at h
    exact ⟨pr, dr, m, q, rfl, rfl, rfl, h4, h.symm⟩

/-- The power-brick block sets `powerBrickStatus` and nothing else. -/
theorem setPowerBrickStatus_eq (port : String × Bool) (ps : PortStatus) :
    ∃ b, setPowerBrickStatus env port ps = { ps with powerBrickStatus := b } := by
  unfold setPowerBrickStatus
  split_ifs <;> (try split) <;> exact ⟨_, rfl⟩

/-- The entry of a pass that completed, as did every pass before it, is the entry it built. -/
theorem fillPorts_get : ∀ {ports : List (String × Bool)} {i : Nat} {st : Status}
    {v : List PortStatus} {port : String × Bool} {ps : PortStatus},
    fillPorts env en ports = .ok (st, v) → ports[i]? = some port →
    (∀ j < i, ∃ port' ps', ports[j]? = some port' ∧ fillPort env en port' = .ok (.built ps')) →
    fillPort env en port = .ok (.built ps) → v[i]? = some ps
  | [], _, _, _, _, _, _, hi, _, _ => by simp at hi
  | port0 :: rest, i, st, v, port, ps, h, hi, hpre, hps => by
    obtain ⟨ps0, h0⟩ : ∃ ps0, fillPort env en port0 = .ok (.built ps0) := by
      cases i with
      | zero => simp only [List.getElem?_cons_zero, Option.some.injEq] at hi; exact ⟨ps, hi ▸ hps⟩
      | succ i => obtain ⟨_, ps0, h0, h0'⟩ := hpre 0 (by omega); simp at h0; exact ⟨ps0, h0 ▸ h0'⟩
    simp only [fillPorts, bind, Except.bind, h0] at h
    rcases hr : fillPorts env en rest with f | ⟨st', v'⟩ <;>
      simp only [hr, pure, Except.pure, reduceCtorEq, Except.ok.injEq, Prod.mk.injEq] at h
    obtain ⟨rfl, rfl⟩ := h
    cases i with
    | zero =>
      simp only [List.getElem?_cons_zero, Option.some.injEq] at hi ⊢
      subst hi
      simpa [h0] using hps
    | succ i =>
      simp only [List.getElem?_cons_succ] at hi ⊢
      exact fillPorts_get hr hi (fun j hj => by simpa using hpre (j + 1) (by omega)) hps

end Loop

/-- The fields the merges after the loop never write in entry `0`: the name, the roles and
mode, the power brick and the capabilities. -/
def PortStatus.attachment (ps : PortStatus) :
    String × PortPowerRole × PortDataRole × PortMode × PowerBrickStatus × Bool × Bool :=
  (ps.portName, ps.currentPowerRole, ps.currentDataRole, ps.currentMode, ps.powerBrickStatus,
    ps.canChangeDataRole, ps.canChangePowerRole)

theorem modifyFront_map {β : Type} {f : PortStatus → PortStatus} {v v' : List PortStatus}
    (h : modifyFront v f = .ok v') (g : PortStatus → β) (hf : ∀ ps, g (f ps) = g ps) :
    v'.map g = v.map g := by
  cases v with
  | nil => cases h
  | cons ps rest =>
    simp only [modifyFront, Except.ok.injEq] at h
    subst h
    simp [hf]

/-- What the compliance merge reads of an entry: its attachment and its warnings so far. -/
def PortStatus.complianceView (ps : PortStatus) :=
  (ps.attachment, ps.complianceWarnings)

theorem queryMoistureDetectionStatus_view {u u' : Usb} {env : Env} {v v' : List PortStatus}
    {st : Status} (h : queryMoistureDetectionStatus u env v = .ok (st, u', v')) :
    v'.map PortStatus.complianceView = v.map PortStatus.complianceView := by
  obtain ⟨v0, h0, h⟩ := Except.bind_eq_ok.1 h
  rw [← modifyFront_map h0 PortStatus.complianceView fun _ => rfl]
  dsimp only at h
  split at h
  · cases h; rfl
  split at h
  · cases h; rfl
  split at h
  · split at h
    · cases h; rfl
    · obtain ⟨v1, h1, h⟩ := Except.map_eq_ok.1 h
      cases h
      exact modifyFront_map h1 _ fun ps => by unfold contaminantDetected; split <;> rfl
  · cases h; rfl

theorem queryPowerTransferStatus_view {u u' : Usb} {env : Env} {v v' : List PortStatus}
    {st : Status} (h : queryPowerTransferStatus u env v = .ok (st, u', v')) :
    v'.map PortStatus.complianceView = v.map PortStatus.complianceView := by
  unfold queryPowerTransferStatus at h
  dsimp only at h
  split at h
  · cases h; rfl
  split at h
  · cases h; rfl
  · obtain ⟨v1, h1, h⟩ := Except.map_eq_ok.1 h
    cases h
    exact modifyFront_map h1 _ fun _ => rfl

/-- Lists that agree under `g` agree under any `F` that reads only `g`. -/
theorem map_eq_map_of_factor {α β γ : Type} {g : α → β} {F : α → γ}
    (hF : ∀ x y, g x = g y → F x = F y) :
    ∀ {l1 l2 : List α}, l1.map g = l2.map g → l1.map F = l2.map F
  | [], [], _ => rfl
  | a :: l1, b :: l2, h => by
    simp only [List.map_cons, List.cons.injEq] at h ⊢
    exact ⟨hF _ _ h.1, map_eq_map_of_factor hF h.2⟩
  | [], _ :: _, h | _ :: _, [], h => by simp at h

theorem mergeComplianceWarnings_attachment (env : Env) {ps ps' : PortStatus}
    (h : ps.complianceView = ps'.complianceView) :
    (mergeComplianceWarnings env ps).attachment = (mergeComplianceWarnings env ps').attachment := by
  simp only [PortStatus.complianceView, PortStatus.attachment, Prod.mk.injEq] at h
  obtain ⟨⟨hn, hp, hd, hm, hb, hcd, hcp⟩, hw⟩ := h
  simp only [mergeComplianceWarnings, hn, hp, hw]
  split <;> (try split) <;> simp [PortStatus.attachment, hd, hm, hb, hcd, hcp]

/-- The merges after the loop leave each entry with the attachment the compliance merge gives
it. -/
theorem queryVersionHelper_roles {u : Usb} {env : Env} {q : Query} {st : Status}
    {v : List PortStatus} (hq : queryVersionHelper u env = .ok q)
    (hv : getPortStatusHelper env u.usbDataEnabled = .ok (st, v)) :
    q.snapshot.map PortStatus.attachment =
      v.map fun ps => (mergeComplianceWarnings env ps).attachment := by
  unfold queryVersionHelper at hq
  simp only [hv, bind, Except.bind] at hq
  rcases h1 : queryMoistureDetectionStatus u env v with f | ⟨st1, u1, v1⟩ <;>
    simp only [h1, reduceCtorEq] at hq
  rcases h2 : queryPowerTransferStatus u1 env v1 with f | ⟨st2, u2, v2⟩ <;>
    simp only [h2, reduceCtorEq] at hq
  rcases h3 : queryUsbDataSession env (queryNonCompliantChargerStatus env v2).2 with f | v3 <;>
    simp only [h3, reduceCtorEq, pure, Except.pure, Except.ok.injEq] at hq
  subst hq
  have e := (queryPowerTransferStatus_view h2).trans (queryMoistureDetectionStatus_view h1)
  rw [modifyFront_map h3 PortStatus.attachment fun _ => rfl]
  simp only [queryNonCompliantChargerStatus, List.map_map]
  exact map_eq_map_of_factor (fun _ _ => mergeComplianceWarnings_attachment env) e

theorem queryVersionHelper_ports {u : Usb} {env : Env} {q : Query}
    (hq : queryVersionHelper u env = .ok q) :
    ∃ st v, getPortStatusHelper env u.usbDataEnabled = .ok (st, v) := by
  unfold queryVersionHelper at hq
  rcases h : getPortStatusHelper env u.usbDataEnabled with f | ⟨st, v⟩
  · simp [h, bind, Except.bind] at hq
  · exact ⟨st, v, rfl⟩

/-- An enumeration that yields no port, or fails, leaves the vector empty, and the first merge
writes its entry `0`: the process ends. -/
theorem queryVersionHelper_no_port (u : Usb) (env : Env)
    (h : (getTypeCPortNamesHelper env).2 = []) : queryVersionHelper u env = .error .outOfBounds := by
  obtain ⟨st, hv⟩ : ∃ st, getPortStatusHelper env u.usbDataEnabled = .ok (st, []) := by
    unfold getPortStatusHelper
    rcases hn : getTypeCPortNamesHelper env with ⟨st, names⟩
    rw [hn] at h
    subst h
    cases st <;> simp [(env.iterate_perm []).eq_nil, fillPorts, pure, Except.pure]
  simp [queryVersionHelper, hv, bind, Except.bind, queryMoistureDetectionStatus, modifyFront]

theorem queryVersionHelper_empty_listing :
    (getTypeCPortNamesHelper (Env.build (some []) (fun _ _ => none) (fun _ => none) "")).2 = [] ∧
      queryVersionHelper Usb.init (Env.build (some []) (fun _ _ => none) (fun _ => none) "") =
        .error .outOfBounds :=
  ⟨by decide, queryVersionHelper_no_port _ _ (by decide)⟩

/-! ## Ports without a partner -/

/-- The warnings `queryNonCompliantChargerStatus` reads for a port. -/
def portComplianceWarnings (env : Env) (portName : String) : List ComplianceWarning :=
  match env.typecRead portName "device/non_compliant_reasons" with
  | some reasons => reasonsWarnings env reasons
  | none => []

/-- The pass of the loop over the `i`-th port of the map's iteration order ran to its end,
as did every pass before it. -/
def PassCompleted (env : Env) (en : Bool) (i : Nat) (port : String × Bool) : Prop :=
  ∃ names, getTypeCPortNamesHelper env = (.success, names) ∧ (env.iterate names)[i]? = some port ∧
    ∀ j ≤ i, ∃ port' ps', (env.iterate names)[j]? = some port' ∧
      fillPort env en port' = .ok (.built ps')

/-- A connected port's pass completes only if the partner's `accessory_mode` can be read, which
needs its link. -/
theorem fillPort_built_partner {env : Env} {en : Bool} {ents : List Dirent} {p : String}
    {ps : PortStatus} (hl : env.typec = some ents) (h : fillPort env en (p, true) = .ok (.built ps)) :
    ⟨p ++ "-partner", true⟩ ∈ ents := by
  obtain ⟨-, -, m, -, -, -, h3, -⟩ := fillPort_built h
  by_contra hn
  have hr : env.typecRead (p ++ "-partner") "accessory_mode" = none := by
    cases hr : env.typecRead (p ++ "-partner") "accessory_mode" with
    | none => rfl
    | some _ => exact absurd (env.closed ents hl (p ++ "-partner") "accessory_mode" (by simp [hr])) hn
  simp [queryRole, getCurrentRoleHelper, roleNone, getAccessoryConnected, hr] at h3

theorem fillPort_built_disconnected {env : Env} {en : Bool} {p : String} {ps : PortStatus}
    (h : fillPort env en (p, false) = .ok (.built ps)) :
    ps.attachment = (p, .none, .none, .none, .notConnected, false, false) ∧
      ps.complianceWarnings = [] := by
  obtain ⟨pr, dr, m, q, h1, h2, h3, hq, rfl⟩ := fillPort_built h
  simp only [queryRole, getCurrentRoleHelper, roleNone, Bool.not_false, ite_true,
    PortRole.getPowerRole, PortRole.getDataRole, PortRole.getMode, Except.map, Except.ok.injEq,
    Option.some.injEq, Prod.snd] at h1 h2 h3
  subst h1 h2 h3
  obtain ⟨docked, -, rfl⟩ := Except.map_eq_ok.1 hq
  simp [setPowerBrickStatus, setCapabilities, PortStatus.attachment]

theorem mergeComplianceWarnings_disconnected (env : Env) {p : String} {ps : PortStatus}
    (h : ps.attachment = (p, .none, .none, .none, .notConnected, false, false))
    (hw : ps.complianceWarnings = []) :
    (mergeComplianceWarnings env ps).attachment =
      if portComplianceWarnings env p = [] then (p, .none, .none, .none, .notConnected, false, false)
      else (p, .sink, .none, .ufp, .connected, false, false) := by
  simp only [PortStatus.attachment, Prod.mk.injEq] at h
  obtain ⟨hn, hp, hd, hm, hb, hcd, hcp⟩ := h
  unfold mergeComplianceWarnings portComplianceWarnings
  simp only [hn, hp, hw, List.nil_append]
  split <;> (try split_ifs) <;> simp_all [PortStatus.attachment]

/-- An entry that the loop built for a port with no partner link keeps its roles `NONE` and
cannot change roles, unless the port's `non_compliant_reasons` gives a warning, which makes it
a charger-only sink. The merges after the loop do not change these fields. -/
theorem disconnected_port_entry {u : Usb} {env : Env} {q : Query} {ents : List Dirent} {i : Nat}
    {p : String} {c : Bool} (hq : queryVersionHelper u env = .ok q) (hl : env.typec = some ents)
    (hb : PassCompleted env u.usbDataEnabled i (p, c)) (hp : ⟨p ++ "-partner", true⟩ ∉ ents) :
    ∃ ps ∈ q.snapshot[i]?, ps.canChangeDataRole = false ∧ ps.canChangePowerRole = false ∧
      (ps.currentPowerRole, ps.currentDataRole, ps.currentMode, ps.powerBrickStatus) =
        if portComplianceWarnings env p = [] then (.none, .none, .none, .notConnected)
        else (.sink, .none, .ufp, .connected) := by
  obtain ⟨names, hn, hi, hall⟩ := hb
  obtain ⟨_, ps0, hi', h0⟩ := hall i le_rfl
  rw [hi, Option.some.injEq] at hi'
  subst hi'
  cases c
  case true => exact absurd (fillPort_built_partner hl h0) hp
  obtain ⟨st, v, hv⟩ := queryVersionHelper_ports hq
  have hgv : v[i]? = some ps0 := by
    simp only [getPortStatusHelper, hn] at hv
    exact fillPorts_get hv hi (fun j hj => hall j (le_of_lt hj)) h0
  have hs := congrArg (·[i]?) (queryVersionHelper_roles hq hv)
  simp only [List.getElem?_map, hgv, Option.map_some'] at hs
  obtain ⟨ps, hps, hpa⟩ := Option.map_eq_some'.1 hs
  obtain ⟨ha, hw⟩ := fillPort_built_disconnected h0
  have hm := mergeComplianceWarnings_disconnected env ha hw
  refine ⟨ps, hps, ?_⟩
  rw [← hpa] at hm
  split_ifs at hm ⊢ <;> simp_all [PortStatus.attachment]

theorem disconnected_port_entry_port0 :
    match queryVersionHelper Usb.init (Env.build (some [⟨"port0", true⟩])
      (fun _ f => if f = "device/non_compliant_reasons" then some "[bc12]" else none)
      (fun _ => none) "") with
    | .ok q => ∃ ps ∈ q.snapshot[0]?, ps.canChangeDataRole = false ∧
        ps.canChangePowerRole = false ∧
        (ps.currentPowerRole, ps.currentDataRole, ps.currentMode, ps.powerBrickStatus) =
          (.sink, .none, .ufp, .connected)
    | .error _ => False := by
  generalize hq : queryVersionHelper Usb.init _ = r
  cases r with
  | error f => cases f <;> revert hq <;> decide
  | ok q =>
    have := @disconnected_port_entry _ _ _ _ 0 "port0" false hq rfl
      ⟨[("port0", false)], rfl, rfl, fun j hj => by
        obtain rfl : j = 0 := by omega
        exact ⟨_, _, rfl, rfl⟩⟩ (by decide)
    obtain ⟨ps, hps, h1, h2, h3⟩ := this
    exact ⟨ps, hps, h1, h2, by rw [h3]; decide⟩

end UsbHal
