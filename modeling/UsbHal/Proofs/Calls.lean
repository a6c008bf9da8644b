import UsbHal.Ops

/-!
# One call at a time

`limitPowerTransfer` returns before its notification when the TCPC i2c client node cannot be
found (`limitPowerTransfer_no_client`), where every other method notifies on every path.

`enableUsbData` reports `SUCCESS` only when every write it made succeeded, and then the nodes
hold what it asked for (`enableUsbData_success_nodes`), except that an enable that finds
`mUsbDataEnabled` already set writes nothing: after a disable that failed partway the flag is
still set, and the next enable reports `SUCCESS` over the disabled nodes
(`enableUsbData_after_failed_disable`).

`enableContaminantPresenceDetection` writes to `enabledPath`, which only
`queryMoistureDetectionStatus` sets: a call made before any status query writes to the empty
path, leaves the detection node alone and reports the outcome of that write
(`enableContaminantPresenceDetection_unset_path`).
-/

namespace UsbHal

theorem Usb.mem_notify {u : Usb} {n m : Notification} (h : m ∈ u.notify n) : m = n := by
  unfold Usb.notify at h
  split at h <;> simp_all

theorem thenQuery_env (sent : List Notification) (u : Usb) (env : Env) :
    (thenQuery sent u env).env = env := by
  unfold thenQuery
  split <;> rfl

theorem mem_thenQuery_sent {sent : List Notification} {u : Usb} {env : Env} {n : Notification}
    (h : n ∈ (thenQuery sent u env).sent) :
    n ∈ sent ∨ ∃ snapshot st, n = .portStatusChange snapshot st := by
  unfold thenQuery at h
  split at h
  · rcases List.mem_append.1 h with h | h
    · exact .inl h
    · exact .inr ⟨_, _, Usb.mem_notify h⟩
  · exact .inl h

/-- Without a cached client path and with the lookup failing, `limitPowerTransfer` returns
before it notifies: its caller never learns the outcome. -/
theorem limitPowerTransfer_no_client (u : Usb) (env : Env) (io : Io) (portName : String)
    (limit : Bool) (transactionId : Int) (hu : u.i2cClientPath = "") (he : env.i2cLookup = "") :
    (limitPowerTransfer u env io portName limit transactionId).sent = [] := by
  simp [limitPowerTransfer, Usb.lookupI2c, hu, he]

theorem limitPowerTransfer_no_client_registered :
    ({ Usb.init with callback := true } : Usb).i2cClientPath = "" ∧
      (Env.build (some [⟨"port0", true⟩]) (fun _ _ => none) (fun _ => none) "").i2cLookup = "" ∧
      (limitPowerTransfer { Usb.init with callback := true }
        (Env.build (some [⟨"port0", true⟩]) (fun _ _ => none) (fun _ => none) "")
        ⟨fun _ => true, true, 0, 0, none, true⟩ "port0" true 1).sent = [] :=
  ⟨rfl, rfl, limitPowerTransfer_no_client _ _ _ _ _ _ rfl rfl⟩

section Writes

variable {k : Consts} {io : Io}

theorem writeStep_true {n : Node} {v : String} {s : Env × Bool}
    (h : (writeStep io n v s).2 = true) : s.2 = true ∧ (writeStep io n v s).1 = s.1.write n v := by
  unfold writeStep at h ⊢
  split at h <;> simp_all

theorem pullupStep_off {env : Env} {pullup : String} (hp : env.read .pullup = some pullup)
    (h : (pullupStep k io false (env, true)).2 = true) :
    (∃ c, (pullupStep k io false (env, true)).1.read .pullup = some c ∧ trim c ≠ k.gadgetName) ∧
      ∀ n, n ≠ .pullup → (pullupStep k io false (env, true)).1.read n = env.read n := by
  simp only [pullupStep, hp, Bool.false_eq_true, ite_false] at h ⊢
  split_ifs at h ⊢ with hg
  · rw [(writeStep_true h).2]
    refine ⟨⟨"none", by simp, ?_⟩, fun n hn => Env.write_read_ne _ _ hn⟩
    have : trim "none" = "none" := by decide
    rw [this]
    exact k.gadgetName_ne_none.symm
  · exact ⟨⟨pullup, hp, hg⟩, fun _ _ => rfl⟩

theorem pullupStep_on {env : Env} {pullup : String} (hp : env.read .pullup = some pullup)
    (h : (pullupStep k io true (env, true)).2 = true) :
    ∃ c, (pullupStep k io true (env, true)).1.read .pullup = some c ∧ trim c = k.gadgetName := by
  simp only [pullupStep, hp, ite_true] at h ⊢
  split_ifs at h ⊢ with hg
  · rw [(writeStep_true h).2]
    exact ⟨k.gadgetName, by simp, k.gadgetName_trim⟩
  · exact ⟨pullup, hp, not_not.1 hg⟩

end Writes

def DataOn (k : Consts) (env : Env) : Prop :=
  env.read .usbData = some "1" ∧ ∃ c, env.read .pullup = some c ∧ trim c = k.gadgetName

/-- The nodes hold the disabled configuration: gadget pulled down, host mode off, no VBUS,
connection notifications off. -/
def DataOff (k : Consts) (env : Env) : Prop :=
  (∃ c, env.read .pullup = some c ∧ trim c ≠ k.gadgetName) ∧ env.read .id = some "1" ∧
    env.read .vbus = some "0" ∧ env.read .usbData = some "0"

theorem enableUsbDataWrites_off {k : Consts} {io : Io} {flag : Bool} {env : Env}
    (hp : (env.read .pullup).isSome) (h : (enableUsbDataWrites k io flag false env).2 = true) :
    DataOff k (enableUsbDataWrites k io flag false env).1 := by
  obtain ⟨pullup, hpu⟩ := Option.isSome_iff_exists.1 hp
  simp only [enableUsbDataWrites, Bool.false_eq_true, ite_false] at h ⊢
  obtain ⟨h3, e4⟩ := writeStep_true h
  obtain ⟨h2, e3⟩ := writeStep_true h3
  obtain ⟨h1, e2⟩ := writeStep_true h2
  obtain ⟨⟨c, hc, hcg⟩, hother⟩ := pullupStep_off hpu h1
  refine ⟨⟨c, ?_, hcg⟩, ?_, ?_, ?_⟩ <;> simp [e4, e3, e2, hc, hother]

theorem enableUsbDataWrites_on {k : Consts} {io : Io} {env : Env}
    (hp : (env.read .pullup).isSome) (h : (enableUsbDataWrites k io false true env).2 = true) :
    DataOn k (enableUsbDataWrites k io false true env).1 := by
  obtain ⟨pullup, hpu⟩ := Option.isSome_iff_exists.1 hp
  simp only [enableUsbDataWrites, ite_true, Bool.false_eq_true, ite_false] at h ⊢
  obtain ⟨h1, e2⟩ := writeStep_true h
  obtain ⟨c, hc, hcg⟩ := pullupStep_on hpu h1
  exact ⟨by simp [e2], c, by simp [e2, hc], hcg⟩

theorem enableUsbData_status {k : Consts} {u : Usb} {env : Env} {io : Io} {p : String}
    {e : Bool} {t : Int} {st : Status}
    (h : .enableUsbDataStatus p e st t ∈ (enableUsbData k u env io p e t).sent) :
    st = .ofBool (enableUsbDataWrites k io u.usbDataEnabled e env).2 ∧
      (enableUsbData k u env io p e t).env = (enableUsbDataWrites k io u.usbDataEnabled e env).1 := by
  unfold enableUsbData at h ⊢
  rcases hw : enableUsbDataWrites k io u.usbDataEnabled e env with ⟨env', r⟩
  simp only [hw] at h ⊢
  refine ⟨?_, thenQuery_env _ _ _⟩
  rcases mem_thenQuery_sent h with h | ⟨_, _, h⟩
  · simpa using (Usb.mem_notify h)
  · cases h

def enabledNodes : Env :=
  Env.build (some [⟨"port0", true⟩]) (fun _ _ => none)
    (fun n => if n = .pullup then some "11210000.dwc3" else if n = .usbData then some "1" else none) ""

/-- An `enableUsbData` that reports `SUCCESS` leaves the nodes disabled after a disable, and
enabled after an enable that found `mUsbDataEnabled` clear; an enable that found it set writes
nothing. -/
theorem enableUsbData_success_nodes {k : Consts} {u : Usb} {env : Env} {io : Io} {p : String}
    {e : Bool} {t : Int} (hp : (env.read .pullup).isSome)
    (h : .enableUsbDataStatus p e .success t ∈ (enableUsbData k u env io p e t).sent) :
    (e = false → DataOff k (enableUsbData k u env io p e t).env) ∧
      (e = true → u.usbDataEnabled = false → DataOn k (enableUsbData k u env io p e t).env) ∧
      (e = true → u.usbDataEnabled = true → (enableUsbData k u env io p e t).env = env) := by
  obtain ⟨hs, he⟩ := enableUsbData_status h
  rw [he]
  have hr : (enableUsbDataWrites k io u.usbDataEnabled e env).2 = true := by
    revert hs
    cases (enableUsbDataWrites k io u.usbDataEnabled e env).2 <;> simp [Status.ofBool]
  refine ⟨?_, ?_, ?_⟩
  · rintro rfl
    exact enableUsbDataWrites_off hp hr
  · rintro rfl hf
    rw [hf] at hr ⊢
    exact enableUsbDataWrites_on hp hr
  · rintro rfl hf
    simp [enableUsbDataWrites, hf]

theorem enableUsbData_success_nodes_disable :
    (enabledNodes.read .pullup).isSome ∧
      .enableUsbDataStatus "port0" false .success 1 ∈ (enableUsbData udcConsts
        { Usb.init with callback := true } enabledNodes ⟨fun _ => true, true, 0, 0, none, true⟩
        "port0" false 1).sent ∧
      DataOff udcConsts (enableUsbData udcConsts { Usb.init with callback := true } enabledNodes
        ⟨fun _ => true, true, 0, 0, none, true⟩ "port0" false 1).env :=
  ⟨by decide, by decide, (enableUsbData_success_nodes (by decide) (by decide)).1 rfl⟩

def failedDisable : Reply :=
  enableUsbData udcConsts { Usb.init with callback := true } enabledNodes
    ⟨fun n => n ≠ .id, true, 0, 0, none, true⟩ "port0" false 1

/-- The disable pulls the gadget down and turns the notifications off but, having failed, keeps
`mUsbDataEnabled` set; the enable after it then writes nothing and reports `SUCCESS` while
`USB_DATA_PATH` holds `0`. -/
theorem enableUsbData_after_failed_disable :
    .enableUsbDataStatus "port0" false .error 1 ∈ failedDisable.sent ∧
      failedDisable.next = .ok { Usb.init with callback := true } ∧
      .enableUsbDataStatus "port0" true .success 2 ∈
        (enableUsbData udcConsts { Usb.init with callback := true } failedDisable.env
          ⟨fun _ => true, true, 0, 0, none, true⟩ "port0" true 2).sent ∧
      (enableUsbData udcConsts { Usb.init with callback := true } failedDisable.env
          ⟨fun _ => true, true, 0, 0, none, true⟩ "port0" true 2).env.read .usbData = some "0" := by
  decide

/-- With `enabledPath` still unset, the call's write goes to the empty path: the client's
`contaminant_detection` node keeps its content, and the only status the call notifies is that of
the write to `""`. -/
theorem enableContaminantPresenceDetection_unset_path {u : Usb} {env : Env} {io : Io} {p : String}
    {e : Bool} {t : Int} (hu : u.enabledPath = .empty) (hd : env.contaminantDisable ≠ "true") :
    (∀ c, (enableContaminantPresenceDetection u env io p e t).env.read
        (.i2c c "contaminant_detection") = env.read (.i2c c "contaminant_detection")) ∧
      (∀ n ∈ (enableContaminantPresenceDetection u env io p e t).sent,
        n = .contaminantEnabledStatus p e (.ofBool (io.write .empty)) t ∨
          ∃ snapshot st, n = .portStatusChange snapshot st) ∧
      (u.callback = true → .contaminantEnabledStatus p e (.ofBool (io.write .empty)) t ∈
        (enableContaminantPresenceDetection u env io p e t).sent) := by
  simp only [enableContaminantPresenceDetection, hu, if_pos hd, writeNode]
  cases hw : io.write .empty
  all_goals
    refine ⟨fun c => by simp [thenQuery_env], fun n hn => ?_, fun hc => ?_⟩
    · exact (mem_thenQuery_sent hn).imp_left Usb.mem_notify
    · unfold thenQuery
      split <;> simp [Usb.notify, hc]

def tcpcClient : Env :=
  Env.build (some [⟨"port0", true⟩]) (fun _ _ => none) (fun _ => none) "tcpc"

def emptyPathFails : Io := ⟨fun n => n ≠ .empty, true, 0, 0, none, true⟩

theorem enableContaminantPresenceDetection_first_call :
    ({ Usb.init with callback := true } : Usb).enabledPath = .empty ∧
      tcpcClient.contaminantDisable ≠ "true" ∧
      ((∀ c, (enableContaminantPresenceDetection { Usb.init with callback := true } tcpcClient
          emptyPathFails "port0" true 1).env.read (.i2c c "contaminant_detection") =
          tcpcClient.read (.i2c c "contaminant_detection")) ∧
        (∀ n ∈ (enableContaminantPresenceDetection { Usb.init with callback := true } tcpcClient
          emptyPathFails "port0" true 1).sent,
          n = .contaminantEnabledStatus "port0" true (.ofBool (emptyPathFails.write .empty)) 1 ∨
            ∃ snapshot st, n = .portStatusChange snapshot st) ∧
        (({ Usb.init with callback := true } : Usb).callback = true →
          .contaminantEnabledStatus "port0" true (.ofBool (emptyPathFails.write .empty)) 1 ∈
            (enableContaminantPresenceDetection { Usb.init with callback := true } tcpcClient
              emptyPathFails "port0" true 1).sent)) ∧
      Status.ofBool (emptyPathFails.write .empty) = .error :=
  ⟨rfl, by decide, enableContaminantPresenceDetection_unset_path rfl (by decide), by decide⟩

end UsbHal
