import UsbHal.Sysfs

/-!
# The status snapshot

`queryVersionHelper` runs, under `mLock`, `getPortStatusHelper` and then the four merges
`queryMoistureDetectionStatus`, `queryPowerTransferStatus`, `queryNonCompliantChargerStatus` and
`queryUsbDataSession`. Each is a function of the `Env` and of the service's members, with the
faults of the code: the merges index entry `0` of the status vector, the data-status block runs
`stoi` on `pogo_usb_active`, and the loop reads each role back with `get` under its tag.

The loop of `getPortStatusHelper` is `fillPorts`: the vector that `resize` made, filled in the
map's iteration order up to the first `goto done`, whose pass leaves what it set so far.
-/

namespace UsbHal

/-- The `std::unordered_map<string, bool>` of `getTypeCPortNamesHelper`, as its entries in
the order they were inserted. -/
abbrev PortMap := List (String × Bool)

namespace PortMap

/-- `names->insert({key, false})` after `find` missed; a present key is left alone. -/
def insertNew (m : PortMap) (key : String) : PortMap :=
  if m.any (·.1 = key) then m else m ++ [(key, false)]

/-- `(*names)[key] = true`, which inserts the key when it is missing. -/
def setConnected (m : PortMap) (key : String) : PortMap :=
  if m.any (·.1 = key) then m.map fun e => if e.1 = key then (key, true) else e
  else m ++ [(key, true)]

end PortMap

/-- One `readdir` entry: a link without `-partner` names a port, a link with it marks the
port named by its first `-`-separated token connected. -/
def addTypeCEntry (names : PortMap) (ep : Dirent) : PortMap :=
  if ep.isLink then
    if hasInfix ep.name "-partner" then names.setConnected (strtokDash ep.name)
    else names.insertNew ep.name
  else names

def getTypeCPortNamesHelper (env : Env) : Status × PortMap :=
  match env.typec with
  | some ents => (.success, ents.foldl addTypeCEntry [])
  | none => (.error, [])

/-- `getAccessoryConnected`: the trimmed `accessory_mode` of the port's partner. -/
def getAccessoryConnected (env : Env) (portName : String) : Option String :=
  (env.typecRead (portName ++ "-partner") "accessory_mode").map trim

/-- The node `getCurrentRoleHelper` reads for a role of this tag. -/
def roleFile : PortRole → String
  | .powerRole _ => "power_role"
  | .dataRole _ => "data_role"
  | .mode _ => "data_role"

/-- The `NONE` value `getCurrentRoleHelper` first stores under the role's tag. -/
def roleNone : PortRole → PortRole
  | .powerRole _ => .powerRole .none
  | .dataRole _ => .dataRole .none
  | .mode _ => .mode .none

/-- The comparison chain of `getCurrentRoleHelper` on the extracted `roleName`, from the role
`role` it holds so far. `source` and `sink` set a power role whatever the tag was. -/
def parseRole (role : PortRole) (roleName : String) : Status × PortRole :=
  if roleName = "source" then (.success, .powerRole .source)
  else if roleName = "sink" then (.success, .powerRole .sink)
  else if roleName = "host" then
    (.success, if role.getTag = .dataRole then .dataRole .host else .mode .dfp)
  else if roleName = "device" then
    (.success, if role.getTag = .dataRole then .dataRole .device else .mode .ufp)
  else if roleName ≠ "none" then (.unrecognizedRole, role)
  else (.success, role)

/-- The read of the role node, trimmed and passed through `extractRole`. -/
def readRoleNode (env : Env) (portName : String) (role : PortRole) : Status × PortRole :=
  match env.typecRead portName (roleFile role) with
  | some roleName => parseRole role (extractRole (trim roleName))
  | none => (.error, role)

/-- `getCurrentRoleHelper(portName, connected, &currentRole)`: the status and the role it
leaves. A mode query first looks at the partner's accessory mode. -/
def getCurrentRoleHelper (env : Env) (portName : String) (connected : Bool)
    (currentRole : PortRole) : Status × PortRole :=
  let role := roleNone currentRole
  if !connected then (.success, role)
  else match role with
    | .mode _ =>
      match getAccessoryConnected env portName with
      | none => (.error, role)
      | some accessory =>
        if accessory = "analog_audio" then (.success, .mode .audioAccessory)
        else if accessory = "debug" then (.success, .mode .debugAccessory)
        else readRoleNode env portName role
    | _ => readRoleNode env portName role

def canSwitchRoleHelper (env : Env) (portName : String) : Bool :=
  match env.typecRead (portName ++ "-partner") "supports_usb_power_delivery" with
  | some supportsPD => trim supportsPD = "yes"
  | none => false

/-- A role query of the loop: the field `get` reads after `SUCCESS`, or `none` at the
`goto done` any other status takes. -/
def queryRole {α : Type} (env : Env) (port : String × Bool) (role : PortRole)
    (get : PortRole → Except Fault α) : Except Fault (Option α) :=
  match getCurrentRoleHelper env port.1 port.2 role with
  | (.success, r) => (get r).map some
  | _ => .ok none

/-- The capability block of the loop. -/
def setCapabilities (env : Env) (port : String × Bool) (ps : PortStatus) : PortStatus :=
  { ps with
    canChangeMode := true
    canChangeDataRole := if port.2 then canSwitchRoleHelper env port.1 else false
    canChangePowerRole := if port.2 then canSwitchRoleHelper env port.1 else false
    supportedModes := ps.supportedModes ++ [.drp] }

/-- `ReadFileToString(kPogoUsbActive) && stoi(Trim(pogoUsbActive)) == 1`. -/
def pogoUsbActive (env : Env) : Except Fault Bool :=
  match env.read .pogoUsbActive with
  | some c => (stoi (trim c)).map (· == 1)
  | none => .ok false

/-- The `usbDataStatus` block: docked, forced off, or enabled. -/
def setUsbDataStatus (env : Env) (usbDataEnabled : Bool) (ps : PortStatus) :
    Except Fault PortStatus :=
  (pogoUsbActive env).map fun docked =>
    { ps with
      usbDataStatus := ps.usbDataStatus
        ++ (if docked then [.disabledDockDeviceMode] else [])
        ++ (if usbDataEnabled then [] else [.disabledForce])
        ++ (if !docked && usbDataEnabled then [.enabled] else []) }

/-- The `powerBrickStatus` block; an unreadable `usb_type` leaves the field as it was. -/
def setPowerBrickStatus (env : Env) (port : String × Bool) (ps : PortStatus) : PortStatus :=
  if port.2 then
    if ps.currentPowerRole = .source then { ps with powerBrickStatus := .notConnected }
    else match env.read .powerSupplyUsbType with
      | some usbType =>
        { ps with powerBrickStatus :=
            if strstr usbType "[D" then .connected
            else if strstr usbType "[U" then .unknown
            else .notConnected }
      | none => ps
  else { ps with powerBrickStatus := .notConnected }

/-- How one pass of the loop ends: with the entry complete, or at `goto done` with what the
pass had set. -/
inductive PortFill
  | built (ps : PortStatus)
  | done (ps : PortStatus)
  deriving DecidableEq, Repr

/-- One pass of the loop of `getPortStatusHelper`, on a fresh entry. -/
def fillPort (env : Env) (usbDataEnabled : Bool) (port : String × Bool) :
    Except Fault PortFill := do
  let ps : PortStatus := { portName := port.1 }
  let some pr ← queryRole env port (.powerRole .none) PortRole.getPowerRole
    | pure (.done ps)
  let ps := { ps with currentPowerRole := pr }
  let some dr ← queryRole env port (.dataRole .none) PortRole.getDataRole
    | pure (.done ps)
  let ps := { ps with currentDataRole := dr }
  let some m ← queryRole env port (.mode .none) PortRole.getMode
    | pure (.done ps)
  let ps ← setUsbDataStatus env usbDataEnabled (setCapabilities env port { ps with currentMode := m })
  pure (.built (setPowerBrickStatus env port ps))

/-- The loop: the entries of the ports in order, and after a `goto done` the default entries
`resize` left. -/
def fillPorts (env : Env) (usbDataEnabled : Bool) :
    List (String × Bool) → Except Fault (Status × List PortStatus)
  | [] => pure (.success, [])
  | port :: rest => do
    match ← fillPort env usbDataEnabled port with
    | .built ps =>
      let (st, v) ← fillPorts env usbDataEnabled rest
      pure (st, ps :: v)
    | .done ps => pure (.error, ps :: rest.map fun _ => {})

/-- `getPortStatusHelper` into a fresh vector: left empty when the listing fails. -/
def getPortStatusHelper (env : Env) (usbDataEnabled : Bool) :
    Except Fault (Status × List PortStatus) :=
  match getTypeCPortNamesHelper env with
  | (.success, names) => fillPorts env usbDataEnabled (env.iterate names)
  | _ => pure (.error, [])

/-- The members of `Usb`, and the global `enabledPath`, that the operations read and write. -/
structure Usb where
  callback : Bool
  usbDataEnabled : Bool
  i2cClientPath : String
  enabledPath : Node
  deriving DecidableEq, Repr

/-- The state the constructor leaves. -/
def Usb.init : Usb := ⟨false, true, "", .empty⟩

/-- The memoized lookup of `mI2cClientPath`, made while it is still empty. -/
def Usb.lookupI2c (u : Usb) (env : Env) : Usb :=
  if u.i2cClientPath = "" then { u with i2cClientPath := env.i2cLookup } else u

/-- A write to `(*currentPortStatus)[0]`: undefined on an empty vector. -/
def modifyFront (v : List PortStatus) (f : PortStatus → PortStatus) :
    Except Fault (List PortStatus) :=
  match v with
  | [] => .error .outOfBounds
  | ps :: rest => .ok (f ps :: rest)

/-- The contaminant fields entry `0` gets before the i2c lookup. -/
def contaminantDefaults (ps : PortStatus) : PortStatus :=
  { ps with
    supportedContaminantProtectionModes := ps.supportedContaminantProtectionModes ++ [.forceDisable]
    contaminantProtectionStatus := .none
    contaminantDetectionStatus := .disabled
    supportsEnableContaminantPresenceDetection := true
    supportsEnableContaminantPresenceProtection := false }

/-- The detection result `contaminant_detection_status` gives entry `0`. -/
def contaminantDetected (status : String) (ps : PortStatus) : PortStatus :=
  if trim status = "1" then
    { ps with contaminantDetectionStatus := .detected, contaminantProtectionStatus := .forceDisable }
  else { ps with contaminantDetectionStatus := .notDetected }

def queryMoistureDetectionStatus (u : Usb) (env : Env) (v : List PortStatus) :
    Except Fault (Status × Usb × List PortStatus) :=
  (modifyFront v contaminantDefaults).bind fun v =>
    let u := u.lookupI2c env
    if u.i2cClientPath = "" then .ok (.error, u, v)
    else
      let u := { u with enabledPath := .i2c u.i2cClientPath "contaminant_detection" }
      match env.read u.enabledPath with
      | none => .ok (.error, u, v)
      | some enabled =>
        if trim enabled = "1" then
          match env.read (.i2c u.i2cClientPath "contaminant_detection_status") with
          | none => .ok (.error, u, v)
          | some status =>
            (modifyFront v (contaminantDetected status)).map fun v => (.success, u, v)
        else .ok (.success, u, v)

def queryPowerTransferStatus (u : Usb) (env : Env) (v : List PortStatus) :
    Except Fault (Status × Usb × List PortStatus) :=
  let u := u.lookupI2c env
  if u.i2cClientPath = "" then .ok (.error, u, v)
  else
    match env.read (.i2c u.i2cClientPath "usb_limit_sink_enable") with
    | none => .ok (.error, u, v)
    | some enabled =>
      (modifyFront v fun ps => { ps with powerTransferLimited := trim enabled = "1" }).map
        fun v => (.success, u, v)

/-- The warning a token of `non_compliant_reasons` gives, by the prefix tests in order. -/
def reasonWarning (env : Env) (reason : String) : Option ComplianceWarning :=
  if startsWithKey reason "debug-accessory" then some .debugAccessory
  else if startsWithKey reason "bc12" then some .bc12
  else if startsWithKey reason "missing_rp" then some .missingRp
  else if startsWithKey reason "other" || startsWithKey reason "input_power_limited" then
    some (if env.enableUsbDataComplianceWarning && env.enableInputPowerLimitedWarning
      then .inputPowerLimited else .other)
  else none

/-- The warnings of a `non_compliant_reasons` file: `reasons.c_str()` ends at the first NUL,
and the delimiter literal `"[], \n\0"` ends at its own. -/
def reasonsWarnings (env : Env) (reasons : String) : List ComplianceWarning :=
  (tokenize ⟨reasons.data.takeWhile (· ≠ '\x00')⟩ "[], \n").filterMap (reasonWarning env)

/-- One pass of `queryNonCompliantChargerStatus`: the warnings, then the charger-only
attachment a port with warnings and no power role is given. -/
def mergeComplianceWarnings (env : Env) (ps : PortStatus) : PortStatus :=
  let ps := { ps with supportsComplianceWarnings := true }
  match env.typecRead ps.portName "device/non_compliant_reasons" with
  | some reasons =>
    let ps := { ps with complianceWarnings := ps.complianceWarnings ++ reasonsWarnings env reasons }
    if ps.complianceWarnings ≠ [] ∧ ps.currentPowerRole = .none then
      { ps with
        currentMode := .ufp
        currentPowerRole := .sink
        currentDataRole := .none
        powerBrickStatus := .connected }
    else ps
  | none => ps

def queryNonCompliantChargerStatus (env : Env) (v : List PortStatus) :
    Status × List PortStatus :=
  (.success, v.map (mergeComplianceWarnings env))

def queryUsbDataSession (env : Env) (v : List PortStatus) : Except Fault (List PortStatus) :=
  modifyFront v fun ps =>
    { ps with complianceWarnings := ps.complianceWarnings ++ env.sessionWarnings ps.currentDataRole }

/-- What `queryVersionHelper` computes: the service's next members, the snapshot it passes to
`notifyPortStatusChange`, and the status of the enumeration. -/
structure Query where
  usb : Usb
  snapshot : List PortStatus
  status : Status
  deriving DecidableEq, Repr

def queryVersionHelper (u : Usb) (env : Env) : Except Fault Query := do
  let (status, v) ← getPortStatusHelper env u.usbDataEnabled
  let (_, u, v) ← queryMoistureDetectionStatus u env v
  let (_, u, v) ← queryPowerTransferStatus u env v
  let (_, v) := queryNonCompliantChargerStatus env v
  let v ← queryUsbDataSession env v
  pure ⟨u, v, status⟩

/-- `report_overheat_event`: the three durations it reports, `none` when a node is unreadable. -/
def reportOverheatEvent (env : Env) : Except Fault (Option (Int × Int × Int)) := do
  let some trip := env.read (.overheat "trip_time") | pure none
  let tripTime ← stoi (trim trip)
  let some hysteresis := env.read (.overheat "hysteresis_time") | pure none
  let hysteresisTime ← stoi (trim hysteresis)
  let some cleared := env.read (.overheat "cleared_time") | pure none
  let clearedTime ← stoi (trim cleared)
  pure (some (tripTime, hysteresisTime, clearedTime))

end UsbHal
