import UsbHal.Status

/-!
# The operations, one call at a time

Each `Usb` method as one call that nothing runs against: the I/O outcomes it meets are an
`Io`, and the call gives a `Reply`: the notifications the callback received in order, the
nodes after its writes, and the members it returns with or the fault that ended the process in
the `queryVersionHelper` it runs last. `Machine` gives the same methods their interleavings.

`switchRole` is here with the outcome of `switchMode`'s wait as given (`Io.confirmed`): its
wait loop and the uevents that end it are steps of `Machine`.
-/

namespace UsbHal

/-- The AIDL callback's methods, as the service calls them. -/
inductive Notification
  | enableUsbDataStatus (portName : String) (enable : Bool) (status : Status) (transactionId : Int)
  | enableUsbDataWhileDockedStatus (portName : String) (status : Status) (transactionId : Int)
  | resetUsbPortStatus (portName : String) (status : Status) (transactionId : Int)
  | roleSwitchStatus (portName : String) (role : PortRole) (status : Status) (transactionId : Int)
  | limitPowerTransferStatus (portName : String) (limit : Bool) (status : Status)
      (transactionId : Int)
  | queryPortStatus (portName : String) (status : Status) (transactionId : Int)
  | contaminantEnabledStatus (portName : String) (enable : Bool) (status : Status)
      (transactionId : Int)
  | portStatusChange (snapshot : List PortStatus) (status : Status)
  deriving DecidableEq, Repr

/-- The transaction a per-operation notification answers; `none` for a status change. -/
def Notification.transactionId? : Notification → Option Int
  | enableUsbDataStatus _ _ _ t | enableUsbDataWhileDockedStatus _ _ t | resetUsbPortStatus _ _ t
  | roleSwitchStatus _ _ _ t | limitPowerTransferStatus _ _ _ t | queryPortStatus _ _ t
  | contaminantEnabledStatus _ _ _ t => some t
  | portStatusChange _ _ => none

/-- How the I/O calls of one operation turn out. -/
structure Io where
  /-- `WriteStringToFile` to each node. -/
  write : Node → Bool
  /-- `open` of `move_data_to_usb`, or `fopen` of the role node. -/
  opens : Bool
  /-- What `fputs` returns, and what it returns when retried after `EAGAIN`. -/
  fputs : Int
  fputsRetry : Int
  /-- The read-back of the role node after the write. -/
  readBack : Option String
  /-- `switchMode`'s wait ended on a wake that saw `mPartnerUp` (else it timed out). -/
  confirmed : Bool

def eof : Int := -1
def eagain : Int := 11

/-- A call's outcome: what it delivered, the nodes after its writes, and the members it
returned with, or the fault that ended the process. -/
structure Reply where
  sent : List Notification
  env : Env
  next : Except Fault Usb

/-- The notification `mCallback` receives, if it is set. -/
def Usb.notify (u : Usb) (n : Notification) : List Notification :=
  if u.callback then [n] else []

/-- A `WriteStringToFile(v, n)`: the nodes after it and whether it succeeded. -/
def writeNode (io : Io) (env : Env) (n : Node) (v : String) : Env × Bool :=
  if io.write n then (env.write n v, true) else (env, false)

def Status.ofBool (ok : Bool) : Status := if ok then .success else .error

/-- The call ends after `sent` with `queryVersionHelper`. -/
def thenQuery (sent : List Notification) (u : Usb) (env : Env) : Reply :=
  match queryVersionHelper u env with
  | .ok q => ⟨sent ++ q.usb.notify (.portStatusChange q.snapshot q.status), env, .ok q.usb⟩
  | .error f => ⟨sent, env, .error f⟩

/-- A `WriteStringToFile(v, n)` in a run of writes that clears `result` when it fails. -/
def writeStep (io : Io) (n : Node) (v : String) (s : Env × Bool) : Env × Bool :=
  if io.write n then (s.1.write n v, s.2) else (s.1, false)

/-- The pull-up block of `enableUsbData`: pull the gadget up (`enable`) or down, unless the
trimmed node already says so; nothing when the node cannot be read. -/
def pullupStep (k : Consts) (io : Io) (enable : Bool) (s : Env × Bool) : Env × Bool :=
  match s.1.read .pullup with
  | some pullup =>
    if enable then
      if trim pullup ≠ k.gadgetName then writeStep io .pullup k.gadgetName s else s
    else if trim pullup = k.gadgetName then writeStep io .pullup "none" s else s
  | none => s

/-- The writes of `enableUsbData` and its `result`. -/
def enableUsbDataWrites (k : Consts) (io : Io) (usbDataEnabled enable : Bool) (env : Env) :
    Env × Bool :=
  if enable then
    if usbDataEnabled then (env, true)
    else writeStep io .usbData "1" (pullupStep k io true (env, true))
  else
    writeStep io .usbData "0" <| writeStep io .vbus "0" <| writeStep io .id "1" <|
      pullupStep k io false (env, true)

def enableUsbData (k : Consts) (u : Usb) (env : Env) (io : Io) (portName : String)
    (enable : Bool) (transactionId : Int) : Reply :=
  let (env, result) := enableUsbDataWrites k io u.usbDataEnabled enable env
  let u := if result then { u with usbDataEnabled := enable } else u
  thenQuery (u.notify (.enableUsbDataStatus portName enable (.ofBool result) transactionId)) u env

def enableUsbDataWhileDocked (u : Usb) (env : Env) (io : Io) (portName : String)
    (transactionId : Int) : Reply :=
  let (env, status) : Env × Status :=
    if io.opens then
      let (env, success) := writeNode io env .pogoMoveDataToUsb "1"
      (env, .ofBool success)
    else (env, .notSupported)
  thenQuery (u.notify (.enableUsbDataWhileDockedStatus portName status transactionId)) u env

def resetUsbPort (u : Usb) (env : Env) (io : Io) (portName : String) (transactionId : Int) :
    Reply :=
  let (env, result) := writeNode io env .pullup "none"
  ⟨u.notify (.resetUsbPortStatus portName (.ofBool result) transactionId), env, .ok u⟩

/-- `convertRoletoString`. -/
def convertRoletoString : PortRole → String
  | .powerRole .source => "source"
  | .powerRole .sink => "sink"
  | .dataRole .host => "host"
  | .dataRole .device => "device"
  | .mode .ufp => "sink"
  | .mode .dfp => "source"
  | _ => "none"

/-- `switchRole` for a power or data role: the write, retried once on `EAGAIN`, and the
read-back compared with the requested role. -/
def roleWriteConfirmed (io : Io) (role : PortRole) : Bool :=
  let ret := if io.fputs = eagain then io.fputsRetry else io.fputs
  io.opens && ret ≠ eof &&
    match io.readBack with
    | some written => extractRole (trim written) = convertRoletoString role
    | none => false

/-- `switchMode` as its caller sees it: the `port_type` write and then a wake that saw the
partner; `switchToDrp` on failure leaves nothing the caller reads. -/
def modeSwitched (io : Io) : Bool :=
  io.opens && io.fputs ≠ eof && io.confirmed

/-- `switchRole`; `appendRoleNodeHelper` names a node for each of the three tags, so the
early return on `""` is never taken. -/
def switchRole (u : Usb) (env : Env) (io : Io) (portName : String) (role : PortRole)
    (transactionId : Int) : Reply :=
  let roleSwitch := match role with
    | .mode _ => modeSwitched io
    | _ => roleWriteConfirmed io role
  ⟨u.notify (.roleSwitchStatus portName role (.ofBool roleSwitch) transactionId), env, .ok u⟩

def limitPowerTransfer (u : Usb) (env : Env) (io : Io) (portName : String) (limit : Bool)
    (transactionId : Int) : Reply :=
  let u := u.lookupI2c env
  if u.i2cClientPath = "" then ⟨[], env, .ok u⟩
  else
    let c := u.i2cClientPath
    let (env, r1) := if limit then writeNode io env (.i2c c "usb_limit_sink_current") "0"
      else (env, true)
    let (env, r2) := writeNode io env (.i2c c "usb_limit_sink_enable") (if limit then "1" else "0")
    let (env, r3) := writeNode io env (.i2c c "usb_limit_source_enable") (if limit then "1" else "0")
    let sent := if 0 ≤ transactionId then
      u.notify (.limitPowerTransferStatus portName limit (.ofBool (r1 && r2 && r3)) transactionId)
      else []
    thenQuery sent u env

def queryPortStatus (u : Usb) (env : Env) (transactionId : Int) : Reply :=
  match queryVersionHelper u env with
  | .ok q =>
    ⟨q.usb.notify (.portStatusChange q.snapshot q.status)
      ++ q.usb.notify (.queryPortStatus "all" .success transactionId), env, .ok q.usb⟩
  | .error f => ⟨[], env, .error f⟩

def enableContaminantPresenceDetection (u : Usb) (env : Env) (io : Io) (portName : String)
    (enable : Bool) (transactionId : Int) : Reply :=
  let (env, success) := if env.contaminantDisable ≠ "true" then
      writeNode io env u.enabledPath (if enable then "1" else "0")
    else (env, true)
  thenQuery (u.notify (.contaminantEnabledStatus portName enable (.ofBool success) transactionId))
    u env

end UsbHal
