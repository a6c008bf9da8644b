import UsbHal.Ops

/-!
# The service's threads

The calls that binder threads run (every method of `IUsb`) and the reactor thread `mPoll`
(`work` and `uevent_event`), as program counters over one shared state:
the holders of `mLock`, `mRoleSwitchLock` and `mPartnerLock`, `mPartnerUp` and the waiters on
`mPartnerCV`, the members of `Usb`, `destroyThread` and a pending `SIGUSR1`, the uevents queued
on the socket, `CLOCK_MONOTONIC` and the nodes. A step is one thread's next atomic action, or
the kernel's: queue a uevent, advance the clock, change the nodes.

Actions a thread takes under a mutex that no other thread can observe in between are one step
(taking `mPartnerLock` and clearing `mPartnerUp`; `pthread_cond_timedwait` releasing the mutex
and blocking). Each step that writes a role node, clears or sets `mPartnerUp`, writes a node or
the flag of `enableUsbData`, or delivers a notification, records it in `log`, newest first.
A fault in `queryVersionHelper` or `report_overheat_event` ends the process (`crashed`).
-/

namespace UsbHal

/-- A thread: the binder thread running the `i`-th call, or `mPoll`. -/
inductive Who
  | caller (i : Nat)
  | reactor
  deriving DecidableEq, Repr

/-- A uevent message: its NUL-terminated lines. -/
abbrev Msg := List String

/-- What a step did, for the statements about runs. -/
inductive Event
  | roleWrite (who : Who) (portName file value : String)
  | clear (i : Nat)
  | partnerUp (line : String)
  | emit (m : Msg)
  | notify (who : Who) (n : Notification)
  | nodeWrite (i : Nat) (n : Node) (v : String)
  | flagWrite (i : Nat) (v : Bool)
  deriving DecidableEq, Repr

def etimedout : Int := 110

/-- The file `appendRoleNodeHelper` names for a role's tag. -/
def roleNodeFile : PortRole → String
  | .powerRole _ => "power_role"
  | .dataRole _ => "data_role"
  | .mode _ => "port_type"

/-- Where a `switchRole` call is; from `dispatch` to `rsUnlock` it holds `mRoleSwitchLock`. -/
inductive SwitchPc
  | start
  | dispatch
  | roleWrite
  | roleRead (ret : Int)
  | partnerLocking
  | modeWrite
  | waitAgain
  | waiting (deadline : Nat)
  | woken (err : Int)
  | partnerUnlock (roleSwitch : Bool)
  | drp
  | notifyLocking (roleSwitch : Bool)
  | notified
  | rsUnlock
  | done
  deriving DecidableEq, Repr

/-- Where a `setCallback` call is; from `killing` to `unlocking` it holds `mLock`. -/
inductive SetterPc
  | start | killing | joining | creating | unlocking | done
  deriving DecidableEq, Repr

/-- Where an `enableUsbData` call is, with its `result` so far. -/
inductive DataPc
  | start
  | pullupRead (result : Bool)
  | pullupWrite (v : String) (result : Bool)
  | idWrite (result : Bool)
  | vbusWrite (result : Bool)
  | usbDataWrite (result : Bool)
  | flagWrite (result : Bool)
  deriving DecidableEq, Repr

/-- The end of a call: a notification under `mLock`, then maybe `queryVersionHelper`. -/
inductive Tail
  | notifyLocking (n : Notification) (query : Bool)
  | notified (query : Bool)
  | queryLocking
  | queried
  | done
  deriving DecidableEq, Repr

/-- Where a call of a method whose only mutex is `mLock` is, up to the end it shares with
`Tail`. -/
inductive MethodPc
  /-- `enableUsbDataWhileDocked`: the `open` of `move_data_to_usb`, then its write. -/
  | dockedOpen (portName : String) (transactionId : Int)
  | dockedWrite (portName : String) (transactionId : Int)
  /-- `resetUsbPort`: the pull-down of the gadget. -/
  | resetWrite (portName : String) (transactionId : Int)
  /-- `limitPowerTransfer`, outside any mutex: the check that `mI2cClientPath` is empty, the call
  of `getI2cClientPath`, the assignment of what it `found`, the check again, and the three paths
  built from one read of `mI2cClientPath`. Then `mLock`, the three writes under it with
  `sessionFail` so far, and the notification. -/
  | limitLookup (portName : String) (limit : Bool) (transactionId : Int)
  | limitFind (portName : String) (limit : Bool) (transactionId : Int)
  | limitAssign (portName : String) (limit : Bool) (transactionId : Int) (found : String)
  | limitRecheck (portName : String) (limit : Bool) (transactionId : Int)
  | limitPaths (portName : String) (limit : Bool) (transactionId : Int)
  | limitLocking (portName : String) (limit : Bool) (transactionId : Int) (client : String)
  | limitCurrent (portName : String) (limit : Bool) (transactionId : Int) (client : String)
  | limitSink (portName : String) (limit : Bool) (transactionId : Int) (client : String)
      (sessionFail : Bool)
  | limitSource (portName : String) (limit : Bool) (transactionId : Int) (client : String)
      (sessionFail : Bool)
  | limitNotify (portName : String) (limit : Bool) (transactionId : Int) (sessionFail : Bool)
  /-- `queryPortStatus`: `queryVersionHelper`, then its unlock. -/
  | portQuery (transactionId : Int)
  | portQueried (transactionId : Int)
  /-- `enableContaminantPresenceDetection`: the write of `enabledPath`. -/
  | contaminantWrite (portName : String) (enable : Bool) (transactionId : Int)
  deriving DecidableEq, Repr

inductive Caller
  | switchRole (portName : String) (role : PortRole) (transactionId : Int) (pc : SwitchPc)
  | setCallback (cb : Bool) (pc : SetterPc)
  | enableUsbData (portName : String) (enable : Bool) (transactionId : Int) (pc : DataPc)
  | method (pc : MethodPc)
  | tail (t : Tail)
  deriving DecidableEq, Repr

/-- Where `mPoll` is: `work`'s loop, the line scan of `uevent_event`, and its branches. -/
inductive ReactorPc
  | absent
  | start
  | top
  | polling
  | scan (lines : List String)
  | partnerLocking (line : String) (rest : List String)
  | partnerSignalled (rest : List String)
  | queryLocking
  | queryLocked (ports : List String)
  | trylock (ports : List String)
  | reconcile (ports : List String)
  | exited
  deriving DecidableEq, Repr

/-- `mPoll` exists and has not returned: `pthread_kill` reaches it. -/
def ReactorPc.running : ReactorPc → Bool
  | .absent | .exited => false
  | _ => true

/-- A call as it is made. -/
inductive Call
  | switchRole (portName : String) (role : PortRole) (transactionId : Int)
  | setCallback (cb : Bool)
  | enableUsbData (portName : String) (enable : Bool) (transactionId : Int)
  | enableUsbDataWhileDocked (portName : String) (transactionId : Int)
  | resetUsbPort (portName : String) (transactionId : Int)
  | limitPowerTransfer (portName : String) (limit : Bool) (transactionId : Int)
  | queryPortStatus (transactionId : Int)
  | enableContaminantPresenceDetection (portName : String) (enable : Bool) (transactionId : Int)
  deriving DecidableEq, Repr

def Call.start : Call → Caller
  | .switchRole p r t => .switchRole p r t .start
  | .setCallback cb => .setCallback cb .start
  | .enableUsbData p e t => .enableUsbData p e t .start
  | .enableUsbDataWhileDocked p t => .method (.dockedOpen p t)
  | .resetUsbPort p t => .method (.resetWrite p t)
  | .limitPowerTransfer p l t => .method (.limitLookup p l t)
  | .queryPortStatus t => .method (.portQuery t)
  | .enableContaminantPresenceDetection p e t => .method (.contaminantWrite p e t)

structure Sys where
  callers : List Caller
  reactor : ReactorPc
  lock : Option Who
  roleSwitchLock : Option Who
  partnerLock : Option Who
  partnerUp : Bool
  usb : Usb
  destroyThread : Bool
  sigPending : Bool
  queue : List Msg
  now : Nat
  env : Env
  crashed : Bool
  log : List Event

/-- The service after its constructor, in the nodes `env`, with the calls `calls` made. -/
def Sys.init (env : Env) (calls : List Call) : Sys where
  callers := calls.map Call.start
  reactor := .absent
  lock := none
  roleSwitchLock := none
  partnerLock := none
  partnerUp := false
  usb := Usb.init
  destroyThread := false
  sigPending := false
  queue := []
  now := 0
  env := env
  crashed := false
  log := []

/-- How the outside resolves a step: whether the I/O call succeeded (at a wait, whether the
wake is spurious), and what `fputs` returned, then again after `EAGAIN`. -/
structure Choice where
  ok : Bool
  ret : Int
  retry : Int
  deriving DecidableEq, Repr

inductive Act
  | caller (i : Nat) (c : Choice)
  | reactor (c : Choice)
  | signal
  | emit (m : Msg)
  | tick
  | kernel (env : Env)

namespace Sys

def setCaller (s : Sys) (i : Nat) (c : Caller) : Sys :=
  { s with callers := s.callers.set i c }

def record (s : Sys) (e : Event) : Sys :=
  { s with log := e :: s.log }

/-- A notification, delivered when a callback is set. -/
def deliver (s : Sys) (who : Who) (n : Notification) : Sys :=
  if s.usb.callback then s.record (.notify who n) else s

/-- `queryVersionHelper` by `who`: take `mLock`, compute, deliver; the snapshot's port names. -/
def query (s : Sys) (who : Who) : Option (Sys × List String) :=
  if s.lock = none then
    match queryVersionHelper s.usb s.env with
    | .ok q => some (({ s with lock := some who, usb := q.usb }).deliver who
        (.portStatusChange q.snapshot q.status), q.snapshot.map (·.portName))
    | .error _ => some ({ s with crashed := true }, [])
  else none

end Sys

/-- `opendir("/sys/class/typec/" + portName + "-partner")` succeeds. -/
def partnerListed (env : Env) (portName : String) : Bool :=
  match env.typec with
  | some ents => ents.contains ⟨portName ++ "-partner", true⟩
  | none => false

/-- `std::regex_match(line, std::regex("(add)(.*)(-partner)"))`: `.` matches no line end. -/
def isPartnerAdd (line : String) : Bool :=
  startsWithKey line "add" && "-partner".data.isSuffixOf line.data && 11 ≤ line.length
    && line.data.all fun c => c ≠ '\n' && c ≠ '\r'

/-- The prefixes that make `uevent_event` recompute the status. -/
def isStatusLine (line : String) : Bool :=
  startsWithKey line "DEVTYPE=typec_" || startsWithKey line "DRIVER=max77759tcpc"
    || startsWithKey line "DRIVER=pogo-transport" || startsWithKey line "POWER_SUPPLY_NAME=usb"

def isOverheatLine (line : String) : Bool :=
  startsWithKey line "DRIVER=google,usbc_port_cooling_dev"

/-- The bytes `uevent_kernel_multicast_recv` returns for a message: each line and its NUL. -/
def msgLength : Msg → Nat
  | [] => 0
  | l :: m => l.utf8ByteSize + 1 + msgLength m

/-- `pthread_cond_signal(&mPartnerCV)`: the waiter wakes with `0`. -/
def wakeWaiter : Caller → Caller
  | .switchRole p r t (.waiting _) => .switchRole p r t (.woken 0)
  | c => c

section Steps

variable (k : Consts) (s : Sys) (i : Nat)

/-- A step of the `i`-th call, a `switchRole(p, r, t)` at `pc`. -/
def switchStep (p : String) (r : PortRole) (t : Int) : SwitchPc → Choice → Option Sys
  | .start, _ =>
    if s.roleSwitchLock = none then
      some ({ s with roleSwitchLock := some (.caller i) }.setCaller i (.switchRole p r t .dispatch))
    else none
  | .dispatch, c =>
    some (s.setCaller i (.switchRole p r t <| match r with
      | .mode _ => if c.ok then .partnerLocking else .drp
      | _ => if c.ok then .roleWrite else .notifyLocking false))
  | .roleWrite, c =>
    some ((s.record (.roleWrite (.caller i) p (roleNodeFile r) (convertRoletoString r))).setCaller i
      (.switchRole p r t (.roleRead (if c.ret = eagain then c.retry else c.ret))))
  | .roleRead ret, _ =>
    let ok := ret ≠ eof && match s.env.typecRead p (roleNodeFile r) with
      | some written => extractRole (trim written) = convertRoletoString r
      | none => false
    some (s.setCaller i (.switchRole p r t (.notifyLocking ok)))
  | .partnerLocking, _ =>
    if s.partnerLock = none then
      some (({ s with partnerLock := some (.caller i), partnerUp := false }).record (.clear i)
        |>.setCaller i (.switchRole p r t .modeWrite))
    else none
  | .modeWrite, c =>
    some ((s.record (.roleWrite (.caller i) p "port_type" (convertRoletoString r))).setCaller i
      (.switchRole p r t (if c.ret ≠ eof then .waitAgain else .partnerUnlock false)))
  | .waitAgain, _ =>
    some ({ s with partnerLock := none }.setCaller i
      (.switchRole p r t (.waiting (s.now + k.portTypeTimeout))))
  | .waiting d, c =>
    if c.ok then some (s.setCaller i (.switchRole p r t (.woken 0)))
    else if d ≤ s.now then some (s.setCaller i (.switchRole p r t (.woken etimedout)))
    else none
  | .woken err, _ =>
    if s.partnerLock = none then
      some ({ s with partnerLock := some (.caller i) }.setCaller i (.switchRole p r t <|
        if err = etimedout then .partnerUnlock false
        else if s.partnerUp then .partnerUnlock true else .waitAgain))
    else none
  | .partnerUnlock rs, _ =>
    some ({ s with partnerLock := none }.setCaller i
      (.switchRole p r t (if rs then .notifyLocking true else .drp)))
  | .drp, c =>
    some ((if c.ok then s.record (.roleWrite (.caller i) p "port_type" "dual") else s).setCaller i
      (.switchRole p r t (.notifyLocking false)))
  | .notifyLocking rs, _ =>
    if s.lock = none then
      some (({ s with lock := some (.caller i) }).deliver (.caller i)
        (.roleSwitchStatus p r (.ofBool rs) t) |>.setCaller i (.switchRole p r t .notified))
    else none
  | .notified, _ => some ({ s with lock := none }.setCaller i (.switchRole p r t .rsUnlock))
  | .rsUnlock, _ => some ({ s with roleSwitchLock := none }.setCaller i (.switchRole p r t .done))
  | .done, _ => none

/-- A step of the `i`-th call, a `setCallback` with a callback (`cb`) or with null. -/
def setterStep (cb : Bool) : SetterPc → Choice → Option Sys
  | .start, _ =>
    if s.lock = none then
      some ({ s with lock := some (.caller i), usb := { s.usb with callback := cb } }.setCaller i
        (.setCallback cb (if s.usb.callback = cb then .unlocking else if cb then .creating
          else .killing)))
    else none
  | .killing, _ =>
    if s.reactor.running then
      some ({ s with sigPending := true }.setCaller i (.setCallback cb .joining))
    else some (s.setCaller i (.setCallback cb .unlocking))
  | .joining, _ =>
    if s.reactor = .exited then
      some ({ s with reactor := .absent }.setCaller i (.setCallback cb .unlocking))
    else none
  | .creating, c =>
    some ({ s with
      destroyThread := false
      reactor := if c.ok then .start else s.reactor
      usb := if c.ok then s.usb else { s.usb with callback := false } }.setCaller i
      (.setCallback cb .unlocking))
  | .unlocking, _ => some ({ s with lock := none }.setCaller i (.setCallback cb .done))
  | .done, _ => none

/-- The next write of `enableUsbData(p, e, t)` after the pull-up. -/
def afterPullup (e : Bool) (result : Bool) : DataPc :=
  if e then .usbDataWrite result else .idWrite result

/-- A `WriteStringToFile` by the `i`-th call, succeeding when `ok`. -/
def Sys.writeBy (ok : Bool) (n : Node) (v : String) : Sys :=
  if ok then { s with env := s.env.write n v }.record (.nodeWrite i n v) else s

/-- A step of the `i`-th call, an `enableUsbData(p, e, t)` at `pc`. -/
def dataStep (p : String) (e : Bool) (t : Int) : DataPc → Choice → Option Sys
  | .start, _ =>
    some (s.setCaller i (.enableUsbData p e t <|
      if e && s.usb.usbDataEnabled then .flagWrite true else .pullupRead true))
  | .pullupRead r, _ =>
    some (s.setCaller i (.enableUsbData p e t <| match s.env.read .pullup with
      | some pullup =>
        if e && trim pullup ≠ k.gadgetName then .pullupWrite k.gadgetName r
        else if !e && trim pullup = k.gadgetName then .pullupWrite "none" r
        else afterPullup e r
      | none => afterPullup e r))
  | .pullupWrite v r, c =>
    some ((s.writeBy i c.ok .pullup v).setCaller i (.enableUsbData p e t (afterPullup e (r && c.ok))))
  | .idWrite r, c =>
    some ((s.writeBy i c.ok .id "1").setCaller i (.enableUsbData p e t (.vbusWrite (r && c.ok))))
  | .vbusWrite r, c =>
    some ((s.writeBy i c.ok .vbus "0").setCaller i (.enableUsbData p e t (.usbDataWrite (r && c.ok))))
  | .usbDataWrite r, c =>
    some ((s.writeBy i c.ok .usbData (if e then "1" else "0")).setCaller i
      (.enableUsbData p e t (.flagWrite (r && c.ok))))
  | .flagWrite r, _ =>
    some ((if r then { s with usb := { s.usb with usbDataEnabled := e } }.record (.flagWrite i e)
      else s).setCaller i (.tail (.notifyLocking (.enableUsbDataStatus p e (.ofBool r) t) true)))

/-- A step of the `i`-th call at the end of a method. -/
def tailStep : Tail → Option Sys
  | .notifyLocking n q =>
    if s.lock = none then
      some (({ s with lock := some (.caller i) }).deliver (.caller i) n |>.setCaller i
        (.tail (.notified q)))
    else none
  | .notified q => some ({ s with lock := none }.setCaller i (.tail (if q then .queryLocking else .done)))
  | .queryLocking => (s.query (.caller i)).map fun (s', _) => s'.setCaller i (.tail .queried)
  | .queried => some ({ s with lock := none }.setCaller i (.tail .done))
  | .done => none

/-- What `limitPowerTransfer(p, l, t)` writes to the enables. -/
def limitValue (l : Bool) : String := if l then "1" else "0"

/-- A step of the `i`-th call in a method whose only mutex is `mLock`. -/
def methodStep : MethodPc → Choice → Option Sys
  | .dockedOpen p t, c =>
    some (s.setCaller i <| if c.ok then .method (.dockedWrite p t)
      else .tail (.notifyLocking (.enableUsbDataWhileDockedStatus p .notSupported t) true))
  | .dockedWrite p t, c =>
    some ((s.writeBy i c.ok .pogoMoveDataToUsb "1").setCaller i
      (.tail (.notifyLocking (.enableUsbDataWhileDockedStatus p (.ofBool c.ok) t) true)))
  | .resetWrite p t, c =>
    some ((s.writeBy i c.ok .pullup "none").setCaller i
      (.tail (.notifyLocking (.resetUsbPortStatus p (.ofBool c.ok) t) false)))
  | .limitLookup p l t, _ =>
    some (s.setCaller i (.method <| if s.usb.i2cClientPath = "" then .limitFind p l t
      else .limitPaths p l t))
  | .limitFind p l t, _ => some (s.setCaller i (.method (.limitAssign p l t s.env.i2cLookup)))
  | .limitAssign p l t found, _ =>
    some ({ s with usb := { s.usb with i2cClientPath := found } }.setCaller i
      (.method (.limitRecheck p l t)))
  | .limitRecheck p l t, _ =>
    some (s.setCaller i <| if s.usb.i2cClientPath = "" then .tail .done
      else .method (.limitPaths p l t))
  | .limitPaths p l t, _ => some (s.setCaller i (.method (.limitLocking p l t s.usb.i2cClientPath)))
  | .limitLocking p l t cl, _ =>
    if s.lock = none then
      some ({ s with lock := some (.caller i) }.setCaller i (.method (.limitCurrent p l t cl)))
    else none
  | .limitCurrent p l t cl, c =>
    some <| if l then
      (s.writeBy i c.ok (.i2c cl "usb_limit_sink_current") "0").setCaller i
        (.method (.limitSink p l t cl !c.ok))
    else s.setCaller i (.method (.limitSink p l t cl false))
  | .limitSink p l t cl f, c =>
    some ((s.writeBy i c.ok (.i2c cl "usb_limit_sink_enable") (limitValue l)).setCaller i
      (.method (.limitSource p l t cl (f || !c.ok))))
  | .limitSource p l t cl f, c =>
    some ((s.writeBy i c.ok (.i2c cl "usb_limit_source_enable") (limitValue l)).setCaller i
      (.method (.limitNotify p l t (f || !c.ok))))
  | .limitNotify p l t f, _ =>
    some ((if 0 ≤ t then s.deliver (.caller i) (.limitPowerTransferStatus p l (.ofBool !f) t)
      else s).setCaller i (.tail (.notified true)))
  | .portQuery t, _ =>
    (s.query (.caller i)).map fun (s', _) => s'.setCaller i (.method (.portQueried t))
  | .portQueried t, _ =>
    some ({ s with lock := none }.setCaller i
      (.tail (.notifyLocking (.queryPortStatus "all" .success t) false)))
  | .contaminantWrite p e t, c =>
    some <| if s.env.contaminantDisable ≠ "true" then
      (s.writeBy i c.ok s.usb.enabledPath (if e then "1" else "0")).setCaller i
        (.tail (.notifyLocking (.contaminantEnabledStatus p e (.ofBool c.ok) t) true))
    else s.setCaller i (.tail (.notifyLocking (.contaminantEnabledStatus p e .success t) true))

def callerStep : Caller → Choice → Option Sys
  | .switchRole p r t pc, c => switchStep k s i p r t pc c
  | .setCallback cb pc, c => setterStep s i cb pc c
  | .enableUsbData p e t pc, c => dataStep k s i p e t pc c
  | .method pc, c => methodStep s i pc c
  | .tail t, _ => tailStep s i t

/-- A step of `mPoll`. -/
def reactorStep (c : Choice) : Option Sys :=
  match s.reactor with
  | .absent | .exited => none
  | .start => some { s with reactor := if c.ok then .top else .exited }
  | .top => some { s with reactor := if s.destroyThread then .exited else .polling }
  | .polling =>
    match s.queue with
    | [] => none
    | m :: rest =>
      some { s with
        queue := rest
        reactor := if msgLength m = 0 ∨ k.ueventMsgLen ≤ msgLength m then .top else .scan m }
  | .scan [] => some { s with reactor := .top }
  | .scan (l :: rest) =>
    if l = "" then some { s with reactor := .top }
    else if isPartnerAdd l then some { s with reactor := .partnerLocking l rest }
    else if isStatusLine l then some { s with reactor := .queryLocking }
    else if isOverheatLine l then
      match reportOverheatEvent s.env with
      | .ok _ => some { s with reactor := .scan rest }
      | .error _ => some { s with crashed := true }
    else some { s with reactor := .scan rest }
  | .partnerLocking l rest =>
    if s.partnerLock = none then
      some ({ s with
        partnerLock := some .reactor
        partnerUp := true
        callers := s.callers.map wakeWaiter
        reactor := .partnerSignalled rest }.record (.partnerUp l))
    else none
  | .partnerSignalled rest => some { s with partnerLock := none, reactor := .scan rest }
  | .queryLocking =>
    (s.query .reactor).map fun (s', ports) => { s' with reactor := .queryLocked ports }
  | .queryLocked ports => some { s with lock := none, reactor := .trylock ports }
  | .trylock ports =>
    if s.roleSwitchLock = none then
      some { s with roleSwitchLock := some .reactor, reactor := .reconcile ports }
    else some { s with reactor := .top }
  | .reconcile [] => some { s with roleSwitchLock := none, reactor := .top }
  | .reconcile (p :: rest) =>
    some { (if !partnerListed s.env p && c.ok then s.record (.roleWrite .reactor p "port_type" "dual")
      else s) with reactor := .reconcile rest }

end Steps

def step (k : Consts) (s : Sys) : Act → Option Sys
  | .caller i c => if s.crashed then none else (s.callers[i]?).bind fun th => callerStep k s i th c
  | .reactor c => if s.crashed then none else reactorStep k s c
  | .signal =>
    if s.crashed || !s.sigPending then none
    else some { s with
      sigPending := false
      destroyThread := s.destroyThread || s.reactor.running
      reactor := if s.reactor = .polling then .top else s.reactor }
  | .emit m => if s.crashed then none else some { s.record (.emit m) with queue := s.queue ++ [m] }
  | .tick => if s.crashed then none else some { s with now := s.now + 1 }
  | .kernel env => if s.crashed then none else some { s with env := env }

/-- The states the service reaches from its constructor, in any nodes, with any calls made. -/
inductive Reachable (k : Consts) : Sys → Prop
  | init (env : Env) (calls : List Call) : Reachable k (Sys.init env calls)
  | step {s s' : Sys} (a : Act) : Reachable k s → step k s a = some s' → Reachable k s'

/-- The actions of a list, one after the other. -/
def run (k : Consts) : Sys → List Act → Option Sys
  | s, [] => some s
  | s, a :: as => (step k s a).bind (run k · as)

end UsbHal
