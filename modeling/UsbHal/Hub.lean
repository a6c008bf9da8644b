import UsbHal.Basic

/-!
# The internal hub of the pogo dock

When the pogo dock enables its hub, the host thread `mUsbHost` tunes the GL852G hub that is the
first device on bus 1: `usbHostWork` runs `usb_host_run`, whose `usbDeviceAdded` compares the
added device's id with `getInternalHubUniqueId` and has `tuneInternalHub` send the vendor
command with `mUsbHubVendorCmdValue` and `mUsbHubVendorCmdIndex`. `handleShellCommand`, on a
binder thread, sets the two members from `cmd ... hub-vendor-cmd VALUE INDEX`, each argument
read by `android::base::ParseInt`.

No mutex guards the two members: the shell command stores the value and then the index, and the
host thread loads the value and then the index. `Hub.step` makes each of those loads and stores
a step of its own; what a thread does between them touches only its own data.
-/

namespace UsbHal

/-! ## `ParseInt` -/

/-- The digit `strtoll` reads in a character: `0` to `9`, then the letters from 10 in either
case. -/
def digitValue (c : Char) : Option Nat :=
  if c.isDigit then some (c.toNat - '0'.toNat)
  else if c.isLower then some (c.toNat - 'a'.toNat + 10)
  else if c.isUpper then some (c.toNat - 'A'.toNat + 10)
  else none

/-- The digits in `base` after the value `n` read so far; `none` at a character that is not
one. -/
def digitsFrom (base n : Nat) : List Char → Option Nat
  | [] => some n
  | c :: cs =>
    match digitValue c with
    | some d => if d < base then digitsFrom base (base * n + d) cs else none
    | none => none

/-- `strtoll` when the whole text must be taken: at least one digit and nothing after them. -/
def wholeNumber (base : Nat) (ds : List Char) : Option Nat :=
  if ds = [] then none else digitsFrom base 0 ds

/-- `android::base::ParseInt<int>`: after leading white space, base 16 when the text starts with
`0x` or `0X` (which `strtoll` then skips) and base 10 with an optional sign otherwise; the
digits must reach the end, and the value must fit an `int`. -/
def parseInt (s : String) : Option Int :=
  let l := s.data.dropWhile isSpace
  let v : Option Int :=
    if l.take 2 = ['0', 'x'] ∨ l.take 2 = ['0', 'X'] then (wholeNumber 16 (l.drop 2)).map Int.ofNat
    else match l with
      | '-' :: ds => (wholeNumber 10 ds).map fun n => -(n : Int)
      | '+' :: ds => (wholeNumber 10 ds).map Int.ofNat
      | ds => (wholeNumber 10 ds).map Int.ofNat
  v.bind fun v => if v < -2147483648 ∨ 2147483647 < v then none else some v

/-! ## The shell command -/

/-- `AID_ROOT`. -/
def aidRoot : Nat := 0

/-- `AID_SHELL`. -/
def aidShell : Nat := 2000

/-- The `status_t` values `handleShellCommand` returns. -/
inductive StatusT
  | noError | permissionDenied | unknownError
  deriving DecidableEq, Repr

/-- What `handleShellCommand` returns, what it prints to `out`, and the `wValue` and `wIndex`
it stores. -/
structure ShellReply where
  status : StatusT
  out : String
  set : Option (Int × Int)
  deriving DecidableEq, Repr

/-- The text `handleShellCommand` prints for any other command. -/
def shellUsage : String :=
  "usage: adb shell cmd hub-vendor-cmd VALUE INDEX\n" ++
    "  VALUE wValue field in hex format, e.g. 0xf321\n" ++
    "  INDEX wIndex field in hex format, e.g. 0xf321\n" ++
    "  The settings take effect next time the hub is enabled\n"

/-- `Usb::handleShellCommand` for the calling uid and `argv`. -/
def handleShellCommand (uid : Nat) (argv : List String) : ShellReply :=
  if uid ≠ aidRoot ∧ uid ≠ aidShell then ⟨.permissionDenied, "", none⟩
  else match argv with
    | cmd :: args =>
      if cmd = "hub-vendor-cmd" then
        match args with
        | value :: index :: _ =>
          match parseInt value, parseInt index with
          | some v, some i => ⟨.noError, "", some (v, i)⟩
          | _, _ => ⟨.unknownError, "Fail to parse arguments\n", none⟩
        | _ => ⟨.unknownError, "Incorrect number of argument supplied\n", none⟩
      else ⟨.noError, shellUsage, none⟩
    | [] => ⟨.noError, shellUsage, none⟩

/-! ## Tuning the hub -/

/-- `GL852G_VENDOR_ID`. -/
def gl852gVendorId : Nat := 0x05e3

/-- `GL852G_PRODUCT_ID1`. -/
def gl852gProductId1 : Nat := 0x0608

/-- `GL852G_PRODUCT_ID2`. -/
def gl852gProductId2 : Nat := 0x0610

/-- `GL852G_VENDOR_CMD_REQ`. -/
def gl852gVendorCmdReq : Nat := 0xe3

/-- `GL852G_VENDOR_CMD_VALUE_DEFAULT`, the JK level of ports 1 and 2. -/
def gl852gVendorCmdValueDefault : Int := 0x0008

/-- `GL852G_VENDOR_CMD_INDEX_DEFAULT`. -/
def gl852gVendorCmdIndexDefault : Int := 0x0404

/-- `CTRL_TRANSFER_TIMEOUT_MSEC`. -/
def ctrlTransferTimeoutMsec : Nat := 1000

/-- A call of `usb_device_control_transfer` on the device opened at `devname`. -/
structure Transfer where
  devname : String
  requestType : Nat
  request : Nat
  value : Int
  index : Int
  length : Nat
  timeout : Nat
  deriving DecidableEq, Repr

/-- The transfer of `tuneInternalHub`: `USB_DIR_OUT | USB_TYPE_VENDOR` (`0x40`), the vendor
request, the loaded value and index, no data. -/
def vendorCmd (devname : String) (value index : Int) : Transfer :=
  ⟨devname, 0x40, gl852gVendorCmdReq, value, index, 0, ctrlTransferTimeoutMsec⟩

/-- What `usb_device_get_vendor_id` and `usb_device_get_product_id` read from an open device. -/
structure Descriptor where
  vendorId : Nat
  productId : Nat
  deriving DecidableEq, Repr

/-- The ids `tuneInternalHub` sends the vendor command to. -/
def Descriptor.isGl852g (d : Descriptor) : Bool :=
  d.vendorId == gl852gVendorId && (d.productId == gl852gProductId1 || d.productId == gl852gProductId2)

/-- A device `usb_host_run` reports added, with what `usbDeviceAdded` reads for it: the pogo
dock's `enable_hub`, the `devnum` of the device at `1-1`, the id
`usb_device_get_unique_id_from_name` gives its name, and its descriptor when `usb_device_open`
succeeds. -/
structure Added where
  devname : String
  pogoEnableHub : Option String
  internalHubDevnum : Option String
  uniqueId : Int
  device : Option Descriptor
  deriving DecidableEq, Repr

/-- `getInternalHubUniqueId`: `1000 + devnum` for the device at bus 1, port 1, or `-1` when its
`devnum` cannot be read or parsed. -/
def getInternalHubUniqueId (internalHubDevnum : Option String) : Int :=
  match internalHubDevnum with
  | some devnum =>
    match parseInt (trim devnum) with
    | some n => 1000 + n
    | none => -1
  | none => -1

/-- `tuneInternalHub` with the value and index it loaded: `ERROR` when the device does not open,
else `SUCCESS`, with the vendor command when the device is a GL852G. -/
def tuneInternalHub (devname : String) (device : Option Descriptor) (value index : Int) :
    Status × Option Transfer :=
  match device with
  | none => (.error, none)
  | some d => (.success, if d.isGl852g then some (vendorCmd devname value index) else none)

/-- `usbDeviceAdded` calls `tuneInternalHub`: `enable_hub` trims to `1` and the device's id is the
internal hub's. -/
def Added.tunes (ev : Added) : Bool :=
  ev.pogoEnableHub.map trim == some "1" && ev.uniqueId == getInternalHubUniqueId ev.internalHubDevnum

/-- `usbDeviceAdded`, with the members as `tuneInternalHub` loads them. -/
def usbDeviceAdded (ev : Added) (value index : Int) : Option Transfer :=
  if ev.tunes then (tuneInternalHub ev.devname ev.device value index).2 else none

/-! ## The threads -/

/-- The host thread: before `usb_host_init`, returned after it failed, waiting in
`usb_host_run`, or in `tuneInternalHub` for an added device with the value loaded. -/
inductive HostPc
  | init | stopped | idle
  | tuning (ev : Added) (value : Int)
  deriving DecidableEq, Repr

/-- The two members, the threads and the transfers sent. A shell thread that stored its value
holds `some index` until it stores the index and returns. -/
structure Hub where
  value : Int
  index : Int
  shells : List (Option Int)
  host : HostPc
  sent : List Transfer
  deriving DecidableEq, Repr

/-- What the constructor leaves: the defaults, and `usbHostWork` about to start. -/
def Hub.init : Hub :=
  ⟨gl852gVendorCmdValueDefault, gl852gVendorCmdIndexDefault, [], .init, []⟩

/-- A step: `usb_host_init`; `usbDeviceAdded` up to the load of the value; the load of the index
and the rest of `tuneInternalHub`; `handleShellCommand` up to the store of the value; the
`j`-th shell thread's store of the index. -/
inductive HubAct
  | hostStart (ok : Bool)
  | added (ev : Added)
  | tune
  | shell (uid : Nat) (argv : List String)
  | store (j : Nat)
  deriving DecidableEq, Repr

namespace Hub

/-- One step; `none` when the thread cannot take it. -/
def step (s : Hub) : HubAct → Option Hub
  | .hostStart ok =>
    match s.host with
    | .init => some { s with host := if ok then .idle else .stopped }
    | _ => none
  | .added ev =>
    match s.host with
    | .idle => some { s with host := if ev.tunes then .tuning ev s.value else .idle }
    | _ => none
  | .tune =>
    match s.host with
    | .tuning ev v =>
      some { s with
        host := .idle
        sent := s.sent ++ (tuneInternalHub ev.devname ev.device v s.index).2.toList }
    | _ => none
  | .shell uid argv =>
    match (handleShellCommand uid argv).set with
    | some (v, i) => some { s with value := v, shells := s.shells ++ [some i] }
    | none => some s
  | .store j =>
    match s.shells[j]? with
    | some (some i) => some { s with index := i, shells := s.shells.set j none }
    | _ => none

/-- The steps of a list, one after the other. -/
def run : Hub → List HubAct → Option Hub
  | s, [] => some s
  | s, a :: as => (s.step a).bind (run · as)

end Hub

end UsbHal
