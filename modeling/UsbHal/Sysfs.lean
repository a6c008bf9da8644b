import UsbHal.Basic

/-!
# The nodes and the platform

What the service reads from outside is an `Env`: the listing of `/sys/class/typec`, the nodes
under it, the other nodes it reads and writes, and the platform collaborators (the TCPC i2c
lookup, the data-session monitor, the feature flags, the `vendor.usb.contaminantdisable`
property and the iteration order of an `unordered_map`).

A node under `/sys/class/typec/<entry>/` can only be read when `<entry>` is a listed link
(`Env.closed`). `Env.build` closes any table of node contents over a listing, so an
environment is given by what it shows and never has to prove this by hand.
-/

namespace UsbHal

/-- A `readdir` entry of `/sys/class/typec`; `isLink` is `d_type == DT_LNK`. -/
structure Dirent where
  name : String
  isLink : Bool
  deriving DecidableEq, Repr

/-- The nodes outside `/sys/class/typec` that the service reads or writes. `i2c c f` is
`mI2cClientPath + f` for the looked-up client path `c`, and `empty` is the path `""`. -/
inductive Node
  | pullup | usbData | id | vbus
  | pogoUsbActive | pogoMoveDataToUsb | powerSupplyUsbType
  | i2c (client file : String)
  | overheat (file : String)
  | empty
  deriving DecidableEq, Repr

/-- The constants of `Usb.h` and the gadget headers that `Usb.cpp` uses. `kGadgetName` is the
name of a UDC: it has no white space around it and is not `"none"`. -/
structure Consts where
  gadgetName : String
  portTypeTimeout : Nat
  ueventMsgLen : Nat
  gadgetName_trim : trim gadgetName = gadgetName
  gadgetName_ne_none : gadgetName ≠ "none"

/-- The constants of this device: the UDC of `kUdcUeventRegex`, a `PORT_TYPE_TIMEOUT` of 8 s and
a `UEVENT_MSG_LEN` of 2048 bytes. -/
def udcConsts : Consts := ⟨"11210000.dwc3", 8, 2048, by decide, by decide⟩

/-- The kernel's nodes and the platform, as one call of the service sees them. -/
structure Env where
  typec : Option (List Dirent)
  typecRead : String → String → Option String
  read : Node → Option String
  closed : ∀ ents, typec = some ents → ∀ e f, (typecRead e f).isSome → ⟨e, true⟩ ∈ ents
  i2cLookup : String
  sessionWarnings : PortDataRole → List ComplianceWarning
  enableUsbDataComplianceWarning : Bool
  enableInputPowerLimitedWarning : Bool
  contaminantDisable : String
  iterate : List (String × Bool) → List (String × Bool)
  iterate_perm : ∀ m, (iterate m).Perm m

namespace Env

/-- The reads under `/sys/class/typec` that a listing allows. -/
def closeOver (typec : Option (List Dirent)) (r : String → String → Option String)
    (e f : String) : Option String :=
  match typec with
  | some ents => if ⟨e, true⟩ ∈ ents then r e f else none
  | none => r e f

theorem closeOver_closed (typec : Option (List Dirent)) (r : String → String → Option String) :
    ∀ ents, typec = some ents → ∀ e f, (closeOver typec r e f).isSome → ⟨e, true⟩ ∈ ents := by
  rintro ents rfl e f h
  by_contra hn
  simp [closeOver, hn] at h

/-- The environment that shows `typec`, the typec nodes of `r` under listed links and the
nodes of `read`, with the insertion order as the map's iteration order. -/
def build (typec : Option (List Dirent)) (r : String → String → Option String)
    (read : Node → Option String) (i2cLookup : String) : Env where
  typec := typec
  typecRead := closeOver typec r
  read := read
  closed := closeOver_closed typec r
  i2cLookup := i2cLookup
  sessionWarnings := fun _ => []
  enableUsbDataComplianceWarning := false
  enableInputPowerLimitedWarning := false
  contaminantDisable := ""
  iterate := id
  iterate_perm := List.Perm.refl

/-- A successful `WriteStringToFile(v, n)`: the node now holds `v`. -/
def write (env : Env) (n : Node) (v : String) : Env :=
  { env with read := Function.update env.read n (some v) }

@[simp] theorem write_read_self (env : Env) (n : Node) (v : String) :
    (env.write n v).read n = some v := by
  simp [write]

@[simp] theorem write_read_ne (env : Env) {n m : Node} (v : String) (h : m ≠ n) :
    (env.write n v).read m = env.read m := by
  simp [write, h]

@[simp] theorem write_typecRead (env : Env) (n : Node) (v : String) :
    (env.write n v).typecRead = env.typecRead := rfl

@[simp] theorem write_typec (env : Env) (n : Node) (v : String) :
    (env.write n v).typec = env.typec := rfl

end Env

end UsbHal
