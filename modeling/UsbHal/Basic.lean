import Mathlib.Data.List.Basic

/-!
# The port status record and the text helpers

The AIDL values the service fills in: the role enumerations, the tagged `PortRole`, the
`Status` codes and `PortStatus` with the AIDL defaults that `resize` gives a fresh entry. Then
the helpers `Usb.cpp` applies to what it reads from a node: `Trim`, `extractRole`, `Tokenize`,
the `strncmp` prefix tests, `strtok` on `-` and `stoi`, each on the characters of the string.

A C++ failure that ends the process is a `Fault`: an index past the end of the status vector,
an exception `stoi` throws, or a `get` on a `PortRole` under a tag it does not hold.
-/

/-- Results of fallible code compare by their constructor and contents, so specs over them can
be decided. -/
instance Except.decEq {ε α : Type _} [DecidableEq ε] [DecidableEq α] : DecidableEq (Except ε α)
  | .error a, .error b => decidable_of_iff (a = b) (by simp)
  | .ok a, .ok b => decidable_of_iff (a = b) (by simp)
  | .error _, .ok _ => isFalse (by simp)
  | .ok _, .error _ => isFalse (by simp)

namespace Except

theorem bind_eq_ok {ε α β : Type} {x : Except ε α} {f : α → Except ε β} {b : β} :
    x.bind f = .ok b ↔ ∃ a, x = .ok a ∧ f a = .ok b := by
  cases x <;> simp [Except.bind]

theorem map_eq_ok {ε α β : Type} {x : Except ε α} {f : α → β} {b : β} :
    x.map f = .ok b ↔ ∃ a, x = .ok a ∧ f a = b := by
  cases x <;> simp [Except.map]

end Except

namespace UsbHal

inductive PortPowerRole
  | none | source | sink
  deriving DecidableEq, Repr

inductive PortDataRole
  | none | host | device
  deriving DecidableEq, Repr

inductive PortMode
  | none | ufp | dfp | drp | audioAccessory | debugAccessory
  deriving DecidableEq, Repr

/-- The AIDL union `PortRole`: one of three enumerations, under its tag. -/
inductive PortRole
  | powerRole (r : PortPowerRole)
  | dataRole (r : PortDataRole)
  | mode (m : PortMode)
  deriving DecidableEq, Repr

namespace PortRole

inductive Tag
  | powerRole | dataRole | mode
  deriving DecidableEq, Repr

def getTag : PortRole → Tag
  | powerRole _ => .powerRole
  | dataRole _ => .dataRole
  | mode _ => .mode

end PortRole

inductive Status
  | success | error | notSupported | unrecognizedRole
  deriving DecidableEq, Repr

inductive PowerBrickStatus
  | unknown | connected | notConnected
  deriving DecidableEq, Repr

inductive UsbDataStatus
  | unknown | enabled | disabledForce | disabledDockDeviceMode
  deriving DecidableEq, Repr

inductive ComplianceWarning
  | other | debugAccessory | bc12 | missingRp | inputPowerLimited | missingDataLines
  | enumerationFail | flakyConnection | unreliableIo
  deriving DecidableEq, Repr

inductive ContaminantProtectionMode
  | none | forceDisable
  deriving DecidableEq, Repr

inductive ContaminantProtectionStatus
  | none | forceDisable
  deriving DecidableEq, Repr

inductive ContaminantDetectionStatus
  | notSupported | disabled | notDetected | detected
  deriving DecidableEq, Repr

/-- The fields of the AIDL `PortStatus` that `Usb.cpp` writes, with the AIDL defaults. -/
structure PortStatus where
  portName : String := ""
  currentDataRole : PortDataRole := .none
  currentPowerRole : PortPowerRole := .none
  currentMode : PortMode := .none
  canChangeMode : Bool := false
  canChangeDataRole : Bool := false
  canChangePowerRole : Bool := false
  supportedModes : List PortMode := []
  supportedContaminantProtectionModes : List ContaminantProtectionMode := []
  supportsEnableContaminantPresenceProtection : Bool := false
  contaminantProtectionStatus : ContaminantProtectionStatus := .none
  supportsEnableContaminantPresenceDetection : Bool := false
  contaminantDetectionStatus : ContaminantDetectionStatus := .notSupported
  usbDataStatus : List UsbDataStatus := []
  powerTransferLimited : Bool := false
  powerBrickStatus : PowerBrickStatus := .unknown
  supportsComplianceWarnings : Bool := false
  complianceWarnings : List ComplianceWarning := []
  deriving DecidableEq, Repr

/-- What ends the process: undefined indexing, an uncaught exception or a failed assertion. -/
inductive Fault
  | outOfBounds | invalidArgument | outOfRange | badUnionAccess
  deriving DecidableEq, Repr

namespace PortRole

/-- `get<PortRole::powerRole>()`: the NDK union asserts the tag. -/
def getPowerRole : PortRole → Except Fault PortPowerRole
  | powerRole r => .ok r
  | _ => .error .badUnionAccess

/-- `get<PortRole::dataRole>()`. -/
def getDataRole : PortRole → Except Fault PortDataRole
  | dataRole r => .ok r
  | _ => .error .badUnionAccess

/-- `get<PortRole::mode>()`. -/
def getMode : PortRole → Except Fault PortMode
  | mode m => .ok m
  | _ => .error .badUnionAccess

end PortRole

/-! ## Text -/

/-- `isspace` in the C locale. -/
def isSpace (c : Char) : Bool :=
  c = ' ' || c = '\t' || c = '\n' || c = '\x0b' || c = '\x0c' || c = '\r'

/-- `android::base::Trim`: the string without leading and trailing white space. -/
def trim (s : String) : String :=
  ⟨((s.data.dropWhile isSpace).reverse.dropWhile isSpace).reverse⟩

/-- `extractRole`: the text between the first `[` and the first `]`, when both occur. When
the `]` comes first the unsigned length wraps and `substr` keeps the rest of the string. -/
def extractRole (roleName : String) : String :=
  match roleName.data.indexOf? '[', roleName.data.indexOf? ']' with
  | some first, some last =>
    let rest := roleName.data.drop (first + 1)
    ⟨if first < last then rest.take (last - first - 1) else rest⟩
  | _, _ => roleName

/-- `!strncmp(s, key, strlen(key))`: `key` is a prefix of `s`. -/
def startsWithKey (s key : String) : Bool :=
  key.data.isPrefixOf s.data

/-- `string::npos != s.find(sub)`. -/
def hasInfix (s sub : String) : Bool :=
  s.data.tails.any (sub.data.isPrefixOf ·)

/-- `strstr(s, sub) != NULL` on a C string, which ends at the first NUL. -/
def strstr (s sub : String) : Bool :=
  hasInfix ⟨s.data.takeWhile (· ≠ '\x00')⟩ sub

/-- `android::base::Tokenize`: the maximal runs of characters outside `delims`, in order. -/
def tokenize (s delims : String) : List String :=
  ((s.data.splitOnP (· ∈ delims.data)).filter (· ≠ [])).map String.mk

/-- `std::strtok(name, "-")` on its first call: the first run of characters other than `-`. -/
def strtokDash (name : String) : String :=
  ⟨(name.data.dropWhile (· = '-')).takeWhile (· ≠ '-')⟩

/-- The value of a run of decimal digits. -/
def digitsValue (ds : List Char) : Nat :=
  ds.foldl (fun n c => 10 * n + (c.toNat - '0'.toNat)) 0

/-- `std::stoi(s)`: `strtol` in base 10 skips white space, takes a sign and the digits after
it; no digit throws `invalid_argument`, a value outside `int` throws `out_of_range`. -/
def stoi (s : String) : Except Fault Int :=
  let l := s.data.dropWhile isSpace
  let (neg, l) := match l with
    | '-' :: r => (true, r)
    | '+' :: r => (false, r)
    | r => (false, r)
  let ds := l.takeWhile Char.isDigit
  if ds = [] then .error .invalidArgument
  else
    let v : Int := if neg then -(digitsValue ds : Int) else digitsValue ds
    if v < -2147483648 ∨ 2147483647 < v then .error .outOfRange else .ok v

end UsbHal
