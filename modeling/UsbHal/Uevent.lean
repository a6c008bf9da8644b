import UsbHal.Sysfs

/-!
# `uevent_event` over the bytes of a message

`Machine` gives the reactor a message as its lines. Here is the scan of `uevent_event` over the
receive buffer `char msg[UEVENT_MSG_LEN + 2]` itself: the `n` bytes the socket delivered, the
two NULs written at `msg[n]` and `msg[n + 1]`, and whatever the stack held after them.

The scan is the outer `while (*cp)`, the tests on the C string at `cp` (`regex_match` and the
`strncmp` prefix tests) and the inner `while (*cp++)`. A test reads the C string up to its NUL:
`regex_match` on a `const char *` finds the end with `strlen`, and each `strncmp` stops at the
first byte that differs from its key, at the latest at that NUL. A line that asks for the status
ends the scan (`break`). Every step records the indexes it reads; a read outside the array ends
the run with `none`, and so does running out of fuel.
-/

namespace UsbHal

/-- The bytes of an ASCII key of the source. -/
def keyBytes (key : String) : List UInt8 := key.data.map fun c => c.toNat.toUInt8

def startsWithBytes (line : List UInt8) (key : String) : Bool := (keyBytes key).isPrefixOf line

/-- `regex_match(cp, regex("(add)(.*)(-partner)"))`: `add`, then bytes other than a line
terminator, then `-partner`, the whole line. -/
def isPartnerAddBytes (line : List UInt8) : Bool :=
  startsWithBytes line "add" && (keyBytes "-partner").isSuffixOf line && 11 ≤ line.length
    && line.all fun b => b ≠ 10 && b ≠ 13

/-- Which branch of the loop body a line takes. -/
inductive LineKind
  | partnerAdd | status | overheat | other
  deriving DecidableEq, Repr

def lineKind (line : List UInt8) : LineKind :=
  if isPartnerAddBytes line then .partnerAdd
  else if startsWithBytes line "DEVTYPE=typec_" || startsWithBytes line "DRIVER=max77759tcpc"
      || startsWithBytes line "DRIVER=pogo-transport" || startsWithBytes line "POWER_SUPPLY_NAME=usb"
    then .status
  else if startsWithBytes line "DRIVER=google,usbc_port_cooling_dev" then .overheat
  else .other

/-- The C string at `i`, without its NUL, and the indexes read to find its end, the NUL's
included. -/
def cstr (msg : List UInt8) : (fuel i : Nat) → Option (List UInt8 × List Nat)
  | 0, _ => none
  | fuel + 1, i =>
    match msg[i]? with
    | none => none
    | some b =>
      if b = 0 then some ([], [i])
      else (cstr msg fuel (i + 1)).map fun (s, r) => (b :: s, i :: r)

/-- What a scan did: the lines it handled, in order, and every index it read. -/
structure ScanTrace where
  lines : List (List UInt8)
  reads : List Nat
  deriving DecidableEq, Repr

/-- The loop from `cp`: `*cp` is read; a NUL ends it. Otherwise the line's tests read its C string,
a status line ends the loop after its query, and any other line is passed by `while (*cp++)`,
which reads the same bytes and leaves `cp` after the NUL. -/
def scan (msg : List UInt8) : (fuel cp : Nat) → Option ScanTrace
  | 0, _ => none
  | fuel + 1, cp =>
    match msg[cp]? with
    | none => none
    | some b =>
      if b = 0 then some ⟨[], [cp]⟩
      else
        match cstr msg (fuel + 1) cp with
        | none => none
        | some (line, r) =>
          if lineKind line = .status then some ⟨[line], cp :: r⟩
          else (scan msg fuel (cp + r.length)).map fun t => ⟨line :: t.lines, cp :: r ++ r ++ t.reads⟩

/-- `msg` once `uevent_kernel_multicast_recv` has put `recv` at its start and `msg[n]`,
`msg[n + 1]` are cleared; the bytes after them are those of the stale buffer. -/
def received (stale recv : List UInt8) : List UInt8 :=
  recv ++ [0, 0] ++ stale.drop (recv.length + 2)

/-- `uevent_event` on a received message: nothing is read for an empty message or one that
fills the buffer; otherwise the scan from `msg`, with a byte of fuel for each byte up to
`msg[n + 1]`. -/
def ueventEvent (k : Consts) (stale recv : List UInt8) : Option ScanTrace :=
  if recv.length = 0 ∨ k.ueventMsgLen ≤ recv.length then some ⟨[], []⟩
  else scan (received stale recv) (recv.length + 2) 0

end UsbHal
