import UsbHal.Proofs.Calls
import UsbHal.Proofs.Locks
import UsbHal.Proofs.ModeSwitch

/-!
# A call alone is the one-call model

`Ops` computes each method of `IUsb` as one function of the members, the nodes and how its I/O
turns out (`Io`); `Machine` runs the same methods as threads, one atomic step at a time. The
two levels agree: started from a state where no thread holds a mutex, the machine running the
`i`-th call alone, with the clock, returns from it having delivered the notifications `Ops`
sends, left the nodes `Ops` leaves and the members it returns with, or ended the process
exactly where `Ops` faults (`solo_refines`).

The proof is a simulation. At every point of a call, `Caller.rest` is what is left of the call as
the one-call model computes it: its lines from that point on. A step of the call alone, resolved
as `Io.choice` says, moves closer to the return (`Caller.rank`) and keeps the notifications it
has sent followed by what is left (`Follows`), or ends the process as what is left says
(`solo_step`); by induction on the rank the call returns (`solo_ends`). `setCallback`, which
`Ops` leaves out, is not a point of this simulation.

A mode switch alone never sees its partner: `Ops` decides it with `confirmed` false, and the
machine times out after `PORT_TYPE_TIMEOUT` ticks.
-/

namespace UsbHal

def Event.sentBy (i : Nat) : Event → Option Notification
  | .notify (.caller j) n => if j = i then some n else none
  | _ => none

/-- The notifications the `i`-th call delivered, oldest first. -/
def sentBy (i : Nat) (log : List Event) : List Notification :=
  (log.filterMap (Event.sentBy i)).reverse

@[simp] theorem sentBy_cons (i : Nat) (e : Event) (log : List Event) :
    sentBy i (e :: log) = sentBy i log ++ (e.sentBy i).toList := by
  unfold sentBy
  rw [List.filterMap_cons]
  cases e.sentBy i <;> simp

/-- `s'` follows `s` by steps of the `i`-th call and of the clock alone. -/
def Solo (k : Consts) (i : Nat) (s s' : Sys) : Prop :=
  ∃ acts : List Act, (∀ a ∈ acts, a = .tick ∨ ∃ c, a = .caller i c) ∧ run k s acts = some s'

section Solo

variable {k : Consts} {i : Nat} {s s₁ s' : Sys}

theorem Solo.refl (s : Sys) : Solo k i s s := ⟨[], by simp, rfl⟩

theorem Solo.trans (h₁ : Solo k i s s₁) (h₂ : Solo k i s₁ s') : Solo k i s s' := by
  obtain ⟨as, has, hr⟩ := h₁
  obtain ⟨bs, hbs, hr'⟩ := h₂
  exact ⟨as ++ bs, fun a ha => (List.mem_append.1 ha).elim (has a) (hbs a), by
    rw [run_append, hr, Option.some_bind, hr']⟩

theorem Solo.step {c : Choice} (h : step k s (.caller i c) = some s') : Solo k i s s' :=
  ⟨[.caller i c], by simp, by simp [run, h]⟩

theorem Solo.ticks (hc : s.crashed = false) (m : Nat) :
    Solo k i s { s with now := s.now + m } :=
  ⟨List.replicate m .tick, fun _ ha => .inl (List.eq_of_mem_replicate ha), run_ticks s m hc⟩

end Solo

/-- The step of a call as `io` resolves it: each write succeeds as `io.write` says for its node,
an `open` as `io.opens`, `fputs` returns `io.fputs` and then `io.fputsRetry`; a wait wakes only
at its deadline. -/
def Io.choice (io : Io) (s : Sys) : Caller → Choice
  | .switchRole _ _ _ .dispatch => ⟨io.opens, 0, 0⟩
  | .switchRole _ _ _ .roleWrite | .switchRole _ _ _ .modeWrite => ⟨true, io.fputs, io.fputsRetry⟩
  | .switchRole _ _ _ (.waiting _) => ⟨false, 0, 0⟩
  | .enableUsbData _ _ _ (.pullupWrite _ _) => ⟨io.write .pullup, 0, 0⟩
  | .enableUsbData _ _ _ (.idWrite _) => ⟨io.write .id, 0, 0⟩
  | .enableUsbData _ _ _ (.vbusWrite _) => ⟨io.write .vbus, 0, 0⟩
  | .enableUsbData _ _ _ (.usbDataWrite _) => ⟨io.write .usbData, 0, 0⟩
  | .method (.dockedOpen _ _) => ⟨io.opens, 0, 0⟩
  | .method (.dockedWrite _ _) => ⟨io.write .pogoMoveDataToUsb, 0, 0⟩
  | .method (.resetWrite _ _) => ⟨io.write .pullup, 0, 0⟩
  | .method (.limitCurrent _ _ _ cl) => ⟨io.write (.i2c cl "usb_limit_sink_current"), 0, 0⟩
  | .method (.limitSink _ _ _ cl _) => ⟨io.write (.i2c cl "usb_limit_sink_enable"), 0, 0⟩
  | .method (.limitSource _ _ _ cl _) => ⟨io.write (.i2c cl "usb_limit_source_enable"), 0, 0⟩
  | .method (.contaminantWrite _ _ _) => ⟨io.write s.usb.enabledPath, 0, 0⟩
  | _ => ⟨true, 0, 0⟩

def endCall (query : Bool) (sent : List Notification) (u : Usb) (env : Env) : Reply :=
  if query then thenQuery sent u env else ⟨sent, env, .ok u⟩

def Tail.rest (s : Sys) : Tail → Reply
  | .notifyLocking n q => endCall q (s.usb.notify n) s.usb s.env
  | .notified q => endCall q [] s.usb s.env
  | .queryLocking => thenQuery [] s.usb s.env
  | .queried | .done => ⟨[], s.env, .ok s.usb⟩

def dataEnd (p : String) (e : Bool) (t : Int) (u : Usb) (w : Env × Bool) : Reply :=
  let u := if w.2 then { u with usbDataEnabled := e } else u
  thenQuery (u.notify (.enableUsbDataStatus p e (.ofBool w.2) t)) u w.1

def usbDataWriteStep (io : Io) (e : Bool) (w : Env × Bool) : Env × Bool :=
  writeStep io .usbData (if e then "1" else "0") w

def afterPullupWrites (io : Io) (e : Bool) (w : Env × Bool) : Env × Bool :=
  if e then usbDataWriteStep io e w
  else usbDataWriteStep io e (writeStep io .vbus "0" (writeStep io .id "1" w))

def DataPc.rest (k : Consts) (io : Io) (s : Sys) (p : String) (e : Bool) (t : Int) :
    DataPc → Reply
  | .start => UsbHal.enableUsbData k s.usb s.env io p e t
  | .pullupRead r => dataEnd p e t s.usb (afterPullupWrites io e (pullupStep k io e (s.env, r)))
  | .pullupWrite v r =>
    dataEnd p e t s.usb (afterPullupWrites io e (writeStep io .pullup v (s.env, r)))
  | .idWrite r =>
    dataEnd p e t s.usb (usbDataWriteStep io e (writeStep io .vbus "0" (writeStep io .id "1"
      (s.env, r))))
  | .vbusWrite r => dataEnd p e t s.usb (usbDataWriteStep io e (writeStep io .vbus "0" (s.env, r)))
  | .usbDataWrite r => dataEnd p e t s.usb (usbDataWriteStep io e (s.env, r))
  | .flagWrite r => dataEnd p e t s.usb (s.env, r)

def limitEnd (p : String) (l : Bool) (t : Int) (ok : Bool) (u : Usb) (env : Env) : Reply :=
  thenQuery (if 0 ≤ t then u.notify (.limitPowerTransferStatus p l (.ofBool ok) t) else []) u env

def limitEnables (io : Io) (p : String) (l : Bool) (t : Int) (cl : String) (ok : Bool) (u : Usb)
    (env : Env) : Reply :=
  let (env, r2) := writeNode io env (.i2c cl "usb_limit_sink_enable") (limitValue l)
  let (env, r3) := writeNode io env (.i2c cl "usb_limit_source_enable") (limitValue l)
  limitEnd p l t (ok && r2 && r3) u env

def limitWrites (io : Io) (p : String) (l : Bool) (t : Int) (cl : String) (u : Usb) (env : Env) :
    Reply :=
  let (env, r1) := if l then writeNode io env (.i2c cl "usb_limit_sink_current") "0" else (env, true)
  limitEnables io p l t cl r1 u env

/-- `limitPowerTransfer` from its second check of `mI2cClientPath`. -/
def limitChecked (io : Io) (p : String) (l : Bool) (t : Int) (u : Usb) (env : Env) : Reply :=
  if u.i2cClientPath = "" then ⟨[], env, .ok u⟩ else limitWrites io p l t u.i2cClientPath u env

def MethodPc.rest (io : Io) (s : Sys) : MethodPc → Reply
  | .dockedOpen p t => UsbHal.enableUsbDataWhileDocked s.usb s.env io p t
  | .dockedWrite p t =>
    let (env, ok) := writeNode io s.env .pogoMoveDataToUsb "1"
    thenQuery (s.usb.notify (.enableUsbDataWhileDockedStatus p (.ofBool ok) t)) s.usb env
  | .resetWrite p t => UsbHal.resetUsbPort s.usb s.env io p t
  | .limitLookup p l t => UsbHal.limitPowerTransfer s.usb s.env io p l t
  | .limitFind p l t =>
    limitChecked io p l t { s.usb with i2cClientPath := s.env.i2cLookup } s.env
  | .limitAssign p l t found => limitChecked io p l t { s.usb with i2cClientPath := found } s.env
  | .limitRecheck p l t => limitChecked io p l t s.usb s.env
  | .limitPaths p l t => limitWrites io p l t s.usb.i2cClientPath s.usb s.env
  | .limitLocking p l t cl | .limitCurrent p l t cl => limitWrites io p l t cl s.usb s.env
  | .limitSink p l t cl f => limitEnables io p l t cl (!f) s.usb s.env
  | .limitSource p l t cl f =>
    let (env, r3) := writeNode io s.env (.i2c cl "usb_limit_source_enable") (limitValue l)
    limitEnd p l t (!f && r3) s.usb env
  | .limitNotify p l t f => limitEnd p l t (!f) s.usb s.env
  | .portQuery t => UsbHal.queryPortStatus s.usb s.env t
  | .portQueried t => ⟨s.usb.notify (.queryPortStatus "all" .success t), s.env, .ok s.usb⟩
  | .contaminantWrite p e t => UsbHal.enableContaminantPresenceDetection s.usb s.env io p e t

def readBackOk (env : Env) (p : String) (r : PortRole) (ret : Int) : Bool :=
  ret ≠ eof && match env.typecRead p (roleNodeFile r) with
    | some written => extractRole (trim written) = convertRoletoString r
    | none => false

/-- The outcome a `switchRole` alone will notify from `pc`, or `none` once it has notified. A
mode switch alone sees no partner, so it only succeeds from a wake that already found one. -/
def SwitchPc.outcome (io : Io) (s : Sys) (p : String) (r : PortRole) : SwitchPc → Option Bool
  | .start | .dispatch => some <| match r with
    | .mode _ => false
    | _ => io.opens && readBackOk s.env p r (if io.fputs = eagain then io.fputsRetry else io.fputs)
  | .roleWrite => some (readBackOk s.env p r (if io.fputs = eagain then io.fputsRetry else io.fputs))
  | .roleRead ret => some (readBackOk s.env p r ret)
  | .woken err => some (err ≠ etimedout && s.partnerUp)
  | .partnerUnlock rs | .notifyLocking rs => some rs
  | .notified | .rsUnlock | .done => none
  | _ => some false

/-- What is left of the call at `th`, as the one-call model computes it from `s`. -/
def Caller.rest (k : Consts) (io : Io) (s : Sys) : Caller → Reply
  | .switchRole p r t pc => match pc.outcome io s p r with
    | some b => ⟨s.usb.notify (.roleSwitchStatus p r (.ofBool b) t), s.env, .ok s.usb⟩
    | none => ⟨[], s.env, .ok s.usb⟩
  | .setCallback _ _ => ⟨[], s.env, .ok s.usb⟩
  | .enableUsbData p e t pc => pc.rest k io s p e t
  | .method pc => pc.rest io s
  | .tail tl => tl.rest s

def SwitchPc.rank : SwitchPc → Nat
  | .start => 14 | .dispatch => 13 | .partnerLocking => 12 | .modeWrite => 11
  | .woken err => if err = etimedout then 6 else 10
  | .waitAgain => 9 | .waiting _ => 8 | .roleWrite | .partnerUnlock _ => 5
  | .roleRead _ | .drp => 4 | .notifyLocking _ => 3 | .notified => 2 | .rsUnlock => 1
  | .done => 0

def DataPc.rank : DataPc → Nat
  | .start => 6 | .pullupRead _ => 5 | .pullupWrite _ _ => 4 | .idWrite _ => 3
  | .vbusWrite _ => 2 | .usbDataWrite _ => 1 | .flagWrite _ => 0

def MethodPc.rank : MethodPc → Nat
  | .limitLookup .. => 9 | .limitFind .. => 8 | .limitAssign .. => 7 | .limitRecheck .. => 6
  | .limitPaths .. => 5 | .limitLocking .. => 4 | .limitCurrent .. => 3 | .limitSink .. => 2
  | .dockedOpen .. | .limitSource .. | .portQuery _ => 1
  | _ => 0

def Tail.rank : Tail → Nat
  | .notifyLocking .. => 4 | .notified _ => 3 | .queryLocking => 2 | .queried => 1 | .done => 0

def Caller.rank : Caller → Nat
  | .switchRole _ _ _ pc => pc.rank
  | .setCallback _ _ => 0
  | .enableUsbData _ _ _ pc => pc.rank + 5
  | .method pc => pc.rank + 5
  | .tail tl => tl.rank

/-- Only the `i`-th call holds a mutex, and exactly those its program counter is inside. -/
def SoloLocks (i : Nat) (th : Caller) (s : Sys) : Prop :=
  ∀ m, s.mutex m = if th.holds m then some (.caller i) else none

/-- From `log` with `r` left to `log₁` with `r₁` left: the call sent so far and what is left of it
agree. -/
def Follows (i : Nat) (r r₁ : Reply) (log log₁ : List Event) : Prop :=
  sentBy i log ++ r.sent = sentBy i log₁ ++ r₁.sent ∧ r₁.env = r.env ∧ r₁.next = r.next

/-- `s'` ends the `i`-th call from `s` as the one-call reply `r` says: it delivered `r`'s
notifications and left `r`'s nodes; and it returned with `r`'s members and no mutex held, or
ended the process where `r` faults. -/
structure Ends (i : Nat) (r : Reply) (s s' : Sys) : Prop where
  sent : sentBy i s'.log = sentBy i s.log ++ r.sent
  env : s'.env = r.env
  next : s'.crashed = true ∧ (∃ f, r.next = .error f) ∨ s'.crashed = false ∧ r.next = .ok s'.usb
  returned : s'.crashed = false →
    (∀ m, s'.mutex m = none) ∧ ∃ th, s'.callers[i]? = some th ∧ th.returned = true

/-- One step of the call alone, from `th` at `s` to `th₁` at `s₁`. -/
def SoloMove (k : Consts) (io : Io) (i : Nat) (s s₁ : Sys) (th th₁ : Caller) : Prop :=
  s₁.callers[i]? = some th₁ ∧ th₁.rank < th.rank ∧ (∀ cb pc, th₁ ≠ .setCallback cb pc) ∧
    (s₁.crashed = true ∧ Ends i (th.rest k io s) s s₁ ∨
      s₁.crashed = false ∧ SoloLocks i th₁ s₁ ∧
        Follows i (th.rest k io s) (th₁.rest k io s₁) s.log s₁.log)

def queryNotes (u : Usb) (env : Env) : List Notification :=
  match queryVersionHelper u env with
  | .ok q => q.usb.notify (.portStatusChange q.snapshot q.status)
  | .error _ => []

def queryNext (u : Usb) (env : Env) : Except Fault Usb := (queryVersionHelper u env).map (·.usb)

@[simp] theorem thenQuery_sent (sent : List Notification) (u : Usb) (env : Env) :
    (thenQuery sent u env).sent = sent ++ queryNotes u env := by
  unfold thenQuery queryNotes
  cases queryVersionHelper u env <;> simp

attribute [simp] thenQuery_env

@[simp] theorem thenQuery_next (sent : List Notification) (u : Usb) (env : Env) :
    (thenQuery sent u env).next = queryNext u env := by
  unfold thenQuery queryNext
  cases queryVersionHelper u env <;> rfl

@[simp] theorem endCall_sent (q : Bool) (sent : List Notification) (u : Usb) (env : Env) :
    (endCall q sent u env).sent = sent ++ if q then queryNotes u env else [] := by
  cases q <;> simp [endCall]

@[simp] theorem endCall_env (q : Bool) (sent : List Notification) (u : Usb) (env : Env) :
    (endCall q sent u env).env = env := by
  cases q <;> simp [endCall]

@[simp] theorem endCall_next (q : Bool) (sent : List Notification) (u : Usb) (env : Env) :
    (endCall q sent u env).next = if q then queryNext u env else .ok u := by
  cases q <;> simp [endCall]

theorem Mutex.forall_iff {P : Mutex → Prop} : (∀ m, P m) ↔ P .lock ∧ P .roleSwitch ∧ P .partner :=
  ⟨fun h => ⟨h _, h _, h _⟩, fun ⟨a, b, c⟩ m => by cases m <;> assumption⟩

theorem soloLocks_iff {i : Nat} {th : Caller} {s : Sys} : SoloLocks i th s ↔
    s.lock = (if th.holds .lock then some (.caller i) else none) ∧
    s.roleSwitchLock = (if th.holds .roleSwitch then some (.caller i) else none) ∧
    s.partnerLock = (if th.holds .partner then some (.caller i) else none) :=
  Mutex.forall_iff

theorem Ends.of_crash {i : Nat} {r : Reply} {s s₁ : Sys} (hc : s₁.crashed = true)
    (hs : sentBy i s₁.log = sentBy i s.log ++ r.sent) (he : s₁.env = r.env)
    (hf : ∃ f, r.next = .error f) : Ends i r s s₁ :=
  ⟨hs, he, .inl ⟨hc, hf⟩, fun h => by simp [hc] at h⟩

theorem step_caller_of {k : Consts} {s : Sys} {i : Nat} {th : Caller} (hc : s.crashed = false)
    (hth : s.callers[i]? = some th) (c : Choice) :
    step k s (.caller i c) = callerStep k s i th c := by
  simp [step, hc, hth]

/-- A write of the call alone keeps its mutexes and sends nothing, so it moves the call as
`SoloMove` says once what is left after it is what was left before. -/
theorem SoloMove.write {k : Consts} {io : Io} {s : Sys} {i : Nat} {th th₁ : Caller} {ok : Bool}
    {n : Node} {v : String} (hi : i < s.callers.length) (hc : s.crashed = false)
    (hl : SoloLocks i th s) (hrank : th₁.rank < th.rank) (hcb : ∀ cb pc, th₁ ≠ .setCallback cb pc)
    (hholds : ∀ m, th₁.holds m = th.holds m)
    (hrest : th₁.rest k io ((s.writeBy i ok n v).setCaller i th₁) = th.rest k io s) :
    SoloMove k io i s ((s.writeBy i ok n v).setCaller i th₁) th th₁ := by
  have hw : ((s.writeBy i ok n v).setCaller i th₁).crashed = s.crashed ∧
      ((s.writeBy i ok n v).setCaller i th₁).callers = s.callers.set i th₁ ∧
      (∀ m, ((s.writeBy i ok n v).setCaller i th₁).mutex m = s.mutex m) ∧
      sentBy i ((s.writeBy i ok n v).setCaller i th₁).log = sentBy i s.log := by
    cases ok <;> simp [Sys.writeBy, Sys.mutex, Event.sentBy, Mutex.forall_iff]
  refine ⟨by rw [hw.2.1, List.getElem?_set_self hi], hrank, hcb,
    .inr ⟨hw.1.trans hc, fun m => by rw [hw.2.2.1, hl m, hholds], ?_⟩⟩
  rw [Follows, hrest, hw.2.2.2]
  exact ⟨rfl, rfl, rfl⟩

theorem SoloMove.quiet {k : Consts} {io : Io} {s : Sys} {i : Nat} {th th₁ : Caller}
    (hi : i < s.callers.length) (hc : s.crashed = false) (hl : SoloLocks i th s)
    (hrank : th₁.rank < th.rank) (hcb : ∀ cb pc, th₁ ≠ .setCallback cb pc)
    (hholds : ∀ m, th₁.holds m = th.holds m) (hrest : th₁.rest k io (s.setCaller i th₁) = th.rest k io s) :
    SoloMove k io i s (s.setCaller i th₁) th th₁ :=
  @SoloMove.write k io s i th th₁ false .empty "" hi hc hl hrank hcb hholds hrest

section Step

variable {k : Consts} {s : Sys} {i : Nat}

theorem tail_solo_step {tl : Tail} (hc : s.crashed = false) (hth : s.callers[i]? = some (.tail tl))
    (hl : SoloLocks i (.tail tl) s) (hr : tl ≠ .done) (io : Io) :
    ∃ s₁, step k s (.caller i (io.choice s (.tail tl))) = some s₁ ∧
      ∃ th₁, SoloMove k io i s s₁ (.tail tl) th₁ := by
  have hi : i < s.callers.length := (List.getElem?_eq_some_iff.1 hth).1
  rw [step_caller_of hc hth]
  cases tl <;> simp only [soloLocks_iff, Caller.holds, Tail.holdsLock, Bool.false_eq_true,
    if_false, if_true] at hl
  case notifyLocking n q =>
    simp only [callerStep, tailStep, hl.1, if_true, Sys.deliver_eq, Sys.setCaller_eq,
      Option.some.injEq, exists_eq_left', SoloMove, List.getElem?_set_self hi]
    refine ⟨by simp [Caller.rank, Tail.rank], by simp, .inr ⟨hc, by simp [soloLocks_iff,
      Caller.holds, Tail.holdsLock, hl], ?_⟩⟩
    cases hcb : s.usb.callback <;>
      simp [Follows, Caller.rest, Tail.rest, Usb.notify, hcb, Event.sentBy]
  case notified q =>
    simp only [callerStep, tailStep, Sys.setCaller_eq, Option.some.injEq, exists_eq_left',
      SoloMove, List.getElem?_set_self hi]
    refine ⟨by cases q <;> simp [Caller.rank, Tail.rank], by simp, .inr ⟨hc, ?_, ?_⟩⟩ <;>
      cases q <;> simp [soloLocks_iff, Caller.holds, Tail.holdsLock, hl, Follows, Caller.rest,
        Tail.rest]
  case queryLocking =>
    simp only [callerStep, tailStep, Sys.query, hl.1, if_true]
    cases hq : queryVersionHelper s.usb s.env with
    | ok q =>
      simp only [Option.map_some', Sys.deliver_eq, Sys.setCaller_eq, Option.some.injEq,
        exists_eq_left', SoloMove, List.getElem?_set_self hi]
      refine ⟨by simp [Caller.rank, Tail.rank], by simp, .inr ⟨hc, by simp [soloLocks_iff,
        Caller.holds, Tail.holdsLock, hl], ?_⟩⟩
      cases hcb : q.usb.callback <;> simp [Follows, Caller.rest, Tail.rest, Usb.notify, hcb,
        Event.sentBy, queryNotes, queryNext, hq, Except.map]
    | error f =>
      simp only [Option.map_some', Sys.setCaller_eq, Option.some.injEq, exists_eq_left',
        SoloMove, List.getElem?_set_self hi]
      refine ⟨by simp [Caller.rank, Tail.rank], by simp,
        .inl ⟨trivial, Ends.of_crash rfl ?_ ?_ ⟨f, ?_⟩⟩⟩ <;>
        simp [Caller.rest, Tail.rest, queryNotes, queryNext, hq, Except.map]
  case queried =>
    simp only [callerStep, tailStep, Sys.setCaller_eq, Option.some.injEq, exists_eq_left',
      SoloMove, List.getElem?_set_self hi]
    exact ⟨by simp [Caller.rank, Tail.rank], by simp, .inr ⟨hc, by simp [soloLocks_iff,
      Caller.holds, Tail.holdsLock, hl], by simp [Follows, Caller.rest, Tail.rest]⟩⟩
  case done => exact absurd rfl hr

theorem method_solo_step {pc : MethodPc} (hc : s.crashed = false)
    (hth : s.callers[i]? = some (.method pc)) (hl : SoloLocks i (.method pc) s) (io : Io) :
    ∃ s₁, step k s (.caller i (io.choice s (.method pc))) = some s₁ ∧
      ∃ th₁, SoloMove k io i s s₁ (.method pc) th₁ := by
  have hi : i < s.callers.length := (List.getElem?_eq_some_iff.1 hth).1
  have hl' := soloLocks_iff.1 hl
  rw [step_caller_of hc hth]
  cases pc <;> simp only [Caller.holds, MethodPc.holdsLock, Bool.false_eq_true, if_false,
    if_true] at hl' <;> simp only [callerStep, methodStep, Io.choice]
  case dockedOpen p t =>
    by_cases hop : io.opens <;> simp only [hop, if_true, if_false, Bool.false_eq_true] <;>
      exact ⟨_, rfl, _, .quiet hi hc hl (by simp [Caller.rank, MethodPc.rank, Tail.rank]) (by simp)
        (fun m => by cases m <;> rfl)
        (by simp [Caller.rest, MethodPc.rest, Tail.rest, endCall, UsbHal.enableUsbDataWhileDocked, hop])⟩
  case dockedWrite p t =>
    exact ⟨_, rfl, _, .write hi hc hl (by simp [Caller.rank, MethodPc.rank, Tail.rank]) (by simp)
      (fun m => by cases m <;> rfl) (by
        cases hw : io.write .pogoMoveDataToUsb <;> simp [Caller.rest, MethodPc.rest, Tail.rest, endCall,
          writeNode, hw, Sys.writeBy])⟩
  case resetWrite p t =>
    exact ⟨_, rfl, _, .write hi hc hl (by simp [Caller.rank, MethodPc.rank, Tail.rank]) (by simp)
      (fun m => by cases m <;> rfl) (by
        cases hw : io.write .pullup <;> simp [Caller.rest, MethodPc.rest, Tail.rest, endCall,
          UsbHal.resetUsbPort, writeNode, hw, Sys.writeBy])⟩
  case limitLookup p l t =>
    by_cases he : s.usb.i2cClientPath = "" <;> simp only [he, if_true, if_false] <;>
      exact ⟨_, rfl, _, .quiet hi hc hl (by simp [Caller.rank, MethodPc.rank]) (by simp)
        (fun m => by cases m <;> rfl)
        (by simp [Caller.rest, MethodPc.rest, UsbHal.limitPowerTransfer, Usb.lookupI2c,
          limitChecked, limitWrites, limitEnables, limitEnd, limitValue, he])⟩
  case limitFind p l t =>
    exact ⟨_, rfl, _, .quiet hi hc hl (by simp [Caller.rank, MethodPc.rank]) (by simp)
      (fun m => by cases m <;> rfl) rfl⟩
  case limitAssign p l t found =>
    exact ⟨_, rfl, .method (.limitRecheck p l t), by simp [List.getElem?_set_self hi],
      by simp [Caller.rank, MethodPc.rank], by simp, .inr ⟨hc, by
        simp [soloLocks_iff, Caller.holds, MethodPc.holdsLock, hl'], by
        simp [Follows, Caller.rest, MethodPc.rest]⟩⟩
  case limitRecheck p l t =>
    by_cases he : s.usb.i2cClientPath = "" <;> simp only [he, if_true, if_false] <;>
      exact ⟨_, rfl, _, .quiet hi hc hl (by simp [Caller.rank, MethodPc.rank, Tail.rank])
        (by simp) (fun m => by cases m <;> rfl)
        (by simp [Caller.rest, MethodPc.rest, Tail.rest, endCall, limitChecked, he])⟩
  case limitPaths p l t =>
    exact ⟨_, rfl, _, .quiet hi hc hl (by simp [Caller.rank, MethodPc.rank]) (by simp)
      (fun m => by cases m <;> rfl) rfl⟩
  case limitLocking p l t cl =>
    simp only [hl'.1, if_true, Sys.setCaller_eq, Option.some.injEq, exists_eq_left', SoloMove,
      List.getElem?_set_self hi]
    exact ⟨by simp [Caller.rank, MethodPc.rank], by simp, .inr ⟨hc, by simp [soloLocks_iff,
      Caller.holds, MethodPc.holdsLock, hl'], by simp [Follows, Caller.rest, MethodPc.rest]⟩⟩
  case limitCurrent p l t cl =>
    cases l
    · exact ⟨_, rfl, _, .quiet hi hc hl (by simp [Caller.rank, MethodPc.rank]) (by simp)
        (fun m => by cases m <;> rfl) (by simp [Caller.rest, MethodPc.rest, limitWrites])⟩
    · exact ⟨_, rfl, _, .write hi hc hl (by simp [Caller.rank, MethodPc.rank]) (by simp)
        (fun m => by cases m <;> rfl) (by
          cases hw : io.write (.i2c cl "usb_limit_sink_current") <;>
            simp [Caller.rest, MethodPc.rest, limitWrites, writeNode, hw, Sys.writeBy])⟩
  case limitSink p l t cl f =>
    exact ⟨_, rfl, _, .write hi hc hl (by simp [Caller.rank, MethodPc.rank]) (by simp)
      (fun m => by cases m <;> rfl) (by
        cases hw : io.write (.i2c cl "usb_limit_sink_enable") <;>
          simp [Caller.rest, MethodPc.rest, limitEnables, writeNode, hw, Sys.writeBy])⟩
  case limitSource p l t cl f =>
    exact ⟨_, rfl, _, .write hi hc hl (by simp [Caller.rank, MethodPc.rank]) (by simp)
      (fun m => by cases m <;> rfl) (by
        cases hw : io.write (.i2c cl "usb_limit_source_enable") <;>
          simp [Caller.rest, MethodPc.rest, writeNode, hw, Sys.writeBy])⟩
  case limitNotify p l t f =>
    by_cases ht : 0 ≤ t <;>
      simp only [ht, if_true, if_false, Sys.deliver_eq, Sys.setCaller_eq,
        Option.some.injEq, exists_eq_left', SoloMove, List.getElem?_set_self hi] <;>
      refine ⟨by simp [Caller.rank, MethodPc.rank, Tail.rank], by simp, .inr ⟨hc, by
        simp [soloLocks_iff, Caller.holds, MethodPc.holdsLock, Tail.holdsLock, hl'], ?_⟩⟩ <;>
      cases hcb : s.usb.callback <;>
      simp [Follows, Caller.rest, MethodPc.rest, Tail.rest, endCall, limitEnd, ht, Usb.notify, hcb,
        Event.sentBy]
  case portQuery t =>
    simp only [Sys.query, hl'.1, if_true]
    cases hq : queryVersionHelper s.usb s.env with
    | ok q =>
      simp only [Option.map_some', Sys.deliver_eq, Sys.setCaller_eq, Option.some.injEq,
        exists_eq_left', SoloMove, List.getElem?_set_self hi]
      refine ⟨by simp [Caller.rank, MethodPc.rank], by simp, .inr ⟨hc, by simp [soloLocks_iff,
        Caller.holds, MethodPc.holdsLock, hl'], ?_⟩⟩
      cases hcb : q.usb.callback <;> simp [Follows, Caller.rest, MethodPc.rest,
        UsbHal.queryPortStatus, Usb.notify, hcb, Event.sentBy, hq]
    | error f =>
      simp only [Option.map_some', Sys.setCaller_eq, Option.some.injEq, exists_eq_left',
        SoloMove, List.getElem?_set_self hi]
      refine ⟨by simp [Caller.rank, MethodPc.rank], by simp,
        .inl ⟨trivial, Ends.of_crash rfl ?_ ?_ ⟨f, ?_⟩⟩⟩ <;>
        simp [Caller.rest, MethodPc.rest, UsbHal.queryPortStatus, hq]
  case portQueried t =>
    simp only [Sys.setCaller_eq, Option.some.injEq, exists_eq_left', SoloMove,
      List.getElem?_set_self hi]
    exact ⟨by simp [Caller.rank, MethodPc.rank, Tail.rank], by simp, .inr ⟨hc, by
      simp [soloLocks_iff, Caller.holds, Tail.holdsLock, hl'], by
      simp [Follows, Caller.rest, MethodPc.rest, Tail.rest]⟩⟩
  case contaminantWrite p e t =>
    by_cases hd : s.env.contaminantDisable = "true" <;>
      simp only [hd, ne_eq, not_true_eq_false, not_false_eq_true, if_true, if_false]
    · exact ⟨_, rfl, _, .quiet hi hc hl (by simp [Caller.rank, MethodPc.rank, Tail.rank])
        (by simp) (fun m => by cases m <;> rfl)
        (by simp [Caller.rest, MethodPc.rest, Tail.rest, endCall, UsbHal.enableContaminantPresenceDetection,
          hd, Status.ofBool])⟩
    · exact ⟨_, rfl, _, .write hi hc hl (by simp [Caller.rank, MethodPc.rank, Tail.rank])
        (by simp) (fun m => by cases m <;> rfl) (by
          cases hw : io.write s.usb.enabledPath <;>
            simp [Caller.rest, MethodPc.rest, Tail.rest, endCall, UsbHal.enableContaminantPresenceDetection,
              writeNode, hd, hw, Sys.writeBy])⟩

theorem data_solo_step {p : String} {e : Bool} {t : Int} {pc : DataPc} (hc : s.crashed = false)
    (hth : s.callers[i]? = some (.enableUsbData p e t pc))
    (hl : SoloLocks i (.enableUsbData p e t pc) s) (io : Io) :
    ∃ s₁, step k s (.caller i (io.choice s (.enableUsbData p e t pc))) = some s₁ ∧
      ∃ th₁, SoloMove k io i s s₁ (.enableUsbData p e t pc) th₁ := by
  have hi : i < s.callers.length := (List.getElem?_eq_some_iff.1 hth).1
  have hh : ∀ pc' m, (Caller.enableUsbData p e t pc').holds m = (Caller.enableUsbData p e t pc).holds m :=
    fun _ _ => rfl
  rw [step_caller_of hc hth]
  cases pc with
  | start =>
    simp only [callerStep, dataStep]
    refine ⟨_, rfl, _, .quiet hi hc hl (by split <;> simp [Caller.rank, DataPc.rank]) (by simp)
      (hh _) ?_⟩
    cases e <;> cases hu : s.usb.usbDataEnabled <;>
      simp [Caller.rest, DataPc.rest, UsbHal.enableUsbData, enableUsbDataWrites, dataEnd,
        afterPullupWrites, usbDataWriteStep, hu]
  | pullupRead r =>
    simp only [callerStep, dataStep]
    refine ⟨_, rfl, _, .quiet hi hc hl ?_ (by simp) (hh _) ?_⟩
    · split <;> (try split_ifs) <;> cases e <;> simp [afterPullup, Caller.rank, DataPc.rank]
    cases hp : s.env.read .pullup with
    | none => cases e <;> simp [Caller.rest, DataPc.rest, pullupStep, hp, afterPullup,
        afterPullupWrites]
    | some v =>
      cases e <;> by_cases hv : trim v = k.gadgetName <;>
        simp [Caller.rest, DataPc.rest, pullupStep, hp, hv, afterPullup, afterPullupWrites]
  | pullupWrite v r =>
    simp only [callerStep, dataStep, Io.choice]
    exact ⟨_, rfl, _, .write hi hc hl (by cases e <;> simp [afterPullup, Caller.rank, DataPc.rank])
      (by simp) (hh _) (by cases hw : io.write .pullup <;> cases e <;>
        simp [Caller.rest, DataPc.rest, afterPullup, afterPullupWrites, writeStep, hw,
          Sys.writeBy])⟩
  | idWrite r =>
    simp only [callerStep, dataStep, Io.choice]
    exact ⟨_, rfl, _, .write hi hc hl (by simp [Caller.rank, DataPc.rank]) (by simp) (hh _)
      (by cases hw : io.write .id <;> simp [Caller.rest, DataPc.rest, writeStep, hw, Sys.writeBy])⟩
  | vbusWrite r =>
    simp only [callerStep, dataStep, Io.choice]
    exact ⟨_, rfl, _, .write hi hc hl (by simp [Caller.rank, DataPc.rank]) (by simp) (hh _)
      (by cases hw : io.write .vbus <;> simp [Caller.rest, DataPc.rest, writeStep, hw,
        Sys.writeBy])⟩
  | usbDataWrite r =>
    simp only [callerStep, dataStep, Io.choice]
    exact ⟨_, rfl, _, .write hi hc hl (by simp [Caller.rank, DataPc.rank]) (by simp) (hh _)
      (by cases hw : io.write .usbData <;> simp [Caller.rest, DataPc.rest, usbDataWriteStep,
        writeStep, hw, Sys.writeBy])⟩
  | flagWrite r =>
    simp only [soloLocks_iff, Caller.holds, Bool.false_eq_true, if_false] at hl
    cases r <;>
      simp only [callerStep, dataStep, if_true, Bool.false_eq_true, if_false, Sys.record_eq,
        Sys.setCaller_eq, Option.some.injEq, exists_eq_left', SoloMove,
        List.getElem?_set_self hi] <;>
      refine ⟨by simp [Caller.rank, DataPc.rank, Tail.rank], by simp, .inr ⟨hc, by
        simp [soloLocks_iff, Caller.holds, Tail.holdsLock, hl], ?_⟩⟩ <;>
      simp [Follows, Caller.rest, DataPc.rest, Tail.rest, endCall, dataEnd, Event.sentBy]

theorem switch_solo_step {p : String} {r : PortRole} {t : Int} {pc : SwitchPc}
    (hc : s.crashed = false) (hth : s.callers[i]? = some (.switchRole p r t pc))
    (hl : SoloLocks i (.switchRole p r t pc) s) (hd : pc ≠ .done) (hw : ∀ d, pc ≠ .waiting d)
    (io : Io) :
    ∃ s₁, step k s (.caller i (io.choice s (.switchRole p r t pc))) = some s₁ ∧
      ∃ th₁, SoloMove k io i s s₁ (.switchRole p r t pc) th₁ := by
  have hi : i < s.callers.length := (List.getElem?_eq_some_iff.1 hth).1
  rw [step_caller_of hc hth]
  cases pc <;> simp only [soloLocks_iff, Caller.holds, SwitchPc.holds, Bool.false_eq_true,
    if_false, if_true] at hl
  case done => exact absurd rfl hd
  case waiting d => exact absurd rfl (hw d)
  case notifyLocking rs =>
    simp only [callerStep, switchStep, hl.1, if_true, Sys.deliver_eq, Sys.setCaller_eq,
      Option.some.injEq, exists_eq_left', SoloMove, List.getElem?_set_self hi]
    refine ⟨by simp [Caller.rank, SwitchPc.rank], by simp, .inr ⟨hc, by simp [soloLocks_iff,
      Caller.holds, SwitchPc.holds, hl], ?_⟩⟩
    cases hcb : s.usb.callback <;>
      simp [Follows, Caller.rest, SwitchPc.outcome, Usb.notify, hcb, Event.sentBy]
  case dispatch =>
    simp only [callerStep, switchStep, Io.choice, Sys.setCaller_eq, Option.some.injEq,
      exists_eq_left', SoloMove, List.getElem?_set_self hi]
    cases r <;> by_cases hop : io.opens <;> simp only [hop, if_true, if_false, Bool.false_eq_true] <;>
      refine ⟨by simp [Caller.rank, SwitchPc.rank], by simp, .inr ⟨hc, by
        simp [soloLocks_iff, Caller.holds, SwitchPc.holds, hl], ?_⟩⟩ <;>
      simp [Follows, Caller.rest, SwitchPc.outcome, hop]
  case woken err =>
    simp only [callerStep, switchStep, hl.2.2, if_true, Sys.setCaller_eq, Option.some.injEq,
      exists_eq_left', SoloMove, List.getElem?_set_self hi]
    by_cases he : err = etimedout <;> cases hu : s.partnerUp <;>
      simp only [he, hu, if_true, if_false, Bool.false_eq_true] <;>
      refine ⟨by simp [Caller.rank, SwitchPc.rank, he], by simp, .inr ⟨hc, by
        simp [soloLocks_iff, Caller.holds, SwitchPc.holds, hl], ?_⟩⟩ <;>
      simp [Follows, Caller.rest, SwitchPc.outcome, he, hu]
  case roleWrite =>
    simp only [callerStep, switchStep, Io.choice, Sys.record_eq, Sys.setCaller_eq,
      Option.some.injEq, exists_eq_left', SoloMove, List.getElem?_set_self hi]
    exact ⟨by simp [Caller.rank, SwitchPc.rank], by simp, .inr ⟨hc, by simp [soloLocks_iff,
      Caller.holds, SwitchPc.holds, hl], by simp [Follows, Caller.rest, SwitchPc.outcome,
      Event.sentBy]⟩⟩
  case roleRead ret =>
    simp only [callerStep, switchStep, Sys.setCaller_eq, Option.some.injEq, exists_eq_left',
      SoloMove, List.getElem?_set_self hi]
    exact ⟨by simp [Caller.rank, SwitchPc.rank], by simp, .inr ⟨hc, by simp [soloLocks_iff,
      Caller.holds, SwitchPc.holds, hl], rfl, rfl, rfl⟩⟩
  case partnerUnlock rs =>
    simp only [callerStep, switchStep, Sys.setCaller_eq, Option.some.injEq, exists_eq_left',
      SoloMove, List.getElem?_set_self hi]
    cases rs <;> simp only [if_true, if_false, Bool.false_eq_true] <;>
      exact ⟨by simp [Caller.rank, SwitchPc.rank], by simp, .inr ⟨hc, by simp [soloLocks_iff,
        Caller.holds, SwitchPc.holds, hl], by simp [Follows, Caller.rest, SwitchPc.outcome]⟩⟩
  all_goals
    simp only [callerStep, switchStep, Io.choice, hl.1, hl.2.1, hl.2.2, if_true, Sys.record_eq,
      Sys.setCaller_eq, Option.some.injEq, exists_eq_left', SoloMove, List.getElem?_set_self hi]
    refine ⟨by (try split_ifs) <;> simp [Caller.rank, SwitchPc.rank], by simp, .inr ⟨hc, ?_, ?_⟩⟩
  all_goals (try split_ifs) <;> simp [soloLocks_iff, Caller.holds, SwitchPc.holds, hl, Follows,
    Caller.rest, SwitchPc.outcome, Event.sentBy]

/-- A wait alone ends at its deadline: the clock reaches it and the call times out. -/
theorem wait_solo_step {p : String} {r : PortRole} {t : Int} {d : Nat} (hc : s.crashed = false)
    (hth : s.callers[i]? = some (.switchRole p r t (.waiting d)))
    (hl : SoloLocks i (.switchRole p r t (.waiting d)) s) (io : Io) :
    ∃ s₁, Solo k i s s₁ ∧ ∃ th₁, SoloMove k io i s s₁ (.switchRole p r t (.waiting d)) th₁ := by
  have hi : i < s.callers.length := (List.getElem?_eq_some_iff.1 hth).1
  have hstep : step k { s with now := s.now + (d - s.now) } (.caller i ⟨false, 0, 0⟩) =
      some ({ s with now := s.now + (d - s.now) }.setCaller i
        (.switchRole p r t (.woken etimedout))) := by
    simp [UsbHal.step, hc, hth, callerStep, switchStep, show d ≤ s.now + (d - s.now) by omega]
  refine ⟨_, (Solo.ticks hc _).trans (Solo.step hstep), .switchRole p r t (.woken etimedout), ?_⟩
  simp only [soloLocks_iff, Caller.holds, SwitchPc.holds, Bool.false_eq_true, if_false,
    if_true] at hl
  exact ⟨by simp [List.getElem?_set_self hi], by simp [Caller.rank, SwitchPc.rank], by simp,
    .inr ⟨hc, by simp [soloLocks_iff, Caller.holds, SwitchPc.holds, hl], by
      simp [Follows, Caller.rest, SwitchPc.outcome]⟩⟩

/-- Every step of a call alone, until it returns, moves as `SoloMove` says. -/
theorem solo_step {th : Caller} (hc : s.crashed = false) (hth : s.callers[i]? = some th)
    (hl : SoloLocks i th s) (hcb : ∀ cb pc, th ≠ .setCallback cb pc) (hr : th.returned = false)
    (io : Io) : ∃ s₁, Solo k i s s₁ ∧ ∃ th₁, SoloMove k io i s s₁ th th₁ := by
  cases th with
  | switchRole p r t pc =>
    by_cases hw : ∃ d, pc = .waiting d
    · obtain ⟨d, rfl⟩ := hw
      exact wait_solo_step hc hth hl io
    · obtain ⟨s₁, h, hm⟩ := switch_solo_step hc hth hl
        (by rintro rfl; simp [Caller.returned] at hr) (fun d h => hw ⟨d, h⟩) io
      exact ⟨s₁, .step h, hm⟩
  | setCallback cb pc => exact absurd rfl (hcb cb pc)
  | enableUsbData =>
    obtain ⟨s₁, h, hm⟩ := data_solo_step hc hth hl io
    exact ⟨s₁, .step h, hm⟩
  | method =>
    obtain ⟨s₁, h, hm⟩ := method_solo_step hc hth hl io
    exact ⟨s₁, .step h, hm⟩
  | tail tl =>
    obtain ⟨s₁, h, hm⟩ := tail_solo_step hc hth hl (by rintro rfl; simp [Caller.returned] at hr) io
    exact ⟨s₁, .step h, hm⟩

end Step

theorem Ends.of_follows {i : Nat} {r r₁ : Reply} {s s₁ s' : Sys}
    (hf : Follows i r r₁ s.log s₁.log) (he : Ends i r₁ s₁ s') : Ends i r s s' where
  sent := by rw [he.sent, hf.1]
  env := by rw [he.env, hf.2.1]
  next := by rw [← hf.2.2]; exact he.next
  returned := he.returned

theorem Caller.rest_of_returned {k : Consts} {io : Io} {s : Sys} {th : Caller}
    (h : th.returned = true) : th.rest k io s = ⟨[], s.env, .ok s.usb⟩ := by
  unfold Caller.returned at h
  split at h <;> first | rfl | cases h

theorem Ends.of_returned {k : Consts} {io : Io} {i : Nat} {s : Sys} {th : Caller}
    (hc : s.crashed = false) (hth : s.callers[i]? = some th) (hl : SoloLocks i th s)
    (hr : th.returned = true) : Ends i (th.rest k io s) s s := by
  rw [Caller.rest_of_returned hr]
  exact ⟨by simp, rfl, .inr ⟨hc, rfl⟩, fun _ =>
    ⟨fun m => by simp [hl m, Caller.holds_of_returned hr m], th, hth, hr⟩⟩

/-- From any point, the call alone returns, or ends the process, as what is left of it says. -/
theorem solo_ends {k : Consts} {i : Nat} (io : Io) :
    ∀ (n : Nat) {s : Sys} {th : Caller}, th.rank < n → s.crashed = false →
      s.callers[i]? = some th → SoloLocks i th s → (∀ cb pc, th ≠ .setCallback cb pc) →
      ∃ s', Solo k i s s' ∧ Ends i (th.rest k io s) s s'
  | 0, _, _, hn, _, _, _, _ => absurd hn (Nat.not_lt_zero _)
  | n + 1, s, th, hn, hc, hth, hl, hcb => by
    cases hr : th.returned
    · obtain ⟨s₁, hs, th₁, hth₁, hrank, hcb₁, hm⟩ := solo_step hc hth hl hcb hr io
      rcases hm with ⟨-, he⟩ | ⟨hc₁, hl₁, hf⟩
      · exact ⟨s₁, hs, he⟩
      · obtain ⟨s', hs', he⟩ := solo_ends io n (by omega) hc₁ hth₁ hl₁ hcb₁
        exact ⟨s', hs.trans hs', he.of_follows hf⟩
    · exact ⟨s, .refl s, .of_returned hc hth hl hr⟩

/-- The reply `Ops` computes for a call; `setCallback` is not modelled there. -/
def Call.reply (k : Consts) (u : Usb) (env : Env) (io : Io) : Call → Option Reply
  | .switchRole p r t => some (UsbHal.switchRole u env io p r t)
  | .setCallback _ => none
  | .enableUsbData p e t => some (UsbHal.enableUsbData k u env io p e t)
  | .enableUsbDataWhileDocked p t => some (UsbHal.enableUsbDataWhileDocked u env io p t)
  | .resetUsbPort p t => some (UsbHal.resetUsbPort u env io p t)
  | .limitPowerTransfer p l t => some (UsbHal.limitPowerTransfer u env io p l t)
  | .queryPortStatus t => some (UsbHal.queryPortStatus u env t)
  | .enableContaminantPresenceDetection p e t =>
    some (UsbHal.enableContaminantPresenceDetection u env io p e t)

/-- What `Io` must say for the call to run alone on `env`: the read-back of a role write is the
node's contents, and a mode switch is not confirmed, since no partner arrives. -/
def Io.Fits (io : Io) (env : Env) : Call → Prop
  | .switchRole _ (.mode _) _ => io.confirmed = false
  | .switchRole p r _ => io.readBack = env.typecRead p (roleNodeFile r)
  | _ => True

theorem Call.rest_start {k : Consts} {s : Sys} {io : Io} {c : Call} {r : Reply}
    (hr : c.reply k s.usb s.env io = some r) (hio : io.Fits s.env c) :
    c.start.rest k io s = r := by
  cases c <;> simp only [Call.reply, Option.some.injEq, reduceCtorEq] at hr <;> subst hr
  case switchRole p role t =>
    cases role <;> simp only [Io.Fits] at hio <;>
      simp only [Call.start, Caller.rest, SwitchPc.outcome, UsbHal.switchRole, modeSwitched,
        roleWriteConfirmed, hio, Bool.and_assoc, Bool.and_false] <;> rfl
  all_goals rfl

/-- The machine refines the one-call model. From a state where no thread holds a mutex, the
`i`-th call run alone (with the clock) returns having delivered the notifications `Ops` sends,
left the nodes and returned with the members `Ops` computes, or ended the process where `Ops`
faults. -/
theorem solo_refines {k : Consts} {s : Sys} {i : Nat} {c : Call} {io : Io} {r : Reply}
    (hr : c.reply k s.usb s.env io = some r) (hio : io.Fits s.env c) (hc : s.crashed = false)
    (hth : s.callers[i]? = some c.start) (hfree : ∀ m, s.mutex m = none) :
    ∃ s', Solo k i s s' ∧ Ends i r s s' := by
  have hcb : ∀ cb pc, c.start ≠ .setCallback cb pc := by
    intro cb pc h
    cases c <;> simp [Call.start] at h
    simp [Call.reply] at hr
  rw [← Call.rest_start hr hio]
  exact solo_ends io _ (Nat.lt_succ_self _) hc hth
    (fun m => by simp [hfree m, Call.start_holds]) hcb

def writesSucceed : Io := ⟨fun _ => true, true, 0, 0, none, false⟩

theorem disable_alone_refines :
    ∃ s', Solo udcConsts 0 (.init enabledNodes [.enableUsbData "port0" false 5]) s' ∧
      Ends 0 (UsbHal.enableUsbData udcConsts Usb.init enabledNodes writesSucceed "port0" false 5)
        (.init enabledNodes [.enableUsbData "port0" false 5]) s' :=
  @solo_refines udcConsts _ 0 (.enableUsbData "port0" false 5) writesSucceed _ rfl trivial rfl rfl
    (fun m => by cases m <;> rfl)

end UsbHal
