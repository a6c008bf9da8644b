import UsbHal.Hub
import Mathlib.Tactic.IntervalCases

/-!
# The hub vendor command

`handleShellCommand` reads back every pair written as its usage text asks, in hex with `0x`
(`handleShellCommand_hex`). Every transfer of a run is the GL852G vendor command to a device
`usbDeviceAdded` tuned, with the default value or an accepted command's, and the default index
or an accepted command's (`vendorCmd_provenance`): `Hub.From` holds initially and each step
keeps it.

The value and the index need not come from the same command: interleaved, the host thread can
send a command's value with the index before it, and two commands can leave the value of one
with the index of the other. When each operation's steps run together the threads send what the
design says, `usbDeviceAdded` with the pair as it stands (`serial_refines_atomic`).
-/

namespace UsbHal

section ParseInt

theorem digitValue_digitChar {d : Nat} (h : d < 16) : digitValue (Nat.digitChar d) = some d := by
  interval_cases d <;> rfl

theorem toDigitsCore_ne_nil (b : Nat) :
    ∀ (fuel n : Nat) (c : Char) (ds : List Char), Nat.toDigitsCore b fuel n (c :: ds) ≠ []
  | 0, _, _, _ => List.cons_ne_nil _ _
  | fuel + 1, n, c, ds => by
    show (if n / b = 0 then Nat.digitChar (n % b) :: c :: ds
      else Nat.toDigitsCore b fuel (n / b) (Nat.digitChar (n % b) :: c :: ds)) ≠ []
    split_ifs
    · exact List.cons_ne_nil _ _
    · exact toDigitsCore_ne_nil b fuel _ _ _

variable {b : Nat} (hb : 2 ≤ b) (hb16 : b ≤ 16)
include hb hb16

theorem digitsFrom_toDigitsCore :
    ∀ (fuel n : Nat) (ds : List Char), n < fuel →
      digitsFrom b 0 (Nat.toDigitsCore b fuel n ds) = digitsFrom b n ds
  | 0, _, _, h => absurd h (Nat.not_lt_zero _)
  | fuel + 1, n, ds, h => by
    have hd : ∀ m, digitsFrom b m (Nat.digitChar (n % b) :: ds) =
        digitsFrom b (b * m + n % b) ds := by
      intro m
      have hlt : n % b < b := Nat.mod_lt n (by omega)
      simp only [digitsFrom, digitValue_digitChar (by omega : n % b < 16), hlt, if_true]
    show digitsFrom b 0 (if n / b = 0 then Nat.digitChar (n % b) :: ds
      else Nat.toDigitsCore b fuel (n / b) (Nat.digitChar (n % b) :: ds)) = _
    split_ifs with hq
    · rw [hd, Nat.mul_zero, Nat.zero_add, Nat.mod_eq_of_lt ((Nat.div_eq_zero_iff (by omega)).1 hq)]
    · have hn : 0 < n := Nat.pos_of_ne_zero (by rintro rfl; exact hq (Nat.zero_div b))
      have : n / b < fuel := by have := Nat.div_lt_self hn (by omega : 1 < b); omega
      rw [digitsFrom_toDigitsCore fuel (n / b) _ this, hd, Nat.div_add_mod]

theorem wholeNumber_toDigits (n : Nat) : wholeNumber b (Nat.toDigits b n) = some n := by
  have hne : Nat.toDigits b n ≠ [] := by
    show (if n / b = 0 then [Nat.digitChar (n % b)]
      else Nat.toDigitsCore b n (n / b) [Nat.digitChar (n % b)]) ≠ []
    split_ifs
    · exact List.cons_ne_nil _ _
    · exact toDigitsCore_ne_nil b _ _ _ _
  rw [wholeNumber, if_neg hne]
  exact digitsFrom_toDigitsCore hb hb16 (n + 1) n [] (Nat.lt_succ_self n)

end ParseInt

theorem parseInt_hex {n : Nat} (h : n < 2 ^ 31) :
    parseInt ("0x" ++ ⟨Nat.toDigits 16 n⟩) = some (n : Int) := by
  show parseInt ⟨'0' :: 'x' :: Nat.toDigits 16 n⟩ = _
  simp [parseInt, isSpace, wholeNumber_toDigits (by decide : 2 ≤ 16) le_rfl n]
  omega

/-- Root or the shell that passes a value and an index below `2^31` in hex, as the usage text
asks, sets exactly them. -/
theorem handleShellCommand_hex {uid : Nat} (hu : uid = aidRoot ∨ uid = aidShell) {v i : Nat}
    (hv : v < 2 ^ 31) (hi : i < 2 ^ 31) (rest : List String) :
    handleShellCommand uid
        ("hub-vendor-cmd" :: ("0x" ++ ⟨Nat.toDigits 16 v⟩) :: ("0x" ++ ⟨Nat.toDigits 16 i⟩) :: rest) =
      ⟨.noError, "", some ((v : Int), (i : Int))⟩ := by
  have hu' : ¬ (uid ≠ aidRoot ∧ uid ≠ aidShell) := fun h => hu.elim h.1 h.2
  simp only [handleShellCommand, if_neg hu', if_true, parseInt_hex hv, parseInt_hex hi]

theorem handleShellCommand_hex_f321 :
    (aidShell = aidRoot ∨ aidShell = aidShell) ∧ 0xf321 < 2 ^ 31 ∧ 0x0404 < 2 ^ 31 ∧
      handleShellCommand aidShell
          ["hub-vendor-cmd", "0x" ++ ⟨Nat.toDigits 16 0xf321⟩, "0x" ++ ⟨Nat.toDigits 16 0x0404⟩] =
        ⟨.noError, "", some (0xf321, 0x0404)⟩ :=
  ⟨.inr rfl, by decide, by decide, handleShellCommand_hex (.inr rfl) (by decide) (by decide) []⟩

namespace Hub

theorem run_append (s : Hub) (l₁ l₂ : List HubAct) :
    s.run (l₁ ++ l₂) = (s.run l₁).bind (·.run l₂) := by
  induction l₁ generalizing s with
  | nil => rfl
  | cons a l₁ ih =>
    show (s.step a).bind (·.run (l₁ ++ l₂)) = ((s.step a).bind (·.run l₁)).bind (·.run l₂)
    simp only [Option.bind_assoc, ih]

end Hub

def HubAct.accepted : HubAct → Option (Int × Int)
  | .shell uid argv => (handleShellCommand uid argv).set
  | _ => none

def HubAct.added? : HubAct → Option Added
  | .added ev => some ev
  | _ => none

def HubAct.rejected (a : HubAct) : Bool :=
  match a with
  | .shell .. => a.accepted.isNone
  | _ => false

theorem Hub.step_rejected {s : Hub} {a : HubAct} (h : a.rejected) : s.step a = some s := by
  cases a <;> simp only [HubAct.rejected, HubAct.accepted, Bool.false_eq_true] at h
  simp [Hub.step, Option.isNone_iff_eq_none.1 h]

/-- A transfer `tuneInternalHub` sends when the values are among `vals`, the indexes among
`idxs` and the added devices among `evs`: the vendor command to a GL852G that `usbDeviceAdded`
tunes. -/
def SentFrom (vals idxs : List Int) (evs : List Added) (t : Transfer) : Prop :=
  ∃ ev ∈ evs, ev.tunes ∧ (∃ d, ev.device = some d ∧ d.isGl852g) ∧
    ∃ v ∈ vals, ∃ i ∈ idxs, t = vendorCmd ev.devname v i

structure Hub.From (vals idxs : List Int) (evs : List Added) (s : Hub) : Prop where
  value : s.value ∈ vals
  index : s.index ∈ idxs
  shells : ∀ i, some i ∈ s.shells → i ∈ idxs
  host : ∀ ev v, s.host = .tuning ev v → ev ∈ evs ∧ ev.tunes ∧ v ∈ vals
  sent : ∀ t ∈ s.sent, SentFrom vals idxs evs t

def HubAct.Within (vals idxs : List Int) (evs : List Added) (a : HubAct) : Prop :=
  (∀ v i, a.accepted = some (v, i) → v ∈ vals ∧ i ∈ idxs) ∧ ∀ ev, a.added? = some ev → ev ∈ evs

section From

variable {vals idxs : List Int} {evs : List Added}

theorem sentFrom_tune {ev : Added} {v i : Int} (he : ev ∈ evs) (ht : ev.tunes) (hv : v ∈ vals)
    (hi : i ∈ idxs) :
    ∀ t ∈ (tuneInternalHub ev.devname ev.device v i).2.toList, SentFrom vals idxs evs t := by
  intro t htl
  cases hd : ev.device with
  | none => simp [tuneInternalHub, hd] at htl
  | some d =>
    by_cases hg : d.isGl852g
    · simp only [tuneInternalHub, hd, hg, if_true, Option.toList_some, List.mem_singleton] at htl
      exact ⟨ev, he, ht, ⟨d, hd, hg⟩, v, hv, i, hi, htl⟩
    · simp [tuneInternalHub, hd, hg] at htl

theorem Hub.From.step {s s' : Hub} {a : HubAct} (hs : s.From vals idxs evs)
    (ha : a.Within vals idxs evs) (h : s.step a = some s') : s'.From vals idxs evs := by
  cases a with
  | hostStart ok =>
    simp only [Hub.step] at h
    split at h <;> cases h
    exact ⟨hs.value, hs.index, hs.shells, (fun ev v hh => by cases ok <;> cases hh), hs.sent⟩
  | added ev =>
    simp only [Hub.step] at h
    split at h <;> cases h
    refine ⟨hs.value, hs.index, hs.shells, fun ev' v hh => ?_, hs.sent⟩
    by_cases ht : ev.tunes
    · simp only [ht, if_true, HostPc.tuning.injEq] at hh
      obtain ⟨rfl, rfl⟩ := hh
      exact ⟨ha.2 ev rfl, ht, hs.value⟩
    · simp [ht] at hh
  | tune =>
    simp only [Hub.step] at h
    split at h <;> cases h
    rename_i ev v hh
    obtain ⟨he, ht, hv⟩ := hs.host ev v hh
    refine ⟨hs.value, hs.index, hs.shells, (fun _ _ hh => by cases hh), fun t ht' => ?_⟩
    rcases List.mem_append.1 ht' with ht' | ht'
    · exact hs.sent t ht'
    · exact sentFrom_tune he ht hv hs.index t ht'
  | shell uid argv =>
    simp only [Hub.step] at h
    split at h <;> cases h
    · rename_i v i hc
      obtain ⟨hv, hi⟩ := ha.1 v i hc
      refine ⟨hv, hs.index, fun i' hi' => ?_, hs.host, hs.sent⟩
      rcases List.mem_append.1 hi' with hi' | hi'
      · exact hs.shells i' hi'
      · simp only [List.mem_singleton, Option.some.injEq] at hi'
        exact hi' ▸ hi
    · exact hs
  | store j =>
    simp only [Hub.step] at h
    split at h <;> cases h
    rename_i i hj
    refine ⟨hs.value, hs.shells i (List.getElem?_mem hj), fun i' hi' => ?_, hs.host, hs.sent⟩
    rcases List.mem_or_eq_of_mem_set hi' with hi' | hi'
    · exact hs.shells i' hi'
    · cases hi'

theorem Hub.From.run {s s' : Hub} {acts : List HubAct} (hs : s.From vals idxs evs)
    (ha : ∀ a ∈ acts, a.Within vals idxs evs) (h : s.run acts = some s') :
    s'.From vals idxs evs := by
  induction acts generalizing s with
  | nil => cases h; exact hs
  | cons a acts ih =>
    obtain ⟨s₁, h₁, h⟩ := Option.bind_eq_some.1 h
    exact ih (hs.step (ha a (List.mem_cons_self _ _)) h₁)
      (fun b hb => ha b (List.mem_cons_of_mem _ hb)) h

end From

/-- Every transfer of a run from the constructor's state is the vendor command to a GL852G that
`usbDeviceAdded` tuned, with the default value or one an accepted shell command stored, and the
default index or one an accepted shell command stored. -/
theorem vendorCmd_provenance {acts : List HubAct} {s : Hub} (h : Hub.init.run acts = some s) :
    ∀ t ∈ s.sent,
      SentFrom (gl852gVendorCmdValueDefault :: (acts.filterMap HubAct.accepted).map Prod.fst)
        (gl852gVendorCmdIndexDefault :: (acts.filterMap HubAct.accepted).map Prod.snd)
        (acts.filterMap HubAct.added?) t := by
  refine (Hub.From.run ⟨List.mem_cons_self _ _, List.mem_cons_self _ _, (fun _ hi => by cases hi),
    (fun _ _ hh => by cases hh), (fun _ ht => by cases ht)⟩
    (fun a ha => ⟨fun v i hc => ?_, fun ev he => ?_⟩) h).sent
  · have hm : (v, i) ∈ acts.filterMap HubAct.accepted := List.mem_filterMap.2 ⟨a, ha, hc⟩
    exact ⟨List.mem_cons_of_mem _ (List.mem_map_of_mem Prod.fst hm),
      List.mem_cons_of_mem _ (List.mem_map_of_mem Prod.snd hm)⟩
  · exact List.mem_filterMap.2 ⟨a, ha, he⟩

def dockHub : Added :=
  ⟨"/dev/bus/usb/001/002", some "1\n", some "2\n", 1002, some ⟨0x05e3, 0x0610⟩⟩

/-- The shell's command stores its value and the host thread sends it with the default index;
root's command then stores its value and index before the shell's index lands, and the next
transfer sends root's value with the shell's index. -/
def tornThenMixed : List HubAct :=
  [.hostStart true, .shell aidShell ["hub-vendor-cmd", "0xf321", "0x0606"], .added dockHub, .tune,
    .shell aidRoot ["hub-vendor-cmd", "0x10", "0x505"], .store 1, .store 0, .added dockHub, .tune]

theorem vendorCmd_provenance_tornThenMixed :
    Hub.init.run tornThenMixed = some ⟨0x10, 0x0606, [none, none], .idle,
        [vendorCmd dockHub.devname 0xf321 0x0404, vendorCmd dockHub.devname 0x10 0x0606]⟩ ∧
      ∀ t ∈ [vendorCmd dockHub.devname 0xf321 0x0404, vendorCmd dockHub.devname 0x10 0x0606],
        SentFrom (gl852gVendorCmdValueDefault ::
            (tornThenMixed.filterMap HubAct.accepted).map Prod.fst)
          (gl852gVendorCmdIndexDefault :: (tornThenMixed.filterMap HubAct.accepted).map Prod.snd)
          (tornThenMixed.filterMap HubAct.added?) t :=
  ⟨rfl, @vendorCmd_provenance tornThenMixed ⟨0x10, 0x0606, [none, none], .idle,
    [vendorCmd dockHub.devname 0xf321 0x0404, vendorCmd dockHub.devname 0x10 0x0606]⟩ rfl⟩

/-- What the hub does as its design reads: a shell command sets both members at once, and an added
device gets `usbDeviceAdded` with the pair as it stands. -/
inductive HubOp
  | added (ev : Added)
  | shell (uid : Nat) (argv : List String)
  deriving DecidableEq, Repr

def HubOp.accepted : HubOp → Option (Int × Int)
  | .shell uid argv => (handleShellCommand uid argv).set
  | .added _ => none

def atomic (p : Int × Int) : List HubOp → (Int × Int) × List Transfer
  | [] => (p, [])
  | .added ev :: ops =>
    let r := atomic p ops
    (r.1, (usbDeviceAdded ev p.1 p.2).toList ++ r.2)
  | .shell uid argv :: ops => atomic ((handleShellCommand uid argv).set.getD p) ops

/-- The schedule that runs each operation's steps together: the host thread tunes an added device
before any other thread steps, and a shell command stores its index right after its value. `n`
is the slot of the next shell thread. -/
def serial : Nat → List HubOp → List HubAct
  | _, [] => []
  | n, .added ev :: ops => (.added ev :: if ev.tunes then [.tune] else []) ++ serial n ops
  | n, .shell uid argv :: ops =>
    match (handleShellCommand uid argv).set with
    | some _ => .shell uid argv :: .store n :: serial (n + 1) ops
    | none => .shell uid argv :: serial n ops

theorem Hub.run_added {s : Hub} (hh : s.host = .idle) (ev : Added) :
    s.run (.added ev :: if ev.tunes then [.tune] else []) =
      some { s with sent := s.sent ++ (usbDeviceAdded ev s.value s.index).toList } := by
  by_cases ht : ev.tunes <;> simp [Hub.run, Hub.step, hh, ht, usbDeviceAdded]

/-- Run one operation at a time, the threads send what `atomic` says, and each shell thread has
returned. -/
theorem serial_refines_atomic {s : Hub} (hh : s.host = .idle) (ops : List HubOp) :
    s.run (serial s.shells.length ops) = some { s with
      value := (atomic (s.value, s.index) ops).1.1
      index := (atomic (s.value, s.index) ops).1.2
      shells := s.shells ++ List.replicate (ops.filterMap HubOp.accepted).length none
      sent := s.sent ++ (atomic (s.value, s.index) ops).2 } := by
  induction ops generalizing s with
  | nil => simp [serial, atomic, Hub.run]
  | cons op ops ih =>
    cases op with
    | added ev =>
      rw [serial, Hub.run_append, Hub.run_added hh, Option.some_bind]
      refine (@ih { s with sent := s.sent ++ (usbDeviceAdded ev s.value s.index).toList } hh).trans ?_
      simp [atomic, HubOp.accepted]
    | shell uid argv =>
      cases hc : (handleShellCommand uid argv).set with
      | none => simp [serial, hc, Hub.run, Hub.step, ih hh, atomic, HubOp.accepted]
      | some p =>
        have ih' := @ih { s with value := p.1, index := p.2, shells := s.shells ++ [none] } hh
        simp only [List.length_append, List.length_singleton] at ih'
        simp [serial, hc, Hub.run, Hub.step, ih', atomic, HubOp.accepted, List.replicate_succ]

def idleHub : Hub := { Hub.init with host := .idle }

def setThenTune : List HubOp :=
  [.shell aidShell ["hub-vendor-cmd", "0xf321", "0x0606"], .added dockHub]

theorem serial_refines_atomic_setThenTune :
    idleHub.host = .idle ∧ idleHub.run (serial idleHub.shells.length setThenTune) =
      some ⟨0xf321, 0x0606, [none], .idle, [vendorCmd dockHub.devname 0xf321 0x0606]⟩ :=
  ⟨rfl, serial_refines_atomic rfl setThenTune⟩

end UsbHal
