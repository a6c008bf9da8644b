import UsbHal.Proofs.DataFlag
import UsbHal.Proofs.Locks
import UsbHal.Proofs.Notify

/-!
# The memoized i2c client

`mI2cClientPath` is a memo: `limitPowerTransfer`, `queryMoistureDetectionStatus` and
`queryPowerTransferStatus` look the tcpc client up only while it is empty (`Usb.lookupI2c`), and
`queryMoistureDetectionStatus` sets the global `enabledPath` from it.

`limitPowerTransfer` checks the member, calls `getI2cClientPath` and assigns what it found
outside any mutex. Two calls may both see the member empty, and the later assignment then
overwrites the earlier one with what its own call returned; a query in between may already
have set `enabledPath` from the first. So the memo is one only while `getI2cClientPath` returns
one client `L`, that is while no kernel change moves it (`Act.keepsLookup`), and the theorems
here are read over the runs from the constructor that keep it.

Over such a run, however the calls, `mPoll` and the kernel interleave, once the client is found
it never changes (`i2cClientPath_stable`). In every state such a run reaches, `enabledPath` is
unset or names the found client's `contaminant_detection`, so
`enableContaminantPresenceDetection` writes nowhere else; and a `limitPowerTransfer` past its
paths writes the nodes of the client every query reads (`memo_of_reachable`). Each step moves
the members as `Usb.Evolves` says (`step_evolves`), and a call holds of the client what
`Caller.Fits` says (`callerStep_fits`).
-/

namespace UsbHal

/-- `enableUsbData`'s `enabledPath` is unset, or is `contaminant_detection` of the found client. -/
def Usb.Memo (u : Usb) : Prop :=
  u.enabledPath = .empty ∨
    u.i2cClientPath ≠ "" ∧ u.enabledPath = .i2c u.i2cClientPath "contaminant_detection"

/-- How the members may move while `getI2cClientPath` returns `L`: the client stays, or an unset
one becomes `L`; and the memo stays consistent. -/
def Usb.Evolves (L : String) (u u' : Usb) : Prop :=
  (u'.i2cClientPath = u.i2cClientPath ∨ u.i2cClientPath = "" ∧ u'.i2cClientPath = L) ∧
    (u.Memo → u'.Memo)

/-- The step leaves what `getI2cClientPath` returns at `L`: any step but a kernel change of it. -/
def Act.keepsLookup (L : String) : Act → Bool
  | .kernel env => env.i2cLookup == L
  | _ => true

section Evolves

variable {L : String} {u u' u'' : Usb}

theorem Usb.Evolves.refl (L : String) (u : Usb) : u.Evolves L u := ⟨.inl rfl, id⟩

theorem Usb.Evolves.trans (h : u.Evolves L u') (h' : u'.Evolves L u'') : u.Evolves L u'' := by
  refine ⟨?_, h'.2 ∘ h.2⟩
  rcases h.1 with e₁ | ⟨e₁, e₂⟩ <;> rcases h'.1 with e₃ | ⟨e₃, e₄⟩
  · exact .inl (e₃.trans e₁)
  · exact .inr ⟨e₁.symm.trans e₃, e₄⟩
  · exact .inr ⟨e₁, e₃.trans e₂⟩
  · exact .inr ⟨e₁, e₄⟩

theorem Usb.Evolves.stays (h : u.Evolves L u') (hp : u.i2cClientPath ≠ "") :
    u'.i2cClientPath = u.i2cClientPath :=
  h.1.resolve_right fun e => hp e.1

theorem Usb.Evolves.of_paths (hp : u'.i2cClientPath = u.i2cClientPath)
    (he : u'.enabledPath = u.enabledPath) : u.Evolves L u' :=
  ⟨.inl hp, fun h => by unfold Usb.Memo at *; rwa [hp, he]⟩

/-- `mI2cClientPath = getI2cClientPath(...)` over a member that is unset or already `L`. -/
theorem Usb.evolves_assign (hm : u.i2cClientPath = "" ∨ u.i2cClientPath = L) :
    u.Evolves L { u with i2cClientPath := L } := by
  rcases hm with h | h
  · refine ⟨.inr ⟨h, rfl⟩, fun hm => .inl ?_⟩
    rcases hm with he | ⟨hp, -⟩
    · exact he
    · exact absurd h hp
  · subst h
    exact .refl _ u

theorem Usb.lookupI2c_evolves (u : Usb) (env : Env) : u.Evolves env.i2cLookup (u.lookupI2c env) := by
  unfold Usb.lookupI2c
  split_ifs with h
  · exact Usb.evolves_assign (.inl h)
  · exact .refl _ u

theorem Usb.evolves_contaminant (hp : u.i2cClientPath ≠ "") :
    u.Evolves L { u with enabledPath := .i2c u.i2cClientPath "contaminant_detection" } :=
  ⟨.inl rfl, fun _ => .inr ⟨hp, rfl⟩⟩

theorem queryMoistureDetectionStatus_evolves {env : Env} {v v' : List PortStatus} {st : Status}
    (h : queryMoistureDetectionStatus u env v = .ok (st, u', v')) : u.Evolves env.i2cLookup u' := by
  obtain ⟨w, -, h⟩ := Except.bind_eq_ok.1 h
  have hl := u.lookupI2c_evolves env
  dsimp only at h
  split_ifs at h with hp
  · cases h
    exact hl
  · have hc := hl.trans (Usb.evolves_contaminant hp)
    split at h
    · cases h
      exact hc
    · split_ifs at h
      · split at h
        · cases h
          exact hc
        · obtain ⟨_, -, h⟩ := Except.map_eq_ok.1 h
          cases h
          exact hc
      · cases h
        exact hc

theorem queryPowerTransferStatus_evolves {env : Env} {v v' : List PortStatus} {st : Status}
    (h : queryPowerTransferStatus u env v = .ok (st, u', v')) : u.Evolves env.i2cLookup u' := by
  have hl := u.lookupI2c_evolves env
  unfold queryPowerTransferStatus at h
  dsimp only at h
  split_ifs at h
  · cases h
    exact hl
  · split at h
    · cases h
      exact hl
    · obtain ⟨_, -, h⟩ := Except.map_eq_ok.1 h
      cases h
      exact hl

theorem queryVersionHelper_evolves {env : Env} {q : Query} (h : queryVersionHelper u env = .ok q) :
    u.Evolves env.i2cLookup q.usb := by
  obtain ⟨⟨st, v⟩, -, h⟩ := Except.bind_eq_ok.1 h
  obtain ⟨⟨st1, u1, v1⟩, h1, h⟩ := Except.bind_eq_ok.1 h
  obtain ⟨⟨st2, u2, v2⟩, h2, h⟩ := Except.bind_eq_ok.1 h
  obtain ⟨v3, -, h⟩ := Except.bind_eq_ok.1 h
  cases h
  exact (queryMoistureDetectionStatus_evolves h1).trans (queryPowerTransferStatus_evolves h2)

end Evolves

def MethodPc.client? : MethodPc → Option String
  | .limitLocking _ _ _ cl | .limitCurrent _ _ _ cl | .limitSink _ _ _ cl _
  | .limitSource _ _ _ cl _ => some cl
  | _ => none

def Caller.client? : Caller → Option String
  | .method pc => pc.client?
  | _ => none

/-- What a `limitPowerTransfer` at `pc` knows of the client while `getI2cClientPath` returns `L`:
about to assign, it found `L`; about to build its paths, the member is set; past them, it holds
the member. -/
def MethodPc.Fits (L : String) (u : Usb) : MethodPc → Prop
  | .limitAssign _ _ _ found => found = L
  | .limitPaths .. => u.i2cClientPath ≠ ""
  | pc => ∀ cl, pc.client? = some cl → cl = u.i2cClientPath ∧ cl ≠ ""

def Caller.Fits (L : String) (u : Usb) : Caller → Prop
  | .method pc => pc.Fits L u
  | _ => True

section Fits

variable {L : String} {u u' : Usb} {th : Caller}

theorem Caller.Fits.client {cl : String} (hf : th.Fits L u) (hc : th.client? = some cl) :
    cl = u.i2cClientPath ∧ cl ≠ "" := by
  rcases th with _ | _ | _ | pc | _ <;> try cases hc
  cases pc <;> first | exact hf cl hc | cases hc

theorem Caller.Fits.of_stays (hf : th.Fits L u)
    (hs : u.i2cClientPath ≠ "" → u'.i2cClientPath = u.i2cClientPath) : th.Fits L u' := by
  rcases th with _ | _ | _ | pc | _ <;> try trivial
  cases pc
  case limitAssign => exact hf
  case limitPaths => exact fun e => hf ((hs hf).symm.trans e)
  all_goals
    intro cl hc
    obtain ⟨rfl, hne⟩ := hf cl hc
    exact ⟨(hs hne).symm, hne⟩

theorem Caller.fits_wakeWaiter : (wakeWaiter th).Fits L u ↔ th.Fits L u := by
  unfold wakeWaiter
  split <;> exact Iff.rfl

end Fits

section Steps

variable {k : Consts} {s s' : Sys}

@[simp] theorem Sys.writeBy_i2cLookup (s : Sys) (i : Nat) (ok : Bool) (n : Node) (v : String) :
    (s.writeBy i ok n v).env.i2cLookup = s.env.i2cLookup := by
  unfold Sys.writeBy
  split <;> rfl

/-- A step keeps what `getI2cClientPath` returns, and moves the members as `Usb.Evolves` says
under it. -/
def Sys.KeepsLookup (s s' : Sys) : Prop :=
  s'.env.i2cLookup = s.env.i2cLookup ∧ s.usb.Evolves s.env.i2cLookup s'.usb

theorem Sys.KeepsLookup.of_paths (he : s'.env.i2cLookup = s.env.i2cLookup)
    (hp : s'.usb.i2cClientPath = s.usb.i2cClientPath) (hq : s'.usb.enabledPath = s.usb.enabledPath) :
    s.KeepsLookup s' :=
  ⟨he, .of_paths hp hq⟩

theorem Sys.KeepsLookup.congr {s'' : Sys} (h : s.KeepsLookup s'') (he : s'.env = s''.env)
    (hu : s'.usb = s''.usb) : s.KeepsLookup s' := by
  rwa [Sys.KeepsLookup, he, hu]

theorem Sys.query_keepsLookup {w : Who} {ports : List String} (h : s.query w = some (s', ports)) :
    s.KeepsLookup s' := by
  unfold Sys.query at h
  split_ifs at h
  split at h
  · cases h
    exact ⟨by simp, by simpa using queryVersionHelper_evolves ‹_›⟩
  · cases h
    exact ⟨rfl, .refl _ _⟩

theorem callerStep_keepsLookup {i : Nat} {th : Caller} {c : Choice}
    (hf : th.Fits s.env.i2cLookup s.usb)
    (hm : s.usb.i2cClientPath = "" ∨ s.usb.i2cClientPath = s.env.i2cLookup)
    (h : callerStep k s i th c = some s') : s.KeepsLookup s' := by
  cases th with
  | switchRole _ _ _ pc =>
    cases pc <;> simp only [callerStep, switchStep, Sys.setCaller_eq, Sys.record_eq,
      Sys.deliver_eq] at h <;> (try split_ifs at h) <;> cases h <;> exact .of_paths rfl rfl rfl
  | setCallback cb pc =>
    cases pc <;> simp only [callerStep, setterStep, Sys.setCaller_eq] at h <;>
      (try split_ifs at h) <;> cases h <;> exact .of_paths rfl rfl rfl
  | enableUsbData p e t pc =>
    cases pc <;> simp only [callerStep, dataStep, Sys.setCaller_eq, Sys.record_eq] at h <;>
      (try split_ifs at h) <;> cases h <;> exact .of_paths (by simp) (by simp) (by simp)
  | method pc =>
    cases pc with
    | limitAssign p l t found =>
      cases h
      obtain rfl : found = s.env.i2cLookup := hf
      exact ⟨rfl, Usb.evolves_assign hm⟩
    | portQuery =>
      obtain ⟨⟨s'', ports⟩, hq, rfl⟩ := Option.map_eq_some'.1 h
      exact (Sys.query_keepsLookup hq).congr rfl rfl
    | _ =>
      simp only [callerStep, methodStep, Sys.setCaller_eq, Sys.deliver_eq] at h
      (try split_ifs at h) <;> cases h <;> exact .of_paths (by simp) (by simp) (by simp)
  | tail tl =>
    obtain ⟨he, -⟩ := tailStep_data (by exact h)
    cases tl with
    | queryLocking =>
      obtain ⟨⟨s'', ports⟩, hq, rfl⟩ := Option.map_eq_some'.1 h
      exact (Sys.query_keepsLookup hq).congr rfl rfl
    | _ =>
      simp only [callerStep, tailStep, Sys.setCaller_eq, Sys.deliver_eq] at h
      (try split_ifs at h) <;> cases h <;> exact .of_paths rfl rfl rfl

theorem reactorStep_keepsLookup {c : Choice} (h : reactorStep k s c = some s') : s.KeepsLookup s' := by
  cases hr : s.reactor with
  | queryLocking =>
    simp only [reactorStep, hr] at h
    obtain ⟨⟨s'', ports⟩, hq, rfl⟩ := Option.map_eq_some'.1 h
    exact (Sys.query_keepsLookup hq).congr rfl rfl
  | scan lines => obtain ⟨r, rfl, -⟩ | rfl := reactorStep_scan hr h <;> exact .of_paths rfl rfl rfl
  | reconcile ports =>
    cases ports <;> simp only [reactorStep, hr, Sys.record_eq] at h <;> cases h <;>
      (try split) <;> exact .of_paths rfl rfl rfl
  | _ =>
    simp only [reactorStep, hr, Sys.record_eq] at h
    (try split at h) <;> (try split_ifs at h) <;> cases h <;> exact .of_paths rfl rfl rfl

/-- A call takes its next program counter knowing of the client what `Caller.Fits` says: it
assigns what the lookup returned, builds its paths only from a set member and holds the member
it built them from. -/
theorem callerStep_fits {j : Nat} {th : Caller} {c : Choice} (hf : th.Fits s.env.i2cLookup s.usb)
    (h : callerStep k s j th c = some s') :
    ∃ th', s'.callers = s.callers.set j th' ∧ th'.Fits s.env.i2cLookup s.usb := by
  cases th with
  | switchRole =>
    obtain ⟨pc', hs, -⟩ := switchStep_moves h
    exact ⟨_, hs, trivial⟩
  | setCallback =>
    obtain ⟨pc', hs, -⟩ := setterStep_moves h
    exact ⟨_, hs, trivial⟩
  | enableUsbData =>
    obtain ⟨c', hs, hc', -⟩ := dataStep_moves h
    rcases hc' with ⟨_, rfl⟩ | ⟨_, rfl⟩ <;> exact ⟨_, hs, trivial⟩
  | tail =>
    obtain ⟨t', hs, -⟩ := tailStep_moves h
    exact ⟨_, hs, trivial⟩
  | method pc =>
    cases pc with
    | portQuery t =>
      obtain ⟨⟨s'', ports⟩, hq, rfl⟩ := Option.map_eq_some'.1 h
      exact ⟨.method (.portQueried t), by simp [Sys.query_callers hq], fun _ h => by cases h⟩
    | _ =>
      simp only [callerStep, methodStep, Sys.setCaller_eq, Sys.deliver_eq, Sys.writeBy,
        Sys.record_eq] at h
      (try split_ifs at h) <;> cases h <;> refine ⟨_, rfl, ?_⟩ <;>
        simp_all [Caller.Fits, MethodPc.Fits, MethodPc.client?] <;> exact hf.1 ▸ hf.2

theorem step_keepsLookup {a : Act}
    (hf : ∀ (i : Nat) (th : Caller), s.callers[i]? = some th → th.Fits s.env.i2cLookup s.usb)
    (hm : s.usb.i2cClientPath = "" ∨ s.usb.i2cClientPath = s.env.i2cLookup)
    (hk : a.keepsLookup s.env.i2cLookup) (h : step k s a = some s') : s.KeepsLookup s' := by
  cases a with
  | caller i c =>
    obtain ⟨th, hth, h⟩ := step_caller_eq h
    exact callerStep_keepsLookup (hf i th hth) hm h
  | reactor c => exact reactorStep_keepsLookup (step_reactor_eq h)
  | kernel env =>
    simp only [UsbHal.step] at h
    split_ifs at h
    cases h
    exact ⟨beq_iff_eq.1 hk, .refl _ _⟩
  | _ =>
    simp only [UsbHal.step] at h
    split_ifs at h <;> cases h <;> exact .of_paths rfl rfl rfl

end Steps

/-- The memo is consistent, the member is unset or the client `getI2cClientPath` returns, and
every call knows of the client what `Caller.Fits` says. -/
def MemoInv (s : Sys) : Prop :=
  s.usb.Memo ∧ (s.usb.i2cClientPath = "" ∨ s.usb.i2cClientPath = s.env.i2cLookup) ∧
    ∀ (i : Nat) (th : Caller), s.callers[i]? = some th → th.Fits s.env.i2cLookup s.usb

section Inv

variable {k : Consts} {s s' : Sys}

theorem memoInv_init (env : Env) (calls : List Call) : MemoInv (Sys.init env calls) := by
  refine ⟨.inl rfl, .inl rfl, fun i th hth => ?_⟩
  simp only [Sys.init, List.getElem?_map, Option.map_eq_some'] at hth
  obtain ⟨c, -, rfl⟩ := hth
  cases c <;> first | trivial | exact fun _ h => by cases h

theorem memoInv_step {a : Act} (hinv : MemoInv s) (hk : a.keepsLookup s.env.i2cLookup)
    (h : step k s a = some s') : MemoInv s' ∧ s.KeepsLookup s' := by
  obtain ⟨hmemo, hm, hf⟩ := hinv
  have hkeep@⟨he, hev⟩ := step_keepsLookup hf hm hk h
  have fits : ∀ th : Caller, th.Fits s.env.i2cLookup s.usb → th.Fits s'.env.i2cLookup s'.usb :=
    fun th h => he ▸ h.of_stays hev.stays
  refine ⟨⟨hev.2 hmemo, ?_, fun i th hth => ?_⟩, hkeep⟩
  · rw [he]
    rcases hev.1 with e | ⟨-, e⟩
    · exact e ▸ hm
    · exact .inr e
  by_cases ha : ∃ c, a = .caller i c
  · obtain ⟨c, rfl⟩ := ha
    obtain ⟨th₀, hth₀, h⟩ := step_caller_eq h
    obtain ⟨th', hs, hf'⟩ := callerStep_fits (hf i th₀ hth₀) h
    have hi : i < s.callers.length := (List.getElem?_eq_some_iff.1 hth₀).1
    obtain rfl : th' = th := by simpa [hs, List.getElem?_set_self hi] using hth
    exact fits th' hf'
  · push_neg at ha
    rcases step_other h ha with e | e <;> rw [e] at hth
    · exact fits th (hf i th hth)
    · obtain ⟨th₀, h₀, rfl⟩ := Option.map_eq_some'.1 hth
      exact fits _ (Caller.fits_wakeWaiter.2 (hf i th₀ h₀))

theorem memoInv_run : ∀ {s s' : Sys} {acts : List Act}, MemoInv s →
    (∀ a ∈ acts, a.keepsLookup s.env.i2cLookup) → run k s acts = some s' →
    MemoInv s' ∧ s.KeepsLookup s'
  | _, _, [], hinv, _, h => by cases h; exact ⟨hinv, rfl, .refl _ _⟩
  | _, _, a :: _, hinv, hk, h => by
    obtain ⟨_, h₁, h⟩ := Option.bind_eq_some.1 h
    obtain ⟨hinv₁, he₁, hev₁⟩ := memoInv_step hinv (hk a (.head _)) h₁
    obtain ⟨hinv', he, hev⟩ := memoInv_run hinv₁ (fun b hb => he₁ ▸ hk b (.tail _ hb)) h
    exact ⟨hinv', he.trans he₁, hev₁.trans (he₁ ▸ hev)⟩

/-- In every state a run from the constructor reaches while `getI2cClientPath` returns one
client, `enabledPath` is unset or names the found client's `contaminant_detection`, and every
`limitPowerTransfer` past its paths writes the nodes of the found client, the one every query
reads. -/
theorem memo_of_reachable {env : Env} {calls : List Call} {acts : List Act} {s : Sys}
    (h : run k (.init env calls) acts = some s) (hk : ∀ a ∈ acts, a.keepsLookup env.i2cLookup) :
    s.usb.Memo ∧ ∀ (i : Nat) (th : Caller) (cl : String), s.callers[i]? = some th → th.client? = some cl →
      cl = s.usb.i2cClientPath ∧ cl ≠ "" := by
  obtain ⟨⟨hmemo, -, hf⟩, -⟩ := memoInv_run (memoInv_init env calls) hk h
  exact ⟨hmemo, fun i th cl hth hc => (hf i th hth).client hc⟩

theorem limitLocked_memo :
    limitLocked.callers[0]? = some (.method (.limitCurrent "port0" true 1 "i2c-8")) ∧
      (limitLocked.usb.Memo ∧ ∀ (i : Nat) (th : Caller) (cl : String), limitLocked.callers[i]? = some th →
        th.client? = some cl → cl = limitLocked.usb.i2cClientPath ∧ cl ≠ "") :=
  ⟨rfl, @memo_of_reachable udcConsts i2c8 limitThenQuery (List.replicate 6 (.caller 0 ⟨true, 0, 0⟩))
    limitLocked rfl (by simp [Act.keepsLookup])⟩

end Inv

end UsbHal
