import UsbHal.Proofs.Calls
import UsbHal.Proofs.Threads

/-!
# `mUsbDataEnabled` and `USB_DATA_PATH` under concurrent calls

`enableUsbData` reads and writes `mUsbDataEnabled` outside any lock while it writes the nodes.
Two concurrent calls with opposite values can leave the flag set while `USB_DATA_PATH` holds `0`:
the enable writes `1`, the disable writes `0` and clears the flag, and the enable then sets it
(`enable_disable_race`).

Calls that all ask for the same value cannot disagree: with every write succeeding, once they
are past their flag writes the flag is set exactly when the node holds `1`, if it was so before
(`same_enable_calls_agree`). The invariant (`DataAgree`) follows each call: a call past its
`USB_DATA_PATH` write has left the node with its value, and one past its flag write has left the
flag with its value; a call that skips the writes does so only when the node already agrees.
-/

namespace UsbHal

/-! ## Opposite values -/

/-- A disable, then an enable and a disable at once. -/
def raceCalls : List Call :=
  [.enableUsbData "port0" false 0, .enableUsbData "port0" true 1, .enableUsbData "port0" false 2]

/-- The first disable runs to its end. -/
def firstDisable : List Act := List.replicate 11 (.caller 0 ⟨true, 0, 0⟩)

/-- The enable writes `1` to `USB_DATA_PATH`; the disable writes every node and clears the flag;
the enable sets it; both end. -/
def raceSteps : List Act :=
  List.replicate 4 (.caller 1 ⟨true, 0, 0⟩) ++ List.replicate 7 (.caller 2 ⟨true, 0, 0⟩) ++
    [.caller 1 ⟨true, 0, 0⟩] ++ List.replicate 4 (.caller 2 ⟨true, 0, 0⟩) ++
    List.replicate 4 (.caller 1 ⟨true, 0, 0⟩)

/-- After the first disable the flag and the node agree; after the race both calls have
returned, every write succeeded, and the flag is set over a node holding `0`. -/
theorem enable_disable_race :
    ∃ s s', run udcConsts (.init enabledNodes raceCalls) firstDisable = some s ∧
      s.usb.usbDataEnabled = false ∧ s.env.read .usbData = some "0" ∧
      run udcConsts s raceSteps = some s' ∧
      s'.callers[1]? = some (.tail .done) ∧ s'.callers[2]? = some (.tail .done) ∧
      s'.usb.usbDataEnabled = true ∧ s'.env.read .usbData = some "0" :=
  ⟨_, _, rfl, rfl, rfl, rfl, rfl, rfl, rfl, rfl⟩

/-! ## One value -/

/-- What `enableUsbData(e)` writes to `USB_DATA_PATH`. -/
def usbDataValue (e : Bool) : String := if e then "1" else "0"

/-- Where an `enableUsbData(e)` call is when every write so far succeeded, and what it has left
in the node and the flag. -/
def DataAgree (e : Bool) (s : Sys) : Caller → Prop
  | .enableUsbData _ e' _ pc => e' = e ∧ match pc with
    | .start => True
    | .pullupRead r | .pullupWrite _ r | .idWrite r | .vbusWrite r | .usbDataWrite r => r = true
    | .flagWrite r => r = true ∧ s.env.read .usbData = some (usbDataValue e)
  | .tail _ => s.env.read .usbData = some (usbDataValue e) ∧ s.usb.usbDataEnabled = e
  | _ => False

/-- The node moves only to the calls' value, and the flag only to it, over a node that has it. -/
def DataMoves (e : Bool) (s s' : Sys) : Prop :=
  (s'.env.read .usbData = s.env.read .usbData ∨ s'.env.read .usbData = some (usbDataValue e)) ∧
    (s'.usb.usbDataEnabled = s.usb.usbDataEnabled ∨
      s'.usb.usbDataEnabled = e ∧ s'.env.read .usbData = some (usbDataValue e))

section Agree

variable {k : Consts} {s s' : Sys} {e : Bool}

/-- A call that another call's step passes by keeps what it knows. -/
theorem DataAgree.of_moves {c : Caller} (h : DataAgree e s c) (hm : DataMoves e s s') :
    DataAgree e s' c := by
  obtain ⟨hn, hf⟩ := hm
  have node : s.env.read .usbData = some (usbDataValue e) →
      s'.env.read .usbData = some (usbDataValue e) := fun h => hn.elim (·.trans h) id
  cases c with
  | enableUsbData p e' t pc =>
    obtain ⟨rfl, h⟩ := h
    refine ⟨rfl, ?_⟩
    cases pc <;> first | exact h | exact ⟨h.1, node h.2⟩
  | tail =>
    refine ⟨node h.1, ?_⟩
    rcases hf with hf | ⟨hf, -⟩ <;> rw [hf]
    exact h.2
  | _ => exact h.elim

theorem DataAgree.afterPullup {p : String} {t : Int} {r : Bool} (hr : r = true) :
    DataAgree e s (.enableUsbData p e t (afterPullup e r)) := by
  unfold UsbHal.afterPullup
  split <;> exact ⟨rfl, hr⟩

@[simp] theorem Sys.writeBy_usb (s : Sys) (i : Nat) (ok : Bool) (n : Node) (v : String) :
    (s.writeBy i ok n v).usb = s.usb := by
  unfold Sys.writeBy
  split <;> rfl

/-- A write to another node leaves `USB_DATA_PATH` alone. -/
theorem Sys.writeBy_usbData (s : Sys) (i : Nat) {n : Node} (v : String) (hn : .usbData ≠ n) :
    (s.writeBy i true n v).env.read .usbData = s.env.read .usbData := by
  simp [Sys.writeBy, hn]

/-- The step of an `enableUsbData(e)` call whose write succeeds keeps what it knows, and moves
the node and the flag only to its value. -/
theorem dataStep_agree {i : Nat} {p : String} {t : Int} {pc : DataPc} {c : Choice}
    (h : dataStep k s i p e t pc c = some s') (hc : c.ok = true)
    (ha : DataAgree e s (.enableUsbData p e t pc))
    (hset : e = true → s.usb.usbDataEnabled = true → s.env.read .usbData = some "1") :
    ∃ th, s'.callers = s.callers.set i th ∧ DataAgree e s' th ∧ DataMoves e s s' := by
  obtain ⟨-, ha⟩ := ha
  have keep : ∀ th, DataMoves e s { s with callers := s.callers.set i th } :=
    fun _ => ⟨.inl rfl, .inl rfl⟩
  have other : ∀ {n : Node} (v : String) (th : Caller), .usbData ≠ n →
      DataMoves e s ((s.writeBy i true n v).setCaller i th) :=
    fun v _ hn => ⟨.inl (Sys.writeBy_usbData s i v hn), .inl (by simp)⟩
  cases pc with
  | start =>
    simp only [dataStep, Sys.setCaller_eq, Option.some.injEq] at h
    subst h
    refine ⟨_, rfl, ?_, keep _⟩
    by_cases hf : (e && s.usb.usbDataEnabled) = true
    · simp only [hf, ite_true]
      obtain ⟨rfl, hf⟩ := Bool.and_eq_true_iff.1 hf
      exact ⟨rfl, rfl, hset rfl hf⟩
    · simp only [hf]
      exact ⟨rfl, rfl⟩
  | pullupRead r =>
    simp only [dataStep, Sys.setCaller_eq, Option.some.injEq] at h
    subst h
    refine ⟨_, rfl, ?_, keep _⟩
    split <;> (try split_ifs) <;> first | exact ⟨rfl, ha⟩ | exact .afterPullup ha
  | pullupWrite v r =>
    simp only [dataStep, hc, Bool.and_true] at h
    cases h
    exact ⟨_, rfl, .afterPullup ha, other v _ (by decide)⟩
  | idWrite r | vbusWrite r =>
    simp only [dataStep, hc, Bool.and_true] at h
    cases h
    exact ⟨_, rfl, ⟨rfl, ha⟩, other _ _ (by decide)⟩
  | usbDataWrite r =>
    simp only [dataStep, hc, Bool.and_true] at h
    cases h
    have hn : (s.writeBy i true .usbData (if e then "1" else "0")).env.read .usbData =
        some (usbDataValue e) := by simp [Sys.writeBy, usbDataValue]
    exact ⟨_, rfl, ⟨rfl, ha, hn⟩, ⟨.inr hn, .inl (by simp)⟩⟩
  | flagWrite r =>
    simp only [dataStep, ha.1, ite_true, Sys.setCaller_eq, Sys.record_eq, Option.some.injEq] at h
    subst h
    exact ⟨_, rfl, ⟨ha.2, rfl⟩, ⟨.inl rfl, .inr ⟨rfl, ha.2⟩⟩⟩

/-- The end of a call changes neither the nodes nor the flag. -/
theorem tailStep_data {i : Nat} {tl : Tail} (h : tailStep s i tl = some s') :
    s'.env = s.env ∧ s'.usb.usbDataEnabled = s.usb.usbDataEnabled := by
  cases tl with
  | queryLocking =>
    obtain ⟨⟨s'', ports⟩, hq, rfl⟩ := Option.map_eq_some'.1 h
    obtain ⟨-, rfl | ⟨u, v, st, ⟨a, b, rfl⟩, rfl⟩⟩ := Sys.query_eq_some hq <;> simp
  | _ =>
    simp only [tailStep, Sys.setCaller_eq, Sys.deliver_eq] at h
    (try split_ifs at h) <;> cases h <;> exact ⟨rfl, rfl⟩

/-- The calls at `ids` are `enableUsbData(e)` calls whose writes so far succeeded, and a set flag
has `1` in the node behind it when `e` enables. -/
structure AgreeInv (e : Bool) (ids : List Nat) (s : Sys) : Prop where
  calls : ∀ i ∈ ids, ∃ th, s.callers[i]? = some th ∧ DataAgree e s th
  flag : e = true → s.usb.usbDataEnabled = true → s.env.read .usbData = some "1"

/-- A step of one of the calls, whose write succeeds, keeps the invariant. -/
theorem AgreeInv.step {ids : List Nat} {i : Nat} {c : Choice} (hinv : AgreeInv e ids s)
    (hi : i ∈ ids) (hc : c.ok = true) (h : step k s (.caller i c) = some s') :
    AgreeInv e ids s' := by
  obtain ⟨th, hth, h⟩ := step_caller_eq h
  obtain ⟨th0, hth0, ha⟩ := hinv.calls i hi
  rw [hth] at hth0
  cases hth0
  have hlen : i < s.callers.length := (List.getElem?_eq_some_iff.1 hth).1
  obtain ⟨th', hs, ha', hm⟩ : ∃ th', s'.callers = s.callers.set i th' ∧ DataAgree e s' th' ∧
      DataMoves e s s' := by
    cases th with
    | enableUsbData p e' t pc =>
      obtain rfl := ha.1
      exact dataStep_agree h hc ha hinv.flag
    | tail tl =>
      obtain ⟨t', hs, -⟩ := tailStep_moves h
      obtain ⟨he, hf⟩ := tailStep_data h
      exact ⟨_, hs, ⟨he ▸ ha.1, hf ▸ ha.2⟩, ⟨.inl (by rw [he]), .inl hf⟩⟩
    | _ => exact ha.elim
  refine ⟨fun j hj => ?_, fun he hf => ?_⟩
  · by_cases hij : i = j
    · subst hij
      exact ⟨th', by rw [hs, List.getElem?_set_self hlen], ha'⟩
    · obtain ⟨thj, hthj, haj⟩ := hinv.calls j hj
      exact ⟨thj, by rw [hs, List.getElem?_set_ne hij, hthj], haj.of_moves hm⟩
  · obtain ⟨hn | hn, hf' | ⟨-, hn'⟩⟩ := hm
    · rw [hn]
      exact hinv.flag he (hf' ▸ hf)
    · simpa [usbDataValue, he] using hn'
    · simpa [usbDataValue, he] using hn
    · simpa [usbDataValue, he] using hn'

/-- Over any run of the calls' steps whose writes succeed. -/
theorem AgreeInv.run {ids : List Nat} {acts : List Act} (hinv : AgreeInv e ids s)
    (hacts : ∀ a ∈ acts, ∃ i ∈ ids, ∃ c : Choice, c.ok = true ∧ a = .caller i c)
    (h : run k s acts = some s') : AgreeInv e ids s' := by
  induction acts generalizing s with
  | nil => cases h; exact hinv
  | cons a acts ih =>
    obtain ⟨s₁, h₁, hrun⟩ := Option.bind_eq_some.1 h
    obtain ⟨i, hi, c, hc, rfl⟩ := hacts a (List.mem_cons_self _ _)
    exact ih (hinv.step hi hc h₁) (fun a ha => hacts a (List.mem_cons_of_mem _ ha)) hrun

end Agree

/-- Concurrent `enableUsbData` calls asking for the same value `e`, with every write succeeding:
from a state where `mUsbDataEnabled` agrees with `USB_DATA_PATH`, once both calls are past their
flag writes, the two agree again. -/
theorem same_enable_calls_agree {k : Consts} {s s' : Sys} {i j : Nat} {p p' : String} {e : Bool}
    {t t' : Int} {acts : List Act} (hi : s.callers[i]? = some (.enableUsbData p e t .start))
    (hj : s.callers[j]? = some (.enableUsbData p' e t' .start))
    (hc : s.usb.usbDataEnabled = true ↔ s.env.read .usbData = some "1")
    (hacts : ∀ a ∈ acts, ∃ c : Choice, c.ok = true ∧ (a = .caller i c ∨ a = .caller j c))
    (hrun : run k s acts = some s')
    (hdone : ∃ tl tl', s'.callers[i]? = some (.tail tl) ∧ s'.callers[j]? = some (.tail tl')) :
    s'.usb.usbDataEnabled = true ↔ s'.env.read .usbData = some "1" := by
  have hinv : AgreeInv e [i, j] s := by
    refine ⟨fun x hx => ?_, fun _ hf => hc.1 hf⟩
    rcases List.mem_pair.1 hx with rfl | rfl
    · exact ⟨_, hi, rfl, trivial⟩
    · exact ⟨_, hj, rfl, trivial⟩
  have hacts' : ∀ a ∈ acts, ∃ x ∈ [i, j], ∃ c : Choice, c.ok = true ∧ a = .caller x c := by
    intro a ha
    obtain ⟨c, hc, rfl | rfl⟩ := hacts a ha
    · exact ⟨i, by simp, c, hc, rfl⟩
    · exact ⟨j, by simp, c, hc, rfl⟩
  have hinv' := hinv.run hacts' hrun
  obtain ⟨tl, -, hti, -⟩ := hdone
  obtain ⟨_, hth, ha⟩ := hinv'.calls i (by simp)
  rw [hti] at hth
  cases hth
  rw [ha.1, ha.2]
  cases e <;> decide

/-- Two disables from the enabled configuration. -/
def twoDisables : List Call := [.enableUsbData "port0" false 0, .enableUsbData "port0" false 1]

/-- Whose step comes next: each disable writes while the other is between its writes. -/
def disableOrder : List Nat := [0, 0, 0, 1, 1, 0, 0, 1, 1, 1, 1, 0, 0]

theorem same_enable_calls_agree_disables :
    ∃ s', run udcConsts (.init enabledNodes twoDisables)
        (disableOrder.map (Act.caller · ⟨true, 0, 0⟩)) = some s' ∧
      (s'.usb.usbDataEnabled = true ↔ s'.env.read .usbData = some "1") := by
  refine ⟨_, rfl, @same_enable_calls_agree udcConsts (.init enabledNodes twoDisables) _ 0 1
    "port0" "port0" false 0 1 (disableOrder.map (Act.caller · ⟨true, 0, 0⟩)) rfl rfl (by decide) ?_
    rfl ⟨_, _, rfl, rfl⟩⟩
  intro a ha
  obtain ⟨x, hx, rfl⟩ := List.mem_map.1 ha
  refine ⟨⟨true, 0, 0⟩, rfl, ?_⟩
  rcases (by decide : ∀ y ∈ disableOrder, y = 0 ∨ y = 1) x hx with rfl | rfl
  exacts [.inl rfl, .inr rfl]

end UsbHal
