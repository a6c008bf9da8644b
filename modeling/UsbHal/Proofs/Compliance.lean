import UsbHal.Status

/-!
# Compliance warnings of a port

`queryNonCompliantChargerStatus` reads the port's `non_compliant_reasons`, splits it with
`Tokenize` on `"[], \n"` and maps each token through the `strncmp` prefix tests.

The typec class writes the reasons of its vocabulary (`Reason`). However the file lays them out
(`ReasonsText`: delimiters first, each reason followed by delimiters, at least one delimiter
between two reasons, brackets included), `Tokenize` gives back the reasons' names in order
(`tokenize_reasonsText`), and each name passes exactly the test of its own warning
(`reasonWarning_name`). So the port's warnings grow by the reasons' warnings in order
(`queryNonCompliantChargerStatus_reasons`).
-/

namespace UsbHal

/-- The reasons the typec class writes to `non_compliant_reasons`. -/
inductive Reason
  | debugAccessory | bc12 | missingRp | other | inputPowerLimited
  deriving DecidableEq, Repr

namespace Reason

def name : Reason → String
  | debugAccessory => "debug-accessory"
  | bc12 => "bc12"
  | missingRp => "missing_rp"
  | other => "other"
  | inputPowerLimited => "input_power_limited"

/-- The warning each reason stands for: `other` and `input_power_limited` give
`INPUT_POWER_LIMITED` when both feature flags are on, `OTHER` otherwise. -/
def warning (env : Env) : Reason → ComplianceWarning
  | debugAccessory => .debugAccessory
  | bc12 => .bc12
  | missingRp => .missingRp
  | other | inputPowerLimited =>
    if env.enableUsbDataComplianceWarning && env.enableInputPowerLimitedWarning
    then .inputPowerLimited else .other

theorem reasonWarning_name (env : Env) (r : Reason) : reasonWarning env r.name = some (r.warning env) := by
  cases r <;> rfl

end Reason

/-- A layout of reasons in `non_compliant_reasons`: delimiters, then each reason followed by
delimiters, with at least one between two reasons. -/
structure ReasonsText where
  lead : List Char
  body : List (Reason × List Char)
  lead_delim : ∀ c ∈ lead, c ∈ "[], \n".data
  sep_delim : ∀ x ∈ body, ∀ c ∈ x.2, c ∈ "[], \n".data
  sep_ne_nil : ∀ x ∈ body.dropLast, x.2 ≠ []

namespace ReasonsText

def text (R : ReasonsText) : String :=
  ⟨R.lead ++ (R.body.map fun x => x.1.name.data ++ x.2).flatten⟩

def reasons (R : ReasonsText) : List Reason := R.body.map Prod.fst

end ReasonsText

section Tokens

variable {P : Char → Bool}

def tokens (P : Char → Bool) (l : List Char) : List (List Char) :=
  (l.splitOnP P).filter (· ≠ [])

@[simp] theorem tokens_nil : tokens P [] = [] := rfl

theorem tokens_delims {d : List Char} (hd : ∀ c ∈ d, P c) (l : List Char) :
    tokens P (d ++ l) = tokens P l := by
  induction d with
  | nil => rfl
  | cons c d ih =>
    simp only [List.mem_cons, forall_eq_or_imp] at hd
    rw [List.cons_append, tokens, List.splitOnP_cons, if_pos hd.1, List.filter_cons_of_neg
      (by simp), ← tokens, ih hd.2]

theorem tokens_word_sep {w : List Char} (hw : ∀ c ∈ w, ¬P c) (hne : w ≠ []) {c : Char}
    (hc : P c) (l : List Char) : tokens P (w ++ c :: l) = w :: tokens P l := by
  rw [tokens, List.splitOnP_first P w hw c hc, List.filter_cons_of_pos (by simpa using hne)]
  rfl

theorem tokens_word {w : List Char} (hw : ∀ c ∈ w, ¬P c) (hne : w ≠ []) : tokens P w = [w] := by
  rw [tokens, List.splitOnP_eq_single P w hw, List.filter_cons_of_pos (by simpa using hne)]
  rfl

theorem tokens_flatten :
    ∀ (xs : List (List Char × List Char)), (∀ x ∈ xs, x.1 ≠ [] ∧ ∀ c ∈ x.1, ¬P c) →
      (∀ x ∈ xs, ∀ c ∈ x.2, P c) → (∀ x ∈ xs.dropLast, x.2 ≠ []) →
      tokens P (xs.map fun x => x.1 ++ x.2).flatten = xs.map Prod.fst
  | [], _, _, _ => rfl
  | (w, d) :: xs, hw, hd, hne => by
    have hw₀ := hw (w, d) (List.mem_cons_self _ _)
    have hd₀ := hd (w, d) (List.mem_cons_self _ _)
    have ih := tokens_flatten xs (fun x hx => hw x (List.mem_cons_of_mem _ hx))
      (fun x hx => hd x (List.mem_cons_of_mem _ hx))
    rcases d with _ | ⟨c, d⟩
    · cases xs with
      | nil => simpa using tokens_word hw₀.2 hw₀.1
      | cons y ys => exact absurd rfl (hne (w, []) (by simp))
    · simp only [List.map_cons, List.flatten_cons, List.append_assoc, List.cons_append]
      simp only [List.mem_cons, forall_eq_or_imp] at hd₀
      rw [tokens_word_sep hw₀.2 hw₀.1 hd₀.1, tokens_delims hd₀.2, ih fun x hx => hne x ?_]
      cases xs with
      | nil => simp at hx
      | cons y ys => exact List.mem_cons_of_mem _ hx

end Tokens

theorem tokenize_reasonsText (R : ReasonsText) :
    tokenize ⟨R.text.data.takeWhile (· ≠ '\x00')⟩ "[], \n" = R.reasons.map Reason.name := by
  have hdelim : ∀ c ∈ "[], \n".data, c ≠ '\x00' := by decide
  have hname : ∀ r : Reason, r.name.data ≠ [] ∧ ∀ c ∈ r.name.data, c ∉ "[], \n".data ∧ c ≠ '\x00' := by
    intro r
    cases r <;> decide
  have hnul : R.text.data.takeWhile (· ≠ '\x00') = R.text.data := by
    refine List.takeWhile_eq_self_iff.2 fun c hc => decide_eq_true ?_
    simp only [ReasonsText.text, List.mem_append, List.mem_flatten, List.mem_map] at hc
    rcases hc with hc | ⟨_, ⟨x, hx, rfl⟩, hc⟩
    · exact hdelim c (R.lead_delim c hc)
    · rcases List.mem_append.1 hc with hc | hc
      · exact ((hname x.1).2 c hc).2
      · exact hdelim c (R.sep_delim x hx c hc)
  have htok := @tokens_flatten (fun c => decide (c ∈ "[], \n".data))
    (R.body.map fun x => (x.1.name.data, x.2))
    (fun x hx => by
      obtain ⟨y, -, rfl⟩ := List.mem_map.1 hx
      exact ⟨(hname y.1).1, fun c hc h => ((hname y.1).2 c hc).1 (of_decide_eq_true h)⟩)
    (fun x hx c hc => by
      obtain ⟨y, hy, rfl⟩ := List.mem_map.1 hx
      exact decide_eq_true (R.sep_delim y hy c hc))
    (fun x hx => by
      rw [← List.map_dropLast] at hx
      obtain ⟨y, hy, rfl⟩ := List.mem_map.1 hx
      exact R.sep_ne_nil y hy)
  simp only [List.map_map, Function.comp_def] at htok
  simp only [tokenize, hnul]
  change (tokens _ (R.lead ++ _)).map String.mk = _
  rw [tokens_delims (fun c hc => decide_eq_true (R.lead_delim c hc)), htok, ReasonsText.reasons,
    List.map_map, List.map_map]
  rfl

/-- However the reasons are laid out, `queryNonCompliantChargerStatus` appends to the port's
warnings the reasons' warnings, in order. -/
theorem queryNonCompliantChargerStatus_reasons {env : Env} {v : List PortStatus} {i : Nat}
    {ps : PortStatus} (R : ReasonsText) (hps : v[i]? = some ps)
    (hr : env.typecRead ps.portName "device/non_compliant_reasons" = some R.text) :
    ∃ ps', (queryNonCompliantChargerStatus env v).2[i]? = some ps' ∧
      ps'.complianceWarnings = ps.complianceWarnings ++ R.reasons.map (Reason.warning env) := by
  have hw : reasonsWarnings env R.text = R.reasons.map (Reason.warning env) := by
    have hf : reasonWarning env ∘ Reason.name = some ∘ Reason.warning env :=
      funext (Reason.reasonWarning_name env)
    rw [reasonsWarnings, tokenize_reasonsText, List.filterMap_map, hf, List.filterMap_eq_map]
  refine ⟨mergeComplianceWarnings env ps, by simp [queryNonCompliantChargerStatus, hps], ?_⟩
  simp only [mergeComplianceWarnings, hr, hw]
  split_ifs <;> rfl

def bc12Other : ReasonsText where
  lead := ['[']
  body := [(.bc12, [']', ',', ' ', '[']), (.other, [']', '\n'])]
  lead_delim := by decide
  sep_delim := by decide
  sep_ne_nil := by decide

def bc12OtherPort : Env :=
  Env.build (some [⟨"port0", true⟩])
    (fun _ f => if f = "device/non_compliant_reasons" then some "[bc12], [other]\n" else none)
    (fun _ => none) ""

theorem queryNonCompliantChargerStatus_bc12_other :
    [({ portName := "port0" } : PortStatus)][0]? = some { portName := "port0" } ∧
      bc12OtherPort.typecRead "port0" "device/non_compliant_reasons" = some bc12Other.text ∧
      bc12Other.reasons.map (Reason.warning bc12OtherPort) = [.bc12, .other] ∧
      ∃ ps', (queryNonCompliantChargerStatus bc12OtherPort [{ portName := "port0" }]).2[0]? =
        some ps' ∧ ps'.complianceWarnings =
          [] ++ bc12Other.reasons.map (Reason.warning bc12OtherPort) :=
  ⟨rfl, by decide, by decide, @queryNonCompliantChargerStatus_reasons bc12OtherPort
    [{ portName := "port0" }] 0 { portName := "port0" } bc12Other rfl (by decide)⟩

end UsbHal
