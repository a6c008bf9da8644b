import UsbHal.Proofs.Snapshot
import UsbHal.Machine

/-!
# Reading the role nodes

`getCurrentRoleHelper` trims a role node, keeps the text between its first `[` and first `]`
(`extractRole`), and compares the result with the six role words. On the sysfs rendering
`a ++ "[" ++ w ++ "]" ++ b`, with no bracket in `a` or `w`, that text is `w` whatever `b` is
(`extractRole_trim_bracketed`).

The comparison chain sets a power role for `source` and `sink` and a data role or a mode for
`host` and `device`, whatever tag the union held: a power role node that reads `host` comes back
as the mode `DFP` with `SUCCESS`, and the `get<powerRole>()` after it faults
(`fillPort_foreign_role_word`). On the words of its own tag it reads back exactly the role
`convertRoletoString` wrote (`parseRole_convertRoletoString`), so a read-back that `switchRole`
accepts is the role the next snapshot reports (`readBack_role_agrees`), and a connected port with
sysfs-rendered nodes gets the roles and mode the nodes name (`connected_entry_roles`).
-/

namespace UsbHal

/-! ## Text -/

section Text

theorem indexOf?_append_of_not_mem {x : Char} {l₁ l₂ : List Char} (h : x ∉ l₁) :
    (l₁ ++ l₂).indexOf? x = (l₂.indexOf? x).map (· + l₁.length) := by
  induction l₁ with
  | nil => simp
  | cons y l ih =>
    have hy : y ≠ x := fun e => h (e ▸ List.mem_cons_self _ _)
    simp only [List.mem_cons, not_or] at h
    simp only [List.indexOf?, List.findIdx?_cons, beq_iff_eq, hy, ite_false, List.cons_append,
      List.length_cons] at ih ⊢
    rw [List.findIdx?_succ, ih h.2, Option.map_map]
    rfl

/-- Dropping a prefix of characters stops at the first one it keeps, here `x`, at the latest. -/
theorem dropWhile_append_cons {p : Char → Bool} {x : Char} (hx : p x = false) :
    ∀ (l r : List Char), ∃ l', l' <:+ l ∧ (l ++ x :: r).dropWhile p = l' ++ x :: r
  | [], r => ⟨[], List.nil_suffix, by simp [List.dropWhile_cons, hx]⟩
  | y :: l, r => by
    by_cases hy : p y
    · obtain ⟨l', hs, he⟩ := dropWhile_append_cons hx l r
      exact ⟨l', hs.trans (List.suffix_cons _ _), by simp [List.dropWhile_cons, hy, he]⟩
    · exact ⟨y :: l, List.suffix_refl _, by simp [List.dropWhile_cons, hy]⟩

/-- `Trim` of a bracketed rendering removes white space from the text around the brackets only. -/
theorem trim_bracketed (a w b : String) :
    ∃ a' b', a' <:+ a.data ∧
      (trim (a ++ "[" ++ w ++ "]" ++ b)).data = a' ++ '[' :: w.data ++ ']' :: b' := by
  obtain ⟨a', ha, e1⟩ := @dropWhile_append_cons isSpace '[' rfl a.data (w.data ++ ']' :: b.data)
  obtain ⟨b', -, e2⟩ := @dropWhile_append_cons isSpace ']' rfl b.data.reverse
    (w.data.reverse ++ '[' :: a'.reverse)
  refine ⟨a', b'.reverse, ha, ?_⟩
  have hs : (a ++ "[" ++ w ++ "]" ++ b).data = a.data ++ '[' :: (w.data ++ ']' :: b.data) := by
    simp
  simp only [trim, hs, e1]
  rw [show (a' ++ '[' :: (w.data ++ ']' :: b.data)).reverse =
    b.data.reverse ++ ']' :: (w.data.reverse ++ '[' :: a'.reverse) by simp, e2]
  simp

theorem extractRole_bracketed {a' w b' : List Char} (ha : '[' ∉ a' ∧ ']' ∉ a') (hw : ']' ∉ w) :
    extractRole ⟨a' ++ '[' :: w ++ ']' :: b'⟩ = ⟨w⟩ := by
  have h1 : (a' ++ '[' :: w ++ ']' :: b').indexOf? '[' = some a'.length := by
    rw [List.append_assoc, indexOf?_append_of_not_mem ha.1]
    simp [List.indexOf?]
  have h2 : (a' ++ '[' :: w ++ ']' :: b').indexOf? ']' = some (a'.length + 1 + w.length) := by
    rw [show a' ++ '[' :: w ++ ']' :: b' = (a' ++ '[' :: w) ++ ']' :: b' by simp,
      indexOf?_append_of_not_mem (by simp [ha.2, hw])]
    simp [List.indexOf?]
    omega
  simp only [extractRole, h1, h2, if_pos (by omega : a'.length < a'.length + 1 + w.length)]
  congr 1
  rw [show a'.length + 1 + w.length - a'.length - 1 = w.length by omega,
    show a' ++ '[' :: w ++ ']' :: b' = (a' ++ ['[']) ++ (w ++ ']' :: b') by simp,
    List.drop_left' (by simp)]
  simp

/-- The role word a sysfs rendering `a ++ "[" ++ w ++ "]" ++ b` gives, with no bracket in `a`
and no `]` in `w`. -/
theorem extractRole_trim_bracketed {a w b : String} (ha : '[' ∉ a.data ∧ ']' ∉ a.data)
    (hw : ']' ∉ w.data) : extractRole (trim (a ++ "[" ++ w ++ "]" ++ b)) = w := by
  obtain ⟨a', b', hs, he⟩ := trim_bracketed a w b
  rw [show trim (a ++ "[" ++ w ++ "]" ++ b) = ⟨a' ++ '[' :: w.data ++ ']' :: b'⟩ from
    String.ext he]
  exact extractRole_bracketed ⟨fun h => ha.1 (hs.subset h), fun h => ha.2 (hs.subset h)⟩ hw

end Text

/-! ## The comparison chain -/

section Chain

variable {env : Env} {p : String}

/-- On the word `convertRoletoString` gives a power or data role, the chain started from a role
of the same tag reads that role back. -/
theorem parseRole_convertRoletoString {r r' : PortRole} (hr : r.getTag ≠ .mode)
    (ht : r'.getTag = r.getTag) :
    parseRole (roleNone r') (convertRoletoString r) = (.success, r) := by
  cases r with
  | mode => exact absurd rfl hr
  | powerRole pr =>
    cases r' <;> simp only [PortRole.getTag, reduceCtorEq] at ht
    cases pr <;> rfl
  | dataRole dr =>
    cases r' <;> simp only [PortRole.getTag, reduceCtorEq] at ht
    cases dr <;> rfl

theorem getCurrentRoleHelper_of_ne_mode {r : PortRole} (hr : r.getTag ≠ .mode) :
    getCurrentRoleHelper env p true r = readRoleNode env p (roleNone r) := by
  cases r with
  | mode => exact absurd rfl hr
  | _ => rfl

theorem roleFile_roleNone {r r' : PortRole} (hr : r.getTag ≠ .mode) (ht : r'.getTag = r.getTag) :
    roleFile (roleNone r') = roleNodeFile r := by
  cases r <;> cases r' <;> first | exact absurd rfl hr | rfl | exact absurd ht nofun

/-- A power or data role query of a connected port runs the chain on the node `switchRole`
writes for a role of that tag. -/
theorem getCurrentRoleHelper_read {r r' : PortRole} {c : String} (hr : r.getTag ≠ .mode)
    (ht : r'.getTag = r.getTag) (hc : env.typecRead p (roleNodeFile r) = some c) :
    getCurrentRoleHelper env p true r' = parseRole (roleNone r') (extractRole (trim c)) := by
  rw [getCurrentRoleHelper_of_ne_mode (ht ▸ hr), readRoleNode, roleFile_roleNone hr ht, hc]

/-- What `switchRole` checks after writing `r`: the trimmed, extracted read-back is
`convertRoletoString(r)`. If so, `getCurrentRoleHelper` on a connected port, with a role of the
same tag, reads the node as `r` and returns `SUCCESS`. -/
theorem readBack_role_agrees {r r' : PortRole} {c : String} (hr : r.getTag ≠ .mode)
    (ht : r'.getTag = r.getTag) (hc : env.typecRead p (roleNodeFile r) = some c)
    (hok : extractRole (trim c) = convertRoletoString r) :
    getCurrentRoleHelper env p true r' = (.success, r) := by
  rw [getCurrentRoleHelper_read hr ht hc, hok]
  exact parseRole_convertRoletoString hr ht

/-- `port0` whose power role node reads `source [sink]`. -/
def sinkPowerRole : Env :=
  Env.build (some [⟨"port0", true⟩, ⟨"port0-partner", true⟩])
    (fun _ f => if f = "power_role" then some "source [sink]\n" else none) (fun _ => none) ""

theorem readBack_role_agrees_sink :
    sinkPowerRole.typecRead "port0" (roleNodeFile (.powerRole .sink)) = some "source [sink]\n" ∧
      extractRole (trim "source [sink]\n") = convertRoletoString (.powerRole .sink) ∧
      getCurrentRoleHelper sinkPowerRole "port0" true (.powerRole .source) =
        (.success, .powerRole .sink) :=
  ⟨by decide, by decide, @readBack_role_agrees sinkPowerRole "port0" (.powerRole .sink)
    (.powerRole .source) "source [sink]\n" (by decide) rfl (by decide) (by decide)⟩

/-- A power role node whose word is `host` or `device` leaves the union under the mode tag with
`SUCCESS`, and the `get<powerRole>()` of the loop after it ends the process. -/
theorem fillPort_foreign_role_word {en : Bool} {c : String}
    (hc : env.typecRead p "power_role" = some c)
    (hw : extractRole (trim c) = "host" ∨ extractRole (trim c) = "device") :
    fillPort env en (p, true) = .error .badUnionAccess := by
  rcases hw with hw | hw <;>
    simp [fillPort, queryRole, getCurrentRoleHelper, roleNone, readRoleNode, roleFile, hc, hw,
      parseRole, PortRole.getTag, PortRole.getPowerRole, Except.map, bind, Except.bind]

end Chain

/-- The listed port `port0` whose power role node reads `[host]`. -/
def hostPowerRole : Env :=
  Env.build (some [⟨"port0", true⟩, ⟨"port0-partner", true⟩])
    (fun _ f => if f = "power_role" then some "[host]" else none) (fun _ => none) ""

theorem fillPort_foreign_role_word_host :
    hostPowerRole.typecRead "port0" "power_role" = some "[host]" ∧
      extractRole (trim "[host]") = "host" ∧
      fillPort hostPowerRole true ("port0", true) = .error .badUnionAccess :=
  ⟨by decide, by decide,
    @fillPort_foreign_role_word hostPowerRole "port0" true "[host]" (by decide) (.inl (by decide))⟩

/-! ## A connected port in the sysfs rendering -/

section Connected

variable {env : Env} {p : String}

/-- The power or data role a sysfs-rendered node names, read under its own tag. -/
theorem getCurrentRoleHelper_bracketed (r r' : PortRole) {a b : String} (hr : r.getTag ≠ .mode)
    (ht : r'.getTag = r.getTag) (ha : '[' ∉ a.data ∧ ']' ∉ a.data)
    (hc : env.typecRead p (roleNodeFile r) = some (a ++ "[" ++ convertRoletoString r ++ "]" ++ b)) :
    getCurrentRoleHelper env p true r' = (.success, r) := by
  have hw : ']' ∉ (convertRoletoString r).data := by
    cases r <;> rename_i x <;> cases x <;> decide
  rw [getCurrentRoleHelper_read hr ht hc, extractRole_trim_bracketed ha hw]
  exact parseRole_convertRoletoString hr ht

/-- The mode of a connected port: the accessory the partner reports, else the data role's `DFP`
or `UFP`. -/
theorem getCurrentRoleHelper_mode {dr : PortDataRole} {c d raw : String} (hdr : dr ≠ .none)
    (hc : '[' ∉ c.data ∧ ']' ∉ c.data)
    (hdata : env.typecRead p "data_role" =
      some (c ++ "[" ++ convertRoletoString (.dataRole dr) ++ "]" ++ d))
    (hacc : env.typecRead (p ++ "-partner") "accessory_mode" = some raw) :
    getCurrentRoleHelper env p true (.mode .none) =
      (.success, .mode (if trim raw = "analog_audio" then .audioAccessory
        else if trim raw = "debug" then .debugAccessory
        else if dr = .host then .dfp else .ufp)) := by
  have hw : ']' ∉ (convertRoletoString (.dataRole dr)).data := by cases dr <;> decide
  have hread : readRoleNode env p (.mode .none) =
      (.success, .mode (if dr = .host then .dfp else .ufp)) := by
    simp only [readRoleNode, roleFile, hdata, extractRole_trim_bracketed hc hw]
    cases dr <;> simp_all [convertRoletoString, parseRole, PortRole.getTag]
  simp only [getCurrentRoleHelper, roleNone, Bool.not_true, Bool.false_eq_true, ite_false,
    getAccessoryConnected, hacc, Option.map_some', hread]
  split_ifs <;> rfl

/-- A connected port's entry, built by `getPortStatusHelper`'s loop from nodes in the sysfs
rendering, has the roles the brackets name and the mode the accessory or the data role gives;
a source has no power brick. -/
theorem connected_entry_roles {en : Bool} {ps : PortStatus} {pr : PortPowerRole}
    {dr : PortDataRole} {a b c d raw : String} (hpr : pr ≠ .none) (hdr : dr ≠ .none)
    (ha : '[' ∉ a.data ∧ ']' ∉ a.data) (hc : '[' ∉ c.data ∧ ']' ∉ c.data)
    (hpower : env.typecRead p "power_role" =
      some (a ++ "[" ++ convertRoletoString (.powerRole pr) ++ "]" ++ b))
    (hdata : env.typecRead p "data_role" =
      some (c ++ "[" ++ convertRoletoString (.dataRole dr) ++ "]" ++ d))
    (hacc : env.typecRead (p ++ "-partner") "accessory_mode" = some raw)
    (h : fillPort env en (p, true) = .ok (.built ps)) :
    ps.currentPowerRole = pr ∧ ps.currentDataRole = dr ∧
      ps.currentMode = (if trim raw = "analog_audio" then .audioAccessory
        else if trim raw = "debug" then .debugAccessory
        else if dr = .host then .dfp else .ufp) ∧
      (pr = .source → ps.powerBrickStatus = .notConnected) := by
  obtain ⟨pr', dr', m, q, h1, h2, h3, hq, rfl⟩ := fillPort_built h
  simp only [queryRole, getCurrentRoleHelper_bracketed (.powerRole pr) (.powerRole .none) nofun rfl
      ha hpower, getCurrentRoleHelper_bracketed (.dataRole dr) (.dataRole .none) nofun rfl hc hdata,
    getCurrentRoleHelper_mode hdr hc hdata hacc, PortRole.getPowerRole, PortRole.getDataRole,
    PortRole.getMode, Except.map, Except.ok.injEq, Option.some.injEq] at h1 h2 h3
  subst h1 h2 h3
  obtain ⟨docked, -, rfl⟩ := Except.map_eq_ok.1 hq
  obtain ⟨bs, hb⟩ := setPowerBrickStatus_eq (p, true) _
  refine ⟨by rw [hb]; rfl, by rw [hb]; rfl, by rw [hb]; rfl, ?_⟩
  rintro rfl
  simp [setPowerBrickStatus, setCapabilities]

end Connected

/-- `port0` with its partner, power role `source`, data role `host` and no accessory. -/
def sourceHostPort : Env :=
  Env.build (some [⟨"port0", true⟩, ⟨"port0-partner", true⟩])
    (fun e f => if e = "port0" ∧ f = "power_role" then some "[source] sink\n"
      else if e = "port0" ∧ f = "data_role" then some "[host] device\n"
      else if e = "port0-partner" ∧ f = "accessory_mode" then some "none\n" else none)
    (fun _ => none) ""

theorem connected_entry_roles_source_host :
    ∃ ps, fillPort sourceHostPort true ("port0", true) = .ok (.built ps) ∧
      ps.currentPowerRole = .source ∧ ps.currentDataRole = .host ∧ ps.currentMode = .dfp ∧
      ps.powerBrickStatus = .notConnected := by
  obtain ⟨ps, hps⟩ : ∃ ps, fillPort sourceHostPort true ("port0", true) = .ok (.built ps) :=
    ⟨_, rfl⟩
  obtain ⟨h1, h2, h3, h4⟩ := @connected_entry_roles sourceHostPort "port0" true ps .source .host
    "" " sink\n" "" " device\n" "none\n" (by decide) (by decide) (by decide) (by decide)
    (by decide) (by decide) (by decide) hps
  exact ⟨ps, hps, h1, h2, by simpa using h3, h4 rfl⟩

end UsbHal
