import UsbHal.Uevent

/-!
# The scan of `uevent_event` stays in the message

With `msg[n] = msg[n + 1] = 0`, every C string at or before `n` ends at `n` at the latest
(`cstr_spec`), and the loop ends at `msg[n + 1]` at the latest (`scan_spec`): each pass reads
`*cp` and the line up to its NUL, and leaves `cp` one past that NUL, so `cp` never passes
`n + 1`. The measure is the bytes left before `msg[n + 2]`; each pass takes at least two of them,
so a fuel of `n + 2` suffices and the scan of every received message returns, having read only
`msg[0 .. n + 1]` (`ueventEvent_reads`).
-/

namespace UsbHal

section Bounds

variable {msg : List UInt8} {n : Nat}

theorem getElem?_isSome_of_le (hn : msg[n]? = some 0) {i : Nat} (hi : i ≤ n) :
    ∃ b, msg[i]? = some b := by
  have hlen : n < msg.length := by
    by_contra h
    rw [List.getElem?_eq_none (by omega)] at hn
    cases hn
  exact ⟨msg[i], List.getElem?_eq_getElem (by omega)⟩

/-- The C string at `cp ≤ n` ends at `msg[n]` at the latest: it is read from `cp` to its NUL. -/
theorem cstr_spec (hn : msg[n]? = some 0) :
    ∀ (fuel cp : Nat), cp ≤ n → n + 1 - cp ≤ fuel →
      ∃ s r, cstr msg fuel cp = some (s, r) ∧ (∀ i ∈ r, cp ≤ i ∧ i ≤ n) ∧ 0 < r.length ∧
        cp + r.length ≤ n + 1
  | 0, _, _, _ => by omega
  | fuel + 1, cp, hcp, hf => by
    obtain ⟨b, hb⟩ := getElem?_isSome_of_le hn hcp
    by_cases h0 : b = 0
    · exact ⟨[], [cp], by simp [cstr, hb, h0], by simpa using hcp, by simp, by simp; omega⟩
    · have hlt : cp < n := Nat.lt_of_le_of_ne hcp (by rintro rfl; simp_all)
      obtain ⟨s, r, hc, hr, hpos, hend⟩ := cstr_spec hn fuel (cp + 1) (by omega) (by omega)
      refine ⟨b :: s, cp :: r, by simp [cstr, hb, h0, hc], fun i hi => ?_, by simp,
        by simp; omega⟩
      rcases List.mem_cons.1 hi with rfl | hi
      · omega
      · have := hr i hi
        omega

/-- From `cp ≤ n + 1` the loop returns with enough fuel, and reads only `msg[cp .. n + 1]`. -/
theorem scan_spec (hn : msg[n]? = some 0) (hn1 : msg[n + 1]? = some 0) :
    ∀ (fuel cp : Nat), cp ≤ n + 1 → n + 2 - cp ≤ fuel →
      ∃ t, scan msg fuel cp = some t ∧ ∀ i ∈ t.reads, cp ≤ i ∧ i ≤ n + 1
  | 0, _, _, _ => by omega
  | fuel + 1, cp, hcp, hf => by
    obtain ⟨b, hb⟩ := getElem?_isSome_of_le hn1 hcp
    by_cases h0 : b = 0
    · exact ⟨⟨[], [cp]⟩, by simp [scan, hb, h0], by simpa using hcp⟩
    · have hlt : cp < n := by
        have hn' : cp ≠ n := by rintro rfl; simp_all
        have hn1' : cp ≠ n + 1 := by rintro rfl; simp_all
        omega
      obtain ⟨s, r, hc, hr, hpos, hend⟩ := cstr_spec hn (fuel + 1) cp hlt.le (by omega)
      by_cases hk : lineKind s = .status
      · refine ⟨⟨[s], cp :: r⟩, by simp [scan, hb, h0, hc, hk], fun i hi => ?_⟩
        rcases List.mem_cons.1 hi with rfl | hi
        · omega
        · have := hr i hi
          omega
      · obtain ⟨t, ht, htr⟩ := scan_spec hn hn1 fuel (cp + r.length) (by omega) (by omega)
        refine ⟨⟨s :: t.lines, cp :: r ++ r ++ t.reads⟩, by simp [scan, hb, h0, hc, hk, ht],
          fun i hi => ?_⟩
        simp only [List.mem_cons, List.mem_append] at hi
        rcases hi with ((rfl | hi) | hi) | hi
        · omega
        · have := hr i hi
          omega
        · have := hr i hi
          omega
        · have := htr i hi
          omega

end Bounds

example : scan [97, 0, 98, 0, 0, 0] 6 0 =
    some ⟨[[97], [98]], [0, 0, 1, 0, 1, 2, 2, 3, 2, 3, 4]⟩ := by
  decide

theorem received_getElem?_length (stale recv : List UInt8) :
    (received stale recv)[recv.length]? = some 0 := by
  rw [received, List.append_assoc, List.getElem?_append_right (le_refl _), Nat.sub_self]
  rfl

theorem received_getElem?_length_succ (stale recv : List UInt8) :
    (received stale recv)[recv.length + 1]? = some 0 := by
  rw [received, List.append_assoc, List.getElem?_append_right (by omega), Nat.add_sub_cancel_left,
    List.getElem?_append_left (by simp)]
  rfl

/-- Every message `uevent_event` scans, whatever its bytes, is scanned to the end, reading only
`msg[0 .. n + 1]`: the bytes received and the two NULs after them. -/
theorem ueventEvent_reads (k : Consts) (stale recv : List UInt8) (hn : 0 < recv.length)
    (hlt : recv.length < k.ueventMsgLen) :
    ∃ t, ueventEvent k stale recv = some t ∧ ∀ i ∈ t.reads, i ≤ recv.length + 1 := by
  have hscan : ueventEvent k stale recv = scan (received stale recv) (recv.length + 2) 0 := by
    simp only [ueventEvent]
    rw [if_neg (by omega)]
  obtain ⟨t, ht, hr⟩ := scan_spec (received_getElem?_length stale recv)
    (received_getElem?_length_succ stale recv) (recv.length + 2) 0 (by omega) (by omega)
  exact ⟨t, hscan ▸ ht, fun i hi => (hr i hi).2⟩

/-- A partner add followed by a status line. -/
def partnerThenStatus : List UInt8 :=
  keyBytes "add@/devices/platform/port0-partner" ++ [0] ++ keyBytes "DEVTYPE=typec_partner"

theorem ueventEvent_reads_partnerThenStatus :
    0 < partnerThenStatus.length ∧ partnerThenStatus.length < udcConsts.ueventMsgLen ∧
      ∃ t, ueventEvent udcConsts [] partnerThenStatus = some t ∧
        ∀ i ∈ t.reads, i ≤ partnerThenStatus.length + 1 :=
  ⟨by decide, by decide, ueventEvent_reads udcConsts [] partnerThenStatus (by decide) (by decide)⟩

end UsbHal
