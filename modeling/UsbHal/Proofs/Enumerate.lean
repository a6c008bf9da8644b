import UsbHal.Status
import Mathlib.Data.List.Nodup

/-!
# Enumerating `/sys/class/typec`

`getTypeCPortNamesHelper` folds the `readdir` listing into an `unordered_map` from names to a
connected flag: a link whose name contains `-partner` sets the flag of its first
`-`-separated token, any other link is added unconnected unless it is present.

Over a listing of the names the typec class registers (ports `p`, partners `p-partner`, cables
`p-cable` and plugs `p-plugN`, with `p` non-empty and free of `-`), each link stands for one
entry (`TypecName.entry`), and the map is exactly the entries' keys, `true` where a partner
marked the port (`getTypeCPortNamesHelper_lookup`). So it does not depend on the order `readdir`
returns the links in (`getTypeCPortNamesHelper_perm`). Its keys are not only the ports: a cable
or a plug is not a partner, so its whole name becomes a key, unconnected.
-/

namespace UsbHal

/-- The names the typec class registers under `/sys/class/typec` for a port `p`. -/
inductive TypecName
  | port (p : String)
  | partner (p : String)
  | cable (p : String)
  | plug (p : String) (n : Nat)
  deriving DecidableEq, Repr

namespace TypecName

def portName : TypecName → String
  | port p | partner p | cable p | plug p _ => p

def name : TypecName → String
  | port p => p
  | partner p => p ++ "-partner"
  | cable p => p ++ "-cable"
  | plug p n => p ++ "-plug" ++ toString n

/-- A port name as the class gives it: non-empty and without `-`. -/
def WellFormed (e : TypecName) : Prop := e.portName ≠ "" ∧ '-' ∉ e.portName.data

instance : DecidablePred WellFormed := fun _ => inferInstanceAs (Decidable (_ ∧ _))

/-- The symbolic link `readdir` returns for the name. -/
def dirent (e : TypecName) : Dirent := ⟨e.name, true⟩

/-- What the link stands for in the map: a partner marks its port connected, any other link
names itself. -/
def entry : TypecName → String × Bool
  | partner p => (p, true)
  | e => (e.name, false)

end TypecName

/-- The map a listing stands for: the keys of its entries, connected where a partner marked the
key. -/
def typecPorts (L : List TypecName) (k : String) : Option Bool :=
  if k ∈ (L.map TypecName.entry).map Prod.fst then some (decide ((k, true) ∈ L.map TypecName.entry))
  else none

/-! ## The map operations -/

namespace PortMap

/-- One entry added the way `getTypeCPortNamesHelper` adds it. -/
def add (m : PortMap) (x : String × Bool) : PortMap :=
  if x.2 then m.setConnected x.1 else m.insertNew x.1

theorem lookup_cons_ite (m : PortMap) (k' k : String) (v : Bool) :
    ((k', v) :: m).lookup k = if k = k' then some v else m.lookup k := by
  rw [List.lookup_cons]
  cases h : k == k' <;> simp_all

/-- The `find` of the source: a key is present exactly when its lookup finds a flag. -/
theorem any_key_eq_isSome (m : PortMap) (p : String) :
    m.any (·.1 = p) = (m.lookup p).isSome := by
  induction m with
  | nil => rfl
  | cons e m ih =>
    obtain ⟨k', v⟩ := e
    by_cases h : p = k'
    · subst h
      simp [lookup_cons_ite]
    · simp [lookup_cons_ite, h, Ne.symm h, ih]

theorem lookup_eq_none_of_not_any {m : PortMap} {p : String} (hm : ¬m.any (·.1 = p)) :
    m.lookup p = none :=
  Option.not_isSome_iff_eq_none.1 (any_key_eq_isSome m p ▸ hm)

theorem lookup_append_new {m : PortMap} {p : String} (hm : ¬m.any (·.1 = p)) (b : Bool)
    (k : String) : (m ++ [(p, b)]).lookup k = if k = p then some b else m.lookup k := by
  rw [List.lookup_append, lookup_cons_ite]
  by_cases hk : k = p
  · simp [hk, lookup_eq_none_of_not_any hm]
  · simp only [hk, if_false, List.lookup_nil]
    cases m.lookup k <;> rfl

/-- The marking `(*names)[key] = true` does when the key is present. -/
theorem lookup_map_mark (m : PortMap) (p k : String) :
    (m.map fun e => if e.1 = p then (p, true) else e).lookup k =
      if k = p then (m.lookup k).map fun _ => true else m.lookup k := by
  induction m with
  | nil => simp
  | cons e m ih =>
    obtain ⟨k', v⟩ := e
    by_cases hk : k = k'
    · subst hk
      by_cases hp : k = p <;> simp [lookup_cons_ite, hp]
    · by_cases hp : k' = p
      · subst hp
        simp [lookup_cons_ite, hk, ih]
      · simp [lookup_cons_ite, hk, hp, ih]

theorem lookup_setConnected (m : PortMap) (p k : String) :
    (m.setConnected p).lookup k = if k = p then some true else m.lookup k := by
  unfold setConnected
  by_cases hm : m.any (·.1 = p)
  · rw [if_pos hm, lookup_map_mark]
    rw [any_key_eq_isSome, Option.isSome_iff_exists] at hm
    obtain ⟨v, hv⟩ := hm
    by_cases hk : k = p <;> simp [hk, hv]
  · rw [if_neg hm]
    exact lookup_append_new hm true k

theorem lookup_insertNew (m : PortMap) (p k : String) :
    (m.insertNew p).lookup k = if k = p then some ((m.lookup k).getD false) else m.lookup k := by
  unfold insertNew
  by_cases hm : m.any (·.1 = p)
  · rw [if_pos hm]
    rw [any_key_eq_isSome, Option.isSome_iff_exists] at hm
    obtain ⟨v, hv⟩ := hm
    by_cases hk : k = p
    · simp [hk, hv]
    · simp [hk]
  · rw [if_neg hm, lookup_append_new hm]
    by_cases hk : k = p <;> simp [hk, lookup_eq_none_of_not_any hm]

theorem lookup_add (m : PortMap) (x : String × Bool) (k : String) :
    (m.add x).lookup k = if k = x.1 then some (x.2 || (m.lookup k).getD false) else m.lookup k := by
  by_cases h2 : x.2 <;> simp [add, h2, lookup_setConnected, lookup_insertNew]

theorem nodup_add {m : PortMap} (h : (m.map Prod.fst).Nodup) (x : String × Bool) :
    ((m.add x).map Prod.fst).Nodup := by
  unfold add setConnected insertNew
  split_ifs with h2 hm hm <;> try exact h
  · rwa [List.map_map, List.map_congr_left fun e _ => by
      show (if e.1 = x.1 then (x.1, true) else e).1 = e.1
      split_ifs with he <;> simp [he]]
  all_goals
    rw [List.map_append, List.nodup_append]
    exact ⟨h, List.nodup_singleton _, by simpa using hm⟩

/-- The fold of entries from `m`: a key the entries name gets `true` if one of them marks it
connected, else keeps its flag in `m` (`false` if new); the other keys keep theirs. -/
theorem lookup_foldl_add (xs : List (String × Bool)) (m : PortMap) (k : String) :
    (xs.foldl add m).lookup k = if k ∈ xs.map Prod.fst then
      some (decide ((k, true) ∈ xs) || (m.lookup k).getD false) else m.lookup k := by
  induction xs generalizing m with
  | nil => simp
  | cons x xs ih =>
    obtain ⟨k', b⟩ := x
    rw [List.foldl_cons, ih, lookup_add]
    by_cases hk : k = k' <;> by_cases hx : k ∈ xs.map Prod.fst <;> cases b <;> simp_all

theorem nodup_foldl_add (xs : List (String × Bool)) {m : PortMap} (h : (m.map Prod.fst).Nodup) :
    ((xs.foldl add m).map Prod.fst).Nodup := by
  induction xs generalizing m with
  | nil => exact h
  | cons x xs ih => exact ih (nodup_add h x)

/-- With its keys distinct, a map holds an entry exactly when its lookup finds it. -/
theorem mem_iff_lookup {m : PortMap} (h : (m.map Prod.fst).Nodup) (x : String × Bool) :
    x ∈ m ↔ m.lookup x.1 = some x.2 := by
  induction m with
  | nil => simp
  | cons e m ih =>
    obtain ⟨k', v⟩ := e
    simp only [List.map_cons, List.nodup_cons] at h
    by_cases hk : x.1 = k'
    · have hx : x ∉ m := fun hm => h.1 (hk ▸ List.mem_map_of_mem Prod.fst hm)
      obtain ⟨x1, x2⟩ := x
      subst hk
      simp [lookup_cons_ite, hx, eq_comm]
    · simp [lookup_cons_ite, hk, ih h.2, show x ≠ (k', v) from fun e => hk (e ▸ rfl)]

end PortMap

/-! ## The names of the class -/

section Names

theorem ite_ne_of_ne {c : Prop} [Decidable c] {a b x : Char} (ha : a ≠ x) (hb : b ≠ x) :
    (if c then a else b) ≠ x := by
  split <;> assumption

theorem digitChar_ne_dash (d : Nat) : Nat.digitChar d ≠ '-' := by
  unfold Nat.digitChar
  repeat refine ite_ne_of_ne (by decide) ?_
  decide

theorem dash_not_mem_toDigitsCore :
    ∀ (fuel n : Nat) (ds : List Char), '-' ∉ ds → '-' ∉ Nat.toDigitsCore 10 fuel n ds
  | 0, _, _, h => h
  | fuel + 1, n, ds, h => by
    have hd : '-' ∉ Nat.digitChar (n % 10) :: ds :=
      List.not_mem_cons_of_ne_of_not_mem (Ne.symm (digitChar_ne_dash _)) h
    show '-' ∉ if n / 10 = 0 then Nat.digitChar (n % 10) :: ds
      else Nat.toDigitsCore 10 fuel (n / 10) (Nat.digitChar (n % 10) :: ds)
    split_ifs
    · exact hd
    · exact dash_not_mem_toDigitsCore fuel _ _ hd

theorem dash_not_mem_toString (n : Nat) : '-' ∉ (toString n).data :=
  dash_not_mem_toDigitsCore _ _ _ (List.not_mem_nil _)

/-- Before the first `-`, no occurrence of `-partner` can start. -/
theorem tails_any_partner_append {l : List Char} (h : '-' ∉ l) (r : List Char) :
    (l ++ r).tails.any ("-partner".data.isPrefixOf ·) = r.tails.any ("-partner".data.isPrefixOf ·) := by
  induction l with
  | nil => rfl
  | cons c l ih =>
    simp only [List.mem_cons, not_or] at h
    have hc : ("-partner".data.isPrefixOf (c :: (l ++ r))) = false := by
      simp [List.isPrefixOf, h.1]
    rw [List.cons_append, List.tails, List.any_cons, hc, Bool.false_or, ih h.2]

theorem strtokDash_partner {p : String} (hne : p ≠ "") (hd : '-' ∉ p.data) :
    strtokDash (p ++ "-partner") = p := by
  obtain ⟨l⟩ := p
  cases l with
  | nil => exact absurd rfl hne
  | cons c l =>
    have hall : ∀ a ∈ c :: l, decide (a ≠ '-') = true :=
      fun a ha => decide_eq_true fun h => hd (h ▸ ha)
    simp only [strtokDash, String.data_append]
    rw [List.cons_append, List.dropWhile_cons_of_neg (by simpa using hall c (List.mem_cons_self _ _)),
      ← List.cons_append, List.takeWhile_append_of_pos hall]
    show String.mk (c :: l ++ []) = _
    rw [List.append_nil]

/-- `getTypeCPortNamesHelper` adds a link of the class as the entry it stands for. -/
theorem addTypeCEntry_dirent {e : TypecName} (h : e.WellFormed) (m : PortMap) :
    addTypeCEntry m e.dirent = m.add e.entry := by
  cases e with
  | partner p =>
    obtain ⟨hne, hd⟩ : p ≠ "" ∧ '-' ∉ p.data := h
    have hi : hasInfix (p ++ "-partner") "-partner" = true := by
      unfold hasInfix
      rw [String.data_append, tails_any_partner_append hd]
      rfl
    simp [addTypeCEntry, TypecName.dirent, TypecName.name, TypecName.entry, PortMap.add, hi,
      strtokDash_partner hne hd]
  | port p =>
    have hd : '-' ∉ p.data := h.2
    have hi : hasInfix p "-partner" = false := by
      have := tails_any_partner_append hd []
      rw [List.append_nil] at this
      exact this
    simp [addTypeCEntry, TypecName.dirent, TypecName.name, TypecName.entry, PortMap.add, hi]
  | cable p =>
    have hd : '-' ∉ p.data := h.2
    have hi : hasInfix (p ++ "-cable") "-partner" = false := by
      unfold hasInfix
      rw [String.data_append, tails_any_partner_append hd]
      rfl
    simp [addTypeCEntry, TypecName.dirent, TypecName.name, TypecName.entry, PortMap.add, hi]
  | plug p n =>
    have hd : '-' ∉ p.data := h.2
    have hn : '-' ∉ "plug".data ++ (toString n).data :=
      List.not_mem_append (by decide) (dash_not_mem_toString n)
    have hi : hasInfix (p ++ "-plug" ++ toString n) "-partner" = false := by
      unfold hasInfix
      rw [String.data_append, String.data_append, List.append_assoc, tails_any_partner_append hd]
      have := tails_any_partner_append hn []
      rw [List.append_nil] at this
      show ('-' :: ("plug".data ++ (toString n).data)).tails.any _ = false
      rw [List.tails, List.any_cons, this]
      rfl
    simp [addTypeCEntry, TypecName.dirent, TypecName.name, TypecName.entry, PortMap.add, hi]

end Names

/-! ## The enumeration -/

section Enumeration

variable {env : Env} {L : List TypecName}

theorem foldl_addTypeCEntry_dirent (hwf : ∀ e ∈ L, e.WellFormed) (m : PortMap) :
    (L.map TypecName.dirent).foldl addTypeCEntry m = (L.map TypecName.entry).foldl PortMap.add m := by
  induction L generalizing m with
  | nil => rfl
  | cons e L ih =>
    simp only [List.map_cons, List.foldl_cons, addTypeCEntry_dirent (hwf e (List.mem_cons_self _ _))]
    exact ih (fun e' he' => hwf e' (List.mem_cons_of_mem _ he')) _

/-- Over a listing of the class's names, in any order, the enumeration succeeds with a map of
distinct keys that is the listing's `typecPorts`: a port is connected exactly when its partner is
listed, and a cable or a plug is a key of its own. -/
theorem getTypeCPortNamesHelper_lookup (hwf : ∀ e ∈ L, e.WellFormed)
    (hl : env.typec = some (L.map TypecName.dirent)) :
    (getTypeCPortNamesHelper env).1 = .success ∧
      ((getTypeCPortNamesHelper env).2.map Prod.fst).Nodup ∧
      ∀ k, (getTypeCPortNamesHelper env).2.lookup k = typecPorts L k := by
  have hg : getTypeCPortNamesHelper env = (.success, (L.map TypecName.entry).foldl PortMap.add []) := by
    simp only [getTypeCPortNamesHelper, hl, foldl_addTypeCEntry_dirent hwf]
  rw [hg]
  refine ⟨rfl, PortMap.nodup_foldl_add _ List.nodup_nil, fun k => ?_⟩
  rw [PortMap.lookup_foldl_add, typecPorts]
  simp

/-- `port0`, its partner and its cable. -/
def port0WithCable : Env :=
  Env.build (some ([.port "port0", .partner "port0", .cable "port0"].map TypecName.dirent))
    (fun _ _ => none) (fun _ => none) ""

theorem getTypeCPortNamesHelper_cable :
    (∀ e ∈ [TypecName.port "port0", .partner "port0", .cable "port0"], e.WellFormed) ∧
      port0WithCable.typec =
        some ([TypecName.port "port0", .partner "port0", .cable "port0"].map TypecName.dirent) ∧
      ((getTypeCPortNamesHelper port0WithCable).1 = .success ∧
        ((getTypeCPortNamesHelper port0WithCable).2.map Prod.fst).Nodup ∧
        ∀ k, (getTypeCPortNamesHelper port0WithCable).2.lookup k =
          typecPorts [.port "port0", .partner "port0", .cable "port0"] k) ∧
      (getTypeCPortNamesHelper port0WithCable).2 = [("port0", true), ("port0-cable", false)] :=
  ⟨by decide, rfl, getTypeCPortNamesHelper_lookup (by decide) rfl, by decide⟩

/-- The map does not depend on the order `readdir` returns the links in. -/
theorem getTypeCPortNamesHelper_perm {env' : Env} {L' : List TypecName}
    (hwf : ∀ e ∈ L, e.WellFormed) (hp : L.Perm L') (hl : env.typec = some (L.map TypecName.dirent))
    (hl' : env'.typec = some (L'.map TypecName.dirent)) :
    (getTypeCPortNamesHelper env).2.Perm (getTypeCPortNamesHelper env').2 := by
  obtain ⟨-, hn, hk⟩ := getTypeCPortNamesHelper_lookup hwf hl
  obtain ⟨-, hn', hk'⟩ := getTypeCPortNamesHelper_lookup (fun e he => hwf e (hp.mem_iff.2 he)) hl'
  have hmap : typecPorts L = typecPorts L' := by
    funext k
    simp only [typecPorts, (hp.map _).mem_iff, ((hp.map _).map _).mem_iff]
  rw [List.perm_ext_iff_of_nodup (List.Nodup.of_map _ hn) (List.Nodup.of_map _ hn')]
  intro x
  rw [PortMap.mem_iff_lookup hn, PortMap.mem_iff_lookup hn', hk, hk', hmap]

end Enumeration

end UsbHal
