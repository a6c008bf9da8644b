import UsbHal.Proofs.Threads

/-!
# Every answer on the callback is its call's, and comes at most once

Each method of `IUsb` except `setCallback` answers its call with one callback method, built from
the call's own arguments: `notifyEnableUsbDataStatus(in_portName, in_enable, ..,
in_transactionId)` and the like (`Call.Answers`). The answer is sent under `mLock` at one line
of the method; the tail that sends it forgets the call, and no later line of the call sends
another.

Over every interleaving of the calls with one another, with `mPoll` and with the kernel, the
answers the log holds for the `i`-th call are at most one, and that one answers the `i`-th call
(`answers_of_run`). The invariant (`CallInv`) follows a call's program counter: before the line
that answers it, the call is still at one of its own points and has sent nothing; after it, it
has sent at most its answer. Each step of a call moves as `AnswerMove` says
(`callerStep_answerMove`), which keeps `CallInv` (`CallInv.move`), and a step of any other
thread sends nothing for the call (`reactorStep_answers`, `step_answerMove`).
-/

namespace UsbHal

/-- The call a method's program counter belongs to. -/
def MethodPc.call : MethodPc → Call
  | .dockedOpen p t | .dockedWrite p t => .enableUsbDataWhileDocked p t
  | .resetWrite p t => .resetUsbPort p t
  | .limitLookup p l t | .limitFind p l t | .limitAssign p l t _ | .limitRecheck p l t
  | .limitPaths p l t | .limitLocking p l t _ | .limitCurrent p l t _ | .limitSink p l t _ _
  | .limitSource p l t _ _ | .limitNotify p l t _ => .limitPowerTransfer p l t
  | .portQuery t | .portQueried t => .queryPortStatus t
  | .contaminantWrite p e t => .enableContaminantPresenceDetection p e t

/-- The call a program counter belongs to; the tail has forgotten it. -/
def Caller.call? : Caller → Option Call
  | .switchRole p r t _ => some (.switchRole p r t)
  | .setCallback cb _ => some (.setCallback cb)
  | .enableUsbData p e t _ => some (.enableUsbData p e t)
  | .method pc => some pc.call
  | .tail _ => none

/-- The notifications that answer a call, as its source builds them: its own port name,
arguments and transaction, with the status it found. `queryPortStatus` answers `"all"` with
`SUCCESS`, `limitPowerTransfer` only a transaction that is not negative, and `setCallback`
nothing. -/
def Call.Answers : Call → Notification → Prop
  | .switchRole p r t, n => ∃ st, n = .roleSwitchStatus p r st t
  | .setCallback _, _ => False
  | .enableUsbData p e t, n => ∃ st, n = .enableUsbDataStatus p e st t
  | .enableUsbDataWhileDocked p t, n => ∃ st, n = .enableUsbDataWhileDockedStatus p st t
  | .resetUsbPort p t, n => ∃ st, n = .resetUsbPortStatus p st t
  | .limitPowerTransfer p l t, n => 0 ≤ t ∧ ∃ st, n = .limitPowerTransferStatus p l st t
  | .queryPortStatus t, n => n = .queryPortStatus "all" .success t
  | .enableContaminantPresenceDetection p e t, n =>
    ∃ st, n = .contaminantEnabledStatus p e st t

/-- The answer an event delivers for caller `i`: a per-operation notification it sent. -/
def Event.answerOf (i : Nat) : Event → Option Notification
  | .notify (.caller j) n => if j = i ∧ n.transactionId?.isSome then some n else none
  | _ => none

/-- The answers caller `i` has delivered, newest first. -/
def answersOf (i : Nat) (log : List Event) : List Notification :=
  log.filterMap (Event.answerOf i)

/-- The call has passed the line that answers it. -/
def Caller.answered : Caller → Bool
  | .switchRole _ _ _ .notified | .switchRole _ _ _ .rsUnlock | .switchRole _ _ _ .done => true
  | .tail (.notifyLocking _ _) => false
  | .tail _ => true
  | _ => false

/-- `th` is a point of call `c`, or the tail about to send one of `c`'s answers. -/
def Caller.Of (th : Caller) (c : Call) : Prop :=
  th.call? = some c ∨ ∃ n q, th = .tail (.notifyLocking n q) ∧ c.Answers n

/-- Call `c`, at `th`, has sent the answers `ns`: none before the line that answers it, at most
its answer after. -/
def CallInv (c : Call) (th : Caller) (ns : List Notification) : Prop :=
  th.answered = false ∧ th.Of c ∧ ns = [] ∨
    th.answered = true ∧ ns.length ≤ 1 ∧ ∀ n ∈ ns, c.Answers n

@[simp] theorem answersOf_nil (i : Nat) : answersOf i [] = [] := rfl

@[simp] theorem answersOf_cons (i : Nat) (e : Event) (log : List Event) :
    answersOf i (e :: log) = (e.answerOf i).toList ++ answersOf i log := by
  unfold answersOf
  rw [List.filterMap_cons]
  cases e.answerOf i <;> rfl

/-- The answer the next step of `th` sends when a callback is set. -/
def Caller.answer? : Caller → Option Notification
  | .switchRole p r t (.notifyLocking rs) => some (.roleSwitchStatus p r (.ofBool rs) t)
  | .method (.limitNotify p l t f) =>
    if 0 ≤ t then some (.limitPowerTransferStatus p l (.ofBool !f) t) else none
  | .tail (.notifyLocking n _) => some n
  | _ => none

/-- A step of caller `j` from `th` to `th'`, taking the log from `log` to `log'`: it sends
nothing for any other caller, and for `j` at most the answer pending at `th`, after which `j`
has answered; a call never goes back on its answer, and stays at its own points until then. -/
def AnswerMove (j : Nat) (th th' : Caller) (log log' : List Event) : Prop :=
  (∀ i, i ≠ j → answersOf i log' = answersOf i log) ∧
  (answersOf j log' = answersOf j log ∨
    ∃ n, th.answer? = some n ∧ answersOf j log' = n :: answersOf j log) ∧
  (th.answered = true → th'.answered = true) ∧
  (th.answer?.isSome = true → th'.answered = true) ∧
  (∀ c, th.Of c → th'.answered = false → th'.Of c)

/-- A point of a call belongs to no other call. -/
theorem Caller.Of.eq_of_call? {th : Caller} {c c' : Call} (hc : th.Of c) (h : th.call? = some c') :
    c = c' := by
  rcases hc with hc | ⟨_, _, rfl, -⟩
  · exact Option.some.inj (hc.symm.trans h)
  · cases h

section Steps

variable {k : Consts} {s s' : Sys} {j : Nat}

theorem switchStep_answerMove {p : String} {r : PortRole} {t : Int} {pc : SwitchPc} {c : Choice}
    (h : switchStep k s j p r t pc c = some s') :
    ∃ pc', s'.callers = s.callers.set j (.switchRole p r t pc') ∧
      AnswerMove j (.switchRole p r t pc) (.switchRole p r t pc') s.log s'.log := by
  cases pc <;> simp only [switchStep, Sys.setCaller_eq, Sys.record_eq, Sys.deliver_eq] at h <;>
    (try split_ifs at h) <;> cases h <;>
    refine ⟨_, rfl, fun i hi => by simp [Event.answerOf, Ne.symm hi], ?_,
      by simp [Caller.answered], by simp [Caller.answer?, Caller.answered],
      fun c hc _ => by simpa [Caller.Of, Caller.call?] using hc⟩
  all_goals first
    | (left; simp [Event.answerOf]; done)
    | (right; exact ⟨_, rfl, by simp [Event.answerOf, Notification.transactionId?]⟩)

theorem setterStep_answerMove {cb : Bool} {pc : SetterPc} {c : Choice}
    (h : setterStep s j cb pc c = some s') :
    ∃ pc', s'.callers = s.callers.set j (.setCallback cb pc') ∧
      AnswerMove j (.setCallback cb pc) (.setCallback cb pc') s.log s'.log := by
  cases pc <;> simp only [setterStep, Sys.setCaller_eq] at h <;> (try split_ifs at h) <;>
    cases h <;>
    exact ⟨_, rfl, fun _ _ => rfl, .inl rfl, by simp [Caller.answered], by simp [Caller.answer?],
      fun c hc _ => by simpa [Caller.Of, Caller.call?] using hc⟩

theorem dataStep_answerMove {p : String} {e : Bool} {t : Int} {pc : DataPc} {c : Choice}
    (h : dataStep k s j p e t pc c = some s') :
    ∃ th', s'.callers = s.callers.set j th' ∧
      AnswerMove j (.enableUsbData p e t pc) th' s.log s'.log := by
  cases pc <;> simp only [dataStep, Sys.setCaller_eq, Sys.record_eq, Sys.writeBy] at h <;>
    (try split_ifs at h) <;> cases h <;>
    exact ⟨_, rfl, fun i hi => by simp [Event.answerOf], .inl (by simp [Event.answerOf]),
      by simp [Caller.answered], by simp [Caller.answer?],
      fun _ hc _ => by
        obtain rfl := hc.eq_of_call? rfl
        simp [Caller.Of, Caller.call?, Call.Answers]⟩

/-- `queryVersionHelper` sends a status change, which answers no call. -/
theorem Sys.query_answers {w : Who} {s'' : Sys} {ports : List String}
    (hq : s.query w = some (s'', ports)) (i : Nat) : answersOf i s''.log = answersOf i s.log := by
  obtain ⟨-, rfl | ⟨u, v, st, -, rfl⟩⟩ := Sys.query_eq_some hq
  · rfl
  · simp only [Sys.deliver_eq]
    split <;> cases w <;> simp [Event.answerOf, Notification.transactionId?]

theorem Sys.query_callers {w : Who} {s'' : Sys} {ports : List String}
    (hq : s.query w = some (s'', ports)) : s''.callers = s.callers := by
  obtain ⟨-, rfl | ⟨u, v, st, -, rfl⟩⟩ := Sys.query_eq_some hq <;> simp

theorem methodStep_answerMove {pc : MethodPc} {c : Choice} (h : methodStep s j pc c = some s') :
    ∃ th', s'.callers = s.callers.set j th' ∧ AnswerMove j (.method pc) th' s.log s'.log := by
  cases pc with
  | portQuery t =>
    obtain ⟨⟨s'', ports⟩, hq, rfl⟩ := Option.map_eq_some'.1 h
    exact ⟨.method (.portQueried t), by simp [Sys.query_callers hq], fun i _ => Sys.query_answers hq i,
      .inl (Sys.query_answers hq j), by simp [Caller.answered], by simp [Caller.answer?],
      fun c hc _ => by simpa [Caller.Of, Caller.call?, MethodPc.call] using hc⟩
  | limitNotify p l t f =>
    simp only [methodStep, Sys.setCaller_eq, Sys.deliver_eq] at h
    split_ifs at h with ht hc <;> cases h <;>
      refine ⟨_, rfl, fun i hi => by simp [Event.answerOf, Ne.symm hi], ?_, by simp [Caller.answered],
        by simp [Caller.answered], fun _ _ ha => by simp [Caller.answered] at ha⟩
    · exact .inr ⟨.limitPowerTransferStatus p l (.ofBool !f) t, by simp [Caller.answer?, ht],
        by simp [Event.answerOf, Notification.transactionId?]⟩
    all_goals exact .inl rfl
  | _ =>
    simp only [methodStep, Sys.setCaller_eq, Sys.deliver_eq, Sys.writeBy, Sys.record_eq] at h
    (try split_ifs at h) <;> cases h <;>
      refine ⟨_, rfl, fun i hi => by simp [Event.answerOf, Ne.symm hi], ?_,
        by simp [Caller.answered], by simp [Caller.answer?, Caller.answered, *], fun _ hc => by
          obtain rfl := hc.eq_of_call? rfl
          simp [Caller.answered, Caller.Of, Caller.call?, MethodPc.call, Call.Answers]⟩
    all_goals exact .inl (by simp [Event.answerOf])

theorem tailStep_answerMove {tl : Tail} (h : tailStep s j tl = some s') :
    ∃ tl', s'.callers = s.callers.set j (.tail tl') ∧
      AnswerMove j (.tail tl) (.tail tl') s.log s'.log := by
  cases tl with
  | queryLocking =>
    obtain ⟨⟨s'', ports⟩, hq, rfl⟩ := Option.map_eq_some'.1 h
    exact ⟨.queried, by simp [Sys.query_callers hq], fun i _ => Sys.query_answers hq i,
      .inl (Sys.query_answers hq j),
      by simp [Caller.answered], by simp [Caller.answer?], fun _ _ ha => by simp [Caller.answered] at ha⟩
  | notifyLocking n q =>
    simp only [tailStep, Sys.setCaller_eq, Sys.deliver_eq] at h
    split_ifs at h <;> cases h <;>
      refine ⟨_, rfl, fun i hi => by simp [Event.answerOf, Ne.symm hi], ?_, by simp [Caller.answered],
        by simp [Caller.answered], fun _ _ ha => by simp [Caller.answered] at ha⟩
    · by_cases hn : n.transactionId?.isSome = true
      · exact .inr ⟨n, rfl, by simp [Event.answerOf, hn]⟩
      · exact .inl (by simp [Event.answerOf, hn])
    · exact .inl rfl
  | notified q =>
    cases h
    cases q <;> exact ⟨_, rfl, fun _ _ => rfl, .inl rfl, fun _ => rfl, by simp [Caller.answer?],
      fun _ _ ha => by simp [Caller.answered] at ha⟩
  | queried =>
    cases h
    exact ⟨_, rfl, fun _ _ => rfl, .inl rfl, fun _ => rfl, by simp [Caller.answer?],
      fun _ _ ha => by simp [Caller.answered] at ha⟩
  | done => cases h

/-- Every step of caller `j` moves the answers as `AnswerMove` says. -/
theorem callerStep_answerMove {th : Caller} {c : Choice} (h : callerStep k s j th c = some s') :
    ∃ th', s'.callers = s.callers.set j th' ∧ AnswerMove j th th' s.log s'.log := by
  cases th with
  | switchRole => obtain ⟨_, hs, hm⟩ := switchStep_answerMove h; exact ⟨_, hs, hm⟩
  | setCallback => obtain ⟨_, hs, hm⟩ := setterStep_answerMove h; exact ⟨_, hs, hm⟩
  | enableUsbData => exact dataStep_answerMove h
  | method => exact methodStep_answerMove h
  | tail => obtain ⟨_, hs, hm⟩ := tailStep_answerMove h; exact ⟨_, hs, hm⟩

theorem reactorStep_answers {c : Choice} (h : reactorStep k s c = some s') (i : Nat) :
    answersOf i s'.log = answersOf i s.log := by
  cases hr : s.reactor with
  | queryLocking =>
    simp only [reactorStep, hr] at h
    obtain ⟨⟨s'', ports⟩, hq, rfl⟩ := Option.map_eq_some'.1 h
    exact Sys.query_answers hq i
  | scan lines => obtain ⟨r, rfl, -⟩ | rfl := reactorStep_scan hr h <;> rfl
  | reconcile ports =>
    cases ports <;> simp only [reactorStep, hr, Sys.record_eq] at h <;> cases h <;> (try split) <;>
      simp [Event.answerOf]
  | _ =>
    simp only [reactorStep, hr, Sys.record_eq] at h
    (try split at h) <;> (try split_ifs at h) <;> cases h <;> simp [Event.answerOf]

/-- A step of caller `j` moves its answers as `AnswerMove` says; any other step sends no
answer and at most wakes the waiters on `mPartnerCV`. -/
theorem step_answerMove {a : Act} (h : step k s a = some s') :
    (∃ j c th th', a = .caller j c ∧ s.callers[j]? = some th ∧
      s'.callers = s.callers.set j th' ∧ AnswerMove j th th' s.log s'.log) ∨
    (s'.callers = s.callers ∨ s'.callers = s.callers.map wakeWaiter) ∧
      ∀ i, answersOf i s'.log = answersOf i s.log := by
  cases a with
  | caller j c =>
    obtain ⟨th, hth, h⟩ := step_caller_eq h
    obtain ⟨th', hs, hm⟩ := callerStep_answerMove h
    exact .inl ⟨j, c, th, th', rfl, hth, hs, hm⟩
  | reactor c =>
    have h := step_reactor_eq h
    exact .inr ⟨(reactorStep_moves h).1, reactorStep_answers h⟩
  | _ =>
    simp only [UsbHal.step] at h
    split_ifs at h <;> cases h <;> exact .inr ⟨.inl rfl, fun i => by simp [Event.answerOf]⟩

end Steps

/-! ## The invariant -/

theorem Caller.answer?_of_answered {th : Caller} (h : th.answered = true) : th.answer? = none := by
  unfold Caller.answer?
  split <;> simp_all [Caller.answered]

/-- What the next step of a point of `c` sends answers `c`. -/
theorem Caller.Of.answers {th : Caller} {c : Call} {n : Notification} (hof : th.Of c)
    (h : th.answer? = some n) : c.Answers n := by
  unfold Caller.answer? at h
  split at h
  · cases h
    rcases hof with hc | ⟨_, _, ⟨⟩, -⟩
    cases Option.some.inj hc
    exact ⟨_, rfl⟩
  · obtain ⟨ht, h⟩ := Option.ite_none_right_eq_some.1 h
    cases h
    rcases hof with hc | ⟨_, _, ⟨⟩, -⟩
    cases Option.some.inj hc
    exact ⟨ht, _, rfl⟩
  · cases h
    rcases hof with hc | ⟨_, _, he, hn⟩
    · simp [Caller.call?] at hc
    · cases he
      exact hn
  · cases h

@[simp] theorem wakeWaiter_answered (th : Caller) : (wakeWaiter th).answered = th.answered := by
  unfold wakeWaiter; split <;> rfl

theorem Caller.Of.wake {th : Caller} {c : Call} (h : th.Of c) : (wakeWaiter th).Of c := by
  unfold wakeWaiter
  split
  · simpa [Caller.Of, Caller.call?] using h
  · exact h

theorem CallInv.wake {c : Call} {th : Caller} {ns : List Notification} (h : CallInv c th ns) :
    CallInv c (wakeWaiter th) ns := by
  rcases h with ⟨ha, hof, hns⟩ | ⟨ha, hr⟩
  · exact .inl ⟨by simp [ha], hof.wake, hns⟩
  · exact .inr ⟨by simp [ha], hr⟩

/-- One step of the call keeps `CallInv`: the answer it may send is its first and its last. -/
theorem CallInv.move {j : Nat} {c : Call} {th th' : Caller} {log log' : List Event}
    (hinv : CallInv c th (answersOf j log)) (hm : AnswerMove j th th' log log') :
    CallInv c th' (answersOf j log') := by
  obtain ⟨-, hans, hmono, hsent, hof⟩ := hm
  rcases hinv with ⟨ha, hc, hns⟩ | ⟨ha, hlen, hall⟩
  · rcases hans with heq | ⟨n, hn, heq⟩ <;> rw [heq, hns]
    · cases ha' : th'.answered
      · exact .inl ⟨ha', hof c hc ha', rfl⟩
      · exact .inr ⟨ha', by simp, by simp⟩
    · exact .inr ⟨hsent (by simp [hn]), by simp, by simpa using hc.answers hn⟩
  · rcases hans with heq | ⟨n, hn, -⟩
    · exact .inr ⟨hmono ha, heq ▸ hlen, heq ▸ hall⟩
    · simp [Caller.answer?_of_answered ha] at hn

/-- Every call of `calls` is at a point of its own and has sent nothing, or has answered at most
once, with an answer of its own. -/
def AnswersInv (calls : List Call) (s : Sys) : Prop :=
  ∀ i c, calls[i]? = some c → ∃ th, s.callers[i]? = some th ∧ CallInv c th (answersOf i s.log)

theorem answersInv_init (env : Env) (calls : List Call) : AnswersInv calls (Sys.init env calls) := by
  intro i c hc
  refine ⟨c.start, by simp [Sys.init, hc], .inl ⟨?_, .inl ?_, rfl⟩⟩ <;> cases c <;> rfl

theorem answersInv_step {k : Consts} {calls : List Call} {s s' : Sys} {a : Act}
    (hinv : AnswersInv calls s) (h : step k s a = some s') : AnswersInv calls s' := by
  intro i c hc
  obtain ⟨th, hth, hi⟩ := hinv i c hc
  rcases step_answerMove h with ⟨j, -, th₀, th', -, hj, hs, hm⟩ | ⟨hs, hl⟩
  · rw [hs]
    by_cases hij : i = j
    · subst hij
      obtain rfl : th₀ = th := Option.some.inj (hj.symm.trans hth)
      exact ⟨th', by simp [List.getElem?_set, (List.getElem?_eq_some_iff.1 hth).1], hi.move hm⟩
    · exact ⟨th, by rw [List.getElem?_set_ne (Ne.symm hij)]; exact hth, hm.1 i hij ▸ hi⟩
  · rw [hl i]
    rcases hs with hs | hs
    · exact ⟨th, hs ▸ hth, hi⟩
    · exact ⟨wakeWaiter th, by simp [hs, hth], hi.wake⟩

theorem answersInv_run {k : Consts} {calls : List Call} :
    ∀ {s s' : Sys} {acts : List Act}, AnswersInv calls s → run k s acts = some s' →
      AnswersInv calls s'
  | _, _, [], hinv, h => by cases h; exact hinv
  | _, _, _ :: _, hinv, h => by
    obtain ⟨_, h₁, h⟩ := Option.bind_eq_some.1 h
    exact answersInv_run (answersInv_step hinv h₁) h

/-- In every run, over every interleaving, the `i`-th call is answered at most once, and only
with a notification of its own: its port name, arguments and transaction. -/
theorem answers_of_run {k : Consts} {env : Env} {calls : List Call} {acts : List Act} {s : Sys}
    (h : run k (Sys.init env calls) acts = some s) {i : Nat} {c : Call}
    (hc : calls[i]? = some c) :
    (answersOf i s.log).length ≤ 1 ∧ ∀ n ∈ answersOf i s.log, c.Answers n := by
  obtain ⟨th, -, hi⟩ := answersInv_run (answersInv_init env calls) h i c hc
  rcases hi with ⟨-, -, hns⟩ | ⟨-, hr⟩
  · simp [hns]
  · exact hr

/-- A callback, then a `resetUsbPort` that pulls the gadget down and answers. -/
def resetCalls : List Call := [.setCallback true, .resetUsbPort "port0" 7]

def resetRun : List Act :=
  List.replicate 3 (.caller 0 ⟨true, 0, 0⟩) ++ List.replicate 3 (.caller 1 ⟨true, 0, 0⟩)

theorem reset_answered_once :
    ∃ s, run udcConsts (.init noNodes resetCalls) resetRun = some s ∧
      ((answersOf 1 s.log).length ≤ 1 ∧
        ∀ n ∈ answersOf 1 s.log, (Call.resetUsbPort "port0" 7).Answers n) :=
  ⟨_, rfl, @answers_of_run udcConsts noNodes resetCalls resetRun _ rfl 1 _ rfl⟩

end UsbHal
