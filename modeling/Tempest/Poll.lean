import Tempest.Harness

/-!
# Polling: `call_until_true`

`tempest.test.call_until_true(func, duration, sleep_for)` (library code, not under src/)
calls `func` until it returns `True` or the deadline passes.  Several methods of
`scenario/manager.py` poll with it: the node waits of the bare-metal tests, the floating
IP status check and the remote ping check.  The clock is the environment's: one reading
says how many attempts start before the deadline.

* `LoopTrace`: the runs of the polling loop, given what one attempt may do;
  `callUntilTrueLoop_trace` shows the loop refines it, whatever the cloud answers;
* `WaitTrace` adds the clock reading before the loop and the `TimeoutException` after it,
  for the waits that raise when the poll says no (`pollWait_trace`).
-/

namespace Tempest

/-! ## The polling primitive -/

/-- The loop of `call_until_true` with `attempts` attempts left before the deadline: the
first `True` ends it, and an exception of `func` leaves it. -/
def callUntilTrueLoop (func : Test Bool) : Nat → Test Bool
  | 0 => pure false
  | n + 1 => func >>= fun ok => if ok then pure true else callUntilTrueLoop func n

/-- Modelled from the spec: the clock of `call_until_true` (not under src/) says how many
attempts start before the deadline, as the environment decides how long each one takes;
reading it raises nothing, and the reading joins the log. -/
def clockAttempts (duration sleepFor : Nat) : Test Nat := fun w =>
  let r := (w.env w.log (.clock duration sleepFor)).toOption.getD {}
  (.ok r.answered.length, w.record (.clock duration sleepFor) (.ok r))

/-- Modelled from the spec: `tempest.test.call_until_true(func, duration, sleep_for)`
(not under src/) calls `func` until it returns `True` or the deadline passes, says
whether it did, and raises nothing of its own (§4.1); here `func` makes calls of its
own. -/
def callUntilTrueM (func : Test Bool) (duration sleepFor : Nat) : Test Bool := do
  let attempts ← clockAttempts duration sleepFor
  callUntilTrueLoop func attempts

/-! ## What a run logs -/

/-- From every state, `x` keeps the configuration and adds to the log events `es` with
`Spec es out`, where `out` is how it ended. -/
def LogsAs {α : Type} (Spec : List Event → Except Exc α → Prop) (x : Test α) : Prop :=
  ∀ w, (x w).2.conf = w.conf ∧ ∃ es, (x w).2.log = w.log ++ es ∧ Spec es (x w).1

/-- The runs of the polling loop with `n` attempts left, given what one attempt may log
with its outcome: out of time after attempts that each said no, or ended by an attempt
that said yes or raised. -/
inductive LoopTrace (Attempt : List Event → Except Exc Bool → Prop) :
    Nat → List Event → Except Exc Bool → Prop where
  | outOfTime : LoopTrace Attempt 0 [] (.ok false)
  | found {n : Nat} {es : List Event} :
      Attempt es (.ok true) → LoopTrace Attempt (n + 1) es (.ok true)
  | notYet {n : Nat} {es es' : List Event} {out : Except Exc Bool} :
      Attempt es (.ok false) → LoopTrace Attempt n es' out →
        LoopTrace Attempt (n + 1) (es ++ es') out
  | raised {n : Nat} {es : List Event} {e : Exc} :
      Attempt es (.error e) → LoopTrace Attempt (n + 1) es (.error e)

/-- A loop that said yes ended with an attempt that said yes. -/
theorem LoopTrace.found_last {Attempt : List Event → Except Exc Bool → Prop} {n : Nat}
    {es : List Event} (h : LoopTrace Attempt n es (.ok true)) :
    ∃ l es₁, es = l ++ es₁ ∧ Attempt es₁ (.ok true) := by
  generalize hout : (Except.ok true : Except Exc Bool) = out at h
  induction h with
  | outOfTime => cases hout
  | found hA => exact ⟨[], _, rfl, hout ▸ hA⟩
  | notYet _ _ ih =>
    obtain ⟨l, es₁, rfl, hA⟩ := ih hout
    exact ⟨_ ++ l, es₁, (List.append_assoc _ _ _).symm, hA⟩
  | raised => cases hout

/-- An attempt that makes one call, of the calls `P` allows, and ends as `f` says of its
reply. -/
def OneCall (P : Call → Prop) (f : Except Exc Reply → Except Exc Bool) (es : List Event)
    (out : Except Exc Bool) : Prop :=
  ∃ ev, es = [ev] ∧ P ev.call ∧ out = f ev.reply

/-- **A loop of one-call attempts** makes at most one call per attempt, each one `P`
allows; every call but the last was answered no, and the loop ends as the last call's
reply says, or with `False` when no attempt fitted. -/
theorem LoopTrace.oneCall {P : Call → Prop} {f : Except Exc Reply → Except Exc Bool}
    {n : Nat} {es : List Event} {out : Except Exc Bool} (h : LoopTrace (OneCall P f) n es out) :
    es.length ≤ n ∧ (∀ ev ∈ es, P ev.call) ∧ (∀ ev ∈ es.dropLast, f ev.reply = .ok false) ∧
      out = (es.getLast?.map fun ev => f ev.reply).getD (.ok false) := by
  induction h with
  | outOfTime => simp
  | found hA | raised hA =>
    obtain ⟨ev, rfl, hP, hf⟩ := hA
    simpa using ⟨hP, hf⟩
  | @notYet n es es' out hA _ ih =>
    obtain ⟨ev, rfl, hP, hf⟩ := hA
    obtain ⟨hlen, hPs, hno, rfl⟩ := ih
    rcases es' with _ | ⟨ev', es'⟩
    · simpa using ⟨hP, hf⟩
    · refine ⟨by simp only [List.length_append, List.length_cons, List.length_nil] at hlen ⊢; omega,
        ?_, ?_, ?_⟩
      · simpa [hP] using hPs
      · simpa [List.dropLast_cons₂, hf.symm] using hno
      · simp [List.getLast?_cons_cons]

section Poll

variable {Attempt : List Event → Except Exc Bool → Prop} {func : Test Bool}

/-- **The loop refines `LoopTrace`.**  When every attempt, from every state, logs what
`Attempt` allows, so does the loop with `n` attempts left, whatever the cloud answers. -/
theorem callUntilTrueLoop_trace (hf : LogsAs Attempt func) :
    ∀ n, LogsAs (LoopTrace Attempt n) (callUntilTrueLoop func n)
  | 0 => fun w => ⟨rfl, [], by simp [callUntilTrueLoop], .outOfTime⟩
  | n + 1 => fun w => by
    obtain ⟨hc, es, hlog, hA⟩ := hf w
    simp only [callUntilTrueLoop, Test.bind_apply]
    rcases hfw : func w with ⟨_ | _ | _, w'⟩ <;> rw [hfw] at hc hlog hA <;>
      simp only [Bool.false_eq_true, ↓reduceIte, Test.pure_apply] at hc hlog hA ⊢
    · exact ⟨hc, es, hlog, .raised hA⟩
    · obtain ⟨hc', es', hlog', htr⟩ := callUntilTrueLoop_trace hf n w'
      exact ⟨hc'.trans hc, es ++ es', by rw [hlog', hlog, List.append_assoc], .notYet hA htr⟩
    · exact ⟨hc, es, hlog, .found hA⟩

/-- How a wait ends after its poll: it returns when the poll said yes, raises
`TimeoutException(msg)` when it said no, and lets the poll's exception through. -/
def finishPoll (msg : String) : Except Exc Bool → Except Exc Unit
  | .ok true => .ok ()
  | .ok false => .error (.timeout msg)
  | .error e => .error e

/-- The runs of a wait: one reading of the clock, for `duration` seconds with `sleepFor`
between attempts, then a run of the loop with as many attempts as it allows, ended as
`finishPoll msg` says. -/
def WaitTrace (Attempt : List Event → Except Exc Bool → Prop) (duration sleepFor : Nat)
    (msg : String) (es : List Event) (out : Except Exc Unit) : Prop :=
  ∃ c es' res, es = ⟨.clock duration sleepFor, .ok c⟩ :: es' ∧
    LoopTrace Attempt c.answered.length es' res ∧ out = finishPoll msg res

/-- The shape both waits share: poll, then raise `TimeoutException(msg)` if the poll said
no. -/
theorem pollWait_trace (hf : LogsAs Attempt func) (duration sleepFor : Nat) (msg : String) :
    LogsAs (WaitTrace Attempt duration sleepFor msg)
      (callUntilTrueM func duration sleepFor >>= fun ok =>
        if ok then pure () else throw (.timeout msg)) := fun w => by
  obtain ⟨hc, es, hlog, htr⟩ := callUntilTrueLoop_trace hf _
    ((w.env w.log (.clock duration sleepFor)).toOption.getD {} |> fun r =>
      w.record (.clock duration sleepFor) (.ok r))
  simp only [callUntilTrueM, clockAttempts, Test.bind_apply] at hc hlog htr ⊢
  rcases hx : callUntilTrueLoop func _ _ with ⟨_ | _ | _, w'⟩ <;> rw [hx] at hc hlog htr <;>
    exact ⟨hc, _, by simpa using hlog, _, es, _, rfl, htr, rfl⟩

/-- A wait that returned: the clock reading, attempts, and a last attempt that said
yes. -/
theorem WaitTrace.ok {duration sleepFor : Nat} {msg : String} {es : List Event}
    (h : WaitTrace Attempt duration sleepFor msg es (.ok ())) :
    ∃ c l es₁, es = ⟨.clock duration sleepFor, .ok c⟩ :: (l ++ es₁) ∧ Attempt es₁ (.ok true) := by
  obtain ⟨c, es', res, rfl, htr, hres⟩ := h
  rcases res with _ | _ | _ <;> simp only [finishPoll, reduceCtorEq] at hres
  obtain ⟨l, es₁, rfl, hA⟩ := htr.found_last
  exact ⟨c, l, es₁, rfl, hA⟩

end Poll

end Tempest
