import Tempest.Factory

/-!
# A whole test: `setUp`, factory calls, teardown

A test instance runs `setUp`, then the factory calls of its body, then `unittest`'s
teardown, which pops the cleanups newest first.  This module follows the ledger through
such a run.

* `Reachable w₀ w`: `w` is a state the body can leave, from any answers of the
  environment and wherever each call stopped.
* `Reachable.ledger`: in every such state the drain lies at the bottom of the cleanups,
  the waits queued are registrations with their deletes registered, each synchronous
  wait lies below a delete of its resource, and the body called no deletion waiter.
* `doCleanups_trace`: from such a state, teardown issues one call per cleanup above the
  drain, in reverse order of registration, and then the drain does what `drainSpec`
  says.
* `Factory.run_appends_waits` and `runAll_queue_extends`: each `addCleanup_with_wait`
  appends its descriptor to the queue, which only grows at its end along the body;
* `run_teardown_ordered` puts these together: after the body's own events, every waiter
  of the run comes after the delete of its resource, every delete queued with a wait is
  issued before the drain's first waiter, and the drain is a `DrainTrace` of the
  registrations;
* `runCleanups_notFound_unwrapped`: a `NotFound` teardown records was raised by a
  cleanup registered outside `delete_wrapper`.
-/

namespace Tempest

/-! ## The ledger along the body -/

/-- `w'` adds to the cleanups and waits of `w` only registrations of the shape the
factories use. -/
def LedgerStep (w w' : World) : Prop :=
  ∃ cs ds, w'.cleanups = w.cleanups ++ cs ∧ w'.cleanupWaits = w.cleanupWaits ++ ds ∧
    Registrations cs ds

/-- The ledger's shape ignores which objects are open. -/
theorem ledgerStep_ledgerRel : LedgerRel fun _ _ => LedgerStep where
  refl _ _ := ⟨[], [], by simp, by simp, Registrations.nil⟩
  trans := fun ⟨cs, ds, hc, hd, h⟩ ⟨cs', ds', hc', hd', h'⟩ =>
    ⟨cs ++ cs', ds ++ ds', by simp [hc, hc'], by simp [hd, hd'], h.append h'⟩
  record _ _ _ _ _ := ⟨[], [], by simp, by simp, Registrations.nil⟩
  register _ _ cs ds h := ⟨cs, ds, rfl, rfl, h⟩

/-- No event of `es` is a deletion waiter. -/
def NoWaiters (es : List Event) : Prop := ∀ ev ∈ es, ev.call.isWaiter = false

/-- Logs without waiters compose. -/
theorem noWaiters_stable : Stable (ExtendsBy NoWaiters) :=
  ExtendsBy.stable (fun _ h => absurd h (List.not_mem_nil _)) fun _ _ ha hb ev h =>
    (List.mem_append.1 h).elim (ha ev) (hb ev)

/-- No factory calls a waiter. -/
theorem noWaiters_ledgerRel : LedgerRel fun _ _ => ExtendsBy NoWaiters where
  refl _ := noWaiters_stable.refl
  trans := noWaiters_stable.trans
  record _ _ _ _ hc := ⟨_, rfl, fun ev h => by rw [List.mem_singleton.1 h]; exact hc⟩
  register _ _ _ _ _ := ⟨[], by simp, fun _ h => absurd h (List.not_mem_nil _)⟩

/-- The states a test reaches from `w₀`: `setUp`, then factory calls one after another,
each from the state the previous one left, whether it returned or raised. -/
inductive Reachable (w₀ : World) : World → Prop where
  | setUp : Reachable w₀ (setUp w₀).2
  | step {w : World} (f : Factory) : Reachable w₀ w → Reachable w₀ (f.run w).2

/-- The ledger in a state the body left: the drain at the bottom of the cleanups,
registrations of the factories' shape above it, and a log that adds to `w₀`'s only events
that are not waiters. -/
def LedgerShape (w₀ w : World) : Prop :=
  ∃ rest, w.cleanups = .waitForCleanups :: rest ∧ Registrations rest w.cleanupWaits ∧
    ExtendsBy NoWaiters w₀ w

/-- `setUp`, from a state with no cleanups, leaves the ledger in shape. -/
theorem LedgerShape.setUp {w₀ : World} (h₀ : w₀.cleanups = []) : LedgerShape w₀ (setUp w₀).2 :=
  ⟨[], by simp [h₀], by simpa using Registrations.nil, [], by simp,
    fun _ h => absurd h (List.not_mem_nil _)⟩

/-- A step that adds registrations of the factories' shape and no waiter keeps the
ledger in shape. -/
theorem LedgerShape.step {w₀ w w' : World} (h : LedgerShape w₀ w) (h₁ : LedgerStep w w')
    (h₂ : ExtendsBy NoWaiters w w') : LedgerShape w₀ w' := by
  obtain ⟨rest, hcs, hreg, hlog⟩ := h
  obtain ⟨cs, ds, hc, hd, hr⟩ := h₁
  exact ⟨rest ++ cs, by rw [hc, hcs]; rfl, by rw [hd]; exact hreg.append hr,
    noWaiters_stable.trans hlog h₂⟩

/-- Every factory call, wherever it stops, is such a step. -/
theorem Factory.run_ledgerStep (f : Factory) (w : World) :
    LedgerStep w (f.run w).2 ∧ ExtendsBy NoWaiters w (f.run w).2 :=
  ⟨(Factory.run_keeps ledgerStep_ledgerRel f fun _ _ => ledgerStep_ledgerRel.refl []).run w,
    (Factory.run_keeps noWaiters_ledgerRel f fun _ _ => noWaiters_ledgerRel.refl []).run w⟩

/-- **The ledger along the body.**  From a state with no cleanups, every state the body
reaches has the drain at the bottom of its cleanups and above it only registrations of
the factories' shape, and its log adds to `w₀`'s only events that are not waiters. -/
theorem Reachable.ledger {w₀ w : World} (h₀ : w₀.cleanups = []) (hw : Reachable w₀ w) :
    LedgerShape w₀ w := by
  induction hw with
  | setUp => exact LedgerShape.setUp h₀
  | step f _ ih => exact ih.step (f.run_ledgerStep _).1 (f.run_ledgerStep _).2

/-- **Each `addCleanup_with_wait` appends its descriptor.**  A factory call keeps the
queue it found and appends after it the descriptors its `addCleanup_with_wait` calls
queue (`addCleanupWithWait_apply`), none under `'waiter_callable'`. -/
theorem Factory.run_appends_waits (f : Factory) (w : World) :
    ∃ regs : List WaitReg, (f.run w).2.cleanupWaits = w.cleanupWaits ++ regs.map WaitReg.dict ∧
      ∀ r ∈ regs, r.param ≠ "waiter_callable" := by
  obtain ⟨cs, ds, -, hd, hreg⟩ := (f.run_ledgerStep w).1
  obtain ⟨regs, rfl, hregs⟩ := hreg.waits
  exact ⟨regs, hd, fun r hr => (hregs r hr).1⟩

/-- A test body that calls the factories `fs` in turn, each from the state the previous
one left, whether it returned or raised. -/
def runAll (w : World) : List Factory → World
  | [] => w
  | f :: fs => runAll (f.run w).2 fs

/-- A body of factories run from a reachable state reaches a reachable state. -/
theorem Reachable.runAll {w₀ w : World} (hw : Reachable w₀ w) :
    ∀ fs, Reachable w₀ (Tempest.runAll w fs)
  | [] => hw
  | f :: fs => Reachable.runAll (.step f hw) fs

/-- **The queue keeps the order of registration.**  Along a body the queue only grows
at its end: the queue of a state the body passed through stays, unchanged, ahead of
every descriptor queued after it. -/
theorem runAll_queue_extends (w : World) :
    ∀ fs : List Factory, w.cleanupWaits <+: (runAll w fs).cleanupWaits
  | [] => List.prefix_refl _
  | f :: fs => by
    obtain ⟨regs, hq, -⟩ := f.run_appends_waits w
    exact (hq ▸ List.prefix_append _ _).trans (runAll_queue_extends _ fs)

/-! ## Teardown -/

/-- The one call a cleanup other than the drain makes, if it makes one. -/
def Cleanup.call : Cleanup → Option Call
  | .deleteWrapper r | .delete r => some (.delete r)
  | .wait k id => some (.waitDeleted k [id] [])
  | .waitForCleanups | .close _ => none

/-- A cleanup that deletes `r` makes the delete call of `r`. -/
theorem Cleanup.call_of_deletes {c : Cleanup} {r : Ref} (h : c.deletes = some r) :
    c.call = some (.delete r) := by
  cases c <;> simp_all [Cleanup.deletes, Cleanup.call]

/-- A call whose answer is dropped leaves the state the call leaves. -/
theorem discard_call_snd (c : Call) (w : World) :
    ((do let _ ← call c; pure () : Test Unit) w).2 = w.record c (w.env w.log c) := by
  simp only [Test.bind_apply, call_apply]
  cases w.env w.log c <;> rfl

/-- A cleanup other than the drain makes its one call, if any, and changes nothing but
the log. -/
theorem runCleanup_plain {c : Cleanup} (hc : c ≠ .waitForCleanups) (w : World) :
    ∃ es, (runCleanup c w).2 = { w with log := w.log ++ es } ∧
      es.map Event.call = c.call.toList := by
  cases c with
  | waitForCleanups => exact absurd rfl hc
  | deleteWrapper r =>
    exact ⟨[⟨.delete r, w.env w.log (.delete r)⟩],
      by rw [runCleanup, deleteWrapper_apply]; exact discard_call_snd _ w, rfl⟩
  | delete r => exact ⟨_, discard_call_snd _ w, rfl⟩
  | wait k id => exact ⟨_, discard_call_snd _ w, rfl⟩
  | close p => exact ⟨[], by simp [runCleanup], rfl⟩

/-- `doCleanups`' loop over two stretches of cleanups is the loop over each. -/
theorem runCleanups_append (a b : List Cleanup) :
    runCleanups (a ++ b) =
      (do let e₁ ← runCleanups a; let e₂ ← runCleanups b; pure (e₁ ++ e₂)) := by
  induction a with
  | nil =>
    funext w
    simp only [List.nil_append, runCleanups, Test.pure_bind, List.nil_append]
    simp only [Test.bind_apply, Test.pure_apply]
    rcases runCleanups b w with ⟨_ | _, _⟩ <;> rfl
  | cons c a ih =>
    simp only [List.cons_append, runCleanups, List.append_eq, ih, Test.bind_assoc,
      Test.pure_bind, List.append_assoc]

/-- Over cleanups without the drain, the loop always returns, and logs one call per
cleanup that makes one, in order. -/
theorem runCleanups_plain : ∀ (cs : List Cleanup), Cleanup.waitForCleanups ∉ cs → ∀ w : World,
    ∃ errs es, runCleanups cs w = (.ok errs, { w with log := w.log ++ es }) ∧
      es.map Event.call = cs.filterMap Cleanup.call
  | [], _, w => ⟨[], [], by simp [runCleanups], rfl⟩
  | c :: cs, hd, w => by
    have hc : c ≠ .waitForCleanups := fun h => hd (h ▸ List.mem_cons_self _ _)
    obtain ⟨es₁, h₁, hc₁⟩ := runCleanup_plain hc w
    have hw₁ : ∃ e, (tryCatch (do runCleanup c; pure none) (fun e => pure (some e)) :
        Test (Option Exc)) w = (.ok e, { w with log := w.log ++ es₁ }) := by
      simp only [Test.tryCatch_apply, Test.bind_apply]
      rcases hr : runCleanup c w with ⟨_ | _, w'⟩ <;> rw [hr] at h₁ <;> dsimp only at h₁ <;>
        subst h₁ <;> exact ⟨_, rfl⟩
    obtain ⟨e, he⟩ := hw₁
    obtain ⟨errs, es₂, h₂, hc₂⟩ :=
      runCleanups_plain cs (fun h => hd (List.mem_cons_of_mem _ h)) { w with log := w.log ++ es₁ }
    refine ⟨e.toList ++ errs, es₁ ++ es₂, ?_, ?_⟩
    · simp only [runCleanups, Test.bind_apply, he, h₂, Test.pure_apply, List.append_assoc]
    · rw [List.map_append, hc₁, hc₂, List.filterMap_cons]
      cases c.call <;> rfl

/-- What a run of the drain, ended as `res`, adds to the errors `doCleanups` records. -/
def raised : Except Exc Unit → List Exc
  | .ok _ => []
  | .error e => [e]

/-- The drain as the last cleanup: its exception, if any, is recorded. -/
theorem runCleanups_drain (w : World) :
    runCleanups [.waitForCleanups] w = (.ok (raised (waitForCleanups w).1), (waitForCleanups w).2) := by
  simp only [runCleanups, runCleanup, Test.bind_apply, Test.tryCatch_apply, Test.pure_apply]
  rcases waitForCleanups w with ⟨_ | _, _⟩ <;> rfl

/-- **Teardown, from a state the body left.**  With the drain at the bottom of the
cleanups and the waits queued by `addCleanup_with_wait`, teardown first makes the one
call of each cleanup above the drain, newest first, then runs the drain, which does what
`drainSpec` says; every exception is recorded, the drain's last. -/
theorem doCleanups_trace {w : World} {rest : List Cleanup} {regs : List WaitReg}
    (hcs : w.cleanups = .waitForCleanups :: rest) (hd : Cleanup.waitForCleanups ∉ rest)
    (hw : w.cleanupWaits = regs.map WaitReg.dict) (hp : ∀ r ∈ regs, r.param ≠ "waiter_callable") :
    ∃ T₁ T₂ res errs, (doCleanups w).2.log = w.log ++ T₁ ++ T₂ ∧
      T₁.map Event.call = rest.reverse.filterMap Cleanup.call ∧ DrainTrace regs T₂ res ∧
      (doCleanups w).1 = .ok (errs ++ raised res) := by
  obtain ⟨errs, T₁, h₁, hT₁⟩ :=
    runCleanups_plain rest.reverse (by simpa using hd) { w with cleanups := [] }
  set w₁ : World := { w with cleanups := [], log := w.log ++ T₁ } with hw₁
  have hdrain : waitForCleanups w₁ = waitForCleanupsLoop [] (regs.map WaitReg.dict) w₁ := by
    simp only [waitForCleanups, hw₁, hw]
  obtain ⟨hres, hlog⟩ := waitForCleanupsLoop_refines regs hp [] w₁ w₁ rfl rfl
  obtain ⟨T₂, hT₂, htr⟩ := drainSpec_trace regs w₁
  have hdoc : doCleanups w = (.ok (errs ++ raised (waitForCleanups w₁).1), (waitForCleanups w₁).2) := by
    simp only [doCleanups, takeCleanups, Test.bind_apply, hcs, List.reverse_cons,
      runCleanups_append, h₁, runCleanups_drain, Test.pure_apply]
  refine ⟨T₁, T₂, (drainSpec regs w₁).1, errs, ?_, hT₁, htr, ?_⟩
  · rw [hdoc, hdrain, hlog, hT₂]
  · rw [hdoc, hdrain, hres]

/-! ## Waiters after deletes -/

/-- The resource a deletion waiter waits for: the synchronous cleanup's positional id, or
the drain's one keyword argument. -/
def Call.waitedRef : Call → Option Ref
  | .waitDeleted k [id] [] => some ⟨k, id⟩
  | .waitDeleted k [] [(_, .str id)] => some ⟨k, id⟩
  | _ => none

/-- What an event needs from the log `l` before it: for a deletion waiter, the delete of
the resource it waits for; for any other event, nothing. -/
def DeletedFor (l : List Event) (ev : Event) : Prop :=
  ev.call.isWaiter = true → ∃ r, ev.call.waitedRef = some r ∧ ∃ ev' ∈ l, ev'.call = .delete r

/-- Every deletion waiter among `es` waits for a resource whose delete was issued
earlier in `es`. -/
def WaitersAfterDeletes (es : List Event) : Prop := HasBefore DeletedFor [] es

/-- A waiter whose delete came earlier keeps it when the earlier events grow. -/
theorem deletedFor_mono (l l' : List Event) (ev : Event) (hsub : l ⊆ l')
    (h : DeletedFor l ev) : DeletedFor l' ev := fun hw =>
  let ⟨r, hr, ev', hev', hd⟩ := h hw; ⟨r, hr, ev', hsub hev', hd⟩

/-- The cleanups that make a waiter call are the synchronous waits. -/
theorem Cleanup.eq_wait_of_call {c : Cleanup} {cl : Call} (hc : c.call = some cl)
    (hw : cl.isWaiter = true) : ∃ k id, c = .wait k id ∧ cl = .waitDeleted k [id] [] := by
  cases c <;> simp only [Cleanup.call, Option.some.injEq, reduceCtorEq] at hc <;> subst hc <;>
    simp_all [Call.isWaiter]

/-- Teardown's calls before the drain: each synchronous wait comes after a delete of its
resource, because the factories register the delete after the wait. -/
theorem teardown_waits_after_deletes {rest : List Cleanup} {ds : List WaitDict}
    (hreg : Registrations rest ds) {T₁ : List Event}
    (hT₁ : T₁.map Event.call = rest.reverse.filterMap Cleanup.call) (h : List Event) :
    HasBefore DeletedFor h T₁ := by
  intro pre ev post he hw
  rw [he, List.map_append, List.map_cons] at hT₁
  obtain ⟨l₁, l₂, hrest, h₁, h₂⟩ := List.filterMap_eq_append_iff.1 hT₁.symm
  obtain ⟨m₁, x, m₂, rfl, hm₁, hx, -⟩ := List.filterMap_eq_cons_iff.1 h₂
  obtain ⟨k, id, rfl, hcall⟩ := Cleanup.eq_wait_of_call hx hw
  have hcov := hreg.syncCovered (m₂.reverse) k id (m₁.reverse ++ l₁.reverse)
    (by simpa using congrArg List.reverse hrest)
  obtain ⟨c, hc, hdel⟩ := hcov
  have hl₁ : c ∈ l₁ := by
    rcases List.mem_append.1 hc with h | h
    · exact absurd (Cleanup.call_of_deletes hdel) (by simp [hm₁ c (List.mem_reverse.1 h)])
    · exact List.mem_reverse.1 h
  obtain ⟨ev', hev', hcall'⟩ : ∃ ev' ∈ pre, ev'.call = .delete ⟨k, id⟩ := by
    have : Call.delete ⟨k, id⟩ ∈ l₁.filterMap Cleanup.call :=
      List.mem_filterMap.2 ⟨c, hl₁, Cleanup.call_of_deletes hdel⟩
    rw [h₁] at this
    simpa using this
  exact ⟨⟨k, id⟩, by simp [hcall, Call.waitedRef], ev', List.mem_append_right _ hev', hcall'⟩

/-- Every call of a drain run is one of the registrations' waiters. -/
theorem DrainTrace.mem_call {regs : List WaitReg} {T : List Event} {res : Except Exc Unit}
    (htr : DrainTrace regs T res) : ∀ ev ∈ T, ∃ r ∈ regs, ev.call = r.call := by
  induction htr with
  | nil => simp
  | answered _ ih =>
    intro ev hev
    rcases List.mem_cons.1 hev with rfl | h
    · exact ⟨_, List.mem_cons_self _ _, rfl⟩
    · obtain ⟨r, hr, hc⟩ := ih ev h
      exact ⟨r, List.mem_cons_of_mem _ hr, hc⟩
  | raised => simp

/-- The log of a test run from `w₀` whose body left `w`, split where the spec splits
it: the body's events, the calls of the cleanups above the drain, the drain's; `regs`
are the registrations queued by `addCleanup_with_wait`, `result` how the drain ended
and `errors` what the cleanups before it raised. -/
structure TeardownSplit (w₀ w : World) (body deletes drain : List Event) (regs : List WaitReg)
    (result : Except Exc Unit) (errors : List Exc) : Prop where
  body_log : w.log = w₀.log ++ body
  log : (doCleanups w).2.log = w₀.log ++ body ++ deletes ++ drain
  queued : w.cleanupWaits = regs.map WaitReg.dict
  waiters_after_deletes : WaitersAfterDeletes (body ++ deletes ++ drain)
  deletes_before_drain : ∀ r ∈ regs, ∃ ev ∈ deletes, ev.call = .delete r.target
  drain_trace : DrainTrace regs drain result
  recorded : (doCleanups w).1 = .ok (errors ++ raised result)

/-- The log of the run splits as `TeardownSplit` says. -/
def TeardownOrder (w₀ w : World) : Prop :=
  ∃ body deletes drain regs result errors, TeardownSplit w₀ w body deletes drain regs result errors

/-- The ordering of teardown holds of every state whose ledger is in shape. -/
theorem LedgerShape.teardownOrder {w₀ w : World} (h : LedgerShape w₀ w) : TeardownOrder w₀ w := by
  obtain ⟨rest, hcs, hreg, body, hbody, hnw⟩ := h
  obtain ⟨regs, hds, hregs⟩ := hreg.waits
  obtain ⟨T₁, T₂, res, errs, hlog, hT₁, htr, hrec⟩ :=
    doCleanups_trace hcs hreg.noDrain hds fun r hr => (hregs r hr).1
  have hdel : ∀ r ∈ regs, ∃ ev ∈ T₁, ev.call = .delete r.target := fun r hr => by
    obtain ⟨c, hc, hd⟩ := (hregs r hr).2
    have : Call.delete r.target ∈ T₁.map Event.call := by
      rw [hT₁]
      exact List.mem_filterMap.2 ⟨c, List.mem_reverse.2 hc, Cleanup.call_of_deletes hd⟩
    simpa using this
  refine ⟨body, T₁, T₂, regs, res, errs, hbody, by rw [hlog, hbody], hds, ?_, hdel, htr, hrec⟩
  refine HasBefore.append (HasBefore.append ?_ (teardown_waits_after_deletes hreg hT₁ _)) ?_
  · exact HasBefore.of_forall fun ev hev _ hw => by simp [hnw ev hev] at hw
  · refine HasBefore.of_forall_mem deletedFor_mono fun ev hev _ => ?_
    obtain ⟨r, hr, hc⟩ := htr.mem_call ev hev
    obtain ⟨ev', hev', hd⟩ := hdel r hr
    exact ⟨r.target, by simp [hc, WaitReg.call, Call.waitedRef, WaitReg.target], ev',
      by simp [hev'], hd⟩

/-- **Every run of a test keeps the ledger's order.**  For every environment, from a
state with no cleanups, after `setUp` and any factory calls, whatever they returned or
raised: in the log of the whole run, after the body's own events, (i) every deletion
waiter, synchronous or queued, comes after the delete of the resource it waits for;
(ii) the delete of every registration queued by `addCleanup_with_wait` is issued among
the cleanups that run before the drain; (iii) the drain calls the queued waiters in
registration order (`runAll_queue_extends`), each once with its one keyword argument, up
to the first that raises, whose exception is recorded last. -/
theorem run_teardown_ordered {w₀ w : World} (h₀ : w₀.cleanups = []) (hw : Reachable w₀ w) :
    TeardownOrder w₀ w :=
  (hw.ledger h₀).teardownOrder

/-- A test that boots a server, its wait queued, and creates a volume with a
synchronous wait, on a cloud that keeps what it creates. -/
theorem run_teardown_ordered_server_and_volume :
    TeardownOrder (sampleWorld keepingEnv 28)
      ((Factory.createVolume 1 none none none none true).run
        ((Factory.createServer none none none true false []).run
          (setUp (sampleWorld keepingEnv 28)).2).2).2 :=
  run_teardown_ordered rfl (.step _ (.step _ .setUp))

/-! ## A delete outside `delete_wrapper` -/

/-- A cloud in which every keypair is already gone when teardown deletes it. -/
def keypairGoneEnv : Env := fun _ c => match c with
  | .delete ⟨.keypair, _⟩ => .error .notFound
  | _ => .ok {}

/-- **`create_keypair` registers its delete outside `delete_wrapper`.**  A test creates a
keypair that is gone by teardown: `delete_keypair` raises `NotFound`, and teardown
records it as an error of the test, where the same answer through `delete_wrapper`
returns normally. -/
theorem createKeypair_notFound_escapes_teardown :
    (doCleanups ((Factory.createKeypair.run (setUp (sampleWorld keypairGoneEnv 28)).2).2)).1 =
        .ok [.notFound] ∧
      (deleteWrapper (deleteMethod ⟨.keypair, "TestSample-"⟩) (sampleWorld keypairGoneEnv 28)).1 =
        .ok () :=
  ⟨rfl, rfl⟩

/-- One cleanup, then the rest: what the first raised is recorded before what the rest
record. -/
theorem runCleanups_cons (c : Cleanup) (cs : List Cleanup) (w : World) :
    runCleanups (c :: cs) w = match runCleanups cs (runCleanup c w).2 with
      | (.ok errs, w') => (.ok (raised (runCleanup c w).1 ++ errs), w')
      | (.error e, w') => (.error e, w') := by
  simp only [runCleanups, Test.bind_apply, Test.tryCatch_apply, Test.pure_apply]
  rcases runCleanup c w with ⟨_ | _, w₁⟩ <;> dsimp only <;>
    rcases runCleanups cs w₁ with ⟨_ | _, _⟩ <;> rfl

/-- A wrapped delete never raises `NotFound`, and closing a file raises nothing. -/
theorem runCleanup_ne_notFound {c : Cleanup} (w : World)
    (hc : (∃ r, c = .deleteWrapper r) ∨ ∃ p, c = .close p) :
    (runCleanup c w).1 ≠ .error .notFound := by
  rcases hc with ⟨r, rfl⟩ | ⟨p, rfl⟩
  · simp only [runCleanup, deleteWrapper_apply]
    split <;> simp_all
  · simp [runCleanup]

/-- The state after a cleanup and the rest is the state after the rest run from the
state the cleanup left. -/
theorem runCleanups_cons_snd (c : Cleanup) (cs : List Cleanup) (w : World) :
    (runCleanups (c :: cs) w).2 = (runCleanups cs (runCleanup c w).2).2 := by
  rw [runCleanups_cons]
  split <;> rename_i h <;> rw [h]

/-- **Through `delete_wrapper` a delete never fails on `NotFound`.**  Whatever the
environment answers, every `NotFound` teardown records was raised by one cleanup, run
from the state the cleanups before it left, and that cleanup was registered other than as
a wrapped delete or a file close: a client's delete method, a synchronous waiter, or the
drain. -/
theorem runCleanups_notFound_unwrapped :
    ∀ (cs : List Cleanup) (w : World) (errs : List Exc), (runCleanups cs w).1 = .ok errs →
      Exc.notFound ∈ errs → ∃ pre c post, cs = pre ++ c :: post ∧
        (runCleanup c (runCleanups pre w).2).1 = .error .notFound ∧
        (∀ r, c ≠ .deleteWrapper r) ∧ ∀ p, c ≠ .close p
  | [], _, _, h, hnf => by
    simp only [runCleanups, Test.pure_apply, Except.ok.injEq] at h
    simp [← h] at hnf
  | c :: cs, w, errs, h, hnf => by
    rw [runCleanups_cons] at h
    split at h
    · rename_i errs' _ hrest
      simp only [Except.ok.injEq] at h
      subst h
      rcases List.mem_append.1 hnf with hc | hc
      · have hraise : (runCleanup c w).1 = .error .notFound := by
          revert hc; rcases (runCleanup c w).1 with _ | _ <;> simp [raised, eq_comm]
        exact ⟨[], c, cs, rfl, hraise, fun r hr => runCleanup_ne_notFound w (.inl ⟨r, hr⟩) hraise,
          fun p hp => runCleanup_ne_notFound w (.inr ⟨p, hp⟩) hraise⟩
      · obtain ⟨pre, c', post, rfl, hraise, hne⟩ :=
          runCleanups_notFound_unwrapped cs _ errs' (by rw [hrest]) hc
        exact ⟨c :: pre, c', post, rfl, by rwa [runCleanups_cons_snd], hne⟩
    · cases h

/-- A wrapped delete and a direct one of a keypair that is gone: only the direct one is
recorded, and it is the direct delete that raised. -/
theorem runCleanups_notFound_keypair_gone :
    (runCleanups [.deleteWrapper ⟨.keypair, "k"⟩, .delete ⟨.keypair, "k"⟩]
        (sampleWorld keypairGoneEnv 28)).1 = .ok [.notFound] ∧
      Exc.notFound ∈ [Exc.notFound] ∧
      ∃ pre c post, [Cleanup.deleteWrapper ⟨.keypair, "k"⟩, .delete ⟨.keypair, "k"⟩] =
          pre ++ c :: post ∧
        (runCleanup c (runCleanups pre (sampleWorld keypairGoneEnv 28)).2).1 = .error .notFound ∧
        (∀ r, c ≠ .deleteWrapper r) ∧ ∀ p, c ≠ .close p :=
  ⟨rfl, List.mem_singleton_self _, runCleanups_notFound_unwrapped _
    (sampleWorld keypairGoneEnv 28) _ rfl (List.mem_singleton_self _)⟩

end Tempest
