import Tempest.Harness

/-!
# The cleanup ledger of `ScenarioTest`

`setUp`, `delete_wrapper`, `addCleanup_with_wait` and `_wait_for_cleanups`
(`scenario/manager.py`, lines 99-160), and the teardown of `unittest`, which pops the
registered cleanups newest first.

* `deleteWrapper_apply`: the wrapper returns normally exactly when the wrapped delete
  returns or raises `NotFound`, and passes any other exception on unchanged;
* `waitForCleanupsLoop_refines`: on descriptors built by `addCleanup_with_wait` with a
  parameter name other than `'waiter_callable'`, the drain does what `drainSpec` says:
  the waiters in registration order, each with its one keyword argument, up to the
  first that raises (`drainSpec_trace`);
* `waitForCleanupsLoop_waiter_callable_param`: a descriptor queued under the parameter
  name `'waiter_callable'` makes the drain raise `TypeError` when it reaches it, after the
  waiters queued before it and before any queued after it.
-/

namespace Tempest

/-! ## Registering -/

/-- `self.cleanup_waits = ws`. -/
def setCleanupWaits (ws : List WaitDict) : Test Unit := fun w =>
  (.ok (), { w with cleanupWaits := ws })

/-- `self.cleanup_waits.append(d)`. -/
def appendCleanupWait (d : WaitDict) : Test Unit := fun w =>
  (.ok (), { w with cleanupWaits := w.cleanupWaits ++ [d] })

/-- **`ScenarioTest.setUp`**: no waits yet, and their drain registered as a cleanup, so
that it runs after every cleanup registered later. -/
def setUp : Test Unit := do
  setCleanupWaits []
  addCleanup .waitForCleanups

@[simp] theorem setUp_apply (w : World) :
    setUp w = (.ok (), { w with cleanupWaits := [], cleanups := w.cleanups ++ [.waitForCleanups] }) :=
  rfl

/-- The literal `{'waiter_callable': waiter_callable, thing_id_param: thing_id}`. -/
def waitDict (waiter : Kind) (thingId thingIdParam : String) : WaitDict :=
  dictSet [("waiter_callable", .waiter waiter)] thingIdParam (.str thingId)

/-- **`ScenarioTest.addCleanup_with_wait`**: register the cleanup now (here with its
arguments) and queue the waiter for the drain.  `ignore_error` is never read. -/
def addCleanupWithWait (waiter : Kind) (thingId thingIdParam : String)
    (cleanup : Cleanup) : Test Unit := do
  addCleanup cleanup
  appendCleanupWait (waitDict waiter thingId thingIdParam)

@[simp] theorem setCleanupWaits_apply (ws : List WaitDict) (w : World) :
    setCleanupWaits ws w = (.ok (), { w with cleanupWaits := ws }) := rfl

@[simp] theorem appendCleanupWait_apply (d : WaitDict) (w : World) :
    appendCleanupWait d w = (.ok (), { w with cleanupWaits := w.cleanupWaits ++ [d] }) := rfl

@[simp] theorem addCleanupWithWait_apply (k : Kind) (i p : String) (c : Cleanup) (w : World) :
    addCleanupWithWait k i p c w = (.ok (), { w with
      cleanups := w.cleanups ++ [c]
      cleanupWaits := w.cleanupWaits ++ [waitDict k i p] }) := rfl

/-- With any parameter name but `'waiter_callable'` the literal has both keys. -/
theorem waitDict_of_ne {p : String} (k : Kind) (i : String) (hp : p ≠ "waiter_callable") :
    waitDict k i p = [("waiter_callable", .waiter k), (p, .str i)] := by
  simp [waitDict, dictSet, Ne.symm hp]

/-! ## Deleting -/

/-- The delete method of `r`'s client called on `r`'s id.  For the neutron resources the
factories register `resource.delete` instead; modelled from the spec:
`DeletableResource.delete` (`services/network/resources.py`, not under src/) "issues the
remote delete call" (§4.2), the same one call. -/
def deleteMethod (r : Ref) : Test Unit := do
  let _ ← call (.delete r)

/-- **`ScenarioTest.delete_wrapper(delete_thing, *args)`**: a `NotFound` means the
resource is already gone. -/
def deleteWrapper (deleteThing : Test Unit) : Test Unit :=
  tryCatch deleteThing fun
    | .notFound => pure ()
    | e => throw e

/-- **The wrapper's contract**: it leaves the state the wrapped call leaves, returns
normally exactly when that call returns or raises `NotFound`, and raises any other
exception unchanged. -/
theorem deleteWrapper_apply (x : Test Unit) (w : World) :
    deleteWrapper x w =
      ((match (x w).1 with
        | .ok () => .ok ()
        | .error .notFound => .ok ()
        | .error e => .error e), (x w).2) := by
  simp only [deleteWrapper, Test.tryCatch_apply]
  rcases x w with ⟨_ | _, w'⟩
  · rename_i e; cases e <;> rfl
  · rfl

/-! ## The drain -/

/-- `waiter_callable(**wait)`: call the popped value with the rest of the descriptor as
keyword arguments; a string is not callable. -/
def callWaiter (v : Val) (kwargs : WaitDict) : Test Unit :=
  match v with
  | .waiter k => do let _ ← call (.waitDeleted k [] kwargs)
  | .str _ => throw .typeError

/-- The loop of `_wait_for_cleanups` from the descriptor `d` on, `done` those already
visited: `wait.pop('waiter_callable')` changes the descriptor in place before its waiter
runs. -/
def waitForCleanupsLoop (done : List WaitDict) : List WaitDict → Test Unit
  | [] => pure ()
  | d :: ds =>
    match dictPop d "waiter_callable" with
    | .error e => throw e
    | .ok (v, rest) => do
      setCleanupWaits (done ++ rest :: ds)
      callWaiter v rest
      waitForCleanupsLoop (done ++ [rest]) ds

/-- **`ScenarioTest._wait_for_cleanups`**. -/
def waitForCleanups : Test Unit := fun w => waitForCleanupsLoop [] w.cleanupWaits w

/-- What `addCleanup_with_wait` was given: the waiter, the parameter name and the id. -/
structure WaitReg where
  waiter : Kind
  param : String
  thingId : String
  deriving DecidableEq, Repr

/-- The descriptor a registration queues. -/
def WaitReg.dict (r : WaitReg) : WaitDict := waitDict r.waiter r.thingId r.param

/-- The call the drain owes a registration: its waiter with `{thing_id_param: thing_id}`. -/
def WaitReg.call (r : WaitReg) : Call := .waitDeleted r.waiter [] [(r.param, .str r.thingId)]

/-- The resource a registration waits for. -/
def WaitReg.target (r : WaitReg) : Ref := ⟨r.waiter, r.thingId⟩

/-- The drain as it is meant: each registration's waiter, in registration order, called
with its one keyword argument; the first that raises ends it. -/
def drainSpec : List WaitReg → Test Unit
  | [] => pure ()
  | r :: rs => do
    let _ ← call r.call
    drainSpec rs

/-- The runs `drainSpec` allows: the owed calls in order, each answered, the first
exception ending the run and becoming its result. -/
inductive DrainTrace : List WaitReg → List Event → Except Exc Unit → Prop where
  | nil : DrainTrace [] [] (.ok ())
  | answered {r : WaitReg} {rs : List WaitReg} {a : Reply} {es : List Event}
      {res : Except Exc Unit} :
      DrainTrace rs es res → DrainTrace (r :: rs) (⟨r.call, .ok a⟩ :: es) res
  | raised {r : WaitReg} {rs : List WaitReg} {e : Exc} :
      DrainTrace (r :: rs) [⟨r.call, .error e⟩] (.error e)

/-- `drainSpec` appends to the log a `DrainTrace` of the registrations, with its result. -/
theorem drainSpec_trace (rs : List WaitReg) (w : World) :
    ∃ es, (drainSpec rs w).2.log = w.log ++ es ∧ DrainTrace rs es (drainSpec rs w).1 := by
  induction rs generalizing w with
  | nil => exact ⟨[], by simp [drainSpec], .nil⟩
  | cons r rs ih =>
    simp only [drainSpec, Test.bind_apply, call_apply]
    rcases h : w.env w.log r.call with e | a
    · exact ⟨[⟨r.call, .error e⟩], by simp [h], by simpa [h] using .raised⟩
    · obtain ⟨es, hlog, htr⟩ := ih { w with log := w.log ++ [⟨r.call, .ok a⟩] }
      exact ⟨⟨r.call, .ok a⟩ :: es, by simpa [h] using hlog, by simpa [h] using .answered htr⟩

/-- Popping the waiter from a well-formed descriptor leaves its one keyword argument. -/
theorem dictPop_dict {r : WaitReg} (hr : r.param ≠ "waiter_callable") :
    dictPop r.dict "waiter_callable" = .ok (.waiter r.waiter, [(r.param, .str r.thingId)]) := by
  simp [dictPop, WaitReg.dict, waitDict_of_ne _ _ hr, List.find?, Ne.symm hr, hr]

/-- **The drain refines `drainSpec`**: on descriptors queued by `addCleanup_with_wait`
with a parameter name other than `'waiter_callable'`, the loop raises what `drainSpec`
raises and logs what it logs, from any two states that agree on the environment and the
log (the loop also rewrites the descriptors, which `drainSpec` leaves alone). -/
theorem waitForCleanupsLoop_refines (rs : List WaitReg)
    (hrs : ∀ r ∈ rs, r.param ≠ "waiter_callable") (done : List WaitDict) (w v : World)
    (henv : w.env = v.env) (hlog : w.log = v.log) :
    (waitForCleanupsLoop done (rs.map WaitReg.dict) w).1 = (drainSpec rs v).1 ∧
      (waitForCleanupsLoop done (rs.map WaitReg.dict) w).2.log = (drainSpec rs v).2.log := by
  induction rs generalizing done w v with
  | nil => simp [waitForCleanupsLoop, drainSpec, hlog]
  | cons r rs ih =>
    have hr := hrs r (List.mem_cons_self _ _)
    simp only [List.map_cons, waitForCleanupsLoop, dictPop_dict hr, drainSpec, callWaiter,
      Test.bind_apply, setCleanupWaits_apply, call_apply, WaitReg.call, henv, hlog]
    rcases v.env v.log (.waitDeleted r.waiter [] [(r.param, .str r.thingId)]) with e | a
    · exact ⟨rfl, rfl⟩
    · exact ih (fun r' hr' => hrs r' (List.mem_cons_of_mem _ hr')) _ _ _ rfl rfl

/-- **A registration under the parameter name `'waiter_callable'` breaks the drain.**
Whatever is queued before and after it: the drain calls the waiters queued before it as
`drainSpec` does; when none of them raised, it reaches the bad descriptor, whose id has
overwritten its waiter, pops the id and calls it.  The drain raises `TypeError` there,
calls no waiter queued after it, and logs nothing more. -/
theorem waitForCleanupsLoop_waiter_callable_param (rs : List WaitReg)
    (hrs : ∀ r ∈ rs, r.param ≠ "waiter_callable") (k : Kind) (id : String)
    (done ds : List WaitDict) (w v : World) (henv : w.env = v.env) (hlog : w.log = v.log) :
    (waitForCleanupsLoop done (rs.map WaitReg.dict ++ waitDict k id "waiter_callable" :: ds) w).1 =
        ((drainSpec rs v).1 >>= fun _ => .error .typeError) ∧
      (waitForCleanupsLoop done (rs.map WaitReg.dict ++ waitDict k id "waiter_callable" :: ds)
        w).2.log = (drainSpec rs v).2.log := by
  induction rs generalizing done w v with
  | nil =>
    simp [waitForCleanupsLoop, waitDict, dictSet, dictPop, callWaiter, drainSpec, hlog]
    rfl
  | cons r rs ih =>
    have hr := hrs r (List.mem_cons_self _ _)
    simp only [List.map_cons, List.cons_append, waitForCleanupsLoop, dictPop_dict hr, drainSpec,
      callWaiter, Test.bind_apply, setCleanupWaits_apply, call_apply, WaitReg.call, henv, hlog]
    rcases v.env v.log (.waitDeleted r.waiter [] [(r.param, .str r.thingId)]) with e | a
    · exact ⟨rfl, rfl⟩
    · exact ih (fun r' hr' => hrs r' (List.mem_cons_of_mem _ hr')) _ _ _ rfl rfl

/-- A server's wait queued well, then a volume's under `'waiter_callable'`: on a cloud
that answers every call, the drain waits for the server and then raises `TypeError`. -/
theorem waitForCleanupsLoop_waiter_callable_param_server_volume :
    (∀ r ∈ [(⟨.server, "server_id", "s1"⟩ : WaitReg)], r.param ≠ "waiter_callable") ∧
      (waitForCleanupsLoop [] ([(⟨.server, "server_id", "s1"⟩ : WaitReg)].map WaitReg.dict ++
          waitDict .volume "v1" "waiter_callable" :: []) (sampleWorld (fun _ _ => .ok {}) 28)).1 =
        ((drainSpec [⟨.server, "server_id", "s1"⟩] (sampleWorld (fun _ _ => .ok {}) 28)).1 >>=
          fun _ => .error .typeError) ∧
      (waitForCleanupsLoop [] ([(⟨.server, "server_id", "s1"⟩ : WaitReg)].map WaitReg.dict ++
          waitDict .volume "v1" "waiter_callable" :: []) (sampleWorld (fun _ _ => .ok {}) 28)).2.log =
        (drainSpec [⟨.server, "server_id", "s1"⟩] (sampleWorld (fun _ _ => .ok {}) 28)).2.log :=
  have hrs : ∀ r ∈ [(⟨.server, "server_id", "s1"⟩ : WaitReg)], r.param ≠ "waiter_callable" := by
    simp
  ⟨hrs, waitForCleanupsLoop_waiter_callable_param _ hrs .volume "v1" [] [] _ _ rfl rfl⟩

/-! ## What the factories register -/

/-- The resource a cleanup deletes, when it is a delete. -/
def Cleanup.deletes : Cleanup → Option Ref
  | .deleteWrapper r | .delete r => some r
  | _ => none

/-- Some cleanup of `cs` deletes `r`. -/
def Deletes (cs : List Cleanup) (r : Ref) : Prop := ∃ c ∈ cs, c.deletes = some r

/-- Cleanups `cs` and waits `ds` registered after `setUp` as the factories register them:
never the drain again; each wait queued for a registration whose resource one of `cs`
deletes, under a parameter name other than `'waiter_callable'`; each synchronous wait
followed by a delete of its resource, which teardown therefore runs first. -/
structure Registrations (cs : List Cleanup) (ds : List WaitDict) : Prop where
  noDrain : Cleanup.waitForCleanups ∉ cs
  waits : ∃ regs : List WaitReg, ds = regs.map WaitReg.dict ∧
    ∀ r ∈ regs, r.param ≠ "waiter_callable" ∧ Deletes cs r.target
  syncCovered : ∀ pre k id post, cs = pre ++ .wait k id :: post → Deletes post ⟨k, id⟩

/-- A delete among `cs` is among `cs ++ cs'`. -/
theorem Deletes.append_left {cs : List Cleanup} {r : Ref} (cs' : List Cleanup)
    (h : Deletes cs r) : Deletes (cs ++ cs') r :=
  let ⟨c, hc, hd⟩ := h; ⟨c, List.mem_append_left _ hc, hd⟩

/-- A delete among `cs` is among `cs' ++ cs`. -/
theorem Deletes.append_right {cs : List Cleanup} {r : Ref} (cs' : List Cleanup)
    (h : Deletes cs r) : Deletes (cs' ++ cs) r :=
  let ⟨c, hc, hd⟩ := h; ⟨c, List.mem_append_right _ hc, hd⟩

namespace Registrations

/-- Registering nothing is of the factories' shape. -/
theorem nil : Registrations [] [] :=
  ⟨List.not_mem_nil _, ⟨[], rfl, fun _ h => absurd h (List.not_mem_nil _)⟩,
    fun pre _ _ _ h => absurd h (by cases pre <;> simp)⟩

/-- Two blocks of the factories' shape, one after the other, are one block of it. -/
theorem append {cs₁ cs₂ : List Cleanup} {ds₁ ds₂ : List WaitDict}
    (h₁ : Registrations cs₁ ds₁) (h₂ : Registrations cs₂ ds₂) :
    Registrations (cs₁ ++ cs₂) (ds₁ ++ ds₂) := by
  obtain ⟨n₁, ⟨regs₁, rfl, hr₁⟩, s₁⟩ := h₁
  obtain ⟨n₂, ⟨regs₂, rfl, hr₂⟩, s₂⟩ := h₂
  refine ⟨by simp [n₁, n₂], ⟨regs₁ ++ regs₂, by simp, fun r hr => ?_⟩, ?_⟩
  · rcases List.mem_append.1 hr with h | h
    · exact ⟨(hr₁ r h).1, (hr₁ r h).2.append_left _⟩
    · exact ⟨(hr₂ r h).1, (hr₂ r h).2.append_right _⟩
  · intro pre k id post he
    rcases List.append_eq_append_iff.1 he with ⟨a, rfl, hb⟩ | ⟨c, ha, hev⟩
    · exact s₂ a k id post hb
    · cases c with
      | nil => exact s₂ [] k id post hev.symm
      | cons x c =>
        obtain ⟨rfl, rfl⟩ := List.cons_eq_cons.1 hev
        exact (s₁ pre k id c (by simpa using ha)).append_left _

/-- One cleanup that is not a wait nor the drain. -/
theorem single {c : Cleanup} (hd : c ≠ .waitForCleanups) (hw : ∀ k id, c ≠ .wait k id) :
    Registrations [c] [] := by
  refine ⟨by simpa using hd.symm, ⟨[], rfl, fun _ h => absurd h (List.not_mem_nil _)⟩, ?_⟩
  intro pre k id post he
  cases pre with
  | nil => exact absurd (List.cons_eq_cons.1 he).1 (hw k id)
  | cons x pre => cases pre <;> simp at he

/-- A delete registered with `addCleanup_with_wait`, its wait queued. -/
theorem withWait {k : Kind} {id p : String} (hp : p ≠ "waiter_callable") :
    Registrations [.deleteWrapper ⟨k, id⟩] [waitDict k id p] := by
  refine ⟨by simp, ⟨[⟨k, p, id⟩], rfl, ?_⟩, (single (by simp) (by simp)).syncCovered⟩
  intro r hr
  rw [List.mem_singleton.1 hr]
  exact ⟨hp, _, List.mem_singleton_self _, rfl⟩

/-- A synchronous wait, then the delete of its resource (with, or without, its wait
queued). -/
theorem syncWait {k : Kind} {id : String} {ds : List WaitDict}
    (hds : Registrations [.deleteWrapper ⟨k, id⟩] ds) :
    Registrations [.wait k id, .deleteWrapper ⟨k, id⟩] ds := by
  obtain ⟨-, ⟨regs, rfl, hr⟩, -⟩ := hds
  refine ⟨by simp, ⟨regs, rfl, fun r h => ⟨(hr r h).1, (hr r h).2.append_right [_]⟩⟩, ?_⟩
  intro pre k' id' post he
  match pre, he with
  | [], he =>
    obtain ⟨⟨rfl, rfl⟩, rfl⟩ := by simpa using he
    exact ⟨_, List.mem_singleton_self _, rfl⟩
  | [_], he => simp at he
  | _ :: _ :: pre, he => cases pre <;> simp at he

end Registrations

/-! ## Teardown -/

/-- Run one registered cleanup. -/
def runCleanup : Cleanup → Test Unit
  | .waitForCleanups => waitForCleanups
  | .deleteWrapper r => deleteWrapper (deleteMethod r)
  | .delete r => deleteMethod r
  | .wait k id => do let _ ← call (.waitDeleted k [id] [])
  | .close _ => pure ()

/-- Run cleanups in the order given, recording what each raises and going on to the
next: the loop of `unittest`'s `doCleanups` (library code, outside the repository). -/
def runCleanups : List Cleanup → Test (List Exc)
  | [] => pure []
  | c :: cs => do
    let e ← tryCatch (do runCleanup c; pure none) (fun e => pure (some e))
    let es ← runCleanups cs
    pure (e.toList ++ es)

/-- Take the registered cleanups off the test. -/
def takeCleanups : Test (List Cleanup) := fun w => (.ok w.cleanups, { w with cleanups := [] })

/-- **The teardown**: the registered cleanups, newest first; the result is what they
raised, each recorded as an error of the test. -/
def doCleanups : Test (List Exc) := do
  let cs ← takeCleanups
  runCleanups cs.reverse

end Tempest
