import Tempest.Teardown

/-!
# What a factory registers for what it creates

The spec asks of every factory that each object it creates gets exactly one delete in the
ledger, whether the factory returns or raises, and that no delete names an object it did
not create.  This module counts, per object, the deletes a factory registers against the
creations it logs (`Call.created`).

* `Balanced ok`: the `LedgerRel` that holds when `ok` holds of each object's balance,
  its deletes less its creations, the open objects counted on both sides;
* `Factory.run_deletes_only_created`: every factory, on every exit, registers for each
  object at most as many deletes as it created it;
* `Factory.run_deletes_each_created`: a factory that registers at once registers exactly
  as many;
* `TeardownLog`: the log of a whole test, split into the body's own events, the calls of
  the cleanups registered above the drain, newest first, and the drain's waiters;
* `teardown_deletes_only_created` and `teardown_deletes_each_created`: along a whole
  test, teardown issues, before the drain, at most one delete call per object the body
  created, and exactly one when every factory of the body registers at once;
* `teardown_deletes_reverse_created`: those deletes name the objects in the reverse of
  the order the body created them;
* `createNetwork_name_mismatch_leaks`: `_create_network` (lines 544-556) checks the
  reply before it registers, and leaves the network without a delete when the check
  fails.
-/

namespace Tempest

/-! ## Deletes against creations -/

/-- For the object `r`, from a state with `p` open to one with `q` open, the log growing
by `es` and the cleanups by `cs`: the deletes registered and the objects left open, less
the objects open before and the creations logged. -/
def balance (p q : List Ref) (es : List Event) (cs : List Cleanup) (r : Ref) : Int :=
  ((cs.filterMap Cleanup.deletes).count r + q.count r : Nat) -
    (p.count r + (es.filterMap Event.created).count r : Nat)

/-- The log and the cleanups grow from `w` to `w'`, and `ok` holds of every object's
`balance`. -/
def Balanced (ok : Int → Prop) (p q : List Ref) (w w' : World) : Prop :=
  ∃ es cs, w'.log = w.log ++ es ∧ w'.cleanups = w.cleanups ++ cs ∧
    ∀ r, ok (balance p q es cs r)

/-- Balances add up along two runs one after the other. -/
theorem balance_append (p q s : List Ref) (es₁ es₂ : List Event) (cs₁ cs₂ : List Cleanup)
    (r : Ref) :
    balance p s (es₁ ++ es₂) (cs₁ ++ cs₂) r = balance p q es₁ cs₁ r + balance q s es₂ cs₂ r := by
  simp only [balance, List.filterMap_append, List.count_append]
  omega

/-- A condition on the balance that holds of zero and of sums gives a `LedgerRel`: a
call opens what it created, a registration closes what it deletes, so each step
balances every object. -/
theorem balanced_ledgerRel {ok : Int → Prop} (h0 : ok 0)
    (hadd : ∀ a b, ok a → ok b → ok (a + b)) : LedgerRel (Balanced ok) where
  refl _ _ := ⟨[], [], by simp, by simp, fun _ => by simpa [balance] using h0⟩
  trans := fun ⟨es₁, cs₁, hl₁, hc₁, h₁⟩ ⟨es₂, cs₂, hl₂, hc₂, h₂⟩ =>
    ⟨es₁ ++ es₂, cs₁ ++ cs₂, by simp [hl₁, hl₂], by simp [hc₁, hc₂],
      fun r => by rw [balance_append]; exact hadd _ _ (h₁ r) (h₂ r)⟩
  record p w c r _ := ⟨[⟨c, r⟩], [], rfl, by simp, fun r' => by
    cases h : Event.created ⟨c, r⟩ <;> simpa [balance, h, List.count_append] using h0⟩
  register p w cs ds _ := ⟨[], cs, by simp, rfl, fun r => by
    simpa [balance, List.count_append] using h0⟩

/-- At most as many deletes as creations; an object may stay open. -/
theorem deletesWithin_ledgerRel : LedgerRel (Balanced (· ≤ 0)) :=
  balanced_ledgerRel le_rfl fun _ _ => Int.add_nonpos

/-- An object may stay open with no delete: its balance is then below zero. -/
theorem deletesWithin_droppable (p : List Ref) : Droppable (Balanced (· ≤ 0)) p :=
  fun _ => ⟨[], [], by simp, by simp, fun r => by simp only [balance, List.filterMap_nil, List.count_nil]; omega⟩

/-- As many deletes as creations. -/
theorem deletesExact_ledgerRel : LedgerRel (Balanced (· = 0)) :=
  balanced_ledgerRel rfl fun _ _ ha hb => by rw [ha, hb]; rfl

/-! ## One factory -/

/-- The balance a factory leaves, from nothing open to nothing open. -/
theorem Factory.run_balanced {ok : Int → Prop} (hR : LedgerRel (Balanced ok)) (f : Factory)
    (hlax : f.registersAtOnce = false → ∀ p, Droppable (Balanced ok) p) (w : World) :
    Balanced ok [] [] w (f.run w).2 := by
  simpa using (Factory.run_keeps hR f hlax).run w

/-- **No factory deletes what it did not create.**  Whatever the environment answers
and wherever the factory stops, each object gets at most as many deletes registered as
the factory's calls created it: none for an object created elsewhere, such as the
public router `_get_router` reads from the configuration. -/
theorem Factory.run_deletes_only_created (f : Factory) (w : World) :
    ∃ es cs, (f.run w).2.log = w.log ++ es ∧ (f.run w).2.cleanups = w.cleanups ++ cs ∧
      ∀ r, (cs.filterMap Cleanup.deletes).count r ≤ (es.filterMap Event.created).count r := by
  obtain ⟨es, cs, hl, hc, hb⟩ :=
    Factory.run_balanced deletesWithin_ledgerRel f (fun _ => deletesWithin_droppable) w
  exact ⟨es, cs, hl, hc, fun r => by have := hb r; simp only [balance] at this; omega⟩

/-- **A factory that registers at once registers one delete per creation.**  Whatever
the environment answers and wherever the factory stops, each object gets exactly as many
deletes registered as the factory's calls created it. -/
theorem Factory.run_deletes_each_created (f : Factory) (hf : f.registersAtOnce = true)
    (w : World) :
    ∃ es cs, (f.run w).2.log = w.log ++ es ∧ (f.run w).2.cleanups = w.cleanups ++ cs ∧
      ∀ r, (cs.filterMap Cleanup.deletes).count r = (es.filterMap Event.created).count r := by
  obtain ⟨es, cs, hl, hc, hb⟩ :=
    Factory.run_balanced deletesExact_ledgerRel f (fun h => by simp [h] at hf) w
  exact ⟨es, cs, hl, hc, fun r => by have := hb r; simp only [balance] at this; omega⟩

/-- `create_keypair` on the sample cloud registers the delete of the keypair it made. -/
theorem createKeypair_deletes_each_created :
    Factory.createKeypair.registersAtOnce = true ∧
      ∃ es cs, (Factory.createKeypair.run (sampleWorld keepingEnv 28)).2.log =
          (sampleWorld keepingEnv 28).log ++ es ∧
        (Factory.createKeypair.run (sampleWorld keepingEnv 28)).2.cleanups =
          (sampleWorld keepingEnv 28).cleanups ++ cs ∧
        ∀ r, (cs.filterMap Cleanup.deletes).count r = (es.filterMap Event.created).count r :=
  ⟨rfl, Factory.run_deletes_each_created .createKeypair rfl _⟩

/-! ## A whole test -/

/-- A body of factories keeps the balance each factory keeps. -/
theorem runAll_balanced {ok : Int → Prop} (hR : LedgerRel (Balanced ok)) :
    ∀ (fs : List Factory), (∀ f ∈ fs, f.registersAtOnce = false → ∀ p, Droppable (Balanced ok) p) →
      ∀ w, Balanced ok [] [] w (runAll w fs)
  | [], _, w => hR.refl [] w
  | f :: fs, hfs, w => hR.trans
      (Factory.run_balanced hR f (hfs f (List.mem_cons_self _ _)) w)
      (runAll_balanced hR fs (fun g hg => hfs g (List.mem_cons_of_mem _ hg)) _)

/-- Among the calls of the cleanups, the deletes of `r` are the cleanups that delete
`r`. -/
theorem count_delete_call (cs : List Cleanup) (r : Ref) :
    (cs.filterMap Cleanup.call).count (.delete r) = (cs.filterMap Cleanup.deletes).count r := by
  induction cs with
  | nil => rfl
  | cons c cs ih =>
    cases c <;> simp [Cleanup.call, Cleanup.deletes, List.count_cons, ih]

/-- The log of a test from `w₀` whose body left `w`, split where teardown splits it:
`body` the body's own events, `deletes` the calls of the cleanups `rest` registered above
the drain, newest first, and `drain` the drain's, which are waiters. -/
structure TeardownLog (w₀ w : World) (rest : List Cleanup) (body deletes drain : List Event) :
    Prop where
  cleanups : w.cleanups = .waitForCleanups :: rest
  body_log : w.log = w₀.log ++ body
  log : (doCleanups w).2.log = w.log ++ deletes ++ drain
  deletes_calls : deletes.map Event.call = rest.reverse.filterMap Cleanup.call
  drain_waiters : ∀ ev ∈ drain, ev.call.isWaiter = true

/-- Every state whose ledger is in shape splits its teardown as `TeardownLog` says. -/
theorem LedgerShape.teardownLog {w₀ w : World} (h : LedgerShape w₀ w) :
    ∃ rest body deletes drain, TeardownLog w₀ w rest body deletes drain := by
  obtain ⟨rest, hcs, hreg, body, hbody, -⟩ := h
  obtain ⟨regs, hds, hregs⟩ := hreg.waits
  obtain ⟨T₁, T₂, res, -, hlog, hT₁, htr, -⟩ :=
    doCleanups_trace hcs hreg.noDrain hds fun r hr => (hregs r hr).1
  refine ⟨rest, body, T₁, T₂, hcs, hbody, hlog, hT₁, fun ev hev => ?_⟩
  obtain ⟨reg, -, hc⟩ := htr.mem_call ev hev
  rw [hc]
  rfl

/-- After a body `fs` run from `setUp`, the body's events are those the factories
logged and the cleanups above the drain those they registered. -/
theorem TeardownLog.runAll {w₀ : World} (h₀ : w₀.cleanups = []) {fs : List Factory}
    {rest : List Cleanup} {body deletes drain es : List Event} {cs : List Cleanup}
    (h : TeardownLog w₀ (runAll (setUp w₀).2 fs) rest body deletes drain)
    (hes : (runAll (setUp w₀).2 fs).log = (setUp w₀).2.log ++ es)
    (hcs : (runAll (setUp w₀).2 fs).cleanups = (setUp w₀).2.cleanups ++ cs) :
    es = body ∧ rest = cs := by
  refine ⟨List.append_cancel_left (hes.symm.trans h.body_log), ?_⟩
  simpa [h₀] using h.cleanups.symm.trans hcs

/-- Teardown after a body `fs` run from `setUp`: the calls of the cleanups above the
drain delete each object as `ok` says against the body's creations of it. -/
theorem teardown_balanced {ok : Int → Prop} (hR : LedgerRel (Balanced ok)) {w₀ : World}
    (h₀ : w₀.cleanups = []) (fs : List Factory)
    (hfs : ∀ f ∈ fs, f.registersAtOnce = false → ∀ p, Droppable (Balanced ok) p) :
    ∃ rest body deletes drain, TeardownLog w₀ (runAll (setUp w₀).2 fs) rest body deletes drain ∧
      ∀ r, ok ((deletes.map Event.call).count (.delete r) -
        (body.filterMap Event.created).count r) := by
  obtain ⟨rest, body, deletes, drain, ht⟩ := ((Reachable.setUp.runAll fs).ledger h₀).teardownLog
  obtain ⟨es, cs, hes, hcs, hb⟩ := runAll_balanced hR fs hfs (setUp w₀).2
  obtain ⟨rfl, rfl⟩ := ht.runAll h₀ hes hcs
  refine ⟨rest, es, deletes, drain, ht, fun r => ?_⟩
  rw [ht.deletes_calls, List.filterMap_reverse, List.count_reverse, count_delete_call]
  simpa [balance] using hb r

/-- **Teardown deletes only what the test created.**  Whatever the environment answers,
after `setUp` and any factory calls, whatever they returned or raised: after the body's
own events, the cleanups registered above the drain run, newest first, and call the
delete of each object at most as many times as the body created it; then the drain calls
only waiters. -/
theorem teardown_deletes_only_created {w₀ : World} (h₀ : w₀.cleanups = []) (fs : List Factory) :
    ∃ rest body deletes drain, TeardownLog w₀ (runAll (setUp w₀).2 fs) rest body deletes drain ∧
      ∀ r, (deletes.map Event.call).count (.delete r) ≤ (body.filterMap Event.created).count r := by
  obtain ⟨rest, body, deletes, drain, ht, hcount⟩ :=
    teardown_balanced deletesWithin_ledgerRel h₀ fs fun _ _ _ => deletesWithin_droppable
  exact ⟨rest, body, deletes, drain, ht, fun r => by have := hcount r; omega⟩

/-- A test that creates a keypair and a port, on a cloud that makes what it is asked
for: both deletes are registered, and teardown calls each once. -/
theorem teardown_deletes_only_created_keypair_port :
    (sampleWorld echoEnv 17).cleanups = [] ∧
      (runAll (setUp (sampleWorld echoEnv 17)).2 [.createKeypair, .createPort {} "port-smoke"]).cleanups =
        [.waitForCleanups, .delete ⟨.keypair, "TestSample-1"⟩, .deleteWrapper ⟨.port, "port-smoke-1"⟩] ∧
      ∃ rest body deletes drain,
        TeardownLog (sampleWorld echoEnv 17)
          (runAll (setUp (sampleWorld echoEnv 17)).2 [.createKeypair, .createPort {} "port-smoke"])
          rest body deletes drain ∧
        ∀ r, (deletes.map Event.call).count (.delete r) ≤ (body.filterMap Event.created).count r :=
  ⟨rfl, rfl, teardown_deletes_only_created rfl _⟩

/-- **Teardown deletes each object the test created once.**  Whatever the environment
answers, after `setUp` and calls of factories that register at once, whatever they
returned or raised: after the body's own events, the cleanups registered above the drain
run, newest first, and call the delete of each object exactly as many times as the body
created it; then the drain calls only waiters. -/
theorem teardown_deletes_each_created {w₀ : World} (h₀ : w₀.cleanups = []) (fs : List Factory)
    (hfs : ∀ f ∈ fs, f.registersAtOnce = true) :
    ∃ rest body deletes drain, TeardownLog w₀ (runAll (setUp w₀).2 fs) rest body deletes drain ∧
      ∀ r, (deletes.map Event.call).count (.delete r) = (body.filterMap Event.created).count r := by
  obtain ⟨rest, body, deletes, drain, ht, hcount⟩ :=
    teardown_balanced deletesExact_ledgerRel h₀ fs fun f hf h => by simp [hfs f hf] at h
  exact ⟨rest, body, deletes, drain, ht, fun r => by have := hcount r; omega⟩

/-- A test that creates a keypair and a port, both registered at once, on a cloud that
makes what it is asked for. -/
theorem teardown_deletes_each_created_keypair_port :
    (sampleWorld echoEnv 17).cleanups = [] ∧
      (∀ f ∈ [Factory.createKeypair, .createPort {} "port-smoke"], f.registersAtOnce = true) ∧
      ∃ rest body deletes drain,
        TeardownLog (sampleWorld echoEnv 17)
          (runAll (setUp (sampleWorld echoEnv 17)).2 [.createKeypair, .createPort {} "port-smoke"])
          rest body deletes drain ∧
        ∀ r, (deletes.map Event.call).count (.delete r) = (body.filterMap Event.created).count r :=
  ⟨rfl, by decide, teardown_deletes_each_created rfl _ (by decide)⟩

/-! ## The order of the deletes -/

/-- The object a delete call names. -/
def Call.deletedRef : Call → Option Ref
  | .delete r => some r
  | _ => none

/-- Among the calls of the cleanups, the objects deleted are the objects the cleanups
delete, in order. -/
theorem filterMap_call_deletedRef (cs : List Cleanup) :
    (cs.filterMap Cleanup.call).filterMap Call.deletedRef = cs.filterMap Cleanup.deletes := by
  rw [List.filterMap_filterMap]
  congr 1
  funext c
  cases c <;> rfl

/-- The log and the cleanups grow from `w` to `w'`, and the objects the new cleanups
delete, followed by the objects `q` left open, are among the objects `p` open before and
those created since, in the order they were opened. -/
def CreationOrdered (p q : List Ref) (w w' : World) : Prop :=
  ∃ es cs, w'.log = w.log ++ es ∧ w'.cleanups = w.cleanups ++ cs ∧
    List.Sublist (cs.filterMap Cleanup.deletes ++ q) (p ++ es.filterMap Event.created)

/-- The order of creation composes along two runs one after the other. -/
theorem creationOrdered_trans {d₁ d₂ p q s n₁ n₂ : List Ref} (h₁ : List.Sublist (d₁ ++ q) (p ++ n₁))
    (h₂ : List.Sublist (d₂ ++ s) (q ++ n₂)) : List.Sublist (d₁ ++ d₂ ++ s) (p ++ (n₁ ++ n₂)) := by
  have h₁' := h₁.append_right n₂
  rw [List.append_assoc, List.append_assoc] at h₁'
  simpa only [List.append_assoc] using (h₂.append_left d₁).trans h₁'

/-- A call opens what it created behind the objects already open, and a registration
closes the objects at the front: the factories register their deletes in the order they
created the objects. -/
theorem creationOrdered_ledgerRel : LedgerRel CreationOrdered where
  refl _ _ := ⟨[], [], by simp, by simp, by simp⟩
  trans := fun ⟨es₁, cs₁, hl₁, hc₁, h₁⟩ ⟨es₂, cs₂, hl₂, hc₂, h₂⟩ =>
    ⟨es₁ ++ es₂, cs₁ ++ cs₂, by simp [hl₁, hl₂], by simp [hc₁, hc₂], by
      simpa only [List.filterMap_append] using creationOrdered_trans h₁ h₂⟩
  record p w c r _ := ⟨[⟨c, r⟩], [], rfl, by simp, by
    cases h : Event.created ⟨c, r⟩ <;> simp [h]⟩
  register _ _ cs _ _ := ⟨[], cs, by simp, rfl, by simp⟩

/-- An object may stay open with no delete. -/
theorem creationOrdered_droppable (p : List Ref) : Droppable CreationOrdered p :=
  fun _ => ⟨[], [], by simp, by simp, by simp⟩

/-- A body of factories registers its deletes in the order it created the objects. -/
theorem runAll_creationOrdered : ∀ (fs : List Factory) (w : World),
    CreationOrdered [] [] w (runAll w fs)
  | [], w => creationOrdered_ledgerRel.refl [] w
  | f :: fs, w => creationOrdered_ledgerRel.trans
      (by simpa using (Factory.run_keeps creationOrdered_ledgerRel f
        fun _ => creationOrdered_droppable).run w)
      (runAll_creationOrdered fs _)

/-- **Teardown deletes in reverse order of creation.**  Whatever the environment answers,
after `setUp` and any factory calls, whatever they returned or raised: after the body's
own events, the cleanups registered above the drain run, newest first, and the objects
they delete, read from the last delete to the first, are objects the body created, in the
order it created them.  An object created after another, as a subnet after its network,
is deleted before it. -/
theorem teardown_deletes_reverse_created {w₀ : World} (h₀ : w₀.cleanups = [])
    (fs : List Factory) :
    ∃ rest body deletes drain, TeardownLog w₀ (runAll (setUp w₀).2 fs) rest body deletes drain ∧
      List.Sublist ((deletes.map Event.call).filterMap Call.deletedRef).reverse
        (body.filterMap Event.created) := by
  obtain ⟨rest, body, deletes, drain, ht⟩ := ((Reachable.setUp.runAll fs).ledger h₀).teardownLog
  obtain ⟨es, cs, hes, hcs, hord⟩ := runAll_creationOrdered fs (setUp w₀).2
  obtain ⟨rfl, rfl⟩ := ht.runAll h₀ hes hcs
  refine ⟨rest, es, deletes, drain, ht, ?_⟩
  rw [ht.deletes_calls, filterMap_call_deletedRef, List.filterMap_reverse, List.reverse_reverse]
  simpa using hord

/-- A test that creates a network and then a subnet, on a cloud that makes what it is
asked for: both deletes are registered, the subnet's above the network's. -/
theorem teardown_deletes_reverse_created_network_subnet :
    (sampleWorld echoEnv 17).cleanups = [] ∧
      (runAll (setUp (sampleWorld echoEnv 17)).2
          [.createNetwork none "network-smoke-", .createSubnet {} "subnet-smoke" []]).cleanups =
        [.waitForCleanups, .deleteWrapper ⟨.network, "network-smoke--1"⟩,
          .deleteWrapper ⟨.subnet, "subnet-smoke-1"⟩] ∧
      ∃ rest body deletes drain,
        TeardownLog (sampleWorld echoEnv 17)
          (runAll (setUp (sampleWorld echoEnv 17)).2
            [.createNetwork none "network-smoke-", .createSubnet {} "subnet-smoke" []])
          rest body deletes drain ∧
        List.Sublist ((deletes.map Event.call).filterMap Call.deletedRef).reverse
          (body.filterMap Event.created) :=
  ⟨rfl, rfl, teardown_deletes_reverse_created rfl _⟩

/-! ## A factory that checks first -/

/-- A cloud that names every network it creates `other`. -/
def renamingEnv : Env := fun _ c => match c with
  | .create .network _ => .ok { body := { id := "net-1", name := "other" } }
  | _ => .ok {}

/-- **`_create_network` checks before it registers.**  After `setUp`, on a cloud that
returns the network under another name, the call creates the network `net-1`, raises the
failed `assertEqual`, and leaves no delete registered: the drain is still the only
cleanup. -/
theorem createNetwork_name_mismatch_leaks :
    (createNetwork none "network-smoke" (setUp (sampleWorld renamingEnv 28)).2).1 =
        .error (.assertion "assertEqual") ∧
      (createNetwork none "network-smoke" (setUp (sampleWorld renamingEnv 28)).2).2.log =
        [⟨.randName "network-smoke", .ok {}⟩,
          ⟨.create .network [("name", "network-smoke-"), ("tenant_id", "tenant")],
            .ok { body := { id := "net-1", name := "other" } }⟩] ∧
      (createNetwork none "network-smoke" (setUp (sampleWorld renamingEnv 28)).2).2.cleanups =
        [.waitForCleanups] :=
  ⟨rfl, rfl, rfl⟩

end Tempest
