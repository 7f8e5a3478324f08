import Tempest.Subnet

/-!
# Every factory keeps the ledger in shape

The resource factories of `scenario/manager.py` as one enumeration (`Factory`), and one
proof per factory of how it changes the log and the ledger, whatever the environment
answers and wherever the factory stops.

The relations these proofs keep are indexed by the objects created and not yet given a
delete (they are *open*): `R p q w w'` relates a state `w` with `p` open to a later state
`w'` with `q` open.  A create call opens the object it made; a registration closes the
objects its deletes name.  `LedgerRel R` collects what such a relation needs.

* `Keeps R pre x post`: `x`, started with `pre` open, ends with `post a` open when it
  returns `a` and with nothing open when it raises, as `R` relates the two states.
* A factory that registers the delete of each object right after creating it, before any
  check, keeps every `LedgerRel`.  One that checks first can raise with an object open; it
  keeps only the relations that let an object stay open (`Droppable`).
  `Factory.run_keeps` says both.

The ledger invariant of a run and the absence of waiters from a test's body ignore the
index (module `Teardown`); which deletes a factory registers for what it created uses it
(module `Registration`).
-/

namespace Tempest

/-- A deletion waiter: `wait_for_server_termination` or `wait_for_resource_deletion`. -/
def Call.isWaiter : Call → Bool
  | .waitDeleted _ _ _ => true
  | _ => false

/-! ## What a call creates -/

/-- The object a call that returned `r` created, named as its delete takes it: a keypair,
container or object by the name the test gave it, a server snapshot by the id at the end
of the reply's `location`, any other object by the reply's id. -/
def Call.created : Call → Reply → Option Ref
  | .create .keypair args, _ => (args.lookup "name").map (Ref.mk .keypair)
  | .create .container args, _ => (args.lookup "container_name").map (Ref.mk .container)
  | .create (.object c) args, _ => (args.lookup "object_name").map (Ref.mk (.object c))
  | .create k _, r => some ⟨k, r.body.id⟩
  | .createImage _ _, r => ((r.body.location.splitOn "images/")[1]?).map (Ref.mk .image)
  | _, _ => none

/-- The object an event created: none when the call raised. -/
def Event.created (ev : Event) : Option Ref :=
  match ev.reply with
  | .ok r => ev.call.created r
  | .error _ => none

/-! ## Relations the factories keep -/

/-- What a relation between a state and a later one, indexed by the objects open at each,
needs for every factory that registers at once to keep it: it composes, a call that is
not a waiter opens what it created, and a registration block of the factories' shape
closes what its deletes name. -/
structure LedgerRel (R : List Ref → List Ref → World → World → Prop) : Prop where
  refl : ∀ p w, R p p w w
  trans : ∀ {p q s a b c}, R p q a b → R q s b c → R p s a c
  record : ∀ p w c r, c.isWaiter = false →
    R p (p ++ (Event.created ⟨c, r⟩).toList) w (w.record c r)
  register : ∀ p w cs ds, Registrations cs ds →
    R (cs.filterMap Cleanup.deletes ++ p) p w
      { w with cleanups := w.cleanups ++ cs, cleanupWaits := w.cleanupWaits ++ ds }

/-- `R` lets the objects `p` stay open: a raise may leave them without a delete. -/
def Droppable (R : List Ref → List Ref → World → World → Prop) (p : List Ref) : Prop :=
  ∀ w, R p [] w w

/-- The objects open when a step ends: `post a` after it returned `a`, none after it
raised. -/
def settle {α : Type} (post : α → List Ref) : Except Exc α → List Ref
  | .ok a => post a
  | .error _ => []

@[simp] theorem settle_nil {α : Type} (x : Except Exc α) : settle (fun _ => []) x = [] := by
  cases x <;> rfl

/-- `x`, started with `pre` open, ends with `post a` open when it returns `a` and with
nothing open when it raises, as `R` relates the two states. -/
structure Keeps {α : Type} (R : List Ref → List Ref → World → World → Prop) (pre : List Ref)
    (x : Test α) (post : α → List Ref) : Prop where
  run : ∀ w, R pre (settle post (x w).1) w (x w).2

namespace Keeps

variable {R : List Ref → List Ref → World → World → Prop} {α β : Type} {pre : List Ref}
  {post : β → List Ref}

/-- Mapping the result keeps what `x` keeps. -/
theorem map {x : Test α} (f : α → β) (hx : Keeps R pre x (fun a => post (f a))) :
    Keeps R pre (f <$> x) post := ⟨fun w => by
  simp only [Test.map_apply]
  have h := hx.run w
  rcases hxw : x w with ⟨_ | _, w'⟩ <;> rw [hxw] at h <;> exact h⟩

/-- Both branches keeping the relation, the conditional keeps it. -/
theorem ite {c : Prop} [Decidable c] {x y : Test β} (hx : Keeps R pre x post)
    (hy : Keeps R pre y post) : Keeps R pre (if c then x else y) post := by
  split <;> assumption

/-- Returning with `p` still open, where `R` lets them stay open. -/
theorem drop {p : List Ref} (hp : Droppable R p) (a : α) :
    Keeps R p (pure a : Test α) (fun _ => []) := ⟨hp⟩

/-- Raising drops what is open, where `R` lets it be dropped. -/
theorem throw' {p : List Ref} (hp : Droppable R p) (e : Exc) : Keeps R p (throw e : Test β) post :=
  ⟨hp⟩

end Keeps

namespace LedgerRel

variable {R : List Ref → List Ref → World → World → Prop} (hR : LedgerRel R) {α β : Type}
  {p pre : List Ref}
include hR

/-! ## The steps of a factory -/

/-- With nothing open there is nothing to drop. -/
theorem nil : Droppable R [] := hR.refl []

/-- Returning keeps what is open. -/
theorem ret (a : α) : Keeps R p (pure a : Test α) (fun _ => p) := ⟨hR.refl p⟩

/-- Returning `a` leaves open what `post a` names. -/
theorem pure_of {post : α → List Ref} {a : α} (h : post a = p) : Keeps R p (pure a : Test α) post :=
  ⟨fun w => h ▸ hR.refl (post a) w⟩

/-- The steps of a sequence compose: what the first leaves open the second starts with. -/
theorem bind {mid : α → List Ref} {post : β → List Ref} {x : Test α} {f : α → Test β}
    (hx : Keeps R pre x mid) (hf : ∀ a, Keeps R (mid a) (f a) post) :
    Keeps R pre (x >>= f) post := by
  refine ⟨fun w => ?_⟩
  have h := hx.run w
  simp only [Test.bind_apply]
  rcases hxw : x w with ⟨_ | a, w'⟩ <;> rw [hxw] at h <;> dsimp only
  · exact h
  · exact hR.trans h ((hf a).run w')

/-- A handler starts with nothing open: the body raised. -/
theorem tryCatch {post : α → List Ref} {x : Test α} {h : Exc → Test α}
    (hx : Keeps R pre x post) (hh : ∀ e, Keeps R [] (h e) post) :
    Keeps R pre (tryCatch x h : Test α) post := by
  refine ⟨fun w => ?_⟩
  have hw := hx.run w
  simp only [Test.tryCatch_apply]
  rcases hxw : x w with ⟨_ | a, w'⟩ <;> rw [hxw] at hw <;> dsimp only
  · exact hR.trans hw ((hh _).run w')
  · exact hw

/-- A default computed only when the argument is missing keeps what the default keeps. -/
theorem getDM (o : Option α) {y : Test α} (hy : Keeps R [] y (fun _ => [])) :
    Keeps R [] (o.getDM y) (fun _ => []) := by
  cases o
  · exact hy
  · exact hR.ret _

/-- A call that creates nothing opens nothing. -/
theorem record_of_none {w : World} {c : Call} {r : Except Exc Reply} (hc : c.isWaiter = false)
    (hn : Event.created ⟨c, r⟩ = none) : R p p w (w.record c r) := by
  simpa [hn] using hR.record p w c r hc

/-- A call opens what it created; when it raises, what was open before is dropped. -/
theorem call (c : Call) (hc : c.isWaiter = false) (hp : Droppable R p) :
    Keeps R p (Tempest.call c) (fun r => p ++ (c.created r).toList) := ⟨fun w => by
  simp only [call_apply]
  rcases w.env w.log c with e | r
  · exact hR.trans (hR.record_of_none hc (by rfl)) (hp _)
  · exact hR.record p w c (.ok r) hc⟩

/-- Drawing a name opens nothing. -/
theorem randName (n : String) : Keeps R p (Tempest.randName n) (fun _ => p) :=
  ⟨fun _ => hR.record_of_none rfl rfl⟩

/-- Reading the configuration changes nothing. -/
theorem conf : Keeps R p Tempest.conf (fun _ => p) := ⟨hR.refl p⟩

/-- Reading the class name changes nothing. -/
theorem className : Keeps R p Tempest.className (fun _ => p) := ⟨hR.refl p⟩

/-- Reading the client's tenant changes nothing. -/
theorem clientTenantId : Keeps R p Tempest.clientTenantId (fun _ => p) := ⟨hR.refl p⟩

/-- An assertion may raise, dropping what is open. -/
theorem assertTrue (hp : Droppable R p) (b : Bool) (m : String) :
    Keeps R p (Tempest.assertTrue b m) (fun _ => p) := ⟨fun w => by
  rw [assertTrue_apply]
  cases b
  · exact hp w
  · exact hR.refl p w⟩

/-- An `assertEqual` may raise, dropping what is open. -/
theorem assertEqual (hp : Droppable R p) {γ : Type} [DecidableEq γ] (a b : γ) :
    Keeps R p (Tempest.assertEqual a b) (fun _ => p) :=
  hR.assertTrue hp _ _

/-! ## The registration blocks -/

/-- A registration block of the factories' shape closes the objects its deletes name. -/
theorem registers {x : Test Unit} (cs : List Cleanup) (ds : List WaitDict)
    (h : Registrations cs ds)
    (hx : ∀ w, x w = (.ok (),
      { w with cleanups := w.cleanups ++ cs, cleanupWaits := w.cleanupWaits ++ ds })) :
    Keeps R (cs.filterMap Cleanup.deletes ++ p) x (fun _ => p) :=
  ⟨fun w => by rw [hx]; exact hR.register p w cs ds h⟩

/-- `addCleanup` of a delete, wrapped or not, closes the object it deletes. -/
theorem addCleanup {c : Cleanup} {r : Ref} (hc : c.deletes = some r) :
    Keeps R (r :: p) (Tempest.addCleanup c) (fun _ => p) := by
  have hd : c ≠ .waitForCleanups := by rintro rfl; cases hc
  have hw : ∀ k id, c ≠ .wait k id := by rintro k id rfl; cases hc
  have h : Keeps R ([c].filterMap Cleanup.deletes ++ p) (Tempest.addCleanup c) (fun _ => p) :=
    hR.registers [c] [] (Registrations.single hd hw) fun w => by simp
  simpa [hc] using h

/-- `addCleanup(image_file.close)` closes nothing. -/
theorem addCleanup_close (path : String) : Keeps R p (Tempest.addCleanup (.close path)) (fun _ => p) :=
  hR.registers [.close path] [] (Registrations.single (by simp) (by simp)) fun w => by simp

/-- `addCleanup_with_wait` of the wrapped delete of the object it waits for. -/
theorem addCleanupWithWait {k : Kind} {id q : String} (hq : q ≠ "waiter_callable") :
    Keeps R (⟨k, id⟩ :: p) (Tempest.addCleanupWithWait k id q (.deleteWrapper ⟨k, id⟩))
      (fun _ => p) :=
  hR.registers _ _ (@Registrations.withWait k id q hq) fun w => by simp

/-- A synchronous wait, then at once the wrapped delete of its object. -/
theorem waitThenDelete {k : Kind} {id : String} :
    Keeps R (⟨k, id⟩ :: p) (Tempest.addCleanup (.wait k id) >>= fun _ =>
      Tempest.addCleanup (.deleteWrapper ⟨k, id⟩)) (fun _ => p) :=
  hR.registers _ _
    (Registrations.syncWait (@Registrations.single (.deleteWrapper ⟨k, id⟩) (by simp) (by simp)))
    fun w => by simp

/-- A synchronous wait when asked for, then at once `addCleanup_with_wait` of the wrapped
delete of its object, and what follows. -/
theorem waitThenDeleteWithWait {k : Kind} {id q : String} {post : α → List Ref}
    {f : Unit → Test α} (b : Bool) (hq : q ≠ "waiter_callable")
    (hf : ∀ a, Keeps R [] (f a) post) :
    Keeps R [⟨k, id⟩] ((if b then Tempest.addCleanup (.wait k id) else pure ()) >>= fun _ =>
      Tempest.addCleanupWithWait k id q (.deleteWrapper ⟨k, id⟩) >>= f) post := by
  cases b
  · exact hR.bind (hR.ret _) fun _ => hR.bind (hR.addCleanupWithWait hq) hf
  · have h : Keeps R [⟨k, id⟩] (Tempest.addCleanup (.wait k id) >>= fun _ =>
        Tempest.addCleanupWithWait k id q (.deleteWrapper ⟨k, id⟩)) (fun _ => []) :=
      hR.registers _ _ (Registrations.syncWait (@Registrations.withWait k id q hq)) fun w => by simp
    simpa only [Test.bind_assoc, if_true] using hR.bind h hf

end LedgerRel

/-! ## Each factory

The factories that register at once first, for every `LedgerRel`; then those that check
before they register, or register nothing, for the relations that let an object stay
open (`hlax`). -/

section AtOnce

variable {R : List Ref → List Ref → World → World → Prop} (hR : LedgerRel R)
include hR

/-- `create_keypair` registers the delete of the keypair it created at once. -/
theorem createKeypair_keeps : Keeps R [] createKeypair (fun _ => []) :=
  hR.bind hR.className fun _ => hR.bind (hR.randName _) fun _ =>
    hR.bind (hR.call _ rfl hR.nil) fun _ => hR.bind (hR.addCleanup rfl) fun _ => hR.ret _

/-- `create_server` registers its synchronous wait, when asked, and the wrapped delete of
the server with its wait queued, right after the create. -/
theorem createServer_keeps (name image flavor : Option String) (waitOnBoot waitOnDelete : Bool)
    (createKwargs : List (String × String)) :
    Keeps R [] (createServer name image flavor waitOnBoot waitOnDelete createKwargs) (fun _ => []) :=
  hR.bind (hR.getDM _ (hR.bind hR.className fun _ => hR.randName _)) fun _ =>
    hR.bind hR.conf fun _ => hR.bind (hR.call _ rfl hR.nil) fun _ =>
    hR.waitThenDeleteWithWait _ (by decide) fun _ =>
    hR.bind (Keeps.ite (hR.bind (hR.call _ rfl hR.nil) fun _ => hR.ret _) (hR.ret _)) fun _ =>
    hR.bind (hR.call _ rfl hR.nil) fun _ => hR.bind (hR.assertEqual hR.nil _ _) fun _ => hR.ret _

/-- `create_volume` registers the delete of the volume right after the create, with a
synchronous wait or a queued one. -/
theorem createVolume_keeps (size : Nat) (name snapshotId imageRef volumeType : Option String)
    (waitOnDelete : Bool) :
    Keeps R [] (createVolume size name snapshotId imageRef volumeType waitOnDelete) (fun _ => []) :=
  hR.bind (hR.getDM _ (hR.bind hR.className fun _ => hR.randName _)) fun _ =>
    hR.bind (hR.call _ rfl hR.nil) fun _ =>
    hR.bind (Keeps.ite hR.waitThenDelete (hR.addCleanupWithWait (by decide))) fun _ =>
    hR.bind (hR.assertEqual hR.nil _ _) fun _ => hR.bind (hR.call _ rfl hR.nil) fun _ =>
    hR.bind (hR.call _ rfl hR.nil) fun _ => hR.ret _

/-- Each nova rule created is registered for deletion at once. -/
theorem novaCreateRules_keeps (secgroupId : String) :
    ∀ rulesets, Keeps R [] (novaCreateRules secgroupId rulesets) (fun _ => [])
  | [] => hR.ret _
  | _ :: rulesets => hR.bind (hR.call _ rfl hR.nil) fun _ =>
    hR.bind (hR.addCleanup rfl) fun _ =>
    hR.bind (novaCreateRules_keeps secgroupId rulesets) fun _ => hR.ret _

/-- `_create_loginable_secgroup_rule_nova` registers the delete of every rule it creates. -/
theorem novaCreateLoginableSecgroupRule_keeps (secgroupId : Option String) :
    Keeps R [] (novaCreateLoginableSecgroupRule secgroupId) (fun _ => []) := by
  refine hR.bind ?_ fun _ => novaCreateRules_keeps hR _ _
  cases secgroupId
  · exact hR.bind (hR.call _ rfl hR.nil) fun _ => hR.ret _
  · exact hR.ret _

/-- `_image_create` registers the file's close and then the image's delete right after
the create. -/
theorem imageCreate_keeps (name fmt path : String) (properties : List (String × String)) :
    Keeps R [] (imageCreate name fmt path properties) (fun _ => []) :=
  hR.bind (hR.randName _) fun _ => hR.bind (hR.call _ rfl hR.nil) fun _ =>
    hR.bind (hR.addCleanup_close _) fun _ => hR.bind (hR.call _ rfl hR.nil) fun _ =>
    hR.bind (hR.addCleanup rfl) fun _ => hR.bind (hR.assertEqual hR.nil _ _) fun _ =>
    hR.bind (hR.call _ rfl hR.nil) fun _ => hR.ret _

/-- The nova `create_floating_ip` registers the floating IP's delete before it associates
it. -/
theorem novaCreateFloatingIp_keeps (thing : Attrs) (poolName : Option String) :
    Keeps R [] (novaCreateFloatingIp thing poolName) (fun _ => []) :=
  hR.bind (hR.call _ rfl hR.nil) fun _ => hR.bind (hR.addCleanup rfl) fun _ =>
    hR.bind (hR.call _ rfl hR.nil) fun _ => hR.ret _

/-- `create_volume_type` registers the volume type's delete at once. -/
theorem createVolumeType_keeps (name : Option String) :
    Keeps R [] (createVolumeType name) (fun _ => []) :=
  hR.bind (hR.randName _) fun _ => hR.bind (hR.call _ rfl hR.nil) fun _ =>
    hR.bind (hR.addCleanup rfl) fun _ => hR.ret _

/-- `upload_object_to_container` registers the object's delete at once. -/
theorem uploadObjectToContainer_keeps (containerName : String) (objName : Option String)
    (objData : String) :
    Keeps R [] (uploadObjectToContainer containerName objName objData) (fun _ => []) := by
  refine hR.bind ?_ fun _ => hR.bind (hR.call _ rfl hR.nil) fun _ =>
    hR.bind (hR.addCleanup rfl) fun _ => hR.ret _
  rcases objName with _ | n
  · exact hR.randName _
  · exact Keeps.ite (hR.randName _) (hR.ret _)

/-- `_create_port` registers the port's delete at once. -/
theorem createPort_keeps (network : Attrs) (namestart : String) :
    Keeps R [] (createPort network namestart) (fun _ => []) :=
  hR.bind (hR.randName _) fun _ => hR.bind (hR.call _ rfl hR.nil) fun _ =>
    hR.bind (hR.addCleanup rfl) fun _ => hR.ret _

/-- `_get_server_port_id` creates nothing. -/
theorem getServerPortId_keeps (server : Attrs) (ipAddr : Option String) :
    Keeps R [] (getServerPortId server ipAddr) (fun _ => []) :=
  hR.bind (hR.call _ rfl hR.nil) fun _ => hR.bind (hR.assertTrue hR.nil _ _) fun _ => hR.ret _

/-- The neutron `_create_floating_ip` registers the floating IP's delete at once. -/
theorem createFloatingIp_keeps (thing : Attrs) (externalNetworkId portId : Option String) :
    Keeps R [] (createFloatingIp thing externalNetworkId portId) (fun _ => []) := by
  refine hR.bind hR.conf fun _ => hR.bind ?_ fun _ => hR.bind (hR.call _ rfl hR.nil) fun _ =>
    hR.bind (hR.addCleanup rfl) fun _ => hR.ret _
  rcases portId with _ | p
  · exact getServerPortId_keeps hR _ _
  · exact Keeps.ite (getServerPortId_keeps hR _ _) (hR.ret _)

/-- `_default_security_group` creates nothing. -/
theorem defaultSecurityGroup_keeps (tenantId : Option String) :
    Keeps R [] (defaultSecurityGroup tenantId) (fun _ => []) :=
  hR.bind hR.clientTenantId fun _ => hR.bind (hR.call _ rfl hR.nil) fun _ =>
    hR.bind (hR.assertTrue hR.nil _ _) fun _ => hR.ret _

/-- `_create_security_group_rule` registers the rule's delete before it checks the reply. -/
theorem createSecurityGroupRule_keeps (secgroup : Option Attrs) (tenantId : Option String)
    (kwargs : List (String × String)) :
    Keeps R [] (createSecurityGroupRule secgroup tenantId kwargs) (fun _ => []) :=
  hR.bind hR.clientTenantId fun _ =>
    hR.bind (hR.getDM _ (defaultSecurityGroup_keeps hR _)) fun _ =>
    hR.bind (hR.call _ rfl hR.nil) fun _ => hR.bind (hR.addCleanup rfl) fun _ =>
    hR.bind (hR.assertEqual hR.nil _ _) fun _ => hR.bind (hR.assertEqual hR.nil _ _) fun _ =>
    hR.ret _

/-- One rule of `_create_loginable_secgroup_rule`, a tolerated conflict included. -/
theorem createLoginableRule_keeps (secgroup : Option Attrs)
    (ruleset : List (String × String)) (direction : String) :
    Keeps R [] (createLoginableRule secgroup ruleset direction) (fun _ => []) := by
  refine hR.bind (hR.tryCatch
    (Keeps.map some (createSecurityGroupRule_keeps hR _ _ _) : Keeps R [] _ (fun _ => []))
    fun e => ?_) fun created => ?_
  · cases e
    case conflict => exact Keeps.ite (hR.ret _) (Keeps.throw' hR.nil _)
    all_goals exact Keeps.throw' hR.nil _
  · cases created
    · exact hR.ret _
    · exact hR.bind (hR.assertEqual hR.nil _ _) fun _ => hR.ret _

/-- The loop of `_create_loginable_secgroup_rule` over its rulesets. -/
theorem createLoginableRules_keeps (secgroup : Option Attrs) :
    ∀ rules, Keeps R [] (createLoginableRules secgroup rules) (fun _ => [])
  | [] => hR.ret _
  | _ :: rules => hR.bind (createLoginableRule_keeps hR _ _ _) fun _ =>
    hR.bind (createLoginableRules_keeps secgroup rules) fun _ => hR.ret _

/-- `_create_member` registers the member's delete at once. -/
theorem createMember_keeps (address : String) (protocolPort : Nat) (poolId : String) :
    Keeps R [] (createMember address protocolPort poolId) (fun _ => []) :=
  hR.bind (hR.call _ rfl hR.nil) fun _ => hR.bind (hR.addCleanup rfl) fun _ => hR.ret _

/-- The checks of `_create_security_group` create nothing. -/
theorem checkRules_keeps (tenantId secgroupId : String) :
    ∀ rules, Keeps R [] (checkRules tenantId secgroupId rules) (fun _ => [])
  | [] => hR.ret _
  | _ :: rules => hR.bind (hR.assertEqual hR.nil _ _) fun _ =>
    hR.bind (hR.assertEqual hR.nil _ _) fun _ => checkRules_keeps tenantId secgroupId rules

/-- The subnet the allocation loop hands back, still open. -/
def allocated : Option (Reply × String) → List Ref
  | some (result, _) => [⟨.subnet, result.body.id⟩]
  | none => []

/-- The guarded `create_subnet` leaves the subnet it created open; an overlap conflict
leaves nothing open. -/
theorem submitSubnet_keeps (subnet : List (String × String)) :
    Keeps R [] (submitSubnet subnet)
      (fun o => (o.map fun r => (⟨.subnet, r.body.id⟩ : Ref)).toList) := by
  refine hR.tryCatch (Keeps.map some (hR.call _ (by rfl) hR.nil)) fun e => ?_
  cases e
  case conflict => exact Keeps.ite (hR.pure_of (by rfl)) (Keeps.throw' hR.nil _)
  all_goals exact Keeps.throw' hR.nil _

/-- The allocation loop leaves open only the subnet it hands back. -/
theorem allocateSubnet_keeps (network : Attrs) (namestart : String)
    (kwargs : List (String × String)) :
    ∀ blocks, Keeps R [] (allocateSubnet network namestart kwargs blocks) allocated
  | [] => hR.pure_of (by rfl)
  | _ :: blocks => by
    have hnext := allocateSubnet_keeps network namestart kwargs blocks
    refine hR.bind (hR.bind (hR.call _ rfl hR.nil) fun _ => hR.ret _) fun _ =>
      Keeps.ite hnext (hR.bind (hR.randName _) fun _ => hR.bind ?_ fun _ =>
        hR.bind (submitSubnet_keeps hR _) fun r => ?_)
    · exact Keeps.ite (Keeps.throw' hR.nil _) (hR.ret _)
    · cases r
      · exact hnext
      · exact hR.pure_of (by rfl)

/-- The image named by the snapshot's location stays open once its id is read. -/
theorem locationImageId_keeps (location : String) :
    Keeps R (((location.splitOn "images/")[1]?).map (Ref.mk .image)).toList
      (locationImageId location) (fun imageId => [⟨.image, imageId⟩]) := by
  unfold locationImageId
  generalize location.splitOn "images/" = parts
  rcases parts with _ | ⟨_, _ | ⟨_, _⟩⟩
  · exact Keeps.throw' hR.nil _
  · exact Keeps.throw' hR.nil _
  · exact hR.pure_of (by simp)

end AtOnce

section Checking

variable {R : List Ref → List Ref → World → World → Prop} (hR : LedgerRel R)
  (hlax : ∀ p, Droppable R p)
include hR hlax

/-- `_create_security_group_nova` checks the reply, then registers the group's delete. -/
theorem novaCreateSecurityGroup_keeps : Keeps R [] novaCreateSecurityGroup (fun _ => []) :=
  hR.bind hR.className fun _ => hR.bind (hR.randName _) fun _ =>
    hR.bind (hR.call _ rfl hR.nil) fun _ => hR.bind (hR.assertEqual (hlax _) _ _) fun _ =>
    hR.bind (hR.assertEqual (hlax _) _ _) fun _ => hR.bind (hR.addCleanup rfl) fun _ =>
    hR.bind (novaCreateLoginableSecgroupRule_keeps hR _) fun _ => hR.ret _

/-- `create_server_snapshot` waits for the image before it registers its delete. -/
theorem createServerSnapshot_keeps (server : Attrs) (name : Option String) :
    Keeps R [] (createServerSnapshot server name) (fun _ => []) :=
  hR.bind (hR.getDM _ (hR.randName _)) fun _ => hR.bind (hR.call _ rfl hR.nil) fun _ =>
    hR.bind (locationImageId_keeps hR _) fun _ => hR.bind (hR.call _ rfl (hlax _)) fun _ =>
    hR.bind (hR.addCleanupWithWait (by decide)) fun _ => hR.bind (hR.call _ rfl hR.nil) fun _ =>
    hR.bind (hR.assertEqual hR.nil _ _) fun _ => hR.ret _

/-- `create_encryption_type` registers nothing for the encryption type it creates. -/
theorem createEncryptionType_keeps (typeId provider keySize cipher controlLocation : Option String) :
    Keeps R [] (createEncryptionType typeId provider keySize cipher controlLocation) (fun _ => []) := by
  refine hR.bind ?_ fun _ => hR.bind (hR.call _ rfl hR.nil) fun _ => Keeps.drop (hlax _) _
  have hvt : Keeps R [] ((fun a : Attrs => a.id) <$> createVolumeType none) (fun _ => []) :=
    Keeps.map _ (createVolumeType_keeps hR none)
  rcases typeId with _ | t
  · exact hvt
  · exact Keeps.ite hvt (hR.ret _)

/-- The `assertIn`/`assertNotIn` loop may raise, dropping what is open. -/
theorem checkObjects_keeps {p : List Ref} (objectList : List String) (present : Bool) :
    ∀ objs, Keeps R p (checkObjects objectList present objs) (fun _ => p)
  | [] => hR.ret _
  | _ :: objs => hR.bind (hR.assertTrue (hlax _) _ _) fun _ => checkObjects_keeps _ _ objs

/-- `create_container` lists the containers before it registers the container's delete. -/
theorem createContainer_keeps (containerName : Option String) :
    Keeps R [] (createContainer containerName) (fun _ => []) := by
  refine hR.bind ?_ fun _ => hR.bind (hR.call _ rfl hR.nil) fun _ =>
    hR.bind (hR.bind (hR.call _ rfl (hlax _)) fun _ =>
      hR.bind (checkObjects_keeps hR hlax _ _ _) fun _ => checkObjects_keeps hR hlax _ _ _) fun _ =>
    hR.bind (hR.addCleanup rfl) fun _ => hR.ret _
  rcases containerName with _ | n
  · exact hR.randName _
  · exact Keeps.ite (hR.randName _) (hR.ret _)

/-- `_create_network` checks the reply's name before it registers the network's delete. -/
theorem createNetwork_keeps (tenantId : Option String) (namestart : String) :
    Keeps R [] (createNetwork tenantId namestart) (fun _ => []) :=
  hR.bind hR.clientTenantId fun _ => hR.bind (hR.randName _) fun _ =>
    hR.bind (hR.call _ rfl hR.nil) fun _ => hR.bind (hR.assertEqual (hlax _) _ _) fun _ =>
    hR.bind (hR.addCleanup rfl) fun _ => hR.ret _

/-- `_create_empty_security_group` checks the reply before it registers the group's delete. -/
theorem createEmptySecurityGroup_keeps (tenantId : Option String) (namestart : String) :
    Keeps R [] (createEmptySecurityGroup tenantId namestart) (fun _ => []) :=
  hR.bind hR.clientTenantId fun _ => hR.bind (hR.randName _) fun _ =>
    hR.bind (hR.call _ rfl hR.nil) fun _ => hR.bind (hR.assertEqual (hlax _) _ _) fun _ =>
    hR.bind (hR.assertEqual (hlax _) _ _) fun _ => hR.bind (hR.assertEqual (hlax _) _ _) fun _ =>
    hR.bind (hR.addCleanup rfl) fun _ => hR.ret _

/-- `_create_security_group`: the group, then its loginable rules, then the checks. -/
theorem createSecurityGroup_keeps (tenantId : Option String) (namestart : String) :
    Keeps R [] (createSecurityGroup tenantId namestart) (fun _ => []) :=
  hR.bind (hR.getDM _ hR.clientTenantId) fun _ =>
    hR.bind (createEmptySecurityGroup_keeps hR hlax _ _) fun _ =>
    hR.bind (createLoginableRules_keeps hR _ _) fun _ =>
    hR.bind (checkRules_keeps hR _ _ _) fun _ => hR.ret _

/-- `_create_pool` checks the reply before it registers the pool's delete. -/
theorem createPool_keeps (lbMethod protocol subnetId : String) :
    Keeps R [] (createPool lbMethod protocol subnetId) (fun _ => []) :=
  hR.bind (hR.randName _) fun _ => hR.bind (hR.call _ rfl hR.nil) fun _ =>
    hR.bind (hR.assertEqual (hlax _) _ _) fun _ => hR.bind (hR.addCleanup rfl) fun _ => hR.ret _

/-- `_create_vip` checks the reply before it registers the vip's delete. -/
theorem createVip_keeps (protocol : String) (protocolPort : Nat) (subnetId poolId : String) :
    Keeps R [] (createVip protocol protocolPort subnetId poolId) (fun _ => []) :=
  hR.bind (hR.randName _) fun _ => hR.bind (hR.call _ rfl hR.nil) fun _ =>
    hR.bind (hR.assertEqual (hlax _) _ _) fun _ => hR.bind (hR.addCleanup rfl) fun _ => hR.ret _

/-- `_create_router` checks the reply before it registers the router's delete. -/
theorem createRouter_keeps (tenantId : Option String) (namestart : String) :
    Keeps R [] (createRouter tenantId namestart) (fun _ => []) :=
  hR.bind hR.clientTenantId fun _ => hR.bind (hR.randName _) fun _ =>
    hR.bind (hR.call _ rfl hR.nil) fun _ => hR.bind (hR.assertEqual (hlax _) _ _) fun _ =>
    hR.bind (hR.addCleanup rfl) fun _ => hR.ret _

/-- `_get_router` creates a router only when no public router is configured. -/
theorem getRouter_keeps (tenantId : Option String) : Keeps R [] (getRouter tenantId) (fun _ => []) :=
  hR.bind hR.clientTenantId fun _ => hR.bind hR.conf fun _ =>
    Keeps.ite (hR.bind (hR.call _ rfl hR.nil) fun _ => hR.ret _)
      (Keeps.ite (hR.bind (createRouter_keeps hR hlax _ _) fun _ =>
        hR.bind (hR.call _ rfl hR.nil) fun _ => hR.ret _) (Keeps.throw' hR.nil _))

/-- `_create_subnet` checks the accepted subnet's cidr before it registers its delete. -/
theorem createSubnet_keeps (network : Attrs) (namestart : String)
    (kwargs : List (String × String)) :
    Keeps R [] (createSubnet network namestart kwargs) (fun _ => []) := by
  refine hR.bind hR.conf fun cfg => hR.bind ?_ fun _ =>
    hR.bind (allocateSubnet_keeps hR _ _ _ _) fun r => ?_
  · cases cfg.tenantNetworkCidr.subnet cfg.tenantNetworkMaskBits
    · exact Keeps.throw' hR.nil _
    · exact hR.ret _
  · rcases r with _ | ⟨_, _⟩
    · exact Keeps.throw' hR.nil _
    · exact hR.bind (hR.assertEqual (hlax _) _ _) fun _ =>
        hR.bind (hR.addCleanup rfl) fun _ => hR.ret _

end Checking

/-! ## All of them -/

/-- A call of one of the resource factories, with its arguments. -/
inductive Factory where
  | createKeypair
  | createServer (name image flavor : Option String) (waitOnBoot waitOnDelete : Bool)
      (createKwargs : List (String × String))
  | createVolume (size : Nat) (name snapshotId imageRef volumeType : Option String)
      (waitOnDelete : Bool)
  | novaCreateSecurityGroup
  | novaCreateLoginableSecgroupRule (secgroupId : Option String)
  | imageCreate (name fmt path : String) (properties : List (String × String))
  | createServerSnapshot (server : Attrs) (name : Option String)
  | novaCreateFloatingIp (thing : Attrs) (poolName : Option String)
  | createNetwork (tenantId : Option String) (namestart : String)
  | createSubnet (network : Attrs) (namestart : String) (kwargs : List (String × String))
  | createPort (network : Attrs) (namestart : String)
  | createFloatingIp (thing : Attrs) (externalNetworkId portId : Option String)
  | createSecurityGroup (tenantId : Option String) (namestart : String)
  | createEmptySecurityGroup (tenantId : Option String) (namestart : String)
  | createSecurityGroupRule (secgroup : Option Attrs) (tenantId : Option String)
      (kwargs : List (String × String))
  | createLoginableSecgroupRule (secgroup : Option Attrs)
  | getRouter (tenantId : Option String)
  | createRouter (tenantId : Option String) (namestart : String)
  | createPool (lbMethod protocol subnetId : String)
  | createMember (address : String) (protocolPort : Nat) (poolId : String)
  | createVip (protocol : String) (protocolPort : Nat) (subnetId poolId : String)
  | createVolumeType (name : Option String)
  | createEncryptionType (typeId provider keySize cipher controlLocation : Option String)
  | createContainer (containerName : Option String)
  | uploadObjectToContainer (containerName : String) (objName : Option String) (objData : String)

/-- Run the factory; what it returns is dropped. -/
def Factory.run : Factory → Test Unit
  | .createKeypair => discard Tempest.createKeypair
  | .createServer n i f b d k => discard (Tempest.createServer n i f b d k)
  | .createVolume s n sn i t d => discard (Tempest.createVolume s n sn i t d)
  | .novaCreateSecurityGroup => discard Tempest.novaCreateSecurityGroup
  | .novaCreateLoginableSecgroupRule g => discard (Tempest.novaCreateLoginableSecgroupRule g)
  | .imageCreate n f p ps => discard (Tempest.imageCreate n f p ps)
  | .createServerSnapshot s n => discard (Tempest.createServerSnapshot s n)
  | .novaCreateFloatingIp t p => discard (Tempest.novaCreateFloatingIp t p)
  | .createNetwork t n => discard (Tempest.createNetwork t n)
  | .createSubnet n s k => discard (Tempest.createSubnet n s k)
  | .createPort n s => discard (Tempest.createPort n s)
  | .createFloatingIp t e p => discard (Tempest.createFloatingIp t e p)
  | .createSecurityGroup t n => discard (Tempest.createSecurityGroup t n)
  | .createEmptySecurityGroup t n => discard (Tempest.createEmptySecurityGroup t n)
  | .createSecurityGroupRule g t k => discard (Tempest.createSecurityGroupRule g t k)
  | .createLoginableSecgroupRule g => discard (Tempest.createLoginableSecgroupRule g)
  | .getRouter t => discard (Tempest.getRouter t)
  | .createRouter t n => discard (Tempest.createRouter t n)
  | .createPool m p s => discard (Tempest.createPool m p s)
  | .createMember a p i => discard (Tempest.createMember a p i)
  | .createVip p n s i => discard (Tempest.createVip p n s i)
  | .createVolumeType n => discard (Tempest.createVolumeType n)
  | .createEncryptionType t p k c l => discard (Tempest.createEncryptionType t p k c l)
  | .createContainer n => discard (Tempest.createContainer n)
  | .uploadObjectToContainer c n d => discard (Tempest.uploadObjectToContainer c n d)

/-- The factories that register the delete of each object they create right after the
create call, before any check of the reply. -/
def Factory.registersAtOnce : Factory → Bool
  | .createKeypair | .createServer .. | .createVolume .. | .novaCreateLoginableSecgroupRule ..
  | .imageCreate .. | .novaCreateFloatingIp .. | .createPort .. | .createFloatingIp ..
  | .createSecurityGroupRule .. | .createLoginableSecgroupRule .. | .createMember ..
  | .createVolumeType .. | .uploadObjectToContainer .. => true
  | _ => false

/-- **What every factory keeps.**  Whatever the environment answers and wherever the
factory stops, it keeps every `LedgerRel`, provided the relation lets an object stay
open when the factory does not register at once. -/
theorem Factory.run_keeps {R : List Ref → List Ref → World → World → Prop} (hR : LedgerRel R) :
    ∀ f : Factory, (f.registersAtOnce = false → ∀ p, Droppable R p) →
      Keeps R [] f.run (fun _ => [])
  | .createKeypair, _ => Keeps.map _ (createKeypair_keeps hR)
  | .createServer .., _ => Keeps.map _ (createServer_keeps hR ..)
  | .createVolume .., _ => Keeps.map _ (createVolume_keeps hR ..)
  | .novaCreateSecurityGroup, h => Keeps.map _ (novaCreateSecurityGroup_keeps hR (h rfl))
  | .novaCreateLoginableSecgroupRule .., _ =>
    Keeps.map _ (novaCreateLoginableSecgroupRule_keeps hR ..)
  | .imageCreate .., _ => Keeps.map _ (imageCreate_keeps hR ..)
  | .createServerSnapshot .., h => Keeps.map _ (createServerSnapshot_keeps hR (h rfl) ..)
  | .novaCreateFloatingIp .., _ => Keeps.map _ (novaCreateFloatingIp_keeps hR ..)
  | .createNetwork .., h => Keeps.map _ (createNetwork_keeps hR (h rfl) ..)
  | .createSubnet .., h => Keeps.map _ (createSubnet_keeps hR (h rfl) ..)
  | .createPort .., _ => Keeps.map _ (createPort_keeps hR ..)
  | .createFloatingIp .., _ => Keeps.map _ (createFloatingIp_keeps hR ..)
  | .createSecurityGroup .., h => Keeps.map _ (createSecurityGroup_keeps hR (h rfl) ..)
  | .createEmptySecurityGroup .., h => Keeps.map _ (createEmptySecurityGroup_keeps hR (h rfl) ..)
  | .createSecurityGroupRule .., _ => Keeps.map _ (createSecurityGroupRule_keeps hR ..)
  | .createLoginableSecgroupRule .., _ => Keeps.map _ (createLoginableRules_keeps hR ..)
  | .getRouter .., h => Keeps.map _ (getRouter_keeps hR (h rfl) ..)
  | .createRouter .., h => Keeps.map _ (createRouter_keeps hR (h rfl) ..)
  | .createPool .., h => Keeps.map _ (createPool_keeps hR (h rfl) ..)
  | .createMember .., _ => Keeps.map _ (createMember_keeps hR ..)
  | .createVip .., h => Keeps.map _ (createVip_keeps hR (h rfl) ..)
  | .createVolumeType .., _ => Keeps.map _ (createVolumeType_keeps hR ..)
  | .createEncryptionType .., h => Keeps.map _ (createEncryptionType_keeps hR (h rfl) ..)
  | .createContainer .., h => Keeps.map _ (createContainer_keeps hR (h rfl) ..)
  | .uploadObjectToContainer .., _ => Keeps.map _ (uploadObjectToContainer_keeps hR ..)

end Tempest
