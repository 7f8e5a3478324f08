import Tempest.Teardown

/-!
# What a scenario sets up, and the order teardown takes it apart

Three helpers of `scenario/manager.py` build what a scenario test needs from the
factories: `create_networks` (lines 992-1015) a network with a subnet attached to a
router, `glance_image_create` (lines 341-368) the image to boot, falling back from the
disk image to a kernel, a ramdisk and a machine image that names both, and
`EncryptionScenarioTest.nova_boot` (lines 1183-1187) a server booted from that image.
Teardown runs the cleanups newest first, so the order of registration is the order of
deletion, reversed.

* `Adds cs ds w w'`: a run that adds `cs` to the cleanups and `ds` to the queued waits,
  and keeps the configuration; the success lemmas (`createNetwork_ok`, `getRouter_ok`,
  `createSubnet_ok`, `imageCreate_ok`, …) say what each helper adds when it returns;
* `createNetworks_teardown`: after `create_networks`, teardown first deletes the subnet,
  then the router when `_get_router` created it, then the network, and then does what it
  would have done before; the public router is never deleted;
* `glanceImageCreate_uec_teardown`: after the fallback, the machine image is deleted
  before the ramdisk and the kernel it names;
* `novaBoot_teardown`: the server booted from the image with the keypair `nova_boot`
  created is deleted, and waited for, before that keypair and the image, and all of it
  before the drain.
-/

namespace Tempest

/-! ## The helpers -/

/-- **`NetworkScenarioTest._get_network_by_name`** (lines 652-654), listing with the
admin client: `net[0]` of the networks of that name, `IndexError` when there is none. -/
def getNetworkByName (networkName : String) : Test Attrs := do
  let net ← call (.list .network [("name", networkName)])
  match net.items with
  | n :: _ => pure n
  | [] => throw .indexError

/-- **`NetworkScenarioTest.create_networks`** (lines 992-1015): with the baremetal driver,
the network all nodes share and no subnet nor router; otherwise a new network, the router
of `_get_router`, and a new subnet of the network, added to the router with
`DeletableSubnet.add_to_router`. -/
def createNetworks (tenantId : Option String) : Test (Attrs × Option Attrs × Option Attrs) := do
  let cfg ← conf
  if cfg.baremetalDriverEnabled then
    let network ← getNetworkByName cfg.fixedNetworkName
    pure (network, none, none)
  else
    let network ← createNetwork tenantId "network-smoke-"
    let router ← getRouter tenantId
    let subnet ← createSubnet network "subnet-smoke" []
    let _ ← call (.action "add_to_router" [subnet.id, router.id])
    pure (network, some subnet, some router)

/-- The nested `{'kernel_id': kernel, 'ramdisk_id': ramdisk}` given as the machine image's
`properties`, written as its literal. -/
def uecProperties (kernel ramdisk : String) : String :=
  "\x7b'kernel_id': '" ++ kernel ++ "', 'ramdisk_id': '" ++ ramdisk ++ "'\x7d"

/-- The `try` of `glance_image_create`: `_image_create('scenario-img', …)` of the disk
image `img_dir/img_file`, with its disk format. -/
def diskImageCreate (cfg : Conf) : Test String :=
  imageCreate "scenario-img" cfg.imgContainerFormat (cfg.imgDir ++ "/" ++ cfg.imgFile)
    [("disk_format", cfg.imgDiskFormat)]

/-- The `except IOError` of `glance_image_create`: the kernel, the ramdisk, and the machine
image whose `properties` name both. -/
def uecImageCreate (cfg : Conf) : Test String := do
  let kernel ← imageCreate "scenario-aki" "aki" (cfg.imgDir ++ "/" ++ cfg.akiImgFile) []
  let ramdisk ← imageCreate "scenario-ari" "ari" (cfg.imgDir ++ "/" ++ cfg.ariImgFile) []
  imageCreate "scenario-ami" "ami" (cfg.imgDir ++ "/" ++ cfg.amiImgFile)
    [("properties", uecProperties kernel ramdisk)]

/-- **`ScenarioTest.glance_image_create`** (lines 341-368): the disk image, or, when
`_image_create` raises `IOError`, a kernel, a ramdisk and the machine image that names
both; any other exception goes up.  It returns the id the method stores in
`self.image`. -/
def glanceImageCreate : Test String := do
  let cfg ← conf
  tryCatch (diskImageCreate cfg) fun
    | .ioError => uecImageCreate cfg
    | e => throw e

/-- `self.keypair = keypair`. -/
def setKeypair (keypair : Attrs) : Test Unit := fun w => (.ok (), { w with keypair := some keypair })

/-- **`EncryptionScenarioTest.nova_boot`** (lines 1183-1187), given `self.image`: a keypair,
stored in `self.keypair`, and a server booted from the image with the keypair's name; it
returns the server the method stores in `self.server`. -/
def novaBoot (image : String) : Test Attrs := do
  let keypair ← createKeypair
  setKeypair keypair
  createServer none (some image) none true true [("key_name", keypair.name)]

/-! ## What a run that returns adds to the ledger -/

/-- `w'` keeps the configuration of `w`, adds `cs` to its cleanups, queues the waits `ds`,
and extends its log. -/
structure Adds (cs : List Cleanup) (ds : List WaitDict) (w w' : World) : Prop where
  conf : w'.conf = w.conf
  cleanups : w'.cleanups = w.cleanups ++ cs
  waits : w'.cleanupWaits = w.cleanupWaits ++ ds
  log : w.log <+: w'.log

/-- Two runs one after the other add what each adds, in order. -/
theorem Adds.trans {cs cs' : List Cleanup} {ds ds' : List WaitDict} {w₁ w₂ w₃ : World}
    (h₁ : Adds cs ds w₁ w₂) (h₂ : Adds cs' ds' w₂ w₃) : Adds (cs ++ cs') (ds ++ ds') w₁ w₃ :=
  ⟨h₂.conf.trans h₁.conf, by rw [h₂.cleanups, h₁.cleanups, List.append_assoc],
    by rw [h₂.waits, h₁.waits, List.append_assoc], h₁.log.trans h₂.log⟩

/-- Adding nothing holds of every state and itself, and composes. -/
theorem adds_nil_stable : Stable (Adds [] []) :=
  ⟨fun _ => ⟨rfl, by simp, by simp, List.prefix_refl _⟩, fun h₁ h₂ => by simpa using h₁.trans h₂⟩

/-- Events appended to the log add nothing to the ledger. -/
theorem adds_nil_logBlind : LogBlind (Adds [] []) :=
  fun _ _ => ⟨rfl, by simp, by simp, List.prefix_append _ _⟩

/-- `addCleanup` adds its one cleanup. -/
theorem addCleanup_adds {c : Cleanup} {w w' : World} {u : Unit} (h : addCleanup c w = (.ok u, w')) :
    Adds [c] [] w w' := by
  cases h; exact ⟨rfl, rfl, by simp, List.prefix_refl _⟩

/-- A step that keeps the ledger, as the run it made. -/
theorem Preserves.adds {α : Type} {x : Test α} (hx : Preserves (Adds [] []) x) {w w' : World}
    {a : α} (h : x w = (.ok a, w')) : Adds [] [] w w' := by
  simpa only [h] using hx.run w

/-- A step that keeps the ledger and returned, peeled off the run it starts. -/
theorem Preserves.bind_ok {α β : Type} {x : Test α} {f : α → Test β}
    (hx : Preserves (Adds [] []) x) {w w'' : World} {b : β} (h : (x >>= f) w = (.ok b, w'')) :
    ∃ a w', x w = (.ok a, w') ∧ Adds [] [] w w' ∧ f a w' = (.ok b, w'') := by
  obtain ⟨a, w', hx', h⟩ := Test.bind_ok_pair h
  exact ⟨a, w', hx', hx.adds hx', h⟩

/-- A call that was answered: its event is the last of the log. -/
theorem call_ok_event {c : Call} {w w' : World} {r : Reply} (h : call c w = (.ok r, w')) :
    (⟨c, .ok r⟩ : Event) ∈ w'.log := by
  simp only [call_apply, Prod.mk.injEq] at h
  obtain ⟨hr, rfl⟩ := h
  simp [World.record, hr]

/-! ## Relations that ignore every event but a waiter -/

/-- A relation between a state and a later one that holds of every state and itself,
composes, and ignores an event that is not a deletion waiter. -/
structure QuietRel (R : World → World → Prop) extends Stable R : Prop where
  record : ∀ w c r, c.isWaiter = false → R w (w.record c r)

/-- A relation of the factories' ledger that ignores which objects are open ignores every
event that is not a waiter. -/
theorem LedgerRel.quietRel {S : World → World → Prop} (hR : LedgerRel fun _ _ => S) :
    QuietRel S :=
  ⟨⟨hR.refl [], fun h₁ h₂ => @LedgerRel.trans _ hR [] [] [] _ _ _ h₁ h₂⟩,
    fun w c r hc => hR.record [] w c r hc⟩

/-- Adding nothing ignores every event. -/
theorem adds_nil_quietRel : QuietRel (Adds [] []) :=
  ⟨adds_nil_stable, fun w _ _ _ => adds_nil_logBlind w [_]⟩

section Quiet

variable {R : World → World → Prop} (hR : QuietRel R) {α β : Type}
include hR

/-! The combinators of `Preserves`, for a quiet relation. -/

/-- The steps of a sequence compose. -/
theorem QuietRel.bind {x : Test α} {f : α → Test β} (hx : Preserves R x)
    (hf : ∀ a, Preserves R (f a)) : Preserves R (x >>= f) :=
  Preserves.bind hR.toStable hx hf

/-- Returning keeps the relation. -/
theorem QuietRel.pure' (a : α) : Preserves R (pure a : Test α) := Preserves.pure' hR.toStable a

/-- Raising keeps the relation. -/
theorem QuietRel.throw' (e : Exc) : Preserves R (throw e : Test α) :=
  Preserves.throw' hR.toStable e

/-- A guarded step keeps the relation when its body and its handler do. -/
theorem QuietRel.tryCatch {x : Test α} {h : Exc → Test α} (hx : Preserves R x)
    (hh : ∀ e, Preserves R (h e)) : Preserves R (tryCatch x h : Test α) :=
  Preserves.tryCatch hR.toStable hx hh

/-- Reading the configuration keeps the relation. -/
theorem QuietRel.conf : Preserves R conf := Preserves.conf hR.toStable

/-- An assertion keeps the relation, whether it passes or not. -/
theorem QuietRel.assertTrue (b : Bool) (m : String) : Preserves R (assertTrue b m) :=
  Preserves.assertTrue hR.toStable b m

/-- A call that is not a waiter keeps the relation. -/
theorem QuietRel.call' {c : Call} (hc : c.isWaiter = false) : Preserves R (call c) :=
  ⟨fun w => hR.record w c _ hc⟩

/-- A noted event that is not a waiter keeps the relation. -/
theorem QuietRel.note' {c : Call} (hc : c.isWaiter = false) : Preserves R (note c) :=
  ⟨fun w => hR.record w c _ hc⟩

/-- A call whose answer is dropped. -/
theorem QuietRel.callUnit {c : Call} (hc : c.isWaiter = false) :
    Preserves R (do let _ ← call c; pure () : Test Unit) :=
  hR.bind (hR.call' hc) fun _ => hR.pure' _

/-- An `assertEqual` keeps the relation, whether it passes or not. -/
theorem QuietRel.assertEqual' {α : Type} [DecidableEq α] (a b : α) :
    Preserves R (assertEqual a b) :=
  Preserves.assertEqual hR.toStable a b

/-- `_get_network_by_name` only lists networks. -/
theorem getNetworkByName_preserves (networkName : String) :
    Preserves R (getNetworkByName networkName) :=
  hR.bind (hR.call' (by rfl)) fun net => by
    cases net.items <;> first | exact hR.pure' _ | exact hR.throw' _

end Quiet

/-- `cidr_in_use` only lists subnets. -/
theorem cidrInUse_adds (cidr tenantId : String) :
    Preserves (Adds [] []) (cidrInUse cidr tenantId) :=
  Preserves.bind adds_nil_stable (Preserves.call adds_nil_logBlind _) fun _ =>
    Preserves.pure' adds_nil_stable _

/-- The guarded `create_subnet` registers nothing. -/
theorem submitSubnet_adds (subnet : List (String × String)) :
    Preserves (Adds [] []) (submitSubnet subnet) := by
  refine Preserves.tryCatch adds_nil_stable
    (Preserves.map _ (Preserves.call adds_nil_logBlind _)) fun e => ?_
  split
  · exact Preserves.ite (Preserves.pure' adds_nil_stable _) (Preserves.throw' adds_nil_stable _)
  · exact Preserves.throw' adds_nil_stable _

/-- The allocation loop registers nothing. -/
theorem allocateSubnet_adds (network : Attrs) (namestart : String)
    (kwargs : List (String × String)) :
    ∀ blocks, Preserves (Adds [] []) (allocateSubnet network namestart kwargs blocks)
  | [] => Preserves.pure' adds_nil_stable _
  | b :: blocks => by
    have ih := allocateSubnet_adds network namestart kwargs blocks
    refine Preserves.bind adds_nil_stable (cidrInUse_adds _ _) fun inUse => ?_
    refine Preserves.ite ih (Preserves.bind adds_nil_stable
      (Preserves.randName adds_nil_logBlind _) fun name => ?_)
    refine Preserves.bind adds_nil_stable ?_ fun subnet =>
      Preserves.bind adds_nil_stable (submitSubnet_adds subnet) fun r => ?_
    · exact Preserves.ite (Preserves.throw' adds_nil_stable _) (Preserves.pure' adds_nil_stable _)
    · cases r
      · exact ih
      · exact Preserves.pure' adds_nil_stable _

/-- What `_create_network` and `_create_router` do once the name is drawn: create `k`,
check the name of the reply, register the wrapped delete of the object, return it. -/
theorem createChecked_ok {k : Kind} {args : List (String × String)} {name : String}
    {w w' : World} {a : Attrs}
    (h : (do
      let result ← call (.create k args)
      assertEqual result.body.name name
      addCleanup (.deleteWrapper ⟨k, result.body.id⟩)
      pure result.body : Test Attrs) w = (.ok a, w')) :
    Adds [.deleteWrapper ⟨k, a.id⟩] [] w w' := by
  rw [bind_call_apply] at h
  split at h
  · simp only [Test.bind_apply, assertEqual, assertTrue_apply] at h
    split_ifs at h <;> simp only [addCleanup_apply, Test.pure_apply, Prod.mk.injEq,
      reduceCtorEq, false_and, Except.ok.injEq] at h
    obtain ⟨rfl, rfl⟩ := h
    exact ⟨rfl, rfl, by simp, by simp⟩
  · cases h

/-- A `_create_network` that returns registered the wrapped delete of the network it returns. -/
theorem createNetwork_ok {tenantId : Option String} {namestart : String} {w w' : World}
    {network : Attrs} (h : createNetwork tenantId namestart w = (.ok network, w')) :
    Adds [.deleteWrapper ⟨.network, network.id⟩] [] w w' := by
  rw [createNetwork, Test.bind_apply, clientTenantId_apply] at h
  dsimp only at h
  rw [bind_randName_apply] at h
  simpa using (adds_nil_logBlind w [_]).trans (createChecked_ok h)

/-- A `_create_router` that returns registered the wrapped delete of the router it returns. -/
theorem createRouter_ok {tenantId : Option String} {namestart : String} {w w' : World}
    {router : Attrs} (h : createRouter tenantId namestart w = (.ok router, w')) :
    Adds [.deleteWrapper ⟨.router, router.id⟩] [] w w' := by
  rw [createRouter, Test.bind_apply, clientTenantId_apply] at h
  dsimp only at h
  rw [bind_randName_apply] at h
  simpa using (adds_nil_logBlind w [_]).trans (createChecked_ok h)

/-- `_get_router` registers the delete of the router only when it created it: when no
public router is configured. -/
theorem getRouter_ok {tenantId : Option String} {w w' : World} {router : Attrs}
    (h : getRouter tenantId w = (.ok router, w')) :
    Adds (if w.conf.publicRouterId = "" then [.deleteWrapper ⟨.router, router.id⟩] else []) []
      w w' := by
  unfold getRouter at h
  obtain ⟨t, w₁, h₁, h⟩ := Test.bind_ok_pair h
  obtain ⟨rfl, rfl⟩ := clientTenantId_ok h₁
  obtain ⟨cfg, w₁, h₁, h⟩ := Test.bind_ok_pair h
  obtain ⟨rfl, rfl⟩ := conf_ok h₁
  split_ifs at h with hr hn
  · obtain ⟨_, w₁, h₁, h⟩ := Test.bind_ok_pair h
    cases h
    simpa [hr] using (Preserves.call adds_nil_logBlind _).adds h₁
  · obtain ⟨_, w₁, h₁, h⟩ := Test.bind_ok_pair h
    obtain ⟨_, w₂, h₂, h⟩ := Test.bind_ok_pair h
    cases h
    simpa [not_not.1 hr] using (createRouter_ok h₁).trans
      ((Preserves.call adds_nil_logBlind _).adds h₂)
  · cases h

/-- A `_create_subnet` that returns registered the wrapped delete of the subnet it returns. -/
theorem createSubnet_ok {network : Attrs} {namestart : String} {kwargs : List (String × String)}
    {w w' : World} {subnet : Attrs}
    (h : createSubnet network namestart kwargs w = (.ok subnet, w')) :
    Adds [.deleteWrapper ⟨.subnet, subnet.id⟩] [] w w' := by
  unfold createSubnet at h
  obtain ⟨cfg, w₁, h₁, h⟩ := Test.bind_ok_pair h
  obtain ⟨rfl, rfl⟩ := conf_ok h₁
  obtain ⟨blocks, w₁, h₁, h⟩ := Test.bind_ok_pair h
  have a₁ : w = w₁ := by
    cases hb : w.conf.tenantNetworkCidr.subnet w.conf.tenantNetworkMaskBits <;> rw [hb] at h₁ <;>
      cases h₁
    rfl
  subst a₁
  obtain ⟨r, w₂, h₂, h⟩ := Test.bind_ok_pair h
  have a₂ := (allocateSubnet_adds network namestart kwargs blocks).adds h₂
  rcases r with _ | ⟨result, strCidr⟩
  · cases h
  · obtain ⟨_, w₃, h₃, h⟩ := Test.bind_ok_pair h
    obtain ⟨_, w₄, h₄, h⟩ := Test.bind_ok_pair h
    cases h
    simpa using a₂.trans (((Preserves.assertEqual adds_nil_stable _ _).adds h₃).trans
      (addCleanup_adds h₄))

/-! ## `create_networks` -/

/-- Modelled from the spec: the cleanups `create_networks` registers for what it
returned: the network's wrapped delete, the router's when `_get_router` created it, with
no public router configured, and the subnet's; none for the shared network of the
baremetal driver. -/
def networksCleanups (cfg : Conf) : Attrs × Option Attrs × Option Attrs → List Cleanup
  | (network, some subnet, some router) =>
    [.deleteWrapper ⟨.network, network.id⟩] ++
      (if cfg.publicRouterId = "" then [.deleteWrapper ⟨.router, router.id⟩] else []) ++
      [.deleteWrapper ⟨.subnet, subnet.id⟩]
  | _ => []

/-- Cleanups that are neither a wait nor the drain are registrations of the factories'
shape, with no wait queued. -/
theorem registrations_plain : ∀ cs : List Cleanup,
    (∀ c ∈ cs, c ≠ .waitForCleanups ∧ ∀ k id, c ≠ .wait k id) → Registrations cs []
  | [], _ => Registrations.nil
  | c :: cs, h =>
    (Registrations.single (h c (List.mem_cons_self _ _)).1 (h c (List.mem_cons_self _ _)).2).append
      (registrations_plain cs fun c' hc => h c' (List.mem_cons_of_mem _ hc))

/-- What `create_networks` registers is of the factories' shape, with no wait queued. -/
theorem networksCleanups_registrations (cfg : Conf) (res : Attrs × Option Attrs × Option Attrs) :
    Registrations (networksCleanups cfg res) [] := by
  refine registrations_plain _ ?_
  rcases res with ⟨_, _ | _, _ | _⟩ <;> simp only [networksCleanups, List.not_mem_nil,
    false_implies, implies_true]
  split_ifs <;> simp

/-- A `create_networks` that returns registers `networksCleanups` and nothing else. -/
theorem createNetworks_ok {tenantId : Option String} {w w' : World}
    {res : Attrs × Option Attrs × Option Attrs} (h : createNetworks tenantId w = (.ok res, w')) :
    Adds (networksCleanups w.conf res)  [] w w' := by
  unfold createNetworks at h
  obtain ⟨cfg, w₁, h₁, h⟩ := Test.bind_ok_pair h
  obtain ⟨rfl, rfl⟩ := conf_ok h₁
  split_ifs at h
  · obtain ⟨_, w₁, h₁, h⟩ := Test.bind_ok_pair h
    cases h
    exact (getNetworkByName_preserves adds_nil_quietRel _).adds h₁
  · obtain ⟨_, w₁, h₁, h⟩ := Test.bind_ok_pair h
    obtain ⟨_, w₂, h₂, h⟩ := Test.bind_ok_pair h
    obtain ⟨_, w₃, h₃, h⟩ := Test.bind_ok_pair h
    obtain ⟨_, w₄, h₄, h⟩ := Test.bind_ok_pair h
    cases h
    have a₁ := createNetwork_ok h₁
    have a₂ := getRouter_ok h₂
    rw [a₁.conf] at a₂
    simpa [networksCleanups] using a₁.trans (a₂.trans ((createSubnet_ok h₃).trans
      ((Preserves.call adds_nil_logBlind _).adds h₄)))

/-- Modelled from the spec: the calls teardown begins with after `create_networks`
returned `(network, subnet, router)`: the subnet's delete, then the router's when
`_get_router` created it, then the network's; none for the shared network. -/
def networksTeardown (cfg : Conf) : Attrs × Option Attrs × Option Attrs → List Call
  | (network, some subnet, some router) =>
    [.delete ⟨.subnet, subnet.id⟩] ++
      (if cfg.publicRouterId = "" then [.delete ⟨.router, router.id⟩] else []) ++
      [.delete ⟨.network, network.id⟩]
  | _ => []

/-- Teardown's calls for what `create_networks` registered are `networksTeardown`. -/
theorem networksCleanups_calls (cfg : Conf) (res : Attrs × Option Attrs × Option Attrs) :
    (networksCleanups cfg res).reverse.filterMap Cleanup.call = networksTeardown cfg res := by
  rcases res with ⟨_, _ | _, _ | _⟩ <;> try rfl
  simp only [networksCleanups, networksTeardown]
  split_ifs <;> rfl

/-- **Teardown after a step that added `cs`.**  From a state with the drain at the bottom
of the cleanups and registrations of the factories' shape above it, after a step that
adds registrations `cs` and `ds` of the factories' shape: teardown's calls before the drain
are those of `cs`, newest first, then those of the cleanups before the step; the drain
calls only waiters. -/
theorem doCleanups_after {w w' : World} {rest cs : List Cleanup} {ds : List WaitDict}
    (hcs : w.cleanups = .waitForCleanups :: rest) (hreg : Registrations rest w.cleanupWaits)
    (ha : Adds cs ds w w') (hr : Registrations cs ds) :
    ∃ deletes drain, (doCleanups w').2.log = w'.log ++ deletes ++ drain ∧
      deletes.map Event.call =
        cs.reverse.filterMap Cleanup.call ++ rest.reverse.filterMap Cleanup.call ∧
      ∀ ev ∈ drain, ev.call.isWaiter = true := by
  have hreg' := hreg.append hr
  obtain ⟨regs, hds, hregs⟩ := hreg'.waits
  have hcs' : w'.cleanups = .waitForCleanups :: (rest ++ cs) := by rw [ha.cleanups, hcs]; rfl
  obtain ⟨T₁, T₂, res, -, hlog, hT₁, htr, -⟩ :=
    doCleanups_trace hcs' hreg'.noDrain (ha.waits.trans hds) fun r hr => (hregs r hr).1
  refine ⟨T₁, T₂, hlog, by simp [hT₁], fun ev hev => ?_⟩
  obtain ⟨reg, -, hc⟩ := htr.mem_call ev hev
  rw [hc]
  rfl

/-- **`create_networks` is taken apart children first.**  Whatever the environment
answers, after `setUp` and any factory calls, a `create_networks` that returns
`(network, subnet, router)` leaves teardown to delete, before the drain, the subnet, then
the router when `_get_router` created it, then the network, and then to make the calls it
would have made before: the public router is never deleted, and the shared network of
the baremetal driver adds nothing. -/
theorem createNetworks_teardown {w₀ w : World} (h₀ : w₀.cleanups = []) (hw : Reachable w₀ w)
    {tenantId : Option String} {res : Attrs × Option Attrs × Option Attrs}
    (h : (createNetworks tenantId w).1 = .ok res) :
    ∃ rest deletes drain, w.cleanups = .waitForCleanups :: rest ∧
      (doCleanups (createNetworks tenantId w).2).2.log =
        (createNetworks tenantId w).2.log ++ deletes ++ drain ∧
      deletes.map Event.call = networksTeardown w.conf res ++ rest.reverse.filterMap Cleanup.call ∧
      ∀ ev ∈ drain, ev.call.isWaiter = true := by
  obtain ⟨rest, hcs, hreg, -⟩ := hw.ledger h₀
  obtain ⟨deletes, drain, hlog, hcalls, hdrain⟩ := doCleanups_after hcs hreg
    (createNetworks_ok (Test.ok_eq h)) (networksCleanups_registrations _ _)
  exact ⟨rest, deletes, drain, hcs, hlog, by rw [hcalls, networksCleanups_calls], hdrain⟩

/-- The sample test on `echoEnv`, with a public network and no public router. -/
def networkWorld : World :=
  { sampleWorld echoEnv 17 with
    conf := { (sampleWorld echoEnv 17).conf with publicNetworkId := "public" } }

/-- On `echoEnv` with a public network, `create_networks` creates the network, a router
and the subnet `10.100.0.0/17`; teardown deletes them in the reverse order. -/
theorem createNetworks_teardown_sample :
    networkWorld.cleanups = [] ∧
      (createNetworks none (setUp networkWorld).2).1 =
        .ok (echoed "network-smoke--1" "", some (echoed "subnet-smoke-1" "10.100.0.0/17"),
          some (echoed "router-smoke-1" "")) ∧
      ∃ rest deletes drain, (setUp networkWorld).2.cleanups = .waitForCleanups :: rest ∧
        (doCleanups (createNetworks none (setUp networkWorld).2).2).2.log =
          (createNetworks none (setUp networkWorld).2).2.log ++ deletes ++ drain ∧
        deletes.map Event.call =
          [.delete ⟨.subnet, "subnet-smoke-1"⟩, .delete ⟨.router, "router-smoke-1"⟩,
            .delete ⟨.network, "network-smoke--1"⟩] ++ rest.reverse.filterMap Cleanup.call ∧
        ∀ ev ∈ drain, ev.call.isWaiter = true :=
  have h : (createNetworks none (setUp networkWorld).2).1 =
      .ok (echoed "network-smoke--1" "", some (echoed "subnet-smoke-1" "10.100.0.0/17"),
        some (echoed "router-smoke-1" "")) := rfl
  ⟨rfl, h, createNetworks_teardown rfl .setUp h⟩

/-! ## `glance_image_create` and `nova_boot` -/

/-- `d[k] = v` makes `v` the value of `k`. -/
theorem dictSet_lookup {α : Type} (d : List (String × α)) (k : String) (v : α) :
    (dictSet d k v).lookup k = some v := by
  unfold dictSet
  split_ifs with hk
  · induction d with
    | nil => cases hk
    | cons e d ih =>
      obtain ⟨k', v'⟩ := e
      by_cases he : k' = k
      · subst he
        simp
      · have hd : d.any (·.1 == k) = true := by simpa [he] using hk
        have hb : (k == k') = false := beq_eq_false_iff_ne.2 (Ne.symm he)
        simpa [List.lookup_cons, he, hb] using ih hd
  · rw [List.lookup_append, List.lookup_eq_none_iff.2 fun p hp => ?_]
    · simp
    · simp only [List.any_eq_true, beq_iff_eq, not_exists, not_and] at hk
      exact bne_iff_ne.2 fun h => hk p hp h.symm

/-- A run of a factory, however it ends: the configuration kept, the log extended, and
registrations of the factories' shape added. -/
def Grows (w w' : World) : Prop := ∃ cs ds, Adds cs ds w w' ∧ Registrations cs ds

/-- Every factory, however it ends, grows the ledger by registrations of its shape. -/
theorem grows_ledgerRel : LedgerRel fun _ _ => Grows where
  refl _ _ := ⟨[], [], adds_nil_stable.refl _, Registrations.nil⟩
  trans := fun ⟨_, _, ha, hr⟩ ⟨_, _, ha', hr'⟩ => ⟨_, _, ha.trans ha', hr.append hr'⟩
  record _ w _ _ _ := ⟨[], [], adds_nil_logBlind w [_], Registrations.nil⟩
  register _ _ cs ds h := ⟨cs, ds, ⟨rfl, rfl, rfl, List.prefix_refl _⟩, h⟩

/-- `_image_create` that returns `imageId` created the image with `properties` laid over
its own parameters, and registered the file's close and the image's delete. -/
theorem imageCreate_ok {name fmt path : String} {properties : List (String × String)}
    {w w' : World} {imageId : String}
    (h : imageCreate name fmt path properties w = (.ok imageId, w')) :
    Adds [.close path, .delete ⟨.image, imageId⟩] [] w w' ∧
      ∃ base r, (⟨.create .image (dictUpdate base properties), .ok r⟩ : Event) ∈ w'.log ∧
        r.body.id = imageId := by
  unfold imageCreate at h
  obtain ⟨_, w₁, -, a₁, h⟩ := (Preserves.randName adds_nil_logBlind _).bind_ok h
  obtain ⟨_, w₂, -, a₂, h⟩ := (Preserves.call adds_nil_logBlind _).bind_ok h
  obtain ⟨_, w₃, h₃, h⟩ := Test.bind_ok_pair h
  obtain ⟨image, w₄, h₄, a₄, h⟩ := (Preserves.call adds_nil_logBlind _).bind_ok h
  obtain ⟨_, w₅, h₅, h⟩ := Test.bind_ok_pair h
  obtain ⟨_, w₆, -, a₆, h⟩ := (Preserves.assertEqual adds_nil_stable _ _).bind_ok h
  obtain ⟨_, w₇, -, a₇, h⟩ := (Preserves.call adds_nil_logBlind _).bind_ok h
  cases h
  have a₅₇ := (addCleanup_adds h₅).trans (a₆.trans a₇)
  exact ⟨by simpa using a₁.trans (a₂.trans ((addCleanup_adds h₃).trans (a₄.trans a₅₇))),
    _, image, a₅₇.log.subset (call_ok_event h₄), rfl⟩

/-- The fallback that returns `image` created a kernel and a ramdisk, then `image` with
`properties` naming both, and registered each file's close and each image's delete. -/
theorem uecImageCreate_ok {cfg : Conf} {w w' : World} {image : String}
    (h : uecImageCreate cfg w = (.ok image, w')) :
    ∃ kernel ramdisk,
      Adds [.close (cfg.imgDir ++ "/" ++ cfg.akiImgFile), .delete ⟨.image, kernel⟩,
        .close (cfg.imgDir ++ "/" ++ cfg.ariImgFile), .delete ⟨.image, ramdisk⟩,
        .close (cfg.imgDir ++ "/" ++ cfg.amiImgFile), .delete ⟨.image, image⟩] [] w w' ∧
      ∃ params r, (⟨.create .image params, .ok r⟩ : Event) ∈ w'.log ∧ r.body.id = image ∧
        params.lookup "properties" = some (uecProperties kernel ramdisk) := by
  obtain ⟨kernel, w₁, h₁, h⟩ := Test.bind_ok_pair h
  obtain ⟨ramdisk, w₂, h₂, h⟩ := Test.bind_ok_pair h
  obtain ⟨a₃, base, r, hev, hr⟩ := imageCreate_ok h
  exact ⟨kernel, ramdisk, (imageCreate_ok h₁).1.trans ((imageCreate_ok h₂).1.trans a₃),
    _, r, hev, hr, dictSet_lookup _ _ _⟩

/-- **The machine image goes before its kernel and ramdisk.**  Whatever the environment
answers, after `setUp` and any factory calls: when `_image_create` of the disk image
raises `IOError` and `glance_image_create` returns `image`, the machine image `image` was
created with `properties` naming a kernel and a ramdisk, and teardown begins by deleting
`image`, then the ramdisk, then the kernel. -/
theorem glanceImageCreate_uec_teardown {w₀ w : World} (h₀ : w₀.cleanups = [])
    (hw : Reachable w₀ w) (hio : (diskImageCreate w.conf w).1 = .error .ioError)
    {image : String} (h : (glanceImageCreate w).1 = .ok image) :
    ∃ kernel ramdisk params r deletes drain,
      (⟨.create .image params, .ok r⟩ : Event) ∈ (glanceImageCreate w).2.log ∧
      r.body.id = image ∧ params.lookup "properties" = some (uecProperties kernel ramdisk) ∧
      (doCleanups (glanceImageCreate w).2).2.log =
        (glanceImageCreate w).2.log ++ deletes ++ drain ∧
      [.delete ⟨.image, image⟩, .delete ⟨.image, ramdisk⟩, .delete ⟨.image, kernel⟩] <+:
        deletes.map Event.call ∧
      ∀ ev ∈ drain, ev.call.isWaiter = true := by
  obtain ⟨rest, hcs, hreg, -⟩ := hw.ledger h₀
  obtain ⟨pre, dpre, apre, rpre⟩ : Grows w (diskImageCreate w.conf w).2 :=
    by simpa using (imageCreate_keeps grows_ledgerRel _ _ _ _).run w
  have hg : (tryCatch (diskImageCreate w.conf) _ : Test String) w =
      (.ok image, (glanceImageCreate w).2) := Test.ok_eq h
  rw [Test.tryCatch_apply, (Prod.ext hio rfl : diskImageCreate w.conf w =
    (.error .ioError, (diskImageCreate w.conf w).2))] at hg
  obtain ⟨kernel, ramdisk, auec, params, r, hev, hr, hp⟩ := uecImageCreate_ok hg
  obtain ⟨deletes, drain, hlog, hcalls, hdrain⟩ := doCleanups_after hcs hreg (apre.trans auec)
    (rpre.append (registrations_plain _ (by simp)))
  refine ⟨kernel, ramdisk, params, r, deletes, drain, hev, hr, hp, hlog,
    ⟨pre.reverse.filterMap Cleanup.call ++ rest.reverse.filterMap Cleanup.call, ?_⟩, hdrain⟩
  simp [hcalls, Cleanup.call]

/-- The sample test on a cloud where the disk image's file cannot be opened. -/
def noDiskEnv : Env := fun h c =>
  if c = .openFile "images/disk.img" then .error .ioError else echoEnv h c

/-- Without the disk image, `glance_image_create` falls back to the machine image
`scenario-ami--1`, which names the kernel and the ramdisk it created before; teardown
deletes the three in the reverse order. -/
theorem glanceImageCreate_uec_teardown_sample :
    (sampleWorld noDiskEnv 17).cleanups = [] ∧
      (diskImageCreate (setUp (sampleWorld noDiskEnv 17)).2.conf
        (setUp (sampleWorld noDiskEnv 17)).2).1 = .error .ioError ∧
      (glanceImageCreate (setUp (sampleWorld noDiskEnv 17)).2).1 = .ok "scenario-ami--1" ∧
      ∃ kernel ramdisk params r deletes drain,
        (⟨.create .image params, .ok r⟩ : Event) ∈
          (glanceImageCreate (setUp (sampleWorld noDiskEnv 17)).2).2.log ∧
        r.body.id = "scenario-ami--1" ∧
        params.lookup "properties" = some (uecProperties kernel ramdisk) ∧
        (doCleanups (glanceImageCreate (setUp (sampleWorld noDiskEnv 17)).2).2).2.log =
          (glanceImageCreate (setUp (sampleWorld noDiskEnv 17)).2).2.log ++ deletes ++ drain ∧
        [.delete ⟨.image, "scenario-ami--1"⟩, .delete ⟨.image, ramdisk⟩,
          .delete ⟨.image, kernel⟩] <+: deletes.map Event.call ∧
        ∀ ev ∈ drain, ev.call.isWaiter = true :=
  have hio : (diskImageCreate (setUp (sampleWorld noDiskEnv 17)).2.conf
      (setUp (sampleWorld noDiskEnv 17)).2).1 = .error .ioError := rfl
  have h : (glanceImageCreate (setUp (sampleWorld noDiskEnv 17)).2).1 = .ok "scenario-ami--1" :=
    rfl
  ⟨rfl, hio, h, glanceImageCreate_uec_teardown rfl .setUp hio h⟩

/-- A `glance_image_create` that returns `image` registered, last, the delete of `image`,
whichever way it went. -/
theorem glanceImageCreate_ok {w w' : World} {image : String}
    (h : glanceImageCreate w = (.ok image, w')) :
    ∃ cs ds, Adds (cs ++ [.delete ⟨.image, image⟩]) ds w w' ∧
      Registrations (cs ++ [.delete ⟨.image, image⟩]) ds := by
  unfold glanceImageCreate at h
  obtain ⟨cfg, w₁, h₁, h⟩ := Test.bind_ok_pair h
  obtain ⟨rfl, rfl⟩ := conf_ok h₁
  have hpre : Grows w (diskImageCreate w.conf w).2 := by
    simpa using (imageCreate_keeps grows_ledgerRel _ _ _ _).run w
  rw [Test.tryCatch_apply] at h
  rcases hd : diskImageCreate w.conf w with ⟨_ | _, w₁⟩ <;> rw [hd] at h hpre <;> dsimp only at h
  · obtain ⟨pre, dpre, apre, rpre⟩ := hpre
    split at h
    · obtain ⟨kernel, ramdisk, auec, -⟩ := uecImageCreate_ok h
      refine ⟨pre ++ [.close (w.conf.imgDir ++ "/" ++ w.conf.akiImgFile), .delete ⟨.image, kernel⟩,
        .close (w.conf.imgDir ++ "/" ++ w.conf.ariImgFile), .delete ⟨.image, ramdisk⟩,
        .close (w.conf.imgDir ++ "/" ++ w.conf.amiImgFile)], dpre, ?_, ?_⟩
      · simpa using apre.trans auec
      · simpa using rpre.append (registrations_plain _ (by simp))
    · cases h
  · cases h
    exact ⟨[_], [], (imageCreate_ok hd).1, registrations_plain _ (by simp)⟩

/-- A `create_keypair` that returns created the keypair under the name it drew and
registered that name's delete. -/
theorem createKeypair_ok {w w' : World} {keypair : Attrs}
    (h : createKeypair w = (.ok keypair, w')) :
    ∃ name r, (⟨.create .keypair [("name", name)], .ok r⟩ : Event) ∈ w'.log ∧ r.body = keypair ∧
      Adds [.delete ⟨.keypair, name⟩] [] w w' := by
  unfold createKeypair at h
  obtain ⟨_, w₁, -, a₁, h⟩ := (Preserves.className adds_nil_stable).bind_ok h
  obtain ⟨name, w₂, -, a₂, h⟩ := (Preserves.randName adds_nil_logBlind _).bind_ok h
  obtain ⟨r, w₃, h₃, a₃, h⟩ := (Preserves.call adds_nil_logBlind _).bind_ok h
  obtain ⟨_, w₄, h₄, h⟩ := Test.bind_ok_pair h
  cases h
  have a₄ := addCleanup_adds h₄
  exact ⟨name, r, a₄.log.subset (call_ok_event h₃), rfl,
    by simpa using a₁.trans (a₂.trans (a₃.trans a₄))⟩

/-- A `create_server` that returns created the server from `image` (the configured image
when none is given), with `create_kwargs` after its own arguments, and registered its synchronous wait when asked, its wrapped delete,
and its queued wait. -/
theorem createServer_ok {name image flavor : Option String} {waitOnBoot waitOnDelete : Bool}
    {createKwargs : List (String × String)} {w w' : World} {server : Attrs}
    (h : createServer name image flavor waitOnBoot waitOnDelete createKwargs w = (.ok server, w')) :
    ∃ args r, (⟨.create .server args, .ok r⟩ : Event) ∈ w'.log ∧
      (∃ n, args = [("name", n), ("image", image.getD w.conf.imageRef),
        ("flavor", flavor.getD w.conf.flavorRef)] ++ createKwargs) ∧
      Adds ((if waitOnDelete then [.wait .server r.body.id] else []) ++
        [.deleteWrapper ⟨.server, r.body.id⟩]) [waitDict .server r.body.id "server_id"] w w' := by
  unfold createServer at h
  obtain ⟨_, w₁, -, a₁, h⟩ := (Preserves.getDM adds_nil_stable _ (Preserves.bind adds_nil_stable
    (Preserves.className adds_nil_stable) fun _ =>
      Preserves.randName adds_nil_logBlind _)).bind_ok h
  obtain ⟨cfg, w₂, h₂, h⟩ := Test.bind_ok_pair h
  obtain ⟨rfl, rfl⟩ := conf_ok h₂
  obtain ⟨r, w₃, h₃, a₃, h⟩ := (Preserves.call adds_nil_logBlind _).bind_ok h
  obtain ⟨_, w₄, h₄, h⟩ := Test.bind_ok_pair h
  have a₄ : Adds (if waitOnDelete then [.wait .server r.body.id] else []) [] w₃ w₄ := by
    cases waitOnDelete
    · cases h₄; exact adds_nil_stable.refl _
    · exact addCleanup_adds h₄
  obtain ⟨_, w₅, h₅, h⟩ := Test.bind_ok_pair h
  have a₅ : Adds [.deleteWrapper ⟨.server, r.body.id⟩] [waitDict .server r.body.id "server_id"]
      w₄ w₅ := by
    cases h₅; exact ⟨rfl, rfl, rfl, List.prefix_refl _⟩
  obtain ⟨_, w₆, -, a₆, h⟩ := (Preserves.ite (Preserves.bind adds_nil_stable
    (Preserves.call adds_nil_logBlind _) fun _ => Preserves.pure' adds_nil_stable _)
    (Preserves.pure' adds_nil_stable _)).bind_ok h
  obtain ⟨_, w₇, -, a₇, h⟩ := (Preserves.call adds_nil_logBlind _).bind_ok h
  obtain ⟨_, w₈, -, a₈, h⟩ := (Preserves.assertEqual adds_nil_stable _ _).bind_ok h
  cases h
  have a₄₈ := a₄.trans (a₅.trans (a₆.trans (a₇.trans a₈)))
  exact ⟨_, r, a₄₈.log.subset (call_ok_event h₃), ⟨_, by rw [a₁.conf]⟩,
    by simpa using a₁.trans (a₃.trans a₄₈)⟩

/-- A `nova_boot` of `image` that returns created a keypair, then a server from `image`
with the keypair's name, and registered the keypair's delete, then the server's wait and
delete. -/
theorem novaBoot_ok {image : String} {w w' : World} {server : Attrs}
    (h : novaBoot image w = (.ok server, w')) :
    ∃ keypairName kp args r,
      (⟨.create .keypair [("name", keypairName)], .ok kp⟩ : Event) ∈ w'.log ∧
      (⟨.create .server args, .ok r⟩ : Event) ∈ w'.log ∧
      args.lookup "image" = some image ∧ args.lookup "key_name" = some kp.body.name ∧
      Adds [.delete ⟨.keypair, keypairName⟩, .wait .server r.body.id,
        .deleteWrapper ⟨.server, r.body.id⟩] [waitDict .server r.body.id "server_id"] w w' := by
  obtain ⟨_, w₁, h₁, h⟩ := Test.bind_ok_pair h
  obtain ⟨keypairName, kp, hkp, rfl, a₁⟩ := createKeypair_ok h₁
  obtain ⟨_, w₂, h₂, h⟩ := Test.bind_ok_pair h
  have a₂ : Adds [] [] w₁ w₂ := by cases h₂; exact ⟨rfl, by simp, by simp, List.prefix_refl _⟩
  obtain ⟨args, r, hev, ⟨n, rfl⟩, a₃⟩ := createServer_ok h
  have a₂₃ := a₂.trans a₃
  exact ⟨keypairName, kp, _, r, a₂₃.log.subset hkp, hev, by simp [List.lookup_cons],
    by simp [List.lookup_cons], by simpa using a₁.trans a₂₃⟩

/-- **The server goes before its image.**  Whatever the environment answers, after
`setUp` and any factory calls: when `glance_image_create` and then `nova_boot` of the
image it stored return, the server was created from that image with the keypair
`nova_boot` created; and teardown, after the body's events, deletes the server, waits
for its termination, deletes that keypair, deletes the image, then makes the calls of
what `glance_image_create` registered before the image's delete and of what the test
registered before, newest first, and only then runs the drain, which calls only
waiters. -/
theorem novaBoot_teardown {w₀ w : World} (h₀ : w₀.cleanups = []) (hw : Reachable w₀ w)
    {server : Attrs} (h : ((glanceImageCreate >>= novaBoot) w).1 = .ok server) :
    ∃ image keypairName kp args r pre rest deletes drain,
      (glanceImageCreate w).1 = .ok image ∧ w.cleanups = .waitForCleanups :: rest ∧
      (glanceImageCreate w).2.cleanups = w.cleanups ++ pre ++ [.delete ⟨.image, image⟩] ∧
      (⟨.create .keypair [("name", keypairName)], .ok kp⟩ : Event) ∈
        ((glanceImageCreate >>= novaBoot) w).2.log ∧
      (⟨.create .server args, .ok r⟩ : Event) ∈ ((glanceImageCreate >>= novaBoot) w).2.log ∧
      args.lookup "image" = some image ∧ args.lookup "key_name" = some kp.body.name ∧
      (doCleanups ((glanceImageCreate >>= novaBoot) w).2).2.log =
        ((glanceImageCreate >>= novaBoot) w).2.log ++ deletes ++ drain ∧
      deletes.map Event.call = [.delete ⟨.server, r.body.id⟩, .waitDeleted .server [r.body.id] [],
        .delete ⟨.keypair, keypairName⟩, .delete ⟨.image, image⟩] ++
          pre.reverse.filterMap Cleanup.call ++ rest.reverse.filterMap Cleanup.call ∧
      ∀ ev ∈ drain, ev.call.isWaiter = true := by
  obtain ⟨rest, hcs, hreg, -⟩ := hw.ledger h₀
  obtain ⟨image, w₁, h₁, h₂⟩ := Test.bind_ok_pair (Test.ok_eq h)
  obtain ⟨pre, ds, a₁, r₁⟩ := glanceImageCreate_ok h₁
  obtain ⟨keypairName, kp, args, r, hkp, hev, himg, hkey, a₂⟩ := novaBoot_ok h₂
  have r₂ := r₁.append ((registrations_plain [.delete ⟨.keypair, keypairName⟩] (by simp)).append
    (Registrations.syncWait (@Registrations.withWait .server r.body.id "server_id" (by decide))))
  obtain ⟨deletes, drain, hlog, hcalls, hdrain⟩ := doCleanups_after hcs hreg (a₁.trans a₂) r₂
  refine ⟨image, keypairName, kp, args, r, pre, rest, deletes, drain, by rw [h₁], hcs,
    by rw [h₁, a₁.cleanups, List.append_assoc], hkp, hev, himg, hkey, hlog, ?_, hdrain⟩
  simp [hcalls, Cleanup.call]

/-- On `echoEnv` the disk image `scenario-img--1` is made, and the server `TestSample-1`
booted from it with the keypair `TestSample-1`; teardown deletes and waits for the
server, then deletes the keypair and the image. -/
theorem novaBoot_teardown_sample :
    (sampleWorld echoEnv 17).cleanups = [] ∧
      ((glanceImageCreate >>= novaBoot) (setUp (sampleWorld echoEnv 17)).2).1 =
        .ok { id := "TestSample-1", name := "TestSample-1" } ∧
      ∃ image keypairName kp args r pre rest deletes drain,
        (glanceImageCreate (setUp (sampleWorld echoEnv 17)).2).1 = .ok image ∧
        (setUp (sampleWorld echoEnv 17)).2.cleanups = .waitForCleanups :: rest ∧
        (glanceImageCreate (setUp (sampleWorld echoEnv 17)).2).2.cleanups =
          (setUp (sampleWorld echoEnv 17)).2.cleanups ++ pre ++ [.delete ⟨.image, image⟩] ∧
        (⟨.create .keypair [("name", keypairName)], .ok kp⟩ : Event) ∈
          ((glanceImageCreate >>= novaBoot) (setUp (sampleWorld echoEnv 17)).2).2.log ∧
        (⟨.create .server args, .ok r⟩ : Event) ∈
          ((glanceImageCreate >>= novaBoot) (setUp (sampleWorld echoEnv 17)).2).2.log ∧
        args.lookup "image" = some image ∧ args.lookup "key_name" = some kp.body.name ∧
        (doCleanups ((glanceImageCreate >>= novaBoot) (setUp (sampleWorld echoEnv 17)).2).2).2.log =
          ((glanceImageCreate >>= novaBoot) (setUp (sampleWorld echoEnv 17)).2).2.log ++
            deletes ++ drain ∧
        deletes.map Event.call = [.delete ⟨.server, r.body.id⟩, .waitDeleted .server [r.body.id] [],
          .delete ⟨.keypair, keypairName⟩, .delete ⟨.image, image⟩] ++
            pre.reverse.filterMap Cleanup.call ++ rest.reverse.filterMap Cleanup.call ∧
        ∀ ev ∈ drain, ev.call.isWaiter = true :=
  have h : ((glanceImageCreate >>= novaBoot) (setUp (sampleWorld echoEnv 17)).2).1 =
      .ok { id := "TestSample-1", name := "TestSample-1" } := rfl
  ⟨rfl, h, novaBoot_teardown rfl .setUp h⟩

end Tempest
