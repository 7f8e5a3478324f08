import Tempest.Factories
import Mathlib.Data.List.Infix

/-!
# The resource factories of `NetworkScenarioTest`

The neutron factories of `scenario/manager.py` (lines 522-1015), but for
`_create_subnet`, which has a module of its own.  Each wraps the reply in a
`Deletable…` resource and registers `resource.delete` through `delete_wrapper`; the
wrapper is the reply's attributes here, and its `delete` is `deleteMethod`.

`_create_loginable_secgroup_rule` tells a rule that already exists from other conflicts
by the text of the exception (`pyIn`).
-/

namespace Tempest

/-- `needle in text`, on strings. -/
def pyIn (needle text : String) : Bool := decide (needle.toList <:+: text.toList)

/-- **`NetworkScenarioTest._create_network`** (lines 544-556). -/
def createNetwork (tenantId : Option String) (namestart : String) : Test Attrs := do
  let tenantId := orDefault tenantId (← clientTenantId)
  let name ← randName namestart
  let result ← call (.create .network [("name", name), ("tenant_id", tenantId)])
  let network := result.body
  assertEqual network.name name
  addCleanup (.deleteWrapper ⟨.network, network.id⟩)
  pure network

/-- **`NetworkScenarioTest._create_port`** (lines 631-643). -/
def createPort (network : Attrs) (namestart : String) : Test Attrs := do
  let name ← randName namestart
  let result ← call (.create .port
    [("name", name), ("network_id", network.id), ("tenant_id", network.tenantId)])
  let port := result.body
  addCleanup (.deleteWrapper ⟨.port, port.id⟩)
  pure port

/-- **`NetworkScenarioTest._get_server_port_id`** (lines 645-650), listing with the
admin client. -/
def getServerPortId (server : Attrs) (ipAddr : Option String) : Test String := do
  let ports ← call (.list .port [("device_id", server.id), ("fixed_ip", pyStr ipAddr)])
  assertTrue (decide (ports.items.length = 1)) "Unable to determine which port to target."
  pure (ports.items.headD {}).id

/-- **`NetworkScenarioTest.create_floating_ip`** (lines 656-676), with neutron. -/
def createFloatingIp (thing : Attrs) (externalNetworkId portId : Option String) :
    Test Attrs := do
  let externalNetworkId := orDefault externalNetworkId (← conf).publicNetworkId
  let portId ← (match portId with
    | some p => if p = "" then getServerPortId thing none else pure p
    | none => getServerPortId thing none)
  let result ← call (.create .floatingIp [("floating_network_id", externalNetworkId),
    ("port_id", portId), ("tenant_id", thing.tenantId)])
  let floatingIp := result.body
  addCleanup (.deleteWrapper ⟨.floatingIp, floatingIp.id⟩)
  pure floatingIp

/-- **`NetworkScenarioTest._create_empty_security_group`** (lines 779-808). -/
def createEmptySecurityGroup (tenantId : Option String) (namestart : String) :
    Test Attrs := do
  let tenantId := orDefault tenantId (← clientTenantId)
  let sgName ← randName namestart
  let sgDesc := sgName ++ " description"
  let result ← call (.create .securityGroup
    [("name", sgName), ("description", sgDesc), ("tenant_id", tenantId)])
  let secgroup := result.body
  assertEqual secgroup.name sgName
  assertEqual tenantId secgroup.tenantId
  assertEqual secgroup.description sgDesc
  addCleanup (.deleteWrapper ⟨.securityGroup, secgroup.id⟩)
  pure secgroup

/-- **`NetworkScenarioTest._default_security_group`** (lines 810-826). -/
def defaultSecurityGroup (tenantId : Option String) : Test Attrs := do
  let tenantId := orDefault tenantId (← clientTenantId)
  let sgs ← call (.list .securityGroup [])
  let sgs := sgs.items.filter fun sg => sg.tenantId = tenantId ∧ sg.name = "default"
  assertTrue (decide (sgs.length > 0)) ("No default security group for tenant " ++ tenantId ++ ".")
  pure (sgs.headD {})

/-- **`NetworkScenarioTest._create_security_group_rule`** (lines 828-868): its deletion
is registered before its two checks. -/
def createSecurityGroupRule (secgroup : Option Attrs) (tenantId : Option String)
    (kwargs : List (String × String)) : Test Attrs := do
  let tenantId := orDefault tenantId (← clientTenantId)
  let secgroup ← secgroup.getDM (defaultSecurityGroup (some tenantId))
  let ruleset := dictUpdate [("security_group_id", secgroup.id), ("tenant_id", secgroup.tenantId)] kwargs
  let result ← call (.create .securityGroupRule ruleset)
  let sgRule := result.body
  addCleanup (.deleteWrapper ⟨.securityGroupRule, sgRule.id⟩)
  assertEqual secgroup.tenantId sgRule.tenantId
  assertEqual secgroup.id sgRule.securityGroupId
  pure sgRule

/-- The two rule sets of `NetworkScenarioTest._create_loginable_secgroup_rule`. -/
def loginableRulesets : List (List (String × String)) :=
  [[("protocol", "tcp"), ("port_range_min", "22"), ("port_range_max", "22")],
   [("protocol", "icmp")]]

/-- One turn of its loop: `try` the rule, skip it on the conflict that says it exists,
and (`else`) check its direction. -/
def createLoginableRule (secgroup : Option Attrs) (ruleset : List (String × String))
    (direction : String) : Test (Option Attrs) := do
  let created ← tryCatch (some <$> createSecurityGroupRule secgroup none
      (dictSet ruleset "direction" direction))
    fun
      | .conflict text =>
        if pyIn "Security group rule already exists" text then pure none
        else throw (.conflict text)
      | e => throw e
  match created with
  | none => pure none
  | some sgRule => do
    assertEqual direction sgRule.direction
    pure (some sgRule)

/-- Its loops: every rule set, each in both directions, in order. -/
def createLoginableRules (secgroup : Option Attrs) :
    List (List (String × String) × String) → Test (List Attrs)
  | [] => pure []
  | (ruleset, direction) :: rest => do
    let rule ← createLoginableRule secgroup ruleset direction
    let rules ← createLoginableRules secgroup rest
    pure (rule.toList ++ rules)

/-- **`NetworkScenarioTest._create_loginable_secgroup_rule`** (lines 870-907). -/
def createLoginableSecgroupRule (secgroup : Option Attrs) : Test (List Attrs) :=
  createLoginableRules secgroup
    (loginableRulesets.flatMap fun rs => [(rs, "ingress"), (rs, "egress")])

/-- The checks of `_create_security_group` on each rule it got. -/
def checkRules (tenantId secgroupId : String) : List Attrs → Test Unit
  | [] => pure ()
  | rule :: rules => do
    assertEqual tenantId rule.tenantId
    assertEqual secgroupId rule.securityGroupId
    checkRules tenantId secgroupId rules

/-- **`NetworkScenarioTest._create_security_group`** (lines 762-777): `tenant_id is None`
here, where `_create_empty_security_group` tests `not tenant_id`. -/
def createSecurityGroup (tenantId : Option String) (namestart : String) : Test Attrs := do
  let tenantId ← tenantId.getDM clientTenantId
  let secgroup ← createEmptySecurityGroup (some tenantId) namestart
  let rules ← createLoginableSecgroupRule (some secgroup)
  checkRules tenantId secgroup.id rules
  pure secgroup

/-- **`NetworkScenarioTest._create_pool`** (lines 909-919). -/
def createPool (lbMethod protocol subnetId : String) : Test Attrs := do
  let name ← randName "pool"
  let respPool ← call (.create .pool
    [("protocol", protocol), ("name", name), ("subnet_id", subnetId), ("lb_method", lbMethod)])
  let pool := respPool.body
  assertEqual pool.name name
  addCleanup (.deleteWrapper ⟨.pool, pool.id⟩)
  pure pool

/-- **`NetworkScenarioTest._create_member`** (lines 921-930). -/
def createMember (address : String) (protocolPort : Nat) (poolId : String) : Test Attrs := do
  let respMember ← call (.create .member
    [("protocol_port", toString protocolPort), ("pool_id", poolId), ("address", address)])
  let member := respMember.body
  addCleanup (.deleteWrapper ⟨.member, member.id⟩)
  pure member

/-- **`NetworkScenarioTest._create_vip`** (lines 932-942). -/
def createVip (protocol : String) (protocolPort : Nat) (subnetId poolId : String) :
    Test Attrs := do
  let name ← randName "vip"
  let respVip ← call (.create .vip [("protocol", protocol), ("name", name),
    ("subnet_id", subnetId), ("pool_id", poolId), ("protocol_port", toString protocolPort)])
  let vip := respVip.body
  assertEqual vip.name name
  addCleanup (.deleteWrapper ⟨.vip, vip.id⟩)
  pure vip

/-- **`NetworkScenarioTest._create_router`** (lines 976-990). -/
def createRouter (tenantId : Option String) (namestart : String) : Test Attrs := do
  let tenantId := orDefault tenantId (← clientTenantId)
  let name ← randName namestart
  let result ← call (.create .router
    [("name", name), ("admin_state_up", "True"), ("tenant_id", tenantId)])
  let router := result.body
  assertEqual router.name name
  addCleanup (.deleteWrapper ⟨.router, router.id⟩)
  pure router

/-- **`NetworkScenarioTest._get_router`** (lines 950-974): the configured public router
is only shown, never created nor registered. -/
def getRouter (tenantId : Option String) : Test Attrs := do
  let tenantId := orDefault tenantId (← clientTenantId)
  let cfg ← conf
  if cfg.publicRouterId ≠ "" then
    let body ← call (.show ⟨.router, cfg.publicRouterId⟩)
    pure body.body
  else if cfg.publicNetworkId ≠ "" then
    let router ← createRouter (some tenantId) "router-smoke"
    let _ ← call (.action "set_gateway" [router.id, cfg.publicNetworkId])
    pure router
  else
    throw (.other "Exception")

/-! ## A rule that exists is no failure -/

/-- `x` raises no exception `bad` holds of. -/
def NeverRaises {α : Type} (bad : Exc → Prop) (x : Test α) : Prop :=
  ∀ w e, (x w).1 = .error e → ¬ bad e

namespace NeverRaises

variable {α β : Type} {bad : Exc → Prop}

/-- Returning raises nothing. -/
theorem pure' (a : α) : NeverRaises bad (pure a : Test α) := fun _ _ h => by cases h

/-- Raising `e` raises nothing bad when `e` is not. -/
theorem throw' {e : Exc} (he : ¬ bad e) : NeverRaises bad (throw e : Test α) :=
  fun _ _ h => by cases h; exact he

/-- A sequence raises nothing bad when none of its steps does. -/
theorem bind {x : Test α} {f : α → Test β} (hx : NeverRaises bad x)
    (hf : ∀ a, NeverRaises bad (f a)) : NeverRaises bad (x >>= f) := fun w e h => by
  simp only [Test.bind_apply] at h
  rcases hxw : x w with ⟨_ | a, w'⟩ <;> rw [hxw] at h <;> dsimp only at h
  · exact hx w e (by simpa [hxw] using h)
  · exact hf a w' e h

/-- A handler decides what leaves a `try`. -/
theorem tryCatch {x : Test α} {h : Exc → Test α} (hh : ∀ e, NeverRaises bad (h e)) :
    NeverRaises bad (tryCatch x h : Test α) := fun w e he => by
  simp only [Test.tryCatch_apply] at he
  rcases hxw : x w with ⟨_ | a, w'⟩ <;> rw [hxw] at he <;> dsimp only at he
  · exact hh _ w' e he
  · cases he

/-- An assertion raises nothing bad when its failure is not. -/
theorem assertTrue {b : Bool} {m : String} (hm : ¬ bad (.assertion m)) :
    NeverRaises bad (Tempest.assertTrue b m) := by
  cases b
  · exact throw' hm
  · exact pure' ()

end NeverRaises

/-- The conflict `_create_loginable_secgroup_rule` takes for a rule that exists. -/
def ruleExists (e : Exc) : Prop :=
  ∃ text, e = .conflict text ∧ pyIn "Security group rule already exists" text = true

/-- One rule: its handler catches the conflict that says the rule exists, and raises any
other exception again. -/
theorem createLoginableRule_neverRaises (secgroup : Option Attrs)
    (ruleset : List (String × String)) (direction : String) :
    NeverRaises ruleExists (createLoginableRule secgroup ruleset direction) := by
  refine NeverRaises.bind (NeverRaises.tryCatch fun e => ?_) fun created => ?_
  · cases e
    case conflict text =>
      by_cases h : pyIn "Security group rule already exists" text = true
      · simpa [h] using (NeverRaises.pure' none : NeverRaises ruleExists (pure none : Test _))
      · simp only [h]
        exact NeverRaises.throw' fun ⟨t, ht, ht'⟩ => h (by cases ht; exact ht')
    all_goals exact NeverRaises.throw' fun ⟨t, ht, _⟩ => by cases ht
  · cases created
    · exact NeverRaises.pure' _
    · exact NeverRaises.bind (NeverRaises.assertTrue fun ⟨t, ht, _⟩ => by cases ht) fun _ =>
        NeverRaises.pure' _

/-- The loop over the rulesets lets no rule-exists conflict out. -/
theorem createLoginableRules_neverRaises (secgroup : Option Attrs) :
    ∀ rules, NeverRaises ruleExists (createLoginableRules secgroup rules)
  | [] => NeverRaises.pure' _
  | _ :: rules => NeverRaises.bind (createLoginableRule_neverRaises _ _ _) fun _ =>
    NeverRaises.bind (createLoginableRules_neverRaises secgroup rules) fun _ => NeverRaises.pure' _

/-- **A rule that already exists is no failure.**  Whatever the environment answers,
`_create_loginable_secgroup_rule` never raises the `Conflict` whose text says a security
group rule already exists: each rule's handler catches it and skips the rule. -/
theorem createLoginableSecgroupRule_tolerates_existing (secgroup : Option Attrs) (w : World)
    (text : String) (ht : pyIn "Security group rule already exists" text = true) :
    (createLoginableSecgroupRule secgroup w).1 ≠ .error (.conflict text) :=
  fun h => createLoginableRules_neverRaises secgroup _ w _ h ⟨text, rfl, ht⟩

/-- The text neutron gives for a duplicate rule. -/
theorem createLoginableSecgroupRule_tolerates_duplicate :
    pyIn "Security group rule already exists" "Security group rule already exists. Rule id is 1."
        = true ∧
      (createLoginableSecgroupRule none (sampleWorld (fun _ _ => .ok {}) 28)).1 ≠
        .error (.conflict "Security group rule already exists. Rule id is 1.") :=
  ⟨by decide, createLoginableSecgroupRule_tolerates_existing none _ _ (by decide)⟩

end Tempest
