import Tempest.NetworkFactories

/-!
# Subnet allocation: `NetworkScenarioTest._create_subnet`

`_create_subnet` (`scenario/manager.py`, lines 582-629) walks the `/mask_bits` blocks of
`CONF.network.tenant_network_cidr` in the order `netaddr` yields them: a block
`cidr_in_use` reports taken is skipped; a free block is submitted; an `overlaps with
another subnet` conflict moves on to the next block; anything else ends the call.

* `AllocTrace` says, block by block, what the loop may do and log, as the spec
  describes it; `allocateSubnet_trace` shows the loop does nothing else;
* `createSubnet_trace` adds what comes before and after the loop: the enumeration, which
  raises past 32 bits before any call, and the final checks;
* `createSubnet_cidrs_distinct`: when the listing keeps reporting the subnets created
  before, two calls for one tenant never return the same block.
-/

namespace Tempest

/-- `cidr_in_use`'s listing: the subnets of `tenant` with that cidr, through the admin
lister `_list_subnets`. -/
def listSubnets (tenant cidr : String) : Call :=
  .list .subnet [("tenant_id", tenant), ("cidr", cidr)]

/-- `cidr_in_use(cidr, tenant_id)`: whether the listing is non-empty. -/
def cidrInUse (cidr tenantId : String) : Test Bool := do
  let subnets ← call (listSubnets tenantId cidr)
  pure (subnets.items.length != 0)

/-- The keys `_create_subnet` sets itself; `dict(…, **kwargs)` refuses a second value
for any of them. -/
def subnetFixedKeys : List String := ["name", "ip_version", "network_id", "tenant_id", "cidr"]

/-- The subnet `dict` submitted for a block. -/
def subnetArgs (name : String) (network : Attrs) (cidr : String)
    (kwargs : List (String × String)) : List (String × String) :=
  [("name", name), ("ip_version", "4"), ("network_id", network.id),
    ("tenant_id", network.tenantId), ("cidr", cidr)] ++ kwargs

/-- `dict(name=…, ip_version=4, network_id=…, tenant_id=…, cidr=…, **kwargs)`. -/
def subnetDict (name : String) (network : Attrs) (cidr : String)
    (kwargs : List (String × String)) : Test (List (String × String)) :=
  if kwargs.any (fun e => e.1 ∈ subnetFixedKeys) then throw .typeError
  else pure (subnetArgs name network cidr kwargs)

/-- The exceptions after which the loop tries the next block: `Conflict` with
`'overlaps with another subnet' in str(e)`. -/
def isOverlap : Exc → Bool
  | .conflict text => pyIn "overlaps with another subnet" text
  | _ => false

/-- The `try`/`except exceptions.Conflict` around `client.create_subnet`: `none` for the
overlap conflict, the exception again for any other. -/
def submitSubnet (subnet : List (String × String)) : Test (Option Reply) :=
  tryCatch (some <$> call (.create .subnet subnet)) fun
    | .conflict text =>
      if pyIn "overlaps with another subnet" text then pure none else throw (.conflict text)
    | e => throw e

/-- The `for` loop of `_create_subnet` over the blocks left; it ends with the accepted
block's reply and `str_cidr`, or with `none` when the blocks run out and `result` is
still `None`. -/
def allocateSubnet (network : Attrs) (namestart : String) (kwargs : List (String × String)) :
    List IPNetwork → Test (Option (Reply × String))
  | [] => pure none
  | subnetCidr :: blocks => do
    let strCidr := subnetCidr.str
    if ← cidrInUse strCidr network.tenantId then
      allocateSubnet network namestart kwargs blocks
    else
      let subnet ← subnetDict (← randName namestart) network strCidr kwargs
      match ← submitSubnet subnet with
      | some result => pure (some (result, strCidr))
      | none => allocateSubnet network namestart kwargs blocks

/-- The exception each of `netaddr`'s `subnet` errors is here. -/
def IPNetwork.SubnetError.toExc : IPNetwork.SubnetError → Exc
  | .addrFormat => .addrFormat
  | .zeroDivision => .other "ZeroDivisionError"

/-- **`NetworkScenarioTest._create_subnet`**.  The `assertIsNotNone(result, …)` is the
`none` branch, which no later statement reaches. -/
def createSubnet (network : Attrs) (namestart : String) (kwargs : List (String × String)) :
    Test Attrs := do
  let cfg ← conf
  let blocks ← (match cfg.tenantNetworkCidr.subnet cfg.tenantNetworkMaskBits with
    | .ok bs => pure bs
    | .error e => throw e.toExc)
  match ← allocateSubnet network namestart kwargs blocks with
  | none => throw (.assertion "Unable to allocate tenant network")
  | some (result, strCidr) => do
    let subnet := result.body
    assertEqual subnet.cidr strCidr
    addCleanup (.deleteWrapper ⟨.subnet, subnet.id⟩)
    pure subnet

/-! ## What the loop may do -/

/-- The runs of the allocation loop over `blocks`, as the spec describes them: the
events it logs and how it ends.  Every block is listed before anything else is done
with it; only a block listed free is submitted; the loop moves past a submitted block
only on the overlap conflict; any other exception ends it; it ends with `ok none`
exactly when every block was listed taken or refused as overlapping. -/
inductive AllocTrace (network : Attrs) (namestart : String) (kwargs : List (String × String)) :
    List IPNetwork → List Event → Except Exc (Option (Reply × String)) → Prop where
  /-- No block left: `result` is still `None`. -/
  | exhausted : AllocTrace network namestart kwargs [] [] (.ok none)
  /-- The listing itself raised. -/
  | listFailed {b : IPNetwork} {bs : List IPNetwork} {e : Exc} :
      AllocTrace network namestart kwargs (b :: bs)
        [⟨listSubnets network.tenantId b.str, .error e⟩] (.error e)
  /-- Listed taken: skipped, nothing submitted. -/
  | taken {b : IPNetwork} {bs : List IPNetwork} {r : Reply} {es : List Event}
      {out : Except Exc (Option (Reply × String))} (hr : r.items ≠ [])
      (rest : AllocTrace network namestart kwargs bs es out) :
      AllocTrace network namestart kwargs (b :: bs)
        (⟨listSubnets network.tenantId b.str, .ok r⟩ :: es) out
  /-- Listed free, submitted, accepted: the loop stops on this block. -/
  | accepted {b : IPNetwork} {bs : List IPNetwork} {r x a : Reply} (hr : r.items = []) :
      AllocTrace network namestart kwargs (b :: bs)
        [⟨listSubnets network.tenantId b.str, .ok r⟩, ⟨.randName namestart, .ok x⟩,
          ⟨.create .subnet (subnetArgs (namestart ++ "-" ++ x.body.name) network b.str kwargs),
            .ok a⟩] (.ok (some (a, b.str)))
  /-- Listed free, submitted, refused as overlapping: on to the next block. -/
  | overlapping {b : IPNetwork} {bs : List IPNetwork} {r x : Reply} {e : Exc} {es : List Event}
      {out : Except Exc (Option (Reply × String))} (hr : r.items = []) (he : isOverlap e = true)
      (rest : AllocTrace network namestart kwargs bs es out) :
      AllocTrace network namestart kwargs (b :: bs)
        (⟨listSubnets network.tenantId b.str, .ok r⟩ :: ⟨.randName namestart, .ok x⟩ ::
          ⟨.create .subnet (subnetArgs (namestart ++ "-" ++ x.body.name) network b.str kwargs),
            .error e⟩ :: es) out
  /-- Listed free, submitted, refused otherwise: that exception ends the loop. -/
  | refused {b : IPNetwork} {bs : List IPNetwork} {r x : Reply} {e : Exc} (hr : r.items = [])
      (he : isOverlap e = false) :
      AllocTrace network namestart kwargs (b :: bs)
        [⟨listSubnets network.tenantId b.str, .ok r⟩, ⟨.randName namestart, .ok x⟩,
          ⟨.create .subnet (subnetArgs (namestart ++ "-" ++ x.body.name) network b.str kwargs),
            .error e⟩] (.error e)

/-- With `kwargs` that repeat none of its keys, the `dict` call is the arguments list. -/
theorem subnetDict_of_fresh {kwargs : List (String × String)}
    (hk : ∀ e ∈ kwargs, e.1 ∉ subnetFixedKeys) (name cidr : String) (network : Attrs) :
    subnetDict name network cidr kwargs = pure (subnetArgs name network cidr kwargs) := by
  simp only [subnetDict]
  rw [if_neg]
  simpa using hk

/-- What the `try` around `create_subnet` makes of each answer: the accepted reply, the
next block after an overlap conflict, or the exception. -/
theorem bind_submitSubnet_apply {β : Type} (subnet : List (String × String))
    (f : Option Reply → Test β) (w : World) :
    (submitSubnet subnet >>= f) w = match w.env w.log (.create .subnet subnet) with
      | .ok a => f (some a) (w.record (.create .subnet subnet) (.ok a))
      | .error e => if isOverlap e then f none (w.record (.create .subnet subnet) (.error e))
          else (.error e, w.record (.create .subnet subnet) (.error e)) := by
  simp only [submitSubnet, Test.bind_apply, Test.tryCatch_apply, Test.map_apply, call_apply]
  rcases w.env w.log (.create .subnet subnet) with e | a
  · cases e <;> try rfl
    simp only [isOverlap]
    split_ifs <;> rfl
  · rfl

/-- **The loop refines `AllocTrace`**: whatever the environment answers, the events the
loop logs over `blocks` and the way it ends form one of the runs `AllocTrace` allows. -/
theorem allocateSubnet_trace (network : Attrs) (namestart : String)
    {kwargs : List (String × String)} (hk : ∀ e ∈ kwargs, e.1 ∉ subnetFixedKeys) :
    ∀ (blocks : List IPNetwork) (w : World), ∃ es,
      (allocateSubnet network namestart kwargs blocks w).2.log = w.log ++ es ∧
      AllocTrace network namestart kwargs blocks es
        (allocateSubnet network namestart kwargs blocks w).1
  | [], w => ⟨[], by simp [allocateSubnet], .exhausted⟩
  | b :: bs, w => by
    simp only [allocateSubnet, cidrInUse, Test.bind_apply, call_apply]
    rcases hl : w.env w.log (listSubnets network.tenantId b.str) with e | r
    · exact ⟨_, rfl, .listFailed⟩
    by_cases hr : r.items = []
    · simp only [Test.pure_apply, hr, List.length_nil, bne_self_eq_false, Bool.false_eq_true,
        if_false, bind_randName_apply, subnetDict_of_fresh hk, Test.pure_bind,
        bind_submitSubnet_apply]
      split
      · exact ⟨_, by simp only [World.record_log, List.append_assoc]; rfl, .accepted hr⟩
      · split
        · obtain ⟨es, hlog, htr⟩ := allocateSubnet_trace network namestart hk bs _
          exact ⟨_ :: _ :: _ :: es, by simp only [hlog, World.record_log, List.append_assoc]; rfl,
            .overlapping hr ‹_› htr⟩
        · exact ⟨_, by simp only [World.record_log, List.append_assoc]; rfl,
            .refused hr (Bool.eq_false_iff.2 ‹_›)⟩
    · have hne : (r.items.length != 0) = true := by simpa using hr
      simp only [Test.pure_apply, hne, if_true]
      obtain ⟨es, hlog, htr⟩ := allocateSubnet_trace network namestart hk bs _
      exact ⟨_ :: es, by simp [hlog], .taken hr htr⟩

/-- A block the loop accepts was listed free for the tenant at a point of the run: the
environment answered that listing, from a history extending the one the loop started
from, with no subnet. -/
theorem allocateSubnet_listed_free (network : Attrs) (namestart : String)
    {kwargs : List (String × String)} (hk : ∀ e ∈ kwargs, e.1 ∉ subnetFixedKeys) :
    ∀ (blocks : List IPNetwork) (w : World) (a : Reply) (c : String),
      (allocateSubnet network namestart kwargs blocks w).1 = .ok (some (a, c)) →
      ∃ h r, w.log <+: h ∧ w.env h (listSubnets network.tenantId c) = .ok r ∧ r.items = []
  | [], w, a, c, hres => by simp [allocateSubnet] at hres
  | b :: bs, w, a, c, hres => by
    simp only [allocateSubnet, cidrInUse, Test.bind_apply, call_apply] at hres
    rcases hl : w.env w.log (listSubnets network.tenantId b.str) with e | r <;> rw [hl] at hres
    · cases hres
    by_cases hr : r.items = []
    · simp only [Test.pure_apply, hr, List.length_nil, bne_self_eq_false, Bool.false_eq_true,
        if_false, bind_randName_apply, subnetDict_of_fresh hk, Test.pure_bind,
        bind_submitSubnet_apply] at hres
      split at hres
      · simp only [Test.pure_apply, Except.ok.injEq, Option.some.injEq, Prod.mk.injEq] at hres
        exact ⟨w.log, r, List.prefix_refl _, hres.2 ▸ hl, hr⟩
      · split at hres
        · obtain ⟨h, r', hpre, hans, hr'⟩ := allocateSubnet_listed_free network namestart hk bs _ a c hres
          exact ⟨h, r', (List.prefix_append _ _).trans ((List.prefix_append _ _).trans
            ((List.prefix_append _ _).trans hpre)), by simpa using hans, hr'⟩
        · cases hres
    · have hne : (r.items.length != 0) = true := by simpa using hr
      simp only [Test.pure_apply, hne, if_true] at hres
      obtain ⟨h, r', hpre, hans, hr'⟩ := allocateSubnet_listed_free network namestart hk bs _ a c hres
      exact ⟨h, r', (List.prefix_append _ _).trans hpre, by simpa using hans, hr'⟩

/-! ## The whole call -/

/-- How `_create_subnet` ends after its loop: with the loop's exception; with the
allocation failure when no block was accepted; with the accepted subnet when its cidr is
the block's, and with the failed `assertEqual` when it is not. -/
def finishSubnet : Except Exc (Option (Reply × String)) → Except Exc Attrs
  | .error e => .error e
  | .ok none => .error (.assertion "Unable to allocate tenant network")
  | .ok (some (a, c)) => if a.body.cidr = c then .ok a.body else .error (.assertion "assertEqual")

/-- The whole call from the loop's result: nothing more is logged, and it ends as
`finishSubnet` says. -/
theorem createSubnet_after_loop (network : Attrs) (namestart : String)
    (kwargs : List (String × String)) (w : World) (blocks : List IPNetwork)
    (hb : w.conf.tenantNetworkCidr.subnet w.conf.tenantNetworkMaskBits = .ok blocks) :
    (createSubnet network namestart kwargs w).1 =
        finishSubnet (allocateSubnet network namestart kwargs blocks w).1 ∧
      (createSubnet network namestart kwargs w).2.log =
        (allocateSubnet network namestart kwargs blocks w).2.log := by
  simp only [createSubnet, Test.bind_apply, conf_apply, hb, Test.pure_apply]
  rcases allocateSubnet network namestart kwargs blocks w with ⟨_ | _ | ⟨a, c⟩, w'⟩
  · exact ⟨rfl, rfl⟩
  · exact ⟨rfl, rfl⟩
  · simp only [assertEqual, assertTrue_apply, finishSubnet]
    by_cases h : a.body.cidr = c <;> simp [h, assertTrue_apply]

/-- **`_create_subnet`, end to end.**  With `kwargs` that repeat none of its own keys,
whatever the environment answers: when the mask is wider than 32 bits it raises
`AddrFormatError` before any call; otherwise it walks `netaddr`'s blocks, which ascend,
doing only what `AllocTrace` allows, and ends as `finishSubnet` says. -/
theorem createSubnet_trace (network : Attrs) (namestart : String)
    {kwargs : List (String × String)} (hk : ∀ e ∈ kwargs, e.1 ∉ subnetFixedKeys) (w : World) :
    ∃ es, (createSubnet network namestart kwargs w).2.log = w.log ++ es ∧
      match w.conf.tenantNetworkCidr.subnet w.conf.tenantNetworkMaskBits with
      | .error e => es = [] ∧ (createSubnet network namestart kwargs w).1 = .error e.toExc
      | .ok blocks => blocks.Pairwise (fun a b => a.value < b.value) ∧
          ∃ out, AllocTrace network namestart kwargs blocks es out ∧
            (createSubnet network namestart kwargs w).1 = finishSubnet out := by
  rcases hb : w.conf.tenantNetworkCidr.subnet w.conf.tenantNetworkMaskBits with e | blocks
  · refine ⟨[], ?_, rfl, ?_⟩ <;> simp [createSubnet, Test.bind_apply, hb]
  · obtain ⟨hres, hlog⟩ := createSubnet_after_loop network namestart kwargs w blocks hb
    obtain ⟨es, hes, htr⟩ := allocateSubnet_trace network namestart hk blocks w
    exact ⟨es, hlog.trans hes, IPNetwork.subnet_pairwise hb, _, htr, hres⟩

/-- The environment goes on listing, for `tenant`, every subnet a create returned for it:
`cidr_in_use` sees the tenant's existing subnets, and none is deleted. -/
def ListsCreatedSubnets (env : Env) (tenant : String) : Prop :=
  ∀ (h : List Event) (args : List (String × String)) (a r : Reply),
    ⟨.create .subnet args, .ok a⟩ ∈ h → ("tenant_id", tenant) ∈ args →
    env h (listSubnets tenant a.body.cidr) = .ok r → r.items ≠ []

/-- A run that `finishSubnet` turns into a subnet logged a create for the tenant that
returned it. -/
theorem AllocTrace.logged {network : Attrs} {namestart : String}
    {kwargs : List (String × String)} {blocks : List IPNetwork} {es : List Event}
    {out : Except Exc (Option (Reply × String))}
    (htr : AllocTrace network namestart kwargs blocks es out) {s : Attrs}
    (hs : finishSubnet out = .ok s) :
    ∃ args a, ("tenant_id", network.tenantId) ∈ args ∧ a.body = s ∧
      ⟨.create .subnet args, .ok a⟩ ∈ es := by
  induction htr with
  | exhausted | listFailed | refused => simp [finishSubnet] at hs
  | taken _ _ ih | overlapping _ _ _ ih =>
    obtain ⟨args, a, h1, h2, h3⟩ := ih hs
    exact ⟨args, a, h1, h2, by simp [h3]⟩
  | accepted =>
    simp only [finishSubnet] at hs
    split_ifs at hs
    cases hs
    exact ⟨_, _, by simp [subnetArgs], rfl,
      List.mem_cons_of_mem _ (List.mem_cons_of_mem _ (List.mem_singleton_self _))⟩

/-- A subnet `_create_subnet` returns is in the log, as the reply of a create for its
tenant. -/
theorem createSubnet_logged (network : Attrs) (namestart : String)
    {kwargs : List (String × String)} (hk : ∀ e ∈ kwargs, e.1 ∉ subnetFixedKeys) (w : World)
    (s : Attrs) (hs : (createSubnet network namestart kwargs w).1 = .ok s) :
    ∃ args a, ("tenant_id", network.tenantId) ∈ args ∧ a.body = s ∧
      ⟨.create .subnet args, .ok a⟩ ∈ (createSubnet network namestart kwargs w).2.log := by
  obtain ⟨es, hlog, hmatch⟩ := createSubnet_trace network namestart hk w
  rw [hlog]
  rcases hb : w.conf.tenantNetworkCidr.subnet w.conf.tenantNetworkMaskBits with e | blocks <;>
    rw [hb] at hmatch
  · rw [hmatch.2] at hs; cases hs
  · obtain ⟨-, out, htr, hres⟩ := hmatch
    obtain ⟨args, a, h1, h2, h3⟩ := htr.logged (hres ▸ hs)
    exact ⟨args, a, h1, h2, List.mem_append_right _ h3⟩

/-- The cidr of a subnet `_create_subnet` returns was listed free during the call. -/
theorem createSubnet_listed_free (network : Attrs) (namestart : String)
    {kwargs : List (String × String)} (hk : ∀ e ∈ kwargs, e.1 ∉ subnetFixedKeys) (w : World)
    (s : Attrs) (hs : (createSubnet network namestart kwargs w).1 = .ok s) :
    ∃ h r, w.log <+: h ∧ w.env h (listSubnets network.tenantId s.cidr) = .ok r ∧ r.items = [] := by
  rcases hb : w.conf.tenantNetworkCidr.subnet w.conf.tenantNetworkMaskBits with e | blocks
  · simp [createSubnet, Test.bind_apply, hb] at hs
  · rw [(createSubnet_after_loop network namestart kwargs w blocks hb).1] at hs
    rcases hout : (allocateSubnet network namestart kwargs blocks w).1 with _ | _ | ⟨a, c⟩ <;>
      simp only [hout, finishSubnet, reduceCtorEq] at hs
    split_ifs at hs with hc
    cases hs
    exact hc ▸ allocateSubnet_listed_free network namestart hk blocks w a c hout

/-- **No block twice.**  When the environment goes on listing the subnets created for a
tenant, a call of `_create_subnet` for that tenant never returns the block an earlier
call returned. -/
theorem createSubnet_cidrs_distinct (namestart₁ namestart₂ : String) {n₁ n₂ : Attrs}
    {kwargs₁ kwargs₂ : List (String × String)} (hk₁ : ∀ e ∈ kwargs₁, e.1 ∉ subnetFixedKeys)
    (hk₂ : ∀ e ∈ kwargs₂, e.1 ∉ subnetFixedKeys) (hten : n₁.tenantId = n₂.tenantId)
    {w₁ w₂ : World} (hlists : ListsCreatedSubnets w₂.env n₂.tenantId)
    (hlater : (createSubnet n₁ namestart₁ kwargs₁ w₁).2.log <+: w₂.log) {s₁ s₂ : Attrs}
    (h₁ : (createSubnet n₁ namestart₁ kwargs₁ w₁).1 = .ok s₁)
    (h₂ : (createSubnet n₂ namestart₂ kwargs₂ w₂).1 = .ok s₂) : s₁.cidr ≠ s₂.cidr := by
  intro heq
  obtain ⟨args, a, harg, rfl, hin⟩ := createSubnet_logged n₁ namestart₁ hk₁ w₁ s₁ h₁
  obtain ⟨h, r, hpre, hans, hr⟩ := createSubnet_listed_free n₂ namestart₂ hk₂ w₂ s₂ h₂
  rw [← heq] at hans
  exact hlists h args a r (hpre.subset (hlater.subset hin)) (hten ▸ harg) hans hr

/-- **`_create_subnet`, as it behaves.**  One call, from any state and whatever the
environment answers, does what `createSubnet_trace` says: nothing but
`AddrFormatError` past 32 bits, and otherwise the block-by-block runs of `AllocTrace`
over ascending blocks, ended as `finishSubnet` says; and, while the environment goes on
listing the subnets created for a tenant, a later call for that tenant never returns a
block an earlier one returned. -/
theorem createSubnet_allocation :
    (∀ (network : Attrs) (namestart : String) (kwargs : List (String × String)),
      (∀ e ∈ kwargs, e.1 ∉ subnetFixedKeys) → ∀ w : World,
      ∃ es, (createSubnet network namestart kwargs w).2.log = w.log ++ es ∧
        match w.conf.tenantNetworkCidr.subnet w.conf.tenantNetworkMaskBits with
        | .error e => es = [] ∧ (createSubnet network namestart kwargs w).1 = .error e.toExc
        | .ok blocks => blocks.Pairwise (fun a b => a.value < b.value) ∧
            ∃ out, AllocTrace network namestart kwargs blocks es out ∧
              (createSubnet network namestart kwargs w).1 = finishSubnet out) ∧
    (∀ (namestart₁ namestart₂ : String) (n₁ n₂ : Attrs) (kwargs₁ kwargs₂ : List (String × String)),
      (∀ e ∈ kwargs₁, e.1 ∉ subnetFixedKeys) → (∀ e ∈ kwargs₂, e.1 ∉ subnetFixedKeys) →
      n₁.tenantId = n₂.tenantId → ∀ w₁ w₂ : World, ListsCreatedSubnets w₂.env n₂.tenantId →
      (createSubnet n₁ namestart₁ kwargs₁ w₁).2.log <+: w₂.log → ∀ s₁ s₂ : Attrs,
      (createSubnet n₁ namestart₁ kwargs₁ w₁).1 = .ok s₁ →
      (createSubnet n₂ namestart₂ kwargs₂ w₂).1 = .ok s₂ → s₁.cidr ≠ s₂.cidr) :=
  ⟨fun network namestart _ hk w => createSubnet_trace network namestart hk w,
    fun namestart₁ namestart₂ _ _ _ _ hk₁ hk₂ hten _ _ hlists hlater _ _ h₁ h₂ =>
      createSubnet_cidrs_distinct namestart₁ namestart₂ hk₁ hk₂ hten hlists hlater h₁ h₂⟩

/-! ## How long the allocation runs -/

/-- A run of the loop logs at most a listing, a name draw and a create per block. -/
theorem AllocTrace.length_le {network : Attrs} {namestart : String}
    {kwargs : List (String × String)} {blocks : List IPNetwork} {es : List Event}
    {out : Except Exc (Option (Reply × String))}
    (htr : AllocTrace network namestart kwargs blocks es out) :
    es.length ≤ 3 * blocks.length := by
  induction htr <;> simp only [List.length_cons, List.length_nil] at * <;> omega

/-- **`_create_subnet` ends after at most three calls per block.**  With `kwargs` that
repeat none of its own keys, whatever the environment answers, one call logs at most a
listing, a name draw and a create for each `/mask_bits` block of the pool: the allocation
failure when every block is taken comes after `3 * 2 ^ (mask_bits - prefixlen)` calls at
most, never after an endless retry. -/
theorem createSubnet_log_bound (network : Attrs) (namestart : String)
    {kwargs : List (String × String)} (hk : ∀ e ∈ kwargs, e.1 ∉ subnetFixedKeys) (w : World) :
    (createSubnet network namestart kwargs w).2.log.length ≤
      w.log.length + 3 * 2 ^ (w.conf.tenantNetworkMaskBits - w.conf.tenantNetworkCidr.prefixlen) := by
  obtain ⟨es, hlog, hmatch⟩ := createSubnet_trace network namestart hk w
  rw [hlog, List.length_append]
  rcases hb : w.conf.tenantNetworkCidr.subnet w.conf.tenantNetworkMaskBits with e | blocks <;>
    rw [hb] at hmatch
  · simp [hmatch.1]
  · obtain ⟨-, out, htr, -⟩ := hmatch
    have := htr.length_le
    have := IPNetwork.length_subnet_le hb
    omega

/-! ## A cloud that keeps its subnets -/

/-- A subnet `create_subnet` returned for `tenant` with cidr `cidr`, read off one event. -/
def keptSubnet (tenant cidr : String) : Event → Option Attrs
  | ⟨.create .subnet args, .ok a⟩ =>
    if ("tenant_id", tenant) ∈ args ∧ a.body.cidr = cidr then some a.body else none
  | _ => none

/-- A cloud that keeps every subnet it creates: the listing reports the subnets created
so far with the filters' tenant and cidr, a create returns the cidr it was asked for, and
`rand_name` draws `1`. -/
def keepingEnv : Env := fun h c => match c with
  | .list .subnet filters => .ok { items := h.filterMap (keptSubnet
      ((filters.lookup "tenant_id").getD "") ((filters.lookup "cidr").getD "")) }
  | .create .subnet args => .ok { body := { cidr := (args.lookup "cidr").getD "" } }
  | .randName _ => .ok { body := { name := "1" } }
  | _ => .ok {}

/-- `keepingEnv` lists every subnet it created for the tenant. -/
theorem keepingEnv_lists_created (tenant : String) : ListsCreatedSubnets keepingEnv tenant := by
  intro h args a r hin harg hans hr
  have hlist : keepingEnv h (listSubnets tenant a.body.cidr) =
      .ok { items := h.filterMap (keptSubnet tenant a.body.cidr) } := rfl
  have hmem : a.body ∈ r.items := by
    rw [hlist, Except.ok.injEq] at hans
    rw [← hans]
    exact List.mem_filterMap.2 ⟨_, hin, by simp [keptSubnet, harg]⟩
  simp [hr] at hmem

/-- Two calls for one tenant on the two `/17` blocks of `samplePool`: the kept cloud
satisfies the listing hypothesis, the first call gets `10.100.0.0/17`, the second
`10.100.128.0/17`. -/
theorem createSubnet_allocation_in_sample_pool :
    (∃ es, (createSubnet { tenantId := "tenant" } "subnet-smoke" [] (sampleWorld keepingEnv 17)).2.log =
        (sampleWorld keepingEnv 17).log ++ es ∧
      match samplePool.subnet 17 with
      | .error e => es = [] ∧
          (createSubnet { tenantId := "tenant" } "subnet-smoke" [] (sampleWorld keepingEnv 17)).1 =
            .error e.toExc
      | .ok blocks => blocks.Pairwise (fun a b => a.value < b.value) ∧
          ∃ out, AllocTrace { tenantId := "tenant" } "subnet-smoke" [] blocks es out ∧
            (createSubnet { tenantId := "tenant" } "subnet-smoke" [] (sampleWorld keepingEnv 17)).1 =
              finishSubnet out) ∧
    (createSubnet { tenantId := "tenant" } "subnet-smoke" [] (sampleWorld keepingEnv 17)).1 =
      .ok { cidr := "10.100.0.0/17" } ∧
    (createSubnet { tenantId := "tenant" } "subnet-smoke" []
      (createSubnet { tenantId := "tenant" } "subnet-smoke" [] (sampleWorld keepingEnv 17)).2).1 =
      .ok { cidr := "10.100.128.0/17" } ∧
    ("10.100.0.0/17" : String) ≠ "10.100.128.0/17" :=
  have h₁ : (createSubnet { tenantId := "tenant" } "subnet-smoke" [] (sampleWorld keepingEnv 17)).1 =
      .ok { cidr := "10.100.0.0/17" } := rfl
  have h₂ : (createSubnet { tenantId := "tenant" } "subnet-smoke" []
      (createSubnet { tenantId := "tenant" } "subnet-smoke" [] (sampleWorld keepingEnv 17)).2).1 =
      .ok { cidr := "10.100.128.0/17" } := rfl
  ⟨createSubnet_allocation.1 _ _ [] (by simp) _, h₁, h₂,
    createSubnet_allocation.2 _ _ _ _ [] [] (by simp) (by simp) rfl _ _
      (keepingEnv_lists_created _) (List.prefix_refl _) _ _ h₁ h₂⟩

/-- **Past 32 bits there is no block, and no allocation failure either**: with
`tenant_network_mask_bits = 33` the call raises `AddrFormatError`, logging nothing. -/
theorem createSubnet_mask_33_address_error :
    createSubnet { tenantId := "tenant" } "subnet-smoke" [] (sampleWorld keepingEnv 33) =
      (.error .addrFormat, sampleWorld keepingEnv 33) := rfl

/-- On `10.100.0.0/16` split at `/17`: at most six calls. -/
theorem createSubnet_log_bound_sample :
    (∀ e ∈ ([] : List (String × String)), e.1 ∉ subnetFixedKeys) ∧
      (createSubnet { tenantId := "tenant" } "subnet-smoke" [] (sampleWorld keepingEnv 17)).2.log.length ≤
        (sampleWorld keepingEnv 17).log.length +
          3 * 2 ^ ((sampleWorld keepingEnv 17).conf.tenantNetworkMaskBits -
            (sampleWorld keepingEnv 17).conf.tenantNetworkCidr.prefixlen) :=
  ⟨by simp, createSubnet_log_bound _ _ (by simp) _⟩

end Tempest
