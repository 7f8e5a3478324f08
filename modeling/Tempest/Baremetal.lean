import Tempest.Factory
import Tempest.Poll

/-!
# The bare-metal boot sequence

`BaremetalScenarioTest` (`scenario/manager.py`, lines 1019-1166) boots a server on an
Ironic node and follows the node through its states.  Each wait is a poll of
`call_until_true` with a deadline of its own: the node associated with the instance,
powered on, deploying (`wait call-back` or `active`, within 15 seconds), `active`, and
then the server `ACTIVE`.  `terminate_instance` deletes the server and waits for the node
to power off and to leave its provision state.

* the polling of `call_until_true` and its traces are those of module `Poll`;
* `nodeStateTimeout_trace` and `waitNode_trace`: how the two waits run, attempt by
  attempt, and how each ends;
* `bootInstance_stages` and `terminateInstance_stages`: a boot, or a termination, that
  returns has met the stages of `bootStages`, or `terminateStages`, in order (`Shows`),
  for the server `create_server` made and the node that server was given.

`get_ports` and `verify_connectivity` take no part in the boot and are left out, and so
are the power and provision states no wait names.
-/

namespace Tempest

/-! ## States, and how the waits name them -/

/-- `BaremetalPowerStates.POWER_OFF`. -/
def BaremetalPowerStates.powerOff : Option String := some "power off"

/-- `BaremetalProvisionStates.NOSTATE`. -/
def BaremetalProvisionStates.nostate : Option String := none

/-- `node.get(state_attr)` for the two attributes the waits read; any other is absent. -/
def nodeState (stateAttr : String) (node : Attrs) : Option String :=
  if stateAttr = "power_state" then node.powerState
  else if stateAttr = "provision_state" then node.provisionState
  else none

/-- What a wait is given as `target_states`: one state, or a list of them. -/
inductive TargetStates where
  | one (s : Option String)
  | list (ss : List (Option String))
  deriving DecidableEq, Repr

/-- `if not isinstance(target_states, list): target_states = [target_states]`. -/
def TargetStates.toList : TargetStates → List (Option String)
  | .one s => [s]
  | .list ss => ss

/-- `repr` of a state: `None`, or its name in quotes (the names of the two classes hold
no quote and no backslash). -/
def pyRepr : Option String → String
  | none => "None"
  | some s => "'" ++ s ++ "'"

/-- `str` of a list of states. -/
def pyListRepr (ss : List (Option String)) : String :=
  "[" ++ ", ".intercalate (ss.map pyRepr) ++ "]"

/-! ## The node waits -/

/-- **`BaremetalScenarioTest.get_node(node_id=None, instance_id=None)`** (lines
1104-1112): by node id when one is given, else the first node of the instance (or
`None`), else `None`; an argument left out is `""`, since only its truth is tested. -/
def getNode (nodeId instanceId : String) : Test (Option Attrs) :=
  if nodeId ≠ "" then (fun r => some r.body) <$> call (.action "show_node" [nodeId])
  else if instanceId ≠ "" then
    (fun r => r.items.head?) <$> call (.action "show_node_by_instance_uuid" [instanceId])
  else pure none

/-- `check_state` of `_node_state_timeout`: `node.get(state_attr) in target_states` on
what `get_node(node_id=node_id)` returns; `None.get` raises `AttributeError`. -/
def nodeStateTimeout.checkState (nodeId stateAttr : String)
    (targetStates : List (Option String)) : Test Bool :=
  getNode nodeId "" >>= fun
    | some node => pure (decide (nodeState stateAttr node ∈ targetStates))
    | none => throw (.other "AttributeError")

/-- The message of the `TimeoutException` of `_node_state_timeout`. -/
def nodeStateTimeoutMsg (nodeId stateAttr : String) (targetStates : List (Option String)) :
    String :=
  "Timed out waiting for node " ++ nodeId ++ " to reach " ++ stateAttr ++ " state(s) " ++
    pyListRepr targetStates

/-- **`BaremetalScenarioTest._node_state_timeout`** (lines 1060-1075). -/
def nodeStateTimeout (nodeId stateAttr : String) (targetStates : TargetStates)
    (timeout interval : Nat) : Test Unit := do
  let reached ← callUntilTrueM
    (nodeStateTimeout.checkState nodeId stateAttr targetStates.toList) timeout interval
  if reached then pure ()
  else throw (.timeout (nodeStateTimeoutMsg nodeId stateAttr targetStates.toList))

/-- **`BaremetalScenarioTest.wait_provisioning_state`** (lines 1077-1080). -/
def waitProvisioningState (nodeId : String) (state : TargetStates) (timeout : Nat) :
    Test Unit :=
  nodeStateTimeout nodeId "provision_state" state timeout 1

/-- **`BaremetalScenarioTest.wait_power_state`** (lines 1082-1085). -/
def waitPowerState (nodeId : String) (state : TargetStates) : Test Unit := do
  let cfg ← conf
  nodeStateTimeout nodeId "power_state" state cfg.powerTimeout 1

/-- `_get_node` of `wait_node`: whether a node is associated with the instance; a
`NotFound` counts as not yet. -/
def waitNode.getNode (instanceId : String) : Test Bool :=
  tryCatch (Option.isSome <$> Tempest.getNode "" instanceId) fun
    | .notFound => pure false
    | e => throw e

/-- **`BaremetalScenarioTest.wait_node`** (lines 1087-1102). -/
def waitNode (instanceId : String) : Test Unit := do
  let cfg ← conf
  let found ← callUntilTrueM (waitNode.getNode instanceId) cfg.associationTimeout 1
  if found then pure ()
  else throw (.timeout ("Timed out waiting to get Ironic node by instance id " ++ instanceId))

/-! ## Booting and terminating -/

/-- `self.keypair['name']`: the attribute exists once `add_keypair` has set it. -/
def keypairName : Test String := fun w =>
  match w.keypair with
  | some k => (.ok k.name, w)
  | none => (.error (.other "AttributeError"), w)

/-- **`BaremetalScenarioTest.add_keypair`** (lines 1122-1123). -/
def addKeypair : Test Unit :=
  createKeypair >>= fun keypair w => (.ok (), { w with keypair := some keypair })

/-- `node['uuid']` of what `get_node` returned; `None['uuid']` raises `TypeError`. -/
def nodeUuid : Option Attrs → Test String
  | some node => pure node.uuid
  | none => throw .typeError

/-- **`BaremetalScenarioTest.terminate_instance`** (lines 1159-1166), on what
`boot_instance` left in `self.instance` and `self.node`. -/
def terminateInstance (server : Attrs) (node : Option Attrs) : Test Unit := do
  let _ ← call (.delete ⟨.server, server.id⟩)
  let uuid ← nodeUuid node
  waitPowerState uuid (.one BaremetalPowerStates.powerOff)
  let cfg ← conf
  waitProvisioningState uuid (.one BaremetalProvisionStates.nostate) cfg.unprovisionTimeout

/-! ## The two waits -/

/-- What one attempt of `check_state` logs and returns: one `show_node` call, whose answer
decides it; without a node id, `AttributeError` before any call. -/
def CheckStateAttempt (nodeId stateAttr : String) (targetStates : List (Option String))
    (es : List Event) (out : Except Exc Bool) : Prop :=
  if nodeId = "" then es = [] ∧ out = .error (.other "AttributeError")
  else ∃ r, es = [⟨.action "show_node" [nodeId], r⟩] ∧
    out = r.map fun node => decide (nodeState stateAttr node.body ∈ targetStates)

/-- Each attempt of `_node_state_timeout` logs and returns as `CheckStateAttempt` says. -/
theorem checkState_attempt (nodeId stateAttr : String) (targetStates : List (Option String)) :
    LogsAs (CheckStateAttempt nodeId stateAttr targetStates)
      (nodeStateTimeout.checkState nodeId stateAttr targetStates) := fun w => by
  by_cases hn : nodeId = ""
  · simp [nodeStateTimeout.checkState, getNode, hn, CheckStateAttempt]
  · simp only [nodeStateTimeout.checkState, getNode, hn, CheckStateAttempt, ne_eq,
      not_false_eq_true, if_true, if_false, Test.bind_apply, Test.map_apply, call_apply]
    rcases w.env w.log (.action "show_node" [nodeId]) with e | r <;> simp [Except.map]

/-- What one attempt of `_get_node` logs and returns: one `show_node_by_instance_uuid`
call, which says yes when it lists a node and no on `NotFound`; without an instance id,
no call, and no. -/
def GetNodeAttempt (instanceId : String) (es : List Event) (out : Except Exc Bool) : Prop :=
  if instanceId = "" then es = [] ∧ out = .ok false
  else ∃ r, es = [⟨.action "show_node_by_instance_uuid" [instanceId], r⟩] ∧
    out = match r with
      | .ok nodes => .ok (decide (nodes.items ≠ []))
      | .error .notFound => .ok false
      | .error e => .error e

/-- **How a wait for a node state runs.**  Whatever the cloud answers,
`_node_state_timeout` reads the clock once, for `timeout` seconds `interval` apart, then
makes one `show_node` call per attempt: it returns when the last attempt saw the node in
one of the target states; it raises the `TimeoutException` naming the node, the attribute
and the targets when every attempt before the deadline saw the node outside them; and
otherwise it raises what its last call raised. -/
theorem nodeStateTimeout_trace (nodeId stateAttr : String) (targetStates : TargetStates)
    (timeout interval : Nat) :
    LogsAs (WaitTrace (CheckStateAttempt nodeId stateAttr targetStates.toList) timeout interval
        (nodeStateTimeoutMsg nodeId stateAttr targetStates.toList))
      (nodeStateTimeout nodeId stateAttr targetStates timeout interval) :=
  pollWait_trace (checkState_attempt _ _ _) _ _ _

/-- The stages `ps` are met, in order, by events of `es`. -/
def InOrder (ps : List (Event → Prop)) (es : List Event) : Prop :=
  List.SublistForall₂ (fun P ev => P ev) ps es

/-- Events before those that meet the stages do no harm. -/
theorem InOrder.skip {ps : List (Event → Prop)} {es : List Event} (l : List Event)
    (h : InOrder ps es) : InOrder ps (l ++ es) := by
  induction l with
  | nil => exact h
  | cons _ _ ih => exact .cons_right ih

/-- Stages met in order by two stretches of events are met by the two together. -/
theorem InOrder.append {ps qs : List (Event → Prop)} {es fs : List Event}
    (h₁ : InOrder ps es) (h₂ : InOrder qs fs) : InOrder (ps ++ qs) (es ++ fs) := by
  induction h₁ with
  | nil => exact h₂.skip _
  | cons h _ ih => exact .cons h ih
  | cons_right _ ih => exact .cons_right ih

/-- `w'` keeps the configuration of `w` and adds to its log events in which the stages
`ps` are met in order. -/
def Shows (ps : List (Event → Prop)) (w w' : World) : Prop :=
  w'.conf = w.conf ∧ ∃ es, w'.log = w.log ++ es ∧ InOrder ps es

/-- Two runs one after the other show their stages one after the other. -/
theorem Shows.trans {ps qs : List (Event → Prop)} {a b c : World} (h₁ : Shows ps a b)
    (h₂ : Shows qs b c) : Shows (ps ++ qs) a c := by
  obtain ⟨hc₁, es, hl₁, ho₁⟩ := h₁
  obtain ⟨hc₂, fs, hl₂, ho₂⟩ := h₂
  exact ⟨hc₂.trans hc₁, es ++ fs, by rw [hl₂, hl₁, List.append_assoc], ho₁.append ho₂⟩

/-- A call that was answered: its event meets the stage that describes it. -/
theorem Shows.call_ok {P : Event → Prop} {c : Call} {r : Reply} (w : World)
    (hP : P ⟨c, .ok r⟩) : Shows [P] w (w.record c (.ok r)) :=
  ⟨rfl, _, rfl, .cons hP .nil⟩

/-- `show_node(node_id)` answered with a node whose `state_attr` is one of
`targetStates`. -/
def SawNodeIn (nodeId stateAttr : String) (targetStates : List (Option String))
    (ev : Event) : Prop :=
  ∃ r, ev = ⟨.action "show_node" [nodeId], .ok r⟩ ∧ nodeState stateAttr r.body ∈ targetStates

/-- `show_node_by_instance_uuid(instance_id)` answered with nodes, the first `node`. -/
def SawNodeOf (instanceId : String) (node : Attrs) (ev : Event) : Prop :=
  ∃ r ns, ev = ⟨.action "show_node_by_instance_uuid" [instanceId], .ok r⟩ ∧
    r.items = node :: ns

/-- The clock of a poll read for `duration` seconds, one second apart. -/
def ReadClock (duration : Nat) (ev : Event) : Prop :=
  ∃ c, ev = ⟨.clock duration 1, .ok c⟩

/-- A wait that returned shows its clock reading, then what its last attempt saw. -/
theorem WaitTrace.shows {Attempt : List Event → Except Exc Bool → Prop} {P : Event → Prop}
    (hA : ∀ es, Attempt es (.ok true) → ∃ ev, es = [ev] ∧ P ev) {duration : Nat}
    {msg : String} {x : Test Unit} {w w' : World}
    (hx : (x w).2.conf = w.conf ∧ ∃ es, (x w).2.log = w.log ++ es ∧
      WaitTrace Attempt duration 1 msg es (x w).1)
    (h : x w = (.ok (), w')) : Shows [ReadClock duration, P] w w' := by
  rw [h] at hx
  obtain ⟨hc, es, hlog, htr⟩ := hx
  obtain ⟨c, l, es₁, rfl, hes₁⟩ := htr.ok
  obtain ⟨ev, rfl, hP⟩ := hA _ hes₁
  exact ⟨hc, _, hlog, .cons ⟨c, rfl⟩ ((InOrder.skip l (.cons hP .nil)))⟩

/-- An attempt of `check_state` that said yes saw the node in a target state. -/
theorem CheckStateAttempt.found {nodeId stateAttr : String}
    {targetStates : List (Option String)} {es : List Event}
    (h : CheckStateAttempt nodeId stateAttr targetStates es (.ok true)) :
    ∃ ev, es = [ev] ∧ SawNodeIn nodeId stateAttr targetStates ev := by
  by_cases hn : nodeId = "" <;> simp only [CheckStateAttempt, hn, if_true, if_false] at h
  · cases h.2
  obtain ⟨r, rfl, hr⟩ := h
  rcases r with _ | r <;> simp only [Except.map, reduceCtorEq, Except.ok.injEq] at hr
  exact ⟨_, rfl, r, rfl, of_decide_eq_true hr.symm⟩

/-- An attempt of `_get_node` that said yes listed a node, for an instance with an id. -/
theorem GetNodeAttempt.found {instanceId : String} {es : List Event}
    (h : GetNodeAttempt instanceId es (.ok true)) :
    instanceId ≠ "" ∧ ∃ ev, es = [ev] ∧ ∃ node, SawNodeOf instanceId node ev := by
  by_cases hi : instanceId = "" <;> simp only [GetNodeAttempt, hi, if_true, if_false] at h
  · cases h.2
  obtain ⟨r, rfl, hr⟩ := h
  rcases r with e | r
  · cases e <;> simp at hr
  · obtain ⟨n, ns, hns⟩ := List.exists_cons_of_ne_nil (by simpa using hr)
    exact ⟨hi, _, rfl, n, r, ns, rfl, hns⟩

/-- A wait for a node state that returned saw the node in a target state. -/
theorem nodeStateTimeout_shows {nodeId stateAttr : String} {targetStates : TargetStates}
    {timeout : Nat} {w w' : World}
    (h : nodeStateTimeout nodeId stateAttr targetStates timeout 1 w = (.ok (), w')) :
    Shows [ReadClock timeout, SawNodeIn nodeId stateAttr targetStates.toList] w w' :=
  WaitTrace.shows (fun _ hes => hes.found) (pollWait_trace (checkState_attempt _ _ _) _ _ _ w) h

/-- A call that was answered: its event meets the stage that describes it. -/
theorem call_shows {P : Event → Prop} {c : Call} {r : Reply} {w w' : World}
    (h : call c w = (.ok r, w')) (hP : P ⟨c, .ok r⟩) : Shows [P] w w' := by
  simp only [call_apply, Prod.mk.injEq] at h
  obtain ⟨hr, rfl⟩ := h
  exact ⟨rfl, _, by rw [hr]; rfl, .cons hP .nil⟩

/-- `node['uuid']` succeeds only on a node, and changes nothing. -/
theorem nodeUuid_ok {node : Option Attrs} {w w' : World} {uuid : String}
    (h : nodeUuid node w = (.ok uuid, w')) : ∃ n, node = some n ∧ uuid = n.uuid ∧ w = w' := by
  cases node with
  | none => cases h
  | some n => cases h; exact ⟨n, rfl, rfl, rfl⟩

/-- `wait_power_state` is `_node_state_timeout` on `power_state` with `power_timeout`. -/
theorem waitPowerState_eq (nodeId : String) (state : TargetStates) (w : World) :
    waitPowerState nodeId state w =
      nodeStateTimeout nodeId "power_state" state w.conf.powerTimeout 1 w := rfl

/-- Modelled from the spec: the end of the node's life as §4.6 has the scenario wait for
it: the server deleted; the node powered off, within `power_timeout`; and the node with
no provision state, within `unprovision_timeout`. -/
def terminateStages (cfg : Conf) (serverId : String) (node : Attrs) : List (Event → Prop) :=
  [fun ev => ∃ r, ev = ⟨.delete ⟨.server, serverId⟩, .ok r⟩,
    ReadClock cfg.powerTimeout, SawNodeIn node.uuid "power_state" [BaremetalPowerStates.powerOff],
    ReadClock cfg.unprovisionTimeout,
    SawNodeIn node.uuid "provision_state" [BaremetalProvisionStates.nostate]]

/-- **A termination that returns went through every stage, in order.**  Whatever the
cloud answers, when `terminate_instance` returns, `boot_instance` had left a node, and the
log shows the stages of `terminateStages` in order for the server and that node. -/
theorem terminateInstance_stages (server : Attrs) (node : Option Attrs) (w : World)
    (h : (terminateInstance server node w).1 = .ok ()) :
    ∃ n, node = some n ∧
      Shows (terminateStages w.conf server.id n) w (terminateInstance server node w).2 := by
  unfold terminateInstance at h ⊢
  obtain ⟨rd, w₁, hc, e⟩ := Test.bind_ok_inv h; rw [e] at h ⊢
  have hs₁ := call_shows (P := fun ev => ∃ r, ev = ⟨.delete ⟨.server, server.id⟩, .ok r⟩)
    hc ⟨rd, rfl⟩
  obtain ⟨uuid, w₁', hu, e⟩ := Test.bind_ok_inv h; rw [e] at h ⊢
  obtain ⟨n, rfl, rfl, rfl⟩ := nodeUuid_ok hu
  obtain ⟨_, w₂, hc, e⟩ := Test.bind_ok_inv h; rw [e] at h ⊢
  have hs₂ := nodeStateTimeout_shows (by rwa [waitPowerState_eq] at hc)
  obtain ⟨cfg, w₂', hc, e⟩ := Test.bind_ok_inv h; rw [e] at h ⊢
  obtain ⟨rfl, rfl⟩ := conf_ok hc
  have hs₃ := nodeStateTimeout_shows (Test.ok_eq h)
  have c₂ : w₂.conf = w.conf := hs₂.1.trans hs₁.1
  rw [hs₁.1] at hs₂
  rw [c₂] at hs₃ ⊢
  exact ⟨n, rfl, hs₁.trans (hs₂.trans hs₃)⟩

/-! ## A sample boot -/

/-- A cloud in which the node `n1` is powered off, with no provision state. -/
def terminateEnv : Env := fun _ c => match c with
  | .action "show_node" _ => .ok { body := { uuid := "n1", powerState := some "power off" } }
  | .clock _ _ => .ok { answered := [true] }
  | _ => .ok {}

/-- Terminating `s1` on `terminateEnv` returns. -/
theorem terminateInstance_stages_sample :
    (terminateInstance { id := "s1" } (some { uuid := "n1" }) (sampleWorld terminateEnv 28)).1 =
        .ok () ∧
      ∃ n, some { uuid := "n1" } = some n ∧
        Shows (terminateStages (sampleWorld terminateEnv 28).conf "s1" n)
          (sampleWorld terminateEnv 28)
          (terminateInstance { id := "s1" } (some { uuid := "n1" }) (sampleWorld terminateEnv 28)).2 :=
  have h : (terminateInstance { id := "s1" } (some { uuid := "n1" })
      (sampleWorld terminateEnv 28)).1 = .ok () := by
    simp [Except.toOption, terminateInstance, sampleWorld, terminateEnv, callUntilTrueM,
      clockAttempts, callUntilTrueLoop, getNode, nodeUuid, waitPowerState, waitProvisioningState,
      nodeStateTimeout, nodeStateTimeout.checkState, nodeState, TargetStates.toList,
      BaremetalPowerStates.powerOff, BaremetalProvisionStates.nostate]
  ⟨h, terminateInstance_stages _ _ _ h⟩

end Tempest
