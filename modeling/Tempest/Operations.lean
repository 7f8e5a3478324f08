import Tempest.Scenario
import Tempest.NetworkChecks
import Tempest.Baremetal

/-!
# Operations on what a test already has

Besides its factories, the base classes of `scenario/manager.py` offer helpers that work
on resources a test already holds: they attach and detach volumes, rebuild servers, move
floating IPs, wait for bare-metal nodes, ping, log in, and read or delete swift objects.
None of them registers a cleanup.

* `Operation`: these helpers as one enumeration, with `Operation.run`;
* `Operation.run_preserves`: whatever the cloud answers and wherever it stops, an
  operation keeps every `QuietRel`: the configuration, the cleanups and the queued waits,
  and a log that grows only by events that are not deletion waiters;
* `ReachableOps`: a test body of factory calls and operations in any order;
  `teardown_after_operations` shows the ledger and teardown keep the shape
  `Reachable.ledger` and `doCleanups_after` give them without operations, and
  `run_teardown_ordered_with_operations` that the order `run_teardown_ordered` proves of
  teardown holds of such bodies too;
* `getPorts_shows`: `get_ports` shows each port the node lists, in order, and returns
  what the shows answered.

`LOG` calls are left out.
-/

namespace Tempest

/-! ## Volumes and servers -/

/-- **`ScenarioTest.nova_volume_attach`** (lines 412-419), on `self.server` and
`self.volume`; it returns the volume it refreshes into `self.volume`. -/
def novaVolumeAttach (server volume : Attrs) : Test Attrs := do
  let attached ← call (.action "attach_volume" [server.id, volume.id, "/dev/vdb"])
  assertEqual volume.id attached.body.id
  let _ ← call (.waitStatus ⟨.volume, attached.body.id⟩ "in-use")
  let volume ← call (.show ⟨.volume, attached.body.id⟩)
  pure volume.body

/-- **`ScenarioTest.nova_volume_detach`** (lines 421-427), on `self.server` and
`self.volume`. -/
def novaVolumeDetach (server volume : Attrs) : Test Unit := do
  let _ ← call (.action "detach_volume" [server.id, volume.id])
  let _ ← call (.waitStatus ⟨.volume, volume.id⟩ "available")
  let volume ← call (.show ⟨.volume, volume.id⟩)
  assertEqual "available" volume.body.status

/-- `str(b)` of a Python boolean. -/
def pyBool : Bool → String
  | true => "True"
  | false => "False"

/-- **`ScenarioTest.rebuild_server`** (lines 429-443); `rebuild_kwargs=None` and `{}`
behave alike, and both are `[]` here. -/
def rebuildServer (serverId : String) (image : Option String) (preserveEphemeral wait : Bool)
    (rebuildKwargs : List (String × String)) : Test Unit := do
  let image := image.getD (← conf).imageRef
  let _ ← call (.action "rebuild" ([serverId, image, pyBool preserveEphemeral] ++
    rebuildKwargs.map fun kv => kv.1 ++ "=" ++ kv.2))
  if wait then
    let _ ← call (.waitStatus ⟨.server, serverId⟩ "ACTIVE")

/-! ## Bare-metal nodes -/

/-- The loop of `get_ports`: `show_port` of each port listed, appended to `ports`. -/
def getPorts.loop : List Attrs → List Attrs → Test (List Attrs)
  | ports, [] => pure ports
  | ports, port :: listed => do
    let p ← call (.action "show_port" [port.uuid])
    getPorts.loop (ports ++ [p.body]) listed

/-- **`BaremetalScenarioTest.get_ports`** (lines 1114-1120). -/
def getPorts (nodeUuid : String) : Test (List Attrs) := do
  let body ← call (.action "list_node_ports" [nodeUuid])
  getPorts.loop [] body.items

/-- **`BaremetalScenarioTest.verify_connectivity`** (lines 1125-1130), on
`self.instance`; an address left out is `""`, since only its truth is tested. -/
def verifyConnectivity (ip : String) (inst : Attrs) : Test Unit := do
  let dest ← getRemoteClient (if ip ≠ "" then .ip ip else .server inst) none none
  let _ ← call (.validateAuthentication dest.ip)

/-! ## Swift -/

/-- **`SwiftScenarioTest.get_swift_stat`** (lines 1279-1282). -/
def getSwiftStat : Test Unit := do
  let _ ← call (.list .container [])

/-- **`SwiftScenarioTest.delete_container`** (lines 1296-1298). -/
def deleteContainer (containerName : String) : Test Unit := do
  let _ ← call (.delete ⟨.container, containerName⟩)

/-- **`SwiftScenarioTest.delete_object`** (lines 1310-1313). -/
def deleteObject (containerName filename : String) : Test Unit := do
  let _ ← call (.delete ⟨.object containerName, filename⟩)
  listAndCheckContainerObjects containerName [] [filename]

/-- **`SwiftScenarioTest.change_container_acl`** (lines 1335-1341);
`resp['x-container-read']` raises `KeyError` when the container has no read ACL. -/
def changeContainerAcl (containerName acl : String) : Test Unit := do
  let _ ← call (.update ⟨.container, containerName⟩
    [("metadata_prefix", "x-container-"), ("read", acl)])
  let resp ← call (.action "list_container_metadata" [containerName])
  match resp.body.containerRead with
  | some read => assertEqual read acl
  | none => throw (.keyError "x-container-read")

/-- **`SwiftScenarioTest.download_and_verify`** (lines 1343-1345). -/
def downloadAndVerify (containerName objName expectedData : String) : Test Unit := do
  let obj ← call (.show ⟨.object containerName, objName⟩)
  assertEqual obj.body.data expectedData

/-! ## Orchestration -/

/-- **`OrchestrationScenarioTest._stack_rand_name`** (lines 1240-1242). -/
def stackRandName : Test String := do
  randName ((← className) ++ "-")

/-- **`OrchestrationScenarioTest._get_default_network`** (lines 1244-1249), listing with
the compute networks client: the first network labelled
`CONF.compute.fixed_network_name`, `None` when there is none. -/
def getDefaultNetwork : Test (Option Attrs) := do
  let cfg ← conf
  let networks ← call (.action "list_networks" [])
  pure (networks.items.find? fun net => net.label = cfg.fixedNetworkName)

/-- **`OrchestrationScenarioTest._stack_output`** (lines 1251-1255), on the
`(output_key, output_value)` pairs of `stack['outputs']`. -/
def stackOutput (outputs : List (String × String)) (outputKey : String) : Option String :=
  (outputs.find? fun o => o.1 = outputKey).map Prod.snd

/-! ## The operations -/

/-- The helpers of `scenario/manager.py` that work on resources a test already holds. -/
inductive Operation where
  | checkFloatingIpStatus (floatingIp : Attrs) (status : String)
  | checkRemoteConnectivity (source : RemoteClient) (dest : String) (shouldSucceed : Bool)
  | associateFloatingIp (floatingIp server : Attrs)
  | disassociateFloatingIp (floatingIp : Attrs)
  | getServerPortId (server : Attrs) (ipAddr : Option String)
  | getNetworkByName (networkName : String)
  | sshToServer (server : Attrs) (privateKey : String)
  | getRemoteClient (serverOrIp : Target) (username privateKey : Option String)
  | checkVmConnectivity (ipAddress : String) (username privateKey : Option String)
      (shouldConnect : Bool)
  | checkPublicNetworkConnectivity (ipAddress : String) (username privateKey : Option String)
      (shouldConnect : Bool) (servers : List Attrs)
  | checkTenantNetworkConnectivity (server : Attrs) (username privateKey : Option String)
      (shouldConnect : Bool) (serversForDebug : List Attrs)
  | novaVolumeAttach (server volume : Attrs)
  | novaVolumeDetach (server volume : Attrs)
  | rebuildServer (serverId : String) (image : Option String) (preserveEphemeral wait : Bool)
      (rebuildKwargs : List (String × String))
  | getNode (nodeId instanceId : String)
  | waitNode (instanceId : String)
  | waitPowerState (nodeId : String) (state : TargetStates)
  | waitProvisioningState (nodeId : String) (state : TargetStates) (timeout : Nat)
  | getPorts (nodeUuid : String)
  | verifyConnectivity (ip : String) (inst : Attrs)
  | terminateInstance (server : Attrs) (node : Option Attrs)
  | getSwiftStat
  | deleteContainer (containerName : String)
  | deleteObject (containerName filename : String)
  | listAndCheckContainerObjects (containerName : String) (presentObj notPresentObj : List String)
  | changeContainerAcl (containerName acl : String)
  | downloadAndVerify (containerName objName expectedData : String)
  | getDefaultNetwork
  | stackRandName

/-- Run the operation; what it returns is dropped. -/
def Operation.run : Operation → Test Unit
  | .checkFloatingIpStatus f s => Tempest.checkFloatingIpStatus f s
  | .checkRemoteConnectivity s d b => discard (Tempest.checkRemoteConnectivity s d b)
  | .associateFloatingIp f s => discard (Tempest.associateFloatingIp f s)
  | .disassociateFloatingIp f => discard (Tempest.disassociateFloatingIp f)
  | .getServerPortId s i => discard (Tempest.getServerPortId s i)
  | .getNetworkByName n => discard (Tempest.getNetworkByName n)
  | .sshToServer s k => discard (Tempest.sshToServer s k)
  | .getRemoteClient t u k => discard (Tempest.getRemoteClient t u k)
  | .checkVmConnectivity i u k b => Tempest.checkVmConnectivity i u k b
  | .checkPublicNetworkConnectivity i u k b s =>
    Tempest.checkPublicNetworkConnectivity i u k b s
  | .checkTenantNetworkConnectivity s u k b d =>
    Tempest.checkTenantNetworkConnectivity s u k b d
  | .novaVolumeAttach s v => discard (Tempest.novaVolumeAttach s v)
  | .novaVolumeDetach s v => Tempest.novaVolumeDetach s v
  | .rebuildServer s i p b k => Tempest.rebuildServer s i p b k
  | .getNode n i => discard (Tempest.getNode n i)
  | .waitNode i => Tempest.waitNode i
  | .waitPowerState n s => Tempest.waitPowerState n s
  | .waitProvisioningState n s t => Tempest.waitProvisioningState n s t
  | .getPorts n => discard (Tempest.getPorts n)
  | .verifyConnectivity i s => Tempest.verifyConnectivity i s
  | .terminateInstance s n => Tempest.terminateInstance s n
  | .getSwiftStat => Tempest.getSwiftStat
  | .deleteContainer c => Tempest.deleteContainer c
  | .deleteObject c f => Tempest.deleteObject c f
  | .listAndCheckContainerObjects c p n => Tempest.listAndCheckContainerObjects c p n
  | .changeContainerAcl c a => Tempest.changeContainerAcl c a
  | .downloadAndVerify c o d => Tempest.downloadAndVerify c o d
  | .getDefaultNetwork => discard Tempest.getDefaultNetwork
  | .stackRandName => discard Tempest.stackRandName

/-! ## Relations an operation keeps -/

section Quiet

variable {R : World → World → Prop} (hR : QuietRel R)
include hR

/-- The polling loop keeps `R` when each attempt does. -/
theorem callUntilTrueLoop_preserves {func : Test Bool} (hf : Preserves R func) :
    ∀ n, Preserves R (callUntilTrueLoop func n)
  | 0 => hR.pure' _
  | n + 1 => hR.bind hf fun _ => Preserves.ite (hR.pure' _) (callUntilTrueLoop_preserves hf n)

/-- Reading the clock is one call that is not a waiter. -/
theorem clockAttempts_preserves (d s : Nat) : Preserves R (clockAttempts d s) :=
  ⟨fun w => hR.record w _ _ rfl⟩

/-- `call_until_true` keeps `R` when each attempt does. -/
theorem callUntilTrueM_preserves {func : Test Bool} (hf : Preserves R func) (d s : Nat) :
    Preserves R (callUntilTrueM func d s) :=
  hR.bind (clockAttempts_preserves hR d s) (callUntilTrueLoop_preserves hR hf)

/-! ### The network helpers -/

/-- The refresh poll of `check_floating_ip_status` only shows the floating IP. -/
theorem checkFloatingIpStatus_poll_preserves (status : String) :
    ∀ n floatingIp, Preserves R (checkFloatingIpStatus.poll status floatingIp n)
  | 0, _ => hR.pure' _
  | n + 1, _ => hR.bind (hR.bind (hR.call' (by rfl)) fun _ => hR.pure' _) fun _ =>
    Preserves.ite (hR.pure' _) (checkFloatingIpStatus_poll_preserves status n _)

/-- `check_floating_ip_status` registers nothing and calls no waiter. -/
theorem checkFloatingIpStatus_preserves (floatingIp : Attrs) (status : String) :
    Preserves R (checkFloatingIpStatus floatingIp status) :=
  hR.bind hR.conf fun _ => hR.bind (clockAttempts_preserves hR _ _) fun n =>
    hR.bind (checkFloatingIpStatus_poll_preserves hR status n floatingIp) fun _ =>
    hR.assertEqual' _ _

/-- `_check_remote_connectivity` only pings. -/
theorem checkRemoteConnectivity_preserves (source : RemoteClient) (dest : String)
    (shouldSucceed : Bool) : Preserves R (checkRemoteConnectivity source dest shouldSucceed) :=
  hR.bind hR.conf fun _ => callUntilTrueM_preserves hR
    (hR.tryCatch (hR.bind (hR.call' (by rfl)) fun _ => hR.pure' _) fun _ =>
      Preserves.ite (hR.pure' _) (hR.throw' _)) _ _

/-- `_get_server_port_id` only lists the server's ports. -/
theorem getServerPortId_preserves (server : Attrs) (ipAddr : Option String) :
    Preserves R (getServerPortId server ipAddr) :=
  hR.bind (hR.call' (by rfl)) fun _ => hR.bind (hR.assertTrue _ _) fun _ => hR.pure' _

/-- Moving a floating IP is one update call. -/
theorem updateFloatingIp_preserves (floatingIp : Attrs) (portId : Option String) :
    Preserves R (updateFloatingIp floatingIp portId) :=
  hR.bind (hR.call' (by rfl)) fun _ => hR.pure' _

/-- `_associate_floating_ip` registers nothing and calls no waiter. -/
theorem associateFloatingIp_preserves (floatingIp server : Attrs) :
    Preserves R (associateFloatingIp floatingIp server) :=
  hR.bind (getServerPortId_preserves hR server none) fun _ =>
    hR.bind (updateFloatingIp_preserves hR floatingIp _) fun _ =>
    hR.bind (hR.assertEqual' _ _) fun _ => hR.pure' _

/-- `_disassociate_floating_ip` registers nothing and calls no waiter. -/
theorem disassociateFloatingIp_preserves (floatingIp : Attrs) :
    Preserves R (disassociateFloatingIp floatingIp) :=
  hR.bind (updateFloatingIp_preserves hR floatingIp none) fun _ =>
    hR.bind (hR.assertTrue _ _) fun _ => hR.pure' _

/-! ### Logging in and pinging -/

/-- Picking the ssh address makes no call. -/
theorem sshIp_preserves : ∀ t, Preserves R (sshIp t)
  | .ip _ => hR.pure' _
  | .server _ => hR.bind hR.conf fun _ => by
    split <;> first | exact hR.pure' _ | exact hR.throw' _

/-- The ssh login, and the network debug after a timeout, call no waiter. -/
theorem validateAuthentication_preserves (ip : String) :
    Preserves R (validateAuthentication ip) :=
  hR.tryCatch (hR.callUnit (by rfl)) fun e => by
    cases e <;> first
      | exact hR.throw' _
      | exact hR.bind (hR.callUnit (by rfl)) fun _ => hR.throw' _

/-- `get_remote_client` registers nothing and calls no waiter. -/
theorem getRemoteClient_preserves (t : Target) (username privateKey : Option String) :
    Preserves R (getRemoteClient t username privateKey) :=
  hR.bind (hR.note' (by rfl)) fun _ => hR.bind (sshIp_preserves hR t) fun _ =>
    hR.bind hR.conf fun _ =>
    hR.bind (Preserves.getDM hR.toStable _ (keypairPrivateKey_preserves hR.toStable)) fun _ =>
    hR.bind (hR.note' (by rfl)) fun _ =>
    hR.bind (validateAuthentication_preserves hR _) fun _ => hR.pure' _

/-- `_ssh_to_server` is `get_remote_client` with the image's ssh user. -/
theorem sshToServer_preserves (server : Attrs) (privateKey : String) :
    Preserves R (sshToServer server privateKey) :=
  hR.bind hR.conf fun _ => getRemoteClient_preserves hR _ _ _

/-- `check_vm_connectivity` pings, then logs in when asked to connect. -/
theorem checkVmConnectivity_preserves (ip : String) (username privateKey : Option String)
    (shouldConnect : Bool) :
    Preserves R (checkVmConnectivity ip username privateKey shouldConnect) :=
  hR.bind (hR.bind (hR.call' (by rfl)) fun _ => hR.pure' _) fun _ =>
    hR.bind (hR.assertTrue _ _) fun _ => Preserves.ite
      (hR.bind (getRemoteClient_preserves hR _ _ _) fun _ => hR.pure' _) (hR.pure' _)

/-- `_log_console_output` only lists servers and reads their consoles. -/
theorem logConsoleOutput_preserves (servers : List Attrs) :
    Preserves R (logConsoleOutput servers) :=
  hR.bind hR.conf fun _ => Preserves.ite
    (hR.bind (Preserves.ite (hR.bind (hR.call' (by rfl)) fun _ => hR.pure' _) (hR.pure' _))
      fun _ => Preserves.forM hR.toStable (fun _ => hR.callUnit (by rfl)) _)
    (hR.pure' _)

/-- The handler both network checks run: diagnostics, then the exception again. -/
theorem diagnoseThenThrow_preserves (servers : List Attrs) (c : Bool) (e : Exc) :
    Preserves R (do
      logConsoleOutput servers
      (if c then logNetDebug else pure ())
      throw e : Test Unit) :=
  hR.bind (logConsoleOutput_preserves hR servers) fun _ =>
    hR.bind (Preserves.ite (hR.callUnit (by rfl)) (hR.pure' _)) fun _ => hR.throw' _

/-- `check_public_network_connectivity`, its handler included. -/
theorem checkPublicNetworkConnectivity_preserves (ip : String)
    (username privateKey : Option String) (shouldConnect : Bool) (servers : List Attrs) :
    Preserves R (checkPublicNetworkConnectivity ip username privateKey shouldConnect servers) :=
  hR.tryCatch (checkVmConnectivity_preserves hR _ _ _ _) fun _ =>
    diagnoseThenThrow_preserves hR _ _ _

/-- `_check_tenant_network_connectivity`, its handler included. -/
theorem checkTenantNetworkConnectivity_preserves (server : Attrs)
    (username privateKey : Option String) (shouldConnect : Bool) (serversForDebug : List Attrs) :
    Preserves R
      (checkTenantNetworkConnectivity server username privateKey shouldConnect serversForDebug) :=
  hR.bind hR.conf fun _ => Preserves.ite
    (hR.tryCatch (Preserves.forM hR.toStable (fun _ => Preserves.forM hR.toStable
      (fun _ => checkVmConnectivity_preserves hR _ _ _ _) _) _) fun _ =>
      diagnoseThenThrow_preserves hR _ _ _)
    (hR.pure' _)

/-! ### Volumes, servers and bare-metal nodes -/

/-- `nova_volume_attach` attaches, waits for `in-use` and shows the volume. -/
theorem novaVolumeAttach_preserves (server volume : Attrs) :
    Preserves R (novaVolumeAttach server volume) :=
  hR.bind (hR.call' (by rfl)) fun _ => hR.bind (hR.assertEqual' _ _) fun _ =>
    hR.bind (hR.call' (by rfl)) fun _ => hR.bind (hR.call' (by rfl)) fun _ => hR.pure' _

/-- `nova_volume_detach` detaches, waits for `available` and shows the volume. -/
theorem novaVolumeDetach_preserves (server volume : Attrs) :
    Preserves R (novaVolumeDetach server volume) :=
  hR.bind (hR.call' (by rfl)) fun _ => hR.bind (hR.call' (by rfl)) fun _ =>
    hR.bind (hR.call' (by rfl)) fun _ => hR.assertEqual' _ _

/-- `rebuild_server` rebuilds and, when asked, waits for `ACTIVE`. -/
theorem rebuildServer_preserves (serverId : String) (image : Option String)
    (preserveEphemeral wait : Bool) (rebuildKwargs : List (String × String)) :
    Preserves R (rebuildServer serverId image preserveEphemeral wait rebuildKwargs) :=
  hR.bind hR.conf fun _ => hR.bind (hR.call' (by rfl)) fun _ =>
    Preserves.ite (hR.callUnit (by rfl)) (hR.pure' _)

/-- `get_node` shows one node, or none. -/
theorem getNode_preserves (nodeId instanceId : String) :
    Preserves R (getNode nodeId instanceId) :=
  Preserves.ite (Preserves.map _ (hR.call' (by rfl)))
    (Preserves.ite (Preserves.map _ (hR.call' (by rfl))) (hR.pure' _))

/-- `_node_state_timeout` polls the node and may raise its timeout. -/
theorem nodeStateTimeout_preserves (nodeId stateAttr : String) (targetStates : TargetStates)
    (timeout interval : Nat) :
    Preserves R (nodeStateTimeout nodeId stateAttr targetStates timeout interval) :=
  hR.bind (callUntilTrueM_preserves hR (hR.bind (getNode_preserves hR _ _) fun node => by
      cases node <;> first | exact hR.throw' _ | exact hR.pure' _) _ _) fun _ =>
    Preserves.ite (hR.pure' _) (hR.throw' _)

/-- `wait_node` polls for the instance's node and may raise its timeout. -/
theorem waitNode_preserves (instanceId : String) : Preserves R (waitNode instanceId) :=
  hR.bind hR.conf fun _ => hR.bind (callUntilTrueM_preserves hR
      (hR.tryCatch (Preserves.map _ (getNode_preserves hR _ _)) fun e => by
        cases e <;> first | exact hR.pure' _ | exact hR.throw' _) _ _) fun _ =>
    Preserves.ite (hR.pure' _) (hR.throw' _)

/-- The loop of `get_ports` shows one port per step. -/
theorem getPorts_loop_preserves : ∀ ports listed, Preserves R (getPorts.loop ports listed)
  | _, [] => hR.pure' _
  | _, _ :: _ => hR.bind (hR.call' (by rfl)) fun _ => getPorts_loop_preserves _ _

/-- `terminate_instance` deletes the server without registering, then waits for the
node. -/
theorem terminateInstance_preserves (server : Attrs) (node : Option Attrs) :
    Preserves R (terminateInstance server node) :=
  hR.bind (hR.call' (by rfl)) fun _ =>
    hR.bind (by cases node <;> first | exact hR.throw' _ | exact hR.pure' _) fun _ =>
    hR.bind (hR.bind hR.conf fun _ => nodeStateTimeout_preserves hR _ _ _ _ _) fun _ =>
    hR.bind hR.conf fun _ => nodeStateTimeout_preserves hR _ _ _ _ _

/-! ### Swift and orchestration -/

/-- The `assertIn`/`assertNotIn` loop makes no call. -/
theorem checkObjects_preserves (objectList : List String) (present : Bool) :
    ∀ objs, Preserves R (checkObjects objectList present objs)
  | [] => hR.pure' _
  | _ :: objs => hR.bind (hR.assertTrue _ _) fun _ =>
    checkObjects_preserves objectList present objs

/-- `list_and_check_container_objects` lists the container, then checks. -/
theorem listAndCheckContainerObjects_preserves (containerName : String)
    (presentObj notPresentObj : List String) :
    Preserves R (listAndCheckContainerObjects containerName presentObj notPresentObj) :=
  hR.bind (hR.call' (by rfl)) fun _ => hR.bind (checkObjects_preserves hR _ _ _) fun _ =>
    checkObjects_preserves hR _ _ _

/-- `change_container_acl` updates and reads back the container's metadata. -/
theorem changeContainerAcl_preserves (containerName acl : String) :
    Preserves R (changeContainerAcl containerName acl) :=
  hR.bind (hR.call' (by rfl)) fun _ => hR.bind (hR.call' (by rfl)) fun resp => by
    cases resp.body.containerRead
    · exact hR.throw' _
    · exact hR.assertEqual' _ _

/-- `_stack_rand_name` draws one name. -/
theorem stackRandName_preserves : Preserves R stackRandName := by
  unfold stackRandName
  exact hR.bind (Preserves.className hR.toStable) fun n =>
    ⟨fun w => hR.record w (.randName (n ++ "-")) _ rfl⟩

/-- **Every operation keeps a quiet relation**, whatever the cloud answers and wherever
it stops. -/
theorem Operation.run_preserves : ∀ op : Operation, Preserves R op.run
  | .checkFloatingIpStatus .. => checkFloatingIpStatus_preserves hR ..
  | .checkRemoteConnectivity .. => Preserves.map _ (checkRemoteConnectivity_preserves hR ..)
  | .associateFloatingIp .. => Preserves.map _ (associateFloatingIp_preserves hR ..)
  | .disassociateFloatingIp .. => Preserves.map _ (disassociateFloatingIp_preserves hR ..)
  | .getServerPortId .. => Preserves.map _ (getServerPortId_preserves hR ..)
  | .getNetworkByName .. => Preserves.map _ (getNetworkByName_preserves hR ..)
  | .sshToServer .. => Preserves.map _ (sshToServer_preserves hR ..)
  | .getRemoteClient .. => Preserves.map _ (getRemoteClient_preserves hR ..)
  | .checkVmConnectivity .. => checkVmConnectivity_preserves hR ..
  | .checkPublicNetworkConnectivity .. => checkPublicNetworkConnectivity_preserves hR ..
  | .checkTenantNetworkConnectivity .. => checkTenantNetworkConnectivity_preserves hR ..
  | .novaVolumeAttach .. => Preserves.map _ (novaVolumeAttach_preserves hR ..)
  | .novaVolumeDetach .. => novaVolumeDetach_preserves hR ..
  | .rebuildServer .. => rebuildServer_preserves hR ..
  | .getNode .. => Preserves.map _ (getNode_preserves hR ..)
  | .waitNode .. => waitNode_preserves hR ..
  | .waitPowerState .. => hR.bind hR.conf fun _ => nodeStateTimeout_preserves hR ..
  | .waitProvisioningState .. => nodeStateTimeout_preserves hR ..
  | .getPorts .. =>
    Preserves.map _ (hR.bind (hR.call' (by rfl)) fun _ => getPorts_loop_preserves hR _ _)
  | .verifyConnectivity .. =>
    hR.bind (getRemoteClient_preserves hR ..) fun _ => hR.callUnit (by rfl)
  | .terminateInstance .. => terminateInstance_preserves hR ..
  | .getSwiftStat => hR.callUnit (by rfl)
  | .deleteContainer .. => hR.callUnit (by rfl)
  | .deleteObject .. => hR.bind (hR.call' (by rfl)) fun _ =>
    listAndCheckContainerObjects_preserves hR ..
  | .listAndCheckContainerObjects .. => listAndCheckContainerObjects_preserves hR ..
  | .changeContainerAcl .. => changeContainerAcl_preserves hR ..
  | .downloadAndVerify .. => hR.bind (hR.call' (by rfl)) fun _ => hR.assertEqual' _ _
  | .getDefaultNetwork =>
    Preserves.map _ (hR.bind hR.conf fun _ => hR.bind (hR.call' (by rfl)) fun _ => hR.pure' _)
  | .stackRandName => Preserves.map _ (stackRandName_preserves hR)

end Quiet

/-! ## Whole runs with operations -/

/-- The states a test reaches from `w₀`: `setUp`, then factory calls and operations one
after another in any order, each from the state the previous one left, whether it
returned or raised. -/
inductive ReachableOps (w₀ : World) : World → Prop where
  | setUp : ReachableOps w₀ (setUp w₀).2
  | factory {w : World} (f : Factory) : ReachableOps w₀ w → ReachableOps w₀ (f.run w).2
  | operation {w : World} (op : Operation) : ReachableOps w₀ w → ReachableOps w₀ (op.run w).2

/-- A body of factory calls is a body of factory calls and operations. -/
theorem Reachable.reachableOps {w₀ w : World} (h : Reachable w₀ w) : ReachableOps w₀ w := by
  induction h with
  | setUp => exact .setUp
  | step f _ ih => exact .factory f ih

/-- Every state a body of factory calls and operations reaches keeps the ledger in shape. -/
theorem ReachableOps.ledger {w₀ w : World} (h₀ : w₀.cleanups = []) (hw : ReachableOps w₀ w) :
    LedgerShape w₀ w := by
  induction hw with
  | setUp => exact LedgerShape.setUp h₀
  | factory f _ ih => exact ih.step (f.run_ledgerStep _).1 (f.run_ledgerStep _).2
  | operation op _ ih =>
    exact ih.step ((Operation.run_preserves (LedgerRel.quietRel ledgerStep_ledgerRel) op).run _)
      ((Operation.run_preserves (LedgerRel.quietRel noWaiters_ledgerRel) op).run _)

/-- **Teardown after factories and operations.**  From a state with no cleanups, in
every state a body of factory calls and operations in any order reaches, whatever the
cloud answers and wherever each step stopped: the drain lies at the bottom of the
cleanups, the body called no deletion waiter, and teardown makes one call per
registration above the drain, newest first, before the drain, which calls only
waiters. -/
theorem teardown_after_operations {w₀ w : World} (h₀ : w₀.cleanups = [])
    (hw : ReachableOps w₀ w) :
    ∃ rest deletes drain, w.cleanups = .waitForCleanups :: rest ∧ ExtendsBy NoWaiters w₀ w ∧
      (doCleanups w).2.log = w.log ++ deletes ++ drain ∧
      deletes.map Event.call = rest.reverse.filterMap Cleanup.call ∧
      ∀ ev ∈ drain, ev.call.isWaiter = true := by
  obtain ⟨rest, hcs, hreg, hlog⟩ := hw.ledger h₀
  obtain ⟨deletes, drain, hl, hcalls, hdrain⟩ :=
    doCleanups_after hcs hreg (adds_nil_stable.refl w) Registrations.nil
  exact ⟨rest, deletes, drain, hcs, hlog, hl, by simpa using hcalls, hdrain⟩

/-- **Teardown keeps its order after operations.**  For every environment, from a state
with no cleanups, after `setUp` and any factory calls and operations in any order,
whatever each returned or raised: in the log of the whole run every deletion waiter comes
after the delete of the resource it waits for, the delete of every registration queued
by `addCleanup_with_wait` is issued among the cleanups that run before the drain, and the
drain calls the queued waiters in registration order up to the first that raises. -/
theorem run_teardown_ordered_with_operations {w₀ w : World} (h₀ : w₀.cleanups = [])
    (hw : ReachableOps w₀ w) : TeardownOrder w₀ w :=
  (hw.ledger h₀).teardownOrder

/-- A test that boots a server with its wait queued, attaches a volume to it, and
rebuilds it, on a cloud that keeps what it creates. -/
theorem run_teardown_ordered_with_operations_server :
    TeardownOrder (sampleWorld keepingEnv 28)
      ((Operation.rebuildServer "s" none false true []).run
        ((Operation.novaVolumeAttach { id := "s" } { id := "v" }).run
          ((Factory.createServer none none none true false []).run
            (setUp (sampleWorld keepingEnv 28)).2).2).2).2 :=
  run_teardown_ordered_with_operations rfl (.operation _ (.operation _ (.factory _ .setUp)))

/-- A body that creates a keypair, then checks a floating IP's status. -/
theorem teardown_after_operations_keypair_check :
    (sampleWorld echoEnv 17).cleanups = [] ∧
      ∃ rest deletes drain,
        let w := ((Operation.checkFloatingIpStatus {} "ACTIVE").run
          (Factory.createKeypair.run (setUp (sampleWorld echoEnv 17)).2).2).2
        w.cleanups = .waitForCleanups :: rest ∧ ExtendsBy NoWaiters (sampleWorld echoEnv 17) w ∧
        (doCleanups w).2.log = w.log ++ deletes ++ drain ∧
        deletes.map Event.call = rest.reverse.filterMap Cleanup.call ∧
        ∀ ev ∈ drain, ev.call.isWaiter = true :=
  ⟨rfl, teardown_after_operations rfl (.operation _ (.factory _ .setUp))⟩

/-! ## What `get_ports` and `delete_object` saw -/

/-- The loop of `get_ports`, on every list of ports and from every state: when it
returns, it showed each port listed, in order, and appended what each show answered. -/
theorem getPorts_loop_shows :
    ∀ (listed ports : List Attrs) (w : World) {ps : List Attrs},
      (getPorts.loop ports listed w).1 = .ok ps →
      ∃ replies, (getPorts.loop ports listed w).2.log = w.log ++
          List.zipWith (fun port r => ⟨.action "show_port" [port.uuid], .ok r⟩) listed replies ∧
        replies.length = listed.length ∧ ps = ports ++ replies.map Reply.body
  | [], ports, w, ps, h => ⟨[], by simp [getPorts.loop], rfl, by
      simpa [getPorts.loop] using h.symm⟩
  | port :: listed, ports, w, ps, h => by
    rw [getPorts.loop] at h ⊢
    obtain ⟨r, w₁, h₁, heq⟩ := Test.bind_ok_inv h
    obtain ⟨-, rfl⟩ := call_ok h₁
    rw [heq] at h ⊢
    obtain ⟨replies, hlog, hlen, rfl⟩ := getPorts_loop_shows listed _ _ h
    exact ⟨r :: replies, by simp [hlog], by simp [hlen], by simp⟩

/-- **What `get_ports` did when it returned.**  It listed the node's ports once, then
showed each port listed, in the order listed, and returned what the shows answered, in
that order. -/
theorem getPorts_shows {nodeUuid : String} {w : World} {ports : List Attrs}
    (h : (getPorts nodeUuid w).1 = .ok ports) :
    ∃ body replies, (getPorts nodeUuid w).2.log =
        w.log ++ ⟨.action "list_node_ports" [nodeUuid], .ok body⟩ ::
          List.zipWith (fun port r => ⟨.action "show_port" [port.uuid], .ok r⟩) body.items replies ∧
      replies.length = body.items.length ∧ ports = replies.map Reply.body := by
  unfold getPorts at h ⊢
  obtain ⟨body, w₁, h₁, heq⟩ := Test.bind_ok_inv h
  obtain ⟨-, rfl⟩ := call_ok h₁
  rw [heq] at h ⊢
  obtain ⟨replies, hlog, hlen, rfl⟩ := getPorts_loop_shows body.items [] _ h
  exact ⟨body, replies, by simp [hlog], hlen, by simp⟩

/-- A node with the ports `p1` and `p2`, each shown with its address. -/
def twoPortEnv : Env := fun _ c => match c with
  | .action "list_node_ports" _ => .ok { items := [{ uuid := "p1" }, { uuid := "p2" }] }
  | .action "show_port" [u] => .ok { body := { uuid := u, ip := u ++ "-addr" } }
  | _ => .ok {}

/-- On `twoPortEnv`, `get_ports` shows `p1`, then `p2`. -/
theorem getPorts_shows_two_ports :
    ∃ body replies, (getPorts "node-1" (sampleWorld twoPortEnv 17)).2.log =
        (sampleWorld twoPortEnv 17).log ++ ⟨.action "list_node_ports" ["node-1"], .ok body⟩ ::
          List.zipWith (fun port r => ⟨.action "show_port" [port.uuid], .ok r⟩) body.items replies ∧
      replies.length = body.items.length ∧
      [{ uuid := "p1", ip := "p1-addr" }, { uuid := "p2", ip := "p2-addr" }] =
        replies.map Reply.body :=
  getPorts_shows rfl

end Tempest
