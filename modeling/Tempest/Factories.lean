import Tempest.Ledger

/-!
# The resource factories of `ScenarioTest`, `EncryptionScenarioTest` and `SwiftScenarioTest`

Each factory of `scenario/manager.py`, statement by statement: the remote create, the
checks on the reply, the registration of its deletion, the waits.  The order of these
statements is what the ledger theorems are about, so it is kept as the source has it.

A client argument (`client=None`, the test's own client by default) is left out: every
client of one kind answers through the same `Env`.  `assertIn('id', body)` of
`create_volume_type` and `assertIsNotNone(result, …)` of `_create_port` check a reply
the typed model always has, so they never fail here and are left out.
-/

namespace Tempest

/-! ## Python idioms -/

/-- An optional argument as the client receives it: its value, or `None`. -/
def pyStr : Option String → String
  | some s => s
  | none => "None"

/-- `x` after `if not x: x = d`, for an optional string. -/
def orDefault : Option String → String → String
  | some s, d => if s = "" then d else s
  | none, d => d

/-! ## `ScenarioTest` -/

/-- **`ScenarioTest.create_keypair`** (lines 167-174). -/
def createKeypair : Test Attrs := do
  let name ← randName (← className)
  let body ← call (.create .keypair [("name", name)])
  addCleanup (.delete ⟨.keypair, name⟩)
  pure body.body

/-- **`ScenarioTest.create_server`** (lines 176-216). -/
def createServer (name image flavor : Option String) (waitOnBoot waitOnDelete : Bool)
    (createKwargs : List (String × String)) : Test Attrs := do
  let name ← name.getDM (do randName (← className))
  let cfg ← conf
  let image := image.getD cfg.imageRef
  let flavor := flavor.getD cfg.flavorRef
  let server ← call (.create .server
    ([("name", name), ("image", image), ("flavor", flavor)] ++ createKwargs))
  (if waitOnDelete then addCleanup (.wait .server server.body.id) else pure ())
  addCleanupWithWait .server server.body.id "server_id" (.deleteWrapper ⟨.server, server.body.id⟩)
  (if waitOnBoot then do let _ ← call (.waitStatus ⟨.server, server.body.id⟩ "ACTIVE") else pure ())
  let server ← call (.show ⟨.server, server.body.id⟩)
  assertEqual server.body.name name
  pure server.body

/-- **`ScenarioTest.create_volume`** (lines 218-243). -/
def createVolume (size : Nat) (name snapshotId imageRef volumeType : Option String)
    (waitOnDelete : Bool) : Test Attrs := do
  let name ← name.getDM (do randName (← className))
  let volume ← call (.create .volume [("size", toString size), ("display_name", name),
    ("snapshot_id", pyStr snapshotId), ("imageRef", pyStr imageRef),
    ("volume_type", pyStr volumeType)])
  (if waitOnDelete then do
      addCleanup (.wait .volume volume.body.id)
      addCleanup (.deleteWrapper ⟨.volume, volume.body.id⟩)
    else addCleanupWithWait .volume volume.body.id "id" (.deleteWrapper ⟨.volume, volume.body.id⟩))
  assertEqual name volume.body.displayName
  let _ ← call (.waitStatus ⟨.volume, volume.body.id⟩ "available")
  let volume ← call (.show ⟨.volume, volume.body.id⟩)
  pure volume.body

/-- The two rules of `_create_loginable_secgroup_rule`: ssh and ping from anywhere. -/
def novaLoginableRulesets : List (List (String × String)) :=
  [[("ip_proto", "tcp"), ("from_port", "22"), ("to_port", "22"), ("cidr", "0.0.0.0/0")],
   [("ip_proto", "icmp"), ("from_port", "-1"), ("to_port", "-1"), ("cidr", "0.0.0.0/0")]]

/-- The loop of `ScenarioTest._create_loginable_secgroup_rule`: each rule created, its
deletion registered, and appended. -/
def novaCreateRules (secgroupId : String) : List (List (String × String)) → Test (List Attrs)
  | [] => pure []
  | ruleset :: rulesets => do
    let sgRule ← call (.create .novaSecurityGroupRule (("parent_group_id", secgroupId) :: ruleset))
    addCleanup (.deleteWrapper ⟨.novaSecurityGroupRule, sgRule.body.id⟩)
    let rules ← novaCreateRules secgroupId rulesets
    pure (sgRule.body :: rules)

/-- **`ScenarioTest._create_loginable_secgroup_rule`** (lines 245-281): without a group,
the id of the last group named `default` (or `None`). -/
def novaCreateLoginableSecgroupRule (secgroupId : Option String) : Test (List Attrs) := do
  let secgroupId ← (match secgroupId with
    | some i => pure (some i)
    | none => do
      let sgs ← call (.list .novaSecurityGroup [])
      pure ((sgs.items.filter (·.name = "default")).getLast?.map (·.id)))
  novaCreateRules (pyStr secgroupId) novaLoginableRulesets

/-- **`ScenarioTest._create_security_group`** (lines 283-298). -/
def novaCreateSecurityGroup : Test Attrs := do
  let sgName ← randName (← className)
  let sgDesc := sgName ++ " description"
  let secgroup ← call (.create .novaSecurityGroup [("name", sgName), ("description", sgDesc)])
  assertEqual secgroup.body.name sgName
  assertEqual secgroup.body.description sgDesc
  addCleanup (.deleteWrapper ⟨.novaSecurityGroup, secgroup.body.id⟩)
  let _ ← novaCreateLoginableSecgroupRule (some secgroup.body.id)
  pure secgroup.body

/-- **`ScenarioTest._image_create`** (lines 322-339); the opened file is kept as its
path. -/
def imageCreate (name fmt path : String) (properties : List (String × String)) :
    Test String := do
  let name ← randName (name ++ "-")
  let _ ← call (.openFile path)
  addCleanup (.close path)
  let params := dictUpdate [("name", name), ("container_format", fmt), ("disk_format", fmt),
    ("is_public", "False")] properties
  let image ← call (.create .image params)
  addCleanup (.delete ⟨.image, image.body.id⟩)
  assertEqual "queued" image.body.status
  let _ ← call (.update ⟨.image, image.body.id⟩ [("data", path)])
  pure image.body.id

/-- `resp['location'].split('images/')[1]`. -/
def locationImageId (location : String) : Test String :=
  match location.splitOn "images/" with
  | _ :: imageId :: _ => pure imageId
  | _ => throw .indexError

/-- **`ScenarioTest.create_server_snapshot`** (lines 389-410). -/
def createServerSnapshot (server : Attrs) (name : Option String) : Test Attrs := do
  let name ← name.getDM (randName "scenario-snapshot-")
  let resp ← call (.createImage server.id name)
  let imageId ← locationImageId resp.body.location
  let _ ← call (.waitStatus ⟨.image, imageId⟩ "active")
  addCleanupWithWait .image imageId "id" (.deleteWrapper ⟨.image, imageId⟩)
  let snapshotImage ← call (.show ⟨.image, imageId⟩)
  assertEqual name snapshotImage.body.name
  pure snapshotImage.body

/-- **`ScenarioTest.create_floating_ip`** (lines 508-519), with nova. -/
def novaCreateFloatingIp (thing : Attrs) (poolName : Option String) : Test Attrs := do
  let floatingIp ← call (.create .novaFloatingIp [("pool_name", pyStr poolName)])
  addCleanup (.deleteWrapper ⟨.novaFloatingIp, floatingIp.body.id⟩)
  let _ ← call (.action "associate_floating_ip_to_server" [floatingIp.body.ip, thing.id])
  pure floatingIp.body

/-! ## `EncryptionScenarioTest` -/

/-- **`EncryptionScenarioTest.create_volume_type`** (lines 1189-1200). -/
def createVolumeType (name : Option String) : Test Attrs := do
  let name := orDefault name "generic"
  let randomizedName ← randName ("scenario-type-" ++ name ++ "-")
  let body ← call (.create .volumeType [("name", randomizedName)])
  addCleanup (.delete ⟨.volumeType, body.body.id⟩)
  pure body.body

/-- **`EncryptionScenarioTest.create_encryption_type`** (lines 1202-1213): nothing is
registered for the encryption type it creates. -/
def createEncryptionType (typeId provider keySize cipher controlLocation : Option String) :
    Test Unit := do
  let typeId ← (match typeId with
    | some t => if t = "" then (·.id) <$> createVolumeType none else pure t
    | none => (·.id) <$> createVolumeType none)
  let _ ← call (.create .encryptionType [("volume_type_id", typeId),
    ("provider", pyStr provider), ("key_size", pyStr keySize), ("cipher", pyStr cipher),
    ("control_location", pyStr controlLocation)])

/-! ## `SwiftScenarioTest` -/

/-- The `assertIn`/`assertNotIn` loop of `list_and_check_container_objects`. -/
def checkObjects (objectList : List String) (present : Bool) : List String → Test Unit
  | [] => pure ()
  | obj :: objs => do
    assertTrue (decide (obj ∈ objectList) == present) (if present then "assertIn" else "assertNotIn")
    checkObjects objectList present objs

/-- **`SwiftScenarioTest.list_and_check_container_objects`** (lines 1315-1333). -/
def listAndCheckContainerObjects (containerName : String) (presentObj notPresentObj : List String) :
    Test Unit := do
  let objectList ← call (.list (.object containerName) [])
  checkObjects (objectList.items.map (·.name)) true presentObj
  checkObjects (objectList.items.map (·.name)) false notPresentObj

/-- **`SwiftScenarioTest.create_container`** (lines 1284-1294). -/
def createContainer (containerName : Option String) : Test String := do
  let name ← (match containerName with
    | some n => if n = "" then randName "swift-scenario-container" else pure n
    | none => randName "swift-scenario-container")
  let _ ← call (.create .container [("container_name", name)])
  listAndCheckContainerObjects name [] []
  addCleanup (.deleteWrapper ⟨.container, name⟩)
  pure name

/-- **`SwiftScenarioTest.upload_object_to_container`** (lines 1300-1308);
`objData` is the text `data_utils.arbitrary_string()` returns (not under src/). -/
def uploadObjectToContainer (containerName : String) (objName : Option String)
    (objData : String) : Test (String × String) := do
  let objName ← (match objName with
    | some n => if n = "" then randName "swift-scenario-object" else pure n
    | none => randName "swift-scenario-object")
  let _ ← call (.create (.object containerName) [("object_name", objName), ("data", objData)])
  addCleanup (.deleteWrapper ⟨.object containerName, objName⟩)
  pure (objName, objData)

end Tempest
