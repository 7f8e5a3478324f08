import Tempest.Netaddr

/-!
# The harness of the scenario tests

`ScenarioTest` (`scenario/manager.py`) drives remote clients, registers cleanups with
`unittest`, and keeps a list of deletion waits.  This module fixes the shallow
embedding every later module shares:

* `Exc`: the exceptions the harness raises, catches by class, or lets through;
* `Call`, `Reply`, `Event`: a remote call (or a collaborator the harness invokes) and
  what comes back; an `Env` answers each call from everything that happened before, so
  a theorem over every `Env` is a theorem over every behaviour of the cloud;
* `Cleanup` and `WaitDict`: the two parts of the cleanup ledger, `self._cleanups` of
  `unittest` and `self.cleanup_waits`;
* `World` and `Test`: the state of a test instance, and a step of the test as a
  function of it that returns a value or raises, keeping the state either way, as
  Python does (a cleanup registered before an exception stays registered);
* `sampleWorld`: a test instance on the pool `10.100.0.0/16`, for the concrete runs.

A reply is the typed record of the fields the harness reads, so a reply that lacks one
of them (a `KeyError` on a malformed body) is not modelled.
-/

namespace Tempest

/-! ## Exceptions -/

/-- The exceptions a scenario test meets: those of `tempest.exceptions` the harness
catches by class, the assertion failures of `unittest`, and any other. -/
inductive Exc where
  /-- `exceptions.NotFound`. -/
  | notFound
  /-- `exceptions.Conflict`; `text` is `str(e)`, which is `e._error_string`. -/
  | conflict (text : String)
  /-- `exceptions.SSHTimeout`. -/
  | sshTimeout
  /-- `exceptions.TimeoutException`, raised by a waiter whose deadline passed, with its
  message. -/
  | timeout (msg : String)
  /-- An `AssertionError` from one of the `assert…` methods, with its message. -/
  | assertion (msg : String)
  /-- `KeyError` from `dict.pop` on a missing key. -/
  | keyError (key : String)
  /-- `TypeError`: calling a value that is not callable. -/
  | typeError
  /-- `IndexError` from indexing past the end of a list. -/
  | indexError
  /-- `netaddr.AddrFormatError`. -/
  | addrFormat
  /-- `IOError` from `open`. -/
  | ioError
  /-- Any other exception, by its class name. -/
  | other (name : String)
  deriving DecidableEq, Repr

/-! ## Remote objects and calls -/

/-- The kinds of remote object the factories create.  The nova security groups and
floating IPs of `ScenarioTest` are kept apart from the neutron ones of
`NetworkScenarioTest`. -/
inductive Kind where
  | keypair | server | volume | image
  | novaSecurityGroup | novaSecurityGroupRule | novaFloatingIp
  | network | subnet | port | floatingIp | securityGroup | securityGroupRule
  | router | pool | member | vip
  | volumeType | encryptionType | container
  /-- A swift object, in its container. -/
  | object (container : String)
  deriving DecidableEq, Repr

/-- A remote object: its kind and the id (or, for the kinds the test names itself, the
name) its client methods take. -/
structure Ref where
  kind : Kind
  id : String
  deriving DecidableEq, Repr

/-- The fields of a resource's representation that the harness reads. -/
structure Attrs where
  id : String := ""
  name : String := ""
  description : String := ""
  tenantId : String := ""
  status : String := ""
  displayName : String := ""
  cidr : String := ""
  location : String := ""
  securityGroupId : String := ""
  direction : String := ""
  ip : String := ""
  privateKey : String := ""
  /-- A floating IP's `port_id`, `None` when it points at no port. -/
  portId : Option String := none
  /-- A nova network's `label`. -/
  label : String := ""
  /-- A swift container's `x-container-read` metadata, `None` when it has none; a swift
  object's contents. -/
  containerRead : Option String := none
  data : String := ""
  /-- An Ironic node's `uuid`, `power_state` and `provision_state`. -/
  uuid : String := ""
  powerState : Option String := none
  provisionState : Option String := none
  /-- `server['networks']`: network name to addresses. -/
  networks : List (String × List String) := []
  /-- `server['addresses']`: network name to the `addr` of each address. -/
  addresses : List (String × List String) := []
  deriving DecidableEq, Repr

/-- What a call returns: the body naming one resource, the resources of a listing, and,
for a polled check, the outcome of each attempt that fits before its deadline. -/
structure Reply where
  body : Attrs := {}
  items : List Attrs := []
  answered : List Bool := []
  deriving DecidableEq, Repr

/-- A value of a Python `dict` the harness builds: a waiter callable (the
`wait_for_…` deletion waiter of a kind's client) or a string. -/
inductive Val where
  | waiter (k : Kind)
  | str (s : String)
  deriving DecidableEq, Repr

/-- What `get_remote_client` is given: an address, or a server whose address it looks
up. -/
inductive Target where
  | ip (addr : String)
  | server (s : Attrs)
  deriving DecidableEq, Repr

/-- A remote call the harness makes, or a collaborator it invokes, with the arguments
the code passes (keyword arguments by name). -/
inductive Call where
  /-- `data_utils.rand_name(pre)`: the random part is drawn from the environment. -/
  | randName (pre : String)
  | create (k : Kind) (args : List (String × String))
  /-- `create_image(server_id, name)` of the compute images client: a snapshot of the
  server, whose id the reply gives only in its `location`. -/
  | createImage (serverId name : String)
  | delete (r : Ref)
  | show (r : Ref)
  | list (k : Kind) (filters : List (String × String))
  | update (r : Ref) (args : List (String × String))
  /-- A `wait_for_…_status` poll of the client. -/
  | waitStatus (r : Ref) (status : String)
  /-- A deletion waiter of `k`'s client, with positional and keyword arguments. -/
  | waitDeleted (k : Kind) (args : List String) (kwargs : List (String × Val))
  /-- Any other client method, by name. -/
  | action (name : String) (args : List String)
  | openFile (path : String)
  /-- The `ping` subprocess of `ping_ip_address`, repeated until its deadline. -/
  | ping (ip : String)
  /-- `get_remote_client` entered (recorded, not answered). -/
  | getRemoteClient (t : Target)
  /-- `remote_client.RemoteClient(ip, username, pkey=…)` built (recorded, not answered). -/
  | remoteClient (ip username : String)
  | validateAuthentication (ip : String)
  | getConsoleOutput (serverId : String)
  | logNetDebug
  /-- The clock of `call_until_true(func, duration, sleep_for)`, read once for the whole
  poll: the length of the reply's `answered` is how many attempts start before the
  deadline. -/
  | clock (duration sleepFor : Nat)
  deriving DecidableEq, Repr

/-- A call and what came of it. -/
structure Event where
  call : Call
  reply : Except Exc Reply

/-- The cloud and every other collaborator: the answer to each call, given all events
before it. -/
def Env : Type := List Event → Call → Except Exc Reply

/-! ## Configuration -/

/-- The options of `CONF` the modelled code reads. -/
structure Conf where
  imageRef : String
  flavorRef : String
  networkForSsh : String
  sshUser : String
  /-- `CONF.compute.image_ssh_user`, the login of `_ssh_to_server`. -/
  imageSshUser : String
  consoleOutput : Bool
  tenantNetworkCidr : IPNetwork
  tenantNetworkMaskBits : Nat
  tenantNetworksReachable : Bool
  publicNetworkId : String
  publicRouterId : String
  /-- `CONF.baremetal`: the deadlines of the node waits. -/
  associationTimeout : Nat
  powerTimeout : Nat
  activeTimeout : Nat
  unprovisionTimeout : Nat
  /-- `CONF.compute.ping_timeout`, and `CONF.network.build_timeout` and `build_interval`:
  the deadlines of the polled network checks. -/
  pingTimeout : Nat
  networkBuildTimeout : Nat
  networkBuildInterval : Nat
  /-- `CONF.baremetal.driver_enabled`, and `CONF.compute.fixed_network_name`, the network
  all bare-metal nodes share. -/
  baremetalDriverEnabled : Bool
  fixedNetworkName : String
  /-- `CONF.scenario`: the directory of the test images, their files, and the formats of
  the disk image. -/
  imgDir : String
  imgFile : String
  akiImgFile : String
  ariImgFile : String
  amiImgFile : String
  imgContainerFormat : String
  imgDiskFormat : String

/-! ## The cleanup ledger -/

/-- A cleanup registered with `addCleanup`: the callable and its arguments. -/
inductive Cleanup where
  /-- `self._wait_for_cleanups`, registered by `setUp`. -/
  | waitForCleanups
  /-- `self.delete_wrapper` around the delete method of `r`'s client, given `r`'s id. -/
  | deleteWrapper (r : Ref)
  /-- A client's delete method registered directly, given `r`'s id. -/
  | delete (r : Ref)
  /-- A deletion waiter of `k`'s client registered directly, given `id`. -/
  | wait (k : Kind) (id : String)
  /-- `image_file.close` of the file opened at `path`. -/
  | close (path : String)
  deriving DecidableEq, Repr

/-- A wait descriptor of `self.cleanup_waits`: a Python `dict`, in insertion order. -/
abbrev WaitDict := List (String × Val)

/-- `d[k] = v` on a Python `dict` kept in insertion order: replace the value in place
when the key is there, else append. -/
def dictSet {α : Type} (d : List (String × α)) (k : String) (v : α) : List (String × α) :=
  if d.any (·.1 == k) then d.map fun e => if e.1 = k then (k, v) else e else d ++ [(k, v)]

/-- `d.update(u)`. -/
def dictUpdate {α : Type} (d u : List (String × α)) : List (String × α) :=
  u.foldl (fun d e => dictSet d e.1 e.2) d

/-- `d.pop(k)`: the value and the dict without it, or `KeyError`. -/
def dictPop (d : WaitDict) (k : String) : Except Exc (Val × WaitDict) :=
  match d.find? (·.1 == k) with
  | some e => .ok (e.2, d.filter (·.1 != k))
  | none => .error (.keyError k)

/-! ## The state of a test instance, and its steps -/

/-- A test instance with its collaborators: the environment and configuration it
reads, the ledger (`_cleanups` newest last, as `unittest` keeps it, and
`cleanup_waits`), the log of every call so far, and `self.keypair`. -/
structure World where
  env : Env
  conf : Conf
  /-- `self.__class__.__name__`. -/
  className : String
  /-- `client.rest_client.tenant_id` of the test's default network client. -/
  tenantId : String
  cleanups : List Cleanup
  cleanupWaits : List WaitDict
  log : List Event
  keypair : Option Attrs

/-- A step of a test: the value it returns or the exception it raises, and the state
it leaves either way. -/
def Test (α : Type) : Type := World → Except Exc α × World

namespace Test

/-- Return a value, changing nothing. -/
protected def pure (a : α) : Test α := fun w => (.ok a, w)

/-- Run `x`, then `f` on its value; an exception skips `f`. -/
protected def bind (x : Test α) (f : α → Test β) : Test β := fun w =>
  match x w with
  | (.ok a, w') => f a w'
  | (.error e, w') => (.error e, w')

/-- `raise e`. -/
protected def throw (e : Exc) : Test α := fun w => (.error e, w)

/-- `try x except: h`: the handler sees the exception and the state `x` left. -/
protected def tryCatch (x : Test α) (h : Exc → Test α) : Test α := fun w =>
  match x w with
  | (.ok a, w') => (.ok a, w')
  | (.error e, w') => h e w'

instance : Monad Test where
  pure := Test.pure
  bind := Test.bind

instance : MonadExceptOf Exc Test where
  throw := Test.throw
  tryCatch := Test.tryCatch

@[simp] theorem pure_apply (a : α) (w : World) : (pure a : Test α) w = (.ok a, w) := rfl

@[simp] theorem bind_apply (x : Test α) (f : α → Test β) (w : World) :
    (x >>= f) w = match x w with
      | (.ok a, w') => f a w'
      | (.error e, w') => (.error e, w') := rfl

@[simp] theorem throw_apply (e : Exc) (w : World) : (throw e : Test α) w = (.error e, w) := rfl

@[simp] theorem map_apply (f : α → β) (x : Test α) (w : World) :
    (f <$> x) w = match x w with
      | (.ok a, w') => (.ok (f a), w')
      | (.error e, w') => (.error e, w') := rfl

@[simp] theorem tryCatch_apply (x : Test α) (h : Exc → Test α) (w : World) :
    (tryCatch x h : Test α) w = match x w with
      | (.ok a, w') => (.ok a, w')
      | (.error e, w') => h e w' := rfl

@[simp] theorem pure_bind (a : α) (f : α → Test β) : (pure a >>= f) = f a := rfl

/-- Sequencing is associative. -/
theorem bind_assoc (x : Test α) (f : α → Test β) (g : β → Test γ) :
    x >>= f >>= g = x >>= fun a => f a >>= g := by
  funext w
  simp only [bind_apply]
  rcases x w with ⟨_ | _, _⟩ <;> rfl

/-- A run that returned: its first step returned, and the rest ran from where it left
off. -/
theorem bind_ok_inv {x : Test α} {f : α → Test β} {w : World} {b : β}
    (h : ((x >>= f) w).1 = .ok b) : ∃ a w', x w = (.ok a, w') ∧ (x >>= f) w = f a w' := by
  simp only [bind_apply] at h ⊢
  rcases hx : x w with ⟨_ | a, w'⟩ <;> rw [hx] at h
  · cases h
  · exact ⟨a, w', rfl, rfl⟩

/-- `bind_ok_inv` on the pair a run ends with: its first step returned, and the rest
returned from where it left off. -/
theorem bind_ok_pair {x : Test α} {f : α → Test β} {w w'' : World} {b : β}
    (h : (x >>= f) w = (.ok b, w'')) : ∃ a w', x w = (.ok a, w') ∧ f a w' = (.ok b, w'') := by
  obtain ⟨a, w', hx, e⟩ := bind_ok_inv (congrArg Prod.fst h)
  exact ⟨a, w', hx, e ▸ h⟩

/-- A step that returned, as the pair it ends with. -/
theorem ok_eq {x : Test α} {w : World} {a : α} (h : (x w).1 = .ok a) : x w = (.ok a, (x w).2) :=
  Prod.ext h rfl

end Test

/-! ## What a step can do -/

/-- The state after the call `c` was answered `r`: the event joins the log. -/
def World.record (w : World) (c : Call) (r : Except Exc Reply) : World :=
  { w with log := w.log ++ [⟨c, r⟩] }

/-- The random part `rand_name` draws in state `w`. -/
def World.draw (w : World) (name : String) : Reply :=
  (w.env w.log (.randName name)).toOption.getD {}

/-- Issue a remote call: the environment answers it from the log, and the call joins the
log with its answer. -/
def call (c : Call) : Test Reply := fun w => (w.env w.log c, w.record c (w.env w.log c))

/-- Record a step of the harness that nothing outside answers. -/
def note (c : Call) : Test Unit := fun w => (.ok (), w.record c (.ok {}))

/-- Modelled from the spec: `data_utils.rand_name(name)` (not under src/), a random name
that starts with `name`; the environment draws the random part, and the draw joins the
log so that the next draw may differ. -/
def randName (name : String) : Test String := fun w =>
  (.ok (name ++ "-" ++ (w.draw name).body.name), w.record (.randName name) (.ok (w.draw name)))

/-- `self.addCleanup(function, *args)`. -/
def addCleanup (c : Cleanup) : Test Unit := fun w =>
  (.ok (), { w with cleanups := w.cleanups ++ [c] })

/-- Read the configuration. -/
def conf : Test Conf := fun w => (.ok w.conf, w)

/-- `self.__class__.__name__`. -/
def className : Test String := fun w => (.ok w.className, w)

/-- `client.rest_client.tenant_id`. -/
def clientTenantId : Test String := fun w => (.ok w.tenantId, w)

/-- `self.assertTrue(cond, msg)`. -/
def assertTrue (cond : Bool) (msg : String) : Test Unit :=
  if cond then pure () else throw (.assertion msg)

/-- `self.assertEqual(first, second)`. -/
def assertEqual {α : Type} [DecidableEq α] (first second : α) : Test Unit :=
  assertTrue (decide (first = second)) "assertEqual"

section Record

variable (w : World) (c : Call) (r : Except Exc Reply)

@[simp] theorem World.record_env : (w.record c r).env = w.env := rfl
@[simp] theorem World.record_conf : (w.record c r).conf = w.conf := rfl
@[simp] theorem World.record_className : (w.record c r).className = w.className := rfl
@[simp] theorem World.record_tenantId : (w.record c r).tenantId = w.tenantId := rfl
@[simp] theorem World.record_cleanups : (w.record c r).cleanups = w.cleanups := rfl
@[simp] theorem World.record_cleanupWaits : (w.record c r).cleanupWaits = w.cleanupWaits := rfl
@[simp] theorem World.record_keypair : (w.record c r).keypair = w.keypair := rfl
@[simp] theorem World.record_log : (w.record c r).log = w.log ++ [⟨c, r⟩] := rfl

end Record

@[simp] theorem call_apply (c : Call) (w : World) :
    call c w = (w.env w.log c, w.record c (w.env w.log c)) := rfl

/-- A call followed by more: the rest runs on the answer, or the exception ends it. -/
theorem bind_call_apply {β : Type} (c : Call) (f : Reply → Test β) (w : World) :
    (call c >>= f) w = match w.env w.log c with
      | .ok a => f a (w.record c (.ok a))
      | .error e => (.error e, w.record c (.error e)) := by
  simp only [Test.bind_apply, call_apply]
  cases w.env w.log c <;> rfl

@[simp] theorem note_apply (c : Call) (w : World) : note c w = (.ok (), w.record c (.ok {})) := rfl

@[simp] theorem addCleanup_apply (c : Cleanup) (w : World) :
    addCleanup c w = (.ok (), { w with cleanups := w.cleanups ++ [c] }) := rfl

@[simp] theorem conf_apply (w : World) : conf w = (.ok w.conf, w) := rfl

@[simp] theorem className_apply (w : World) : className w = (.ok w.className, w) := rfl

@[simp] theorem clientTenantId_apply (w : World) : clientTenantId w = (.ok w.tenantId, w) := rfl

@[simp] theorem randName_apply (n : String) (w : World) :
    randName n w = (.ok (n ++ "-" ++ (w.draw n).body.name),
      w.record (.randName n) (.ok (w.draw n))) := rfl

/-- Reading the configuration returns it and changes nothing. -/
theorem conf_ok {w w' : World} {cfg : Conf} (h : conf w = (.ok cfg, w')) : cfg = w.conf ∧ w = w' := by
  cases h; exact ⟨rfl, rfl⟩

/-- Reading the client's tenant returns it and changes nothing. -/
theorem clientTenantId_ok {w w' : World} {t : String} (h : clientTenantId w = (.ok t, w')) :
    t = w.tenantId ∧ w = w' := by
  cases h; exact ⟨rfl, rfl⟩

/-- A step after `rand_name` runs on the name drawn, from the state that logged the draw. -/
theorem bind_randName_apply {β : Type} (n : String) (f : String → Test β) (w : World) :
    (randName n >>= f) w =
      f (n ++ "-" ++ (w.draw n).body.name) (w.record (.randName n) (.ok (w.draw n))) := rfl

/-- `assertTrue` raises its message exactly when the condition is false. -/
theorem assertTrue_apply (cond : Bool) (msg : String) (w : World) :
    assertTrue cond msg w = (if cond then .ok () else .error (.assertion msg), w) := by
  cases cond <;> rfl

/-- A call that returned `r`: the environment answered `r`, and the call joined the log. -/
theorem call_ok {c : Call} {w w' : World} {r : Reply} (h : call c w = (.ok r, w')) :
    w.env w.log c = .ok r ∧ w' = w.record c (.ok r) := by
  simp only [call_apply, Prod.mk.injEq] at h
  exact ⟨h.1, h.1 ▸ h.2.symm⟩

/-- `x` keeps `R` between the state before it and the state it leaves, whatever the
environment answers and whether it returns or raises. -/
structure Preserves {α : Type} (R : World → World → Prop) (x : Test α) : Prop where
  run : ∀ w, R w (x w).2

/-- A relation between a state and a later one that holds of every state and itself
and composes. -/
structure Stable (R : World → World → Prop) : Prop where
  refl : ∀ w, R w w
  trans : ∀ {a b c}, R a b → R b c → R a c

namespace Preserves

variable {R : World → World → Prop} {α β : Type}

/-- Returning keeps a stable relation. -/
theorem pure' (hR : Stable R) (a : α) : Preserves R (pure a : Test α) := ⟨hR.refl⟩

/-- Raising keeps a stable relation. -/
theorem throw' (hR : Stable R) (e : Exc) : Preserves R (throw e : Test α) := ⟨hR.refl⟩

/-- The steps of a sequence compose. -/
theorem bind (hR : Stable R) {x : Test α} {f : α → Test β} (hx : Preserves R x)
    (hf : ∀ a, Preserves R (f a)) : Preserves R (x >>= f) := by
  refine ⟨fun w => ?_⟩
  have h := hx.run w
  simp only [Test.bind_apply]
  rcases hxw : x w with ⟨_ | a, w'⟩ <;> rw [hxw] at h <;> dsimp only
  · exact h
  · exact hR.trans h ((hf a).run w')

/-- A guarded step keeps the relation when its body and its handler do. -/
theorem tryCatch {x : Test α} {h : Exc → Test α} (hR : Stable R) (hx : Preserves R x)
    (hh : ∀ e, Preserves R (h e)) : Preserves R (tryCatch x h : Test α) := by
  refine ⟨fun w => ?_⟩
  have hw := hx.run w
  simp only [Test.tryCatch_apply]
  rcases hxw : x w with ⟨_ | a, w'⟩ <;> rw [hxw] at hw <;> dsimp only
  · exact hR.trans hw ((hh _).run w')
  · exact hw

/-- Mapping the result keeps what the step keeps. -/
theorem map {x : Test α} (f : α → β) (hx : Preserves R x) : Preserves R (f <$> x) :=
  ⟨fun w => by
    simp only [Test.map_apply]
    have h := hx.run w
    rcases hxw : x w with ⟨_ | _, w'⟩ <;> rw [hxw] at h <;> exact h⟩

/-- Both branches keeping the relation, the conditional keeps it. -/
theorem ite {c : Prop} [Decidable c] {x y : Test α} (hx : Preserves R x)
    (hy : Preserves R y) : Preserves R (if c then x else y) := by
  split <;> assumption

/-- A default computed only when the argument is missing keeps what the default keeps. -/
theorem getDM (hR : Stable R) (o : Option α) {y : Test α} (hy : Preserves R y) :
    Preserves R (o.getDM y) := by
  cases o
  · exact hy
  · exact pure' hR _

/-- A loop of steps that keep the relation keeps it. -/
theorem forM (hR : Stable R) {f : α → Test PUnit} (hf : ∀ a, Preserves R (f a)) :
    ∀ xs : List α, Preserves R (xs.forM f)
  | [] => pure' hR _
  | a :: as => bind hR (hf a) fun _ => forM hR hf as

end Preserves

/-! ### Steps that only call out -/

section LogBlind

/-- `R` does not look at the log: it holds from `w` to any copy of `w` with a longer
log. -/
def LogBlind (R : World → World → Prop) : Prop :=
  ∀ w (es : List Event), R w { w with log := w.log ++ es }

variable {R : World → World → Prop}

/-- A call only appends to the log. -/
theorem Preserves.call (hL : LogBlind R) (c : Call) : Preserves R (call c) :=
  ⟨fun w => hL w [_]⟩

/-- A noted event only appends to the log. -/
theorem Preserves.note (hL : LogBlind R) (c : Call) : Preserves R (note c) := ⟨fun w => hL w [_]⟩

/-- Drawing a name only appends to the log. -/
theorem Preserves.randName (hL : LogBlind R) (n : String) : Preserves R (randName n) :=
  ⟨fun w => hL w [_]⟩

/-- Reading the configuration changes nothing. -/
theorem Preserves.conf (hR : Stable R) : Preserves R conf := ⟨hR.refl⟩

/-- Reading the class name changes nothing. -/
theorem Preserves.className (hR : Stable R) : Preserves R className := ⟨hR.refl⟩

/-- Reading the client's tenant changes nothing. -/
theorem Preserves.clientTenantId (hR : Stable R) : Preserves R clientTenantId := ⟨hR.refl⟩

/-- An assertion changes nothing, whether it passes or not. -/
theorem Preserves.assertTrue (hR : Stable R) (b : Bool) (m : String) :
    Preserves R (assertTrue b m) :=
  ⟨fun w => by rw [assertTrue_apply]; exact hR.refl w⟩

/-- An `assertEqual` changes nothing, whether it passes or not. -/
theorem Preserves.assertEqual (hR : Stable R) {α : Type} [DecidableEq α] (a b : α) :
    Preserves R (assertEqual a b) := Preserves.assertTrue hR _ _

end LogBlind

/-! ### Relations on the events a step adds -/

section ExtendsBy

variable {P Q : List Event → Prop}

/-- `w'` extends the log of `w` by events `es` with `P es`. -/
def ExtendsBy (P : List Event → Prop) (w w' : World) : Prop :=
  ∃ es, w'.log = w.log ++ es ∧ P es

/-- A property that holds of no events and of every join is a stable relation. -/
theorem ExtendsBy.stable (h0 : P []) (happ : ∀ a b, P a → P b → P (a ++ b)) :
    Stable (ExtendsBy P) :=
  ⟨fun _ => ⟨[], by simp, h0⟩, fun ⟨a, ha, pa⟩ ⟨b, hb, pb⟩ =>
    ⟨a ++ b, by rw [hb, ha, List.append_assoc], happ a b pa pb⟩⟩

/-- A weaker property of the events added is kept too. -/
theorem Preserves.mono_extends {α : Type} {x : Test α} (h : ∀ es, P es → Q es)
    (hx : Preserves (ExtendsBy P) x) : Preserves (ExtendsBy Q) x :=
  ⟨fun w => let ⟨es, hl, hp⟩ := hx.run w; ⟨es, hl, h es hp⟩⟩

/-- A call adds its one event. -/
theorem Preserves.call_extends (c : Call) (h : ∀ r, P [⟨c, r⟩]) :
    Preserves (ExtendsBy P) (Tempest.call c) :=
  ⟨fun _ => ⟨_, rfl, h _⟩⟩

/-- A noted event is added as answered. -/
theorem Preserves.note_extends (c : Call) (h : P [⟨c, .ok {}⟩]) :
    Preserves (ExtendsBy P) (Tempest.note c) :=
  ⟨fun _ => ⟨_, rfl, h⟩⟩

end ExtendsBy

/-! ### Events that need an earlier one -/

section HasBefore

variable {ok : List Event → Event → Prop} {h es : List Event}

/-- Each event of `es` satisfies `ok` together with what was logged before it: the log
`h` before `es`, then the events of `es` before it. -/
def HasBefore (ok : List Event → Event → Prop) (h es : List Event) : Prop :=
  ∀ pre ev post, es = pre ++ ev :: post → ok (h ++ pre) ev

/-- No event needs anything. -/
theorem HasBefore.nil : HasBefore ok h [] :=
  fun pre _ _ he => absurd he (by cases pre <;> simp)

/-- Events that need nothing before them. -/
theorem HasBefore.of_forall (hall : ∀ ev ∈ es, ∀ l, ok l ev) : HasBefore ok h es :=
  fun _ ev _ he => hall ev (he ▸ List.mem_append_right _ (List.mem_cons_self _ _)) _

/-- The needs of a first stretch met, and those of a second met by the log the first
extended, those of both are met. -/
theorem HasBefore.append {a b : List Event} (ha : HasBefore ok h a)
    (hb : HasBefore ok (h ++ a) b) : HasBefore ok h (a ++ b) := by
  intro pre ev post he
  rcases List.append_eq_append_iff.1 he with ⟨c, rfl, hc⟩ | ⟨c, hac, hev⟩
  · simpa using hb c ev post hc
  · cases c with
    | nil =>
      rw [List.append_nil] at hac
      subst hac
      simpa using hb [] ev post hev.symm
    | cons x c =>
      obtain ⟨rfl, rfl⟩ := List.cons_eq_cons.1 hev
      exact ha pre ev c hac

section Mono

variable (hmono : ∀ (l l' : List Event) (ev : Event), l ⊆ l' → ok l ev → ok l' ev)
include hmono

/-- When what an event needs, once logged, stays there, more log before it helps. -/
theorem HasBefore.mono {h' : List Event} (hsub : h ⊆ h') (hes : HasBefore ok h es) :
    HasBefore ok h' es :=
  fun pre ev post he => hmono _ _ _ (List.append_subset.2 ⟨hsub.trans (List.subset_append_left _ _),
    List.subset_append_right _ _⟩) (hes pre ev post he)

/-- Events that find what they need in `h` alone. -/
theorem HasBefore.of_forall_mem (hall : ∀ ev ∈ es, ok h ev) : HasBefore ok h es :=
  fun _ ev _ he => hmono _ _ _ (List.subset_append_left _ _)
    (hall ev (he ▸ List.mem_append_right _ (List.mem_cons_self _ _)))

end Mono

end HasBefore

/-! ## A sample test instance -/

/-- A world on `samplePool`, split at `/maskBits`, with the cloud `env`. -/
def sampleWorld (env : Env) (maskBits : Nat) : World where
  env := env
  conf :=
    { imageRef := "", flavorRef := "", networkForSsh := "", sshUser := "", imageSshUser := "",
      consoleOutput := false, tenantNetworkCidr := samplePool,
      tenantNetworkMaskBits := maskBits, tenantNetworksReachable := false,
      publicNetworkId := "", publicRouterId := "", associationTimeout := 10,
      powerTimeout := 20, activeTimeout := 300, unprovisionTimeout := 20, pingTimeout := 120,
      networkBuildTimeout := 300, networkBuildInterval := 1, baremetalDriverEnabled := false,
      fixedNetworkName := "private", imgDir := "images", imgFile := "disk.img",
      akiImgFile := "vmlinuz", ariImgFile := "initrd", amiImgFile := "blank.img",
      imgContainerFormat := "bare", imgDiskFormat := "qcow2" }
  className := "TestSample"
  tenantId := "tenant"
  cleanups := []
  cleanupWaits := []
  log := []
  keypair := none

/-- The object `echoEnv` makes when asked for `name` with `cidr`. -/
def echoed (name cidr : String) : Attrs := { id := name, name := name, cidr := cidr, status := "queued" }

/-- A cloud that makes what it is asked for: a create returns an object named, and
identified, as asked, with the cidr asked for and the status `queued`; a show returns the
object named by its id; listings are empty and `rand_name` draws `1`. -/
def echoEnv : Env := fun _ c => match c with
  | .create _ args => .ok { body := echoed ((args.lookup "name").getD "") ((args.lookup "cidr").getD "") }
  | .show r => .ok { body := { id := r.id, name := r.id } }
  | .randName _ => .ok { body := { name := "1" } }
  | _ => .ok {}

end Tempest
