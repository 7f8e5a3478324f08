import Tempest.Harness

/-!
# Connectivity checks: a ping, then ssh, and diagnostics on failure

The connectivity helpers of `scenario/manager.py`: `ping_ip_address` (lines 445-457)
over the polling primitive `call_until_true`; `get_remote_client` (lines 300-320);
`check_vm_connectivity` (lines 459-483); and the two checks that run it under a handler,
`check_public_network_connectivity` (lines 485-506) and
`_check_tenant_network_connectivity` (lines 715-737), with the diagnostics the handlers
run, `_log_console_output` and `_log_net_info` (lines 370-387).

* `Diagnosed` says what may leave a handler that logs diagnostics and raises again;
  `connectivity_failures_reraised` shows that the two checks and `get_remote_client`
  end that way: with the original exception unless a diagnostic call raised, whose
  exception then replaces it.
* `NoSsh` and `PingedBeforeSsh` say which events may attempt an ssh session;
  `ssh_only_after_ping` shows each check keeps them, whatever the pings answer.
* `checkVmConnectivity_sshTimeout`: after a ping that got through, a timed-out ssh login
  leaves `check_vm_connectivity` as `SSHTimeout`, not as the assertion its docstring
  names.

`LOG` calls write to the test log and raise nothing; they are left out.
-/

namespace Tempest

/-! ## The checks -/

/-- Modelled from the spec: `tempest.test.call_until_true(func, duration, sleep_for)`
(not under src/) calls `func` until it returns `True` or the deadline passes, and says
whether it did; `answers` are what `func` returned in the attempts made before the
deadline. -/
def callUntilTrue : List Bool → Bool
  | [] => false
  | true :: _ => true
  | false :: answers => callUntilTrue answers

/-- What `ping_ip_address` returns when the attempts of its `ping` were answered as
`pings` says (`True` for a reply). -/
def pingResult (shouldSucceed : Bool) (pings : Reply) : Bool :=
  callUntilTrue (pings.answered.map fun reached => reached == shouldSucceed)

/-- **`ScenarioTest.ping_ip_address`** (lines 445-457): the environment answers the
`ping` subprocess, attempt by attempt until the deadline. -/
def pingIpAddress (ipAddress : String) (shouldSucceed : Bool) : Test Bool := do
  let pings ← call (.ping ipAddress)
  pure (pingResult shouldSucceed pings)

/-- `debug.log_net_debug()` (not under src/): a collaborator that may raise. -/
def logNetDebug : Test Unit := do
  let _ ← call .logNetDebug

/-- `self.keypair['private_key']`: the attribute exists once a caller of
`create_keypair` has set it. -/
def keypairPrivateKey : Test String := fun w =>
  match w.keypair with
  | some k => (.ok k.privateKey, w)
  | none => (.error (.other "AttributeError"), w)

/-- A `remote_client.RemoteClient`, by the arguments it was built with. -/
structure RemoteClient where
  ip : String
  username : String
  pkey : String
  deriving DecidableEq, Repr

/-- The address `get_remote_client` logs into: the string itself, or
`server['addresses'][CONF.compute.network_for_ssh][0]['addr']`. -/
def sshIp : Target → Test String
  | .ip addr => pure addr
  | .server s => do
    let cfg ← conf
    match s.addresses.lookup cfg.networkForSsh with
    | none => throw (.keyError cfg.networkForSsh)
    | some [] => throw .indexError
    | some (addr :: _) => pure addr

/-- The `try`/`except exceptions.SSHTimeout` of `get_remote_client`: a timeout is
followed by `log_net_debug` and raised again. -/
def validateAuthentication (ip : String) : Test Unit :=
  tryCatch (do let _ ← call (.validateAuthentication ip)) fun
    | .sshTimeout => do
      logNetDebug
      throw .sshTimeout
    | e => throw e

/-- **`ScenarioTest.get_remote_client`** (lines 300-320). -/
def getRemoteClient (serverOrIp : Target) (username privateKey : Option String) :
    Test RemoteClient := do
  note (.getRemoteClient serverOrIp)
  let ip ← sshIp serverOrIp
  let username := username.getD (← conf).sshUser
  let privateKey ← privateKey.getDM keypairPrivateKey
  note (.remoteClient ip username)
  validateAuthentication ip
  pure ⟨ip, username, privateKey⟩

/-- **`ScenarioTest.check_vm_connectivity`** (lines 459-483). -/
def checkVmConnectivity (ipAddress : String) (username privateKey : Option String)
    (shouldConnect : Bool) : Test Unit := do
  let msg := if shouldConnect then
      "Timed out waiting for " ++ ipAddress ++ " to become reachable"
    else "ip address " ++ ipAddress ++ " is reachable"
  assertTrue (← pingIpAddress ipAddress shouldConnect) msg
  if shouldConnect then
    let _ ← getRemoteClient (.ip ipAddress) username privateKey

/-- **`ScenarioTest._log_console_output`** (lines 370-381); `servers=None` and `[]`
behave alike (`if not servers`), and both are `[]` here. -/
def logConsoleOutput (servers : List Attrs) : Test Unit := do
  if (← conf).consoleOutput then
    let servers ← (if servers.isEmpty then do
        let body ← call (.list .server [])
        pure body.items
      else pure servers)
    servers.forM fun server => do
      let _ ← call (.getConsoleOutput server.id)

/-- `isinstance(e, exceptions.SSHTimeout)`. -/
def isSshTimeout : Exc → Bool
  | .sshTimeout => true
  | _ => false

/-- **`ScenarioTest._log_net_info`** (lines 383-387). -/
def logNetInfo (exc : Exc) : Test Unit :=
  if !isSshTimeout exc then logNetDebug else pure ()

/-- **`ScenarioTest.check_public_network_connectivity`** (lines 485-506); `msg` only
extends the text logged, and is left out. -/
def checkPublicNetworkConnectivity (ipAddress : String) (username privateKey : Option String)
    (shouldConnect : Bool) (servers : List Attrs) : Test Unit :=
  tryCatch (checkVmConnectivity ipAddress username privateKey shouldConnect) fun e => do
    logConsoleOutput servers
    (if !isSshTimeout e then logNetDebug else pure ())
    throw e

/-- The loops of `_check_tenant_network_connectivity`: every address of every network of
the server, in the order of `server['networks']`. -/
def checkServerNetworks (server : Attrs) (username privateKey : Option String)
    (shouldConnect : Bool) : Test Unit :=
  server.networks.forM fun net => net.2.forM fun ipAddress =>
    checkVmConnectivity ipAddress username privateKey shouldConnect

/-- **`NetworkScenarioTest._check_tenant_network_connectivity`** (lines 715-737). -/
def checkTenantNetworkConnectivity (server : Attrs) (username privateKey : Option String)
    (shouldConnect : Bool) (serversForDebug : List Attrs) : Test Unit := do
  if (← conf).tenantNetworksReachable then
    tryCatch (checkServerNetworks server username privateKey shouldConnect) fun e => do
      logConsoleOutput serversForDebug
      logNetInfo e
      throw e

/-! ## What leaves a handler -/

/-- The calls the handlers make for diagnostics: `list_servers`, `get_console_output`,
`log_net_debug`. -/
def isDiagnostic : Call → Bool
  | .list .server _ | .getConsoleOutput _ | .logNetDebug => true
  | _ => false

/-- Diagnostic calls, each answered normally. -/
def AllAnswered (es : List Event) : Prop :=
  ∀ ev ∈ es, isDiagnostic ev.call = true ∧ ev.reply.isOk = true

/-- What leaves a handler that runs diagnostics and raises `e` again, after the events
`es`: `e` when every diagnostic returned; when one raised, its exception, and it was the
last call the handler made. -/
inductive Diagnosed (e : Exc) : List Event → Exc → Prop where
  | reraised {oks : List Event} : AllAnswered oks → Diagnosed e oks e
  | replaced {oks : List Event} {c : Call} {d : Exc} : AllAnswered oks →
      isDiagnostic c = true → Diagnosed e (oks ++ [⟨c, .error d⟩]) d

/-- `x` makes only diagnostic calls and returns exactly when none of them raised; when
one raised, it was the last and `x` raises its exception. -/
def DiagnosticOnly {α : Type} (x : Test α) : Prop :=
  ∀ w, ∃ es, (x w).2.log = w.log ++ es ∧
    match (x w).1 with
    | .ok _ => AllAnswered es
    | .error d => ∃ oks c, AllAnswered oks ∧ isDiagnostic c = true ∧ es = oks ++ [⟨c, .error d⟩]

/-- `h` raises from every state, after diagnostics, what `Diagnosed e` allows. -/
def Rethrows {α : Type} (e : Exc) (h : Test α) : Prop :=
  ∀ w, ∃ es d, (h w).2.log = w.log ++ es ∧ (h w).1 = .error d ∧ Diagnosed e es d

/-- From `w`, `x` ends as `body` does when `body` returns; when `body` raises `e`, `x`
raises after more events `es`, as `Diagnosed e es` allows. -/
def GuardedFrom {α : Type} (body x : Test α) (w : World) : Prop :=
  match body w with
  | (.ok a, w') => x w = (.ok a, w')
  | (.error e, w') => ∃ es d, (x w).2.log = w'.log ++ es ∧ (x w).1 = .error d ∧ Diagnosed e es d

/-- Answered diagnostics, one stretch after another, are answered diagnostics. -/
theorem AllAnswered.append {es₁ es₂ : List Event} (h₁ : AllAnswered es₁)
    (h₂ : AllAnswered es₂) : AllAnswered (es₁ ++ es₂) := by
  intro ev hev
  rcases List.mem_append.1 hev with h | h
  exacts [h₁ ev h, h₂ ev h]

/-- Answered diagnostics before a handler's events change nothing of what leaves it. -/
theorem Diagnosed.prepend {e d : Exc} {oks es : List Event} (h : AllAnswered oks) :
    Diagnosed e es d → Diagnosed e (oks ++ es) d
  | .reraised h' => .reraised (h.append h')
  | .replaced h' hc => by rw [← List.append_assoc]; exact .replaced (h.append h') hc

namespace DiagnosticOnly

variable {α β : Type}

/-- Returning makes no call. -/
theorem pure' (a : α) : DiagnosticOnly (pure a : Test α) :=
  fun w => ⟨[], by simp, fun _ h => absurd h (List.not_mem_nil _)⟩

/-- Reading the configuration makes no call. -/
theorem conf' : DiagnosticOnly conf :=
  fun w => ⟨[], by simp [conf], fun _ h => absurd h (List.not_mem_nil _)⟩

/-- A diagnostic call is diagnostic only. -/
theorem call' {c : Call} (hc : isDiagnostic c = true) : DiagnosticOnly (call c) := fun w => by
  refine ⟨_, rfl, ?_⟩
  simp only [call_apply]
  rcases w.env w.log c with d | r
  · exact ⟨[], c, fun _ h => absurd h (List.not_mem_nil _), hc, rfl⟩
  · intro ev hev
    rw [List.mem_singleton.1 hev]
    exact ⟨hc, rfl⟩

/-- Diagnostics, then a step that makes the same guarantee, make it too. -/
theorem bind {x : Test α} {f : α → Test β} (hx : DiagnosticOnly x)
    (hf : ∀ a, DiagnosticOnly (f a)) : DiagnosticOnly (x >>= f) := fun w => by
  obtain ⟨es₁, hl₁, h₁⟩ := hx w
  simp only [Test.bind_apply]
  rcases hxw : x w with ⟨_ | a, w₁⟩ <;> rw [hxw] at hl₁ h₁ <;> dsimp only at h₁ ⊢
  · exact ⟨es₁, hl₁, h₁⟩
  · obtain ⟨es₂, hl₂, h₂⟩ := hf a w₁
    refine ⟨es₁ ++ es₂, by rw [hl₂, hl₁, List.append_assoc], ?_⟩
    rcases hfw : f a w₁ with ⟨_ | b, w₂⟩ <;> rw [hfw] at h₂ <;> dsimp only at h₂ ⊢
    · obtain ⟨oks, c, ho, hc, rfl⟩ := h₂
      exact ⟨es₁ ++ oks, c, h₁.append ho, hc, by simp⟩
    · exact h₁.append h₂

/-- Both branches keeping the guarantee, the conditional keeps it. -/
theorem ite {c : Prop} [Decidable c] {x y : Test α} (hx : DiagnosticOnly x)
    (hy : DiagnosticOnly y) : DiagnosticOnly (if c then x else y) := by
  split <;> assumption

/-- A loop of steps that are diagnostic only is diagnostic only. -/
theorem forM {f : α → Test PUnit} (hf : ∀ a, DiagnosticOnly (f a)) :
    ∀ xs : List α, DiagnosticOnly (xs.forM f)
  | [] => pure' _
  | a :: as => bind (hf a) fun _ => forM hf as

end DiagnosticOnly

/-- `log_net_debug` is one diagnostic call. -/
theorem logNetDebug_diagnosticOnly : DiagnosticOnly logNetDebug :=
  DiagnosticOnly.bind (DiagnosticOnly.call' rfl) fun _ => DiagnosticOnly.pure' _

/-- `_log_console_output` makes only diagnostic calls. -/
theorem logConsoleOutput_diagnosticOnly (servers : List Attrs) :
    DiagnosticOnly (logConsoleOutput servers) := by
  have hget : ∀ ss : List Attrs, DiagnosticOnly (ss.forM fun server => do
      let _ ← call (.getConsoleOutput server.id)) :=
    DiagnosticOnly.forM fun _ => DiagnosticOnly.bind (DiagnosticOnly.call' rfl) fun _ =>
      DiagnosticOnly.pure' _
  unfold logConsoleOutput
  refine DiagnosticOnly.bind DiagnosticOnly.conf' fun cfg => ?_
  split
  · refine DiagnosticOnly.bind ?_ hget
    split
    · exact DiagnosticOnly.bind (DiagnosticOnly.call' (by rfl)) fun _ => DiagnosticOnly.pure' _
    · exact DiagnosticOnly.pure' _
  · exact DiagnosticOnly.pure' _

/-- `_log_net_info` makes only diagnostic calls. -/
theorem logNetInfo_diagnosticOnly (e : Exc) : DiagnosticOnly (logNetInfo e) := by
  unfold logNetInfo
  split
  · exact logNetDebug_diagnosticOnly
  · exact DiagnosticOnly.pure' _

namespace Rethrows

variable {α β : Type} {e : Exc}

/-- Raising `e` at once is the re-raise `Diagnosed e` allows. -/
theorem throw' : Rethrows e (throw e : Test α) :=
  fun w => ⟨[], e, by simp, rfl, .reraised fun _ h => absurd h (List.not_mem_nil _)⟩

/-- Diagnostics, then a step that makes the same guarantee, make it too. -/
theorem bind {x : Test α} {f : α → Test β} (hx : DiagnosticOnly x)
    (hf : ∀ a, Rethrows e (f a)) : Rethrows e (x >>= f) := fun w => by
  obtain ⟨es₁, hl₁, h₁⟩ := hx w
  simp only [Test.bind_apply]
  rcases hxw : x w with ⟨_ | a, w₁⟩ <;> rw [hxw] at hl₁ h₁ <;> dsimp only at h₁ ⊢
  · obtain ⟨oks, c, ho, hc, rfl⟩ := h₁
    exact ⟨_, _, hl₁, rfl, .replaced ho hc⟩
  · obtain ⟨es₂, d, hl₂, hd, h₂⟩ := hf a w₁
    exact ⟨es₁ ++ es₂, d, by rw [hl₂, hl₁, List.append_assoc], hd, h₂.prepend h₁⟩

/-- Both branches keeping the guarantee, the conditional keeps it. -/
theorem ite {c : Prop} [Decidable c] {x y : Test α} (hx : Rethrows e x)
    (hy : Rethrows e y) : Rethrows e (if c then x else y) := by
  split <;> assumption

end Rethrows

/-- Guarding carries over to a step that runs as the guarded one does. -/
theorem GuardedFrom.of_eq {α : Type} {body x y : Test α} {w : World} (h : x w = y w)
    (hy : GuardedFrom body y w) : GuardedFrom body x w := by
  unfold GuardedFrom at *
  rwa [h]

/-- A `try` whose handler re-raises after diagnostics guards its body. -/
theorem tryCatch_guardedFrom {α : Type} {body : Test α} {h : Exc → Test α}
    (hh : ∀ e, Rethrows e (h e)) (w : World) : GuardedFrom body (tryCatch body h) w := by
  unfold GuardedFrom
  rw [Test.tryCatch_apply]
  rcases body w with ⟨_ | a, w'⟩
  · exact hh _ w'
  · rfl

/-- `check_public_network_connectivity` guards `check_vm_connectivity`. -/
theorem checkPublicNetworkConnectivity_guarded (ip : String)
    (username privateKey : Option String) (shouldConnect : Bool) (servers : List Attrs)
    (w : World) :
    GuardedFrom (checkVmConnectivity ip username privateKey shouldConnect)
      (checkPublicNetworkConnectivity ip username privateKey shouldConnect servers) w := by
  exact tryCatch_guardedFrom (fun e => Rethrows.bind (logConsoleOutput_diagnosticOnly servers)
    fun _ => Rethrows.bind (logNetInfo_diagnosticOnly e) fun _ => Rethrows.throw') w

/-- With tenant networks reachable, `_check_tenant_network_connectivity` guards its loops. -/
theorem checkTenantNetworkConnectivity_guarded (server : Attrs)
    (username privateKey : Option String) (shouldConnect : Bool) (servers : List Attrs)
    (w : World) (hr : w.conf.tenantNetworksReachable = true) :
    GuardedFrom (checkServerNetworks server username privateKey shouldConnect)
      (checkTenantNetworkConnectivity server username privateKey shouldConnect servers) w := by
  refine GuardedFrom.of_eq ?_ (tryCatch_guardedFrom (fun e =>
    Rethrows.bind (logConsoleOutput_diagnosticOnly servers) fun _ =>
      Rethrows.bind (logNetInfo_diagnosticOnly e) fun _ => Rethrows.throw') w)
  simp only [checkTenantNetworkConnectivity, Test.bind_apply, conf_apply, hr, if_true]

/-- The `except SSHTimeout` of `get_remote_client` guards `validate_authentication`. -/
theorem validateAuthentication_guarded (ip : String) (w : World) :
    GuardedFrom (do let _ ← call (.validateAuthentication ip)) (validateAuthentication ip) w := by
  refine tryCatch_guardedFrom (fun e => ?_) w
  cases e
  case sshTimeout => exact Rethrows.bind logNetDebug_diagnosticOnly fun _ => Rethrows.throw'
  all_goals exact Rethrows.throw'

/-- **The original failure survives the diagnostics, unless a diagnostic raises.**  When
`check_vm_connectivity` raises `e` inside `check_public_network_connectivity`, or the
loops raise `e` inside `_check_tenant_network_connectivity` (with tenant networks
reachable), or `validate_authentication` raises `e` inside `get_remote_client`, the call
raises `e` when every diagnostic it then makes returns, and otherwise the exception of
the diagnostic that raised, which is its last call. -/
theorem connectivity_failures_reraised :
    (∀ (ip : String) (username privateKey : Option String) (shouldConnect : Bool)
      (servers : List Attrs) (w : World),
      GuardedFrom (checkVmConnectivity ip username privateKey shouldConnect)
        (checkPublicNetworkConnectivity ip username privateKey shouldConnect servers) w) ∧
    (∀ (server : Attrs) (username privateKey : Option String) (shouldConnect : Bool)
      (servers : List Attrs) (w : World), w.conf.tenantNetworksReachable = true →
      GuardedFrom (checkServerNetworks server username privateKey shouldConnect)
        (checkTenantNetworkConnectivity server username privateKey shouldConnect servers) w) ∧
    (∀ (ip : String) (w : World),
      GuardedFrom (do let _ ← call (.validateAuthentication ip)) (validateAuthentication ip) w) :=
  ⟨checkPublicNetworkConnectivity_guarded, checkTenantNetworkConnectivity_guarded,
    validateAuthentication_guarded⟩

/-- A cloud in which no address answers a ping and `list_servers` fails. -/
def silentEnv : Env := fun _ c => match c with
  | .ping _ => .ok { answered := [false] }
  | .list .server _ => .error (.other "ServerFault")
  | _ => .ok {}

/-- A test on `silentEnv`, with console output on and tenant networks reachable. -/
def silentWorld : World where
  env := silentEnv
  conf :=
    { imageRef := "", flavorRef := "", networkForSsh := "private", sshUser := "cirros",
      imageSshUser := "cirros", consoleOutput := true, tenantNetworkCidr := ⟨0, 32, by decide, by decide⟩,
      tenantNetworkMaskBits := 32, tenantNetworksReachable := true,
      publicNetworkId := "", publicRouterId := "", associationTimeout := 10,
      powerTimeout := 20, activeTimeout := 300, unprovisionTimeout := 20, pingTimeout := 120,
      networkBuildTimeout := 300, networkBuildInterval := 1, baremetalDriverEnabled := false,
      fixedNetworkName := "private", imgDir := "images", imgFile := "disk.img",
      akiImgFile := "vmlinuz", ariImgFile := "initrd", amiImgFile := "blank.img",
      imgContainerFormat := "bare", imgDiskFormat := "qcow2" }
  className := "TestSample"
  tenantId := "tenant"
  cleanups := []
  cleanupWaits := []
  log := []
  keypair := none

/-- The three guarded calls on `silentWorld`, where tenant networks are reachable. -/
theorem connectivity_failures_reraised_on_silent_cloud :
    GuardedFrom (checkVmConnectivity "10.0.0.5" none none true)
        (checkPublicNetworkConnectivity "10.0.0.5" none none true []) silentWorld ∧
      (silentWorld.conf.tenantNetworksReachable = true ∧
        GuardedFrom (checkServerNetworks { networks := [("private", ["10.0.0.5"])] } none none true)
          (checkTenantNetworkConnectivity { networks := [("private", ["10.0.0.5"])] } none none true [])
          silentWorld) ∧
      GuardedFrom (do let _ ← call (.validateAuthentication "10.0.0.5"))
        (validateAuthentication "10.0.0.5") silentWorld :=
  ⟨connectivity_failures_reraised.1 _ _ _ _ _ _,
    ⟨rfl, connectivity_failures_reraised.2.1 _ _ _ _ _ _ rfl⟩,
    connectivity_failures_reraised.2.2 _ _⟩

/-- **A diagnostic replaces the failure.**  No ping of `10.0.0.5` gets through, so
`check_vm_connectivity` fails its `assertTrue`; `_log_console_output` then lists the
servers, the listing raises, and its exception, not the assertion, leaves
`check_public_network_connectivity`. -/
theorem checkPublicNetworkConnectivity_listing_failure_escapes :
    (checkVmConnectivity "10.0.0.5" none none true silentWorld).1 =
        .error (.assertion "Timed out waiting for 10.0.0.5 to become reachable") ∧
      (checkPublicNetworkConnectivity "10.0.0.5" none none true [] silentWorld).1 =
        .error (.other "ServerFault") :=
  ⟨rfl, rfl⟩

/-! ## No ssh session before a ping got through -/

/-- Whether a step attempts an ssh session: entering `get_remote_client`, building a
`RemoteClient`, validating its authentication. -/
def attemptsSsh : Call → Bool
  | .getRemoteClient _ | .remoteClient _ _ | .validateAuthentication _ => true
  | _ => false

/-- The address an ssh attempt is made to, when it names one. -/
def sshAddress : Call → Option String
  | .getRemoteClient (.ip a) | .remoteClient a _ | .validateAuthentication a => some a
  | _ => none

/-- No event attempts an ssh session. -/
def NoSsh (es : List Event) : Prop :=
  ∀ ev ∈ es, attemptsSsh ev.call = false

/-- What an event needs from the log `l` before it: for an ssh attempt, a ping of its
address for which `ping_ip_address` returned `True`; for any other event, nothing. -/
def PingedFor (l : List Event) (ev : Event) : Prop :=
  attemptsSsh ev.call = true →
    ∃ a r, sshAddress ev.call = some a ∧ ⟨.ping a, .ok r⟩ ∈ l ∧ pingResult true r = true

/-- Every ssh attempt among `es` is made to an address for which `ping_ip_address`
returned `True` earlier in `es`. -/
def PingedBeforeSsh (es : List Event) : Prop := HasBefore PingedFor [] es

/-- Every ssh attempt among `es` is made to `a`. -/
def SshTo (a : String) (es : List Event) : Prop :=
  ∀ ev ∈ es, attemptsSsh ev.call = true → sshAddress ev.call = some a

/-- A diagnostic call attempts no ssh session. -/
theorem attemptsSsh_of_isDiagnostic {c : Call} (h : isDiagnostic c = true) :
    attemptsSsh c = false := by
  cases c <;> simp_all [isDiagnostic, attemptsSsh]

/-- Two stretches without ssh attempts make one. -/
theorem NoSsh.append {es₁ es₂ : List Event} (h₁ : NoSsh es₁) (h₂ : NoSsh es₂) :
    NoSsh (es₁ ++ es₂) :=
  fun ev h => (List.mem_append.1 h).elim (h₁ ev) (h₂ ev)

/-- Two stretches that attempt ssh only to `a` make one. -/
theorem SshTo.append {a : String} {es₁ es₂ : List Event} (h₁ : SshTo a es₁)
    (h₂ : SshTo a es₂) : SshTo a (es₁ ++ es₂) :=
  fun ev h => (List.mem_append.1 h).elim (h₁ ev) (h₂ ev)

/-- An ssh attempt pinged for keeps its ping when the earlier events grow. -/
theorem pingedFor_mono (l l' : List Event) (ev : Event) (hsub : l ⊆ l')
    (h : PingedFor l ev) : PingedFor l' ev := fun hs =>
  let ⟨a, r, ha, hp, hr⟩ := h hs; ⟨a, r, ha, hsub hp, hr⟩

/-- Without ssh attempts, every ssh attempt was pinged for. -/
theorem NoSsh.pinged {es : List Event} (h : NoSsh es) : PingedBeforeSsh es :=
  HasBefore.of_forall fun ev hev _ hs => by simp [h ev hev] at hs

/-- Without ssh attempts, every ssh attempt is to `a`. -/
theorem NoSsh.sshTo {a : String} {es : List Event} (h : NoSsh es) : SshTo a es :=
  fun ev hev hs => by simp [h ev hev] at hs

/-- Two stretches in which every ssh attempt was pinged for make one. -/
theorem PingedBeforeSsh.append {es₁ es₂ : List Event} (h₁ : PingedBeforeSsh es₁)
    (h₂ : PingedBeforeSsh es₂) : PingedBeforeSsh (es₁ ++ es₂) :=
  HasBefore.append h₁ (HasBefore.mono pingedFor_mono (List.nil_subset _) h₂)

/-- A ping of `a` that got through, then attempts to `a` only. -/
theorem PingedBeforeSsh.ping_cons {a : String} {r : Reply} {es : List Event}
    (hr : pingResult true r = true) (h : SshTo a es) :
    PingedBeforeSsh (⟨.ping a, .ok r⟩ :: es) :=
  HasBefore.append (a := [_]) (HasBefore.of_forall fun ev hev _ hs => by
      simp [List.mem_singleton.1 hev, attemptsSsh] at hs)
    (HasBefore.of_forall_mem pingedFor_mono fun ev hev hs =>
      ⟨a, r, h ev hev hs, List.mem_singleton_self _, hr⟩)

/-- A step that makes diagnostic calls only attempts no ssh session. -/
theorem DiagnosticOnly.noSsh {α : Type} {x : Test α} (hx : DiagnosticOnly x) :
    Preserves (ExtendsBy NoSsh) x := ⟨fun w => by
  obtain ⟨es, hl, h⟩ := hx w
  refine ⟨es, hl, ?_⟩
  revert h
  rcases (x w).1 with d | _
  · rintro ⟨oks, c, ho, hc, rfl⟩
    exact NoSsh.append (fun ev hev => attemptsSsh_of_isDiagnostic (ho ev hev).1)
      (by simpa [NoSsh] using attemptsSsh_of_isDiagnostic hc)
  · exact fun h ev hev => attemptsSsh_of_isDiagnostic (h ev hev).1⟩

/-- What a guarded call adds over its body is diagnostics: no ssh attempt. -/
theorem GuardedFrom.extends {α : Type} {P : List Event → Prop} {body x : Test α} {w : World}
    (happ : ∀ a b, P a → P b → P (a ++ b)) (hno : ∀ es, NoSsh es → P es)
    (hg : GuardedFrom body x w) (hb : ExtendsBy P w (body w).2) : ExtendsBy P w (x w).2 := by
  unfold GuardedFrom at hg
  obtain ⟨es, hl, hp⟩ := hb
  revert hg hl
  rcases body w with ⟨_ | a, w'⟩
  · rintro ⟨es', d, hl', -, hd⟩ hl
    refine ⟨es ++ es', by rw [hl', hl, List.append_assoc], happ _ _ hp (hno _ ?_)⟩
    intro ev hev
    cases hd with
    | reraised ho => exact attemptsSsh_of_isDiagnostic (ho ev hev).1
    | replaced ho hc =>
      rcases List.mem_append.1 hev with h | h
      · exact attemptsSsh_of_isDiagnostic (ho ev h).1
      · rw [List.mem_singleton.1 h]; exact attemptsSsh_of_isDiagnostic hc
  · rintro hx hl
    rw [hx]
    exact ⟨es, hl, hp⟩

/-- Reading the keypair's private key changes nothing. -/
theorem keypairPrivateKey_preserves {R : World → World → Prop} (hR : Stable R) :
    Preserves R keypairPrivateKey :=
  ⟨fun w => by unfold keypairPrivateKey; split <;> exact hR.refl w⟩

/-- Logs that attempt ssh only to `a` compose. -/
theorem stable_sshTo (a : String) : Stable (ExtendsBy (SshTo a)) :=
  ExtendsBy.stable (fun _ h => absurd h (List.not_mem_nil _)) fun _ _ => SshTo.append

/-- Logs without ssh attempts compose. -/
theorem stable_noSsh : Stable (ExtendsBy NoSsh) :=
  ExtendsBy.stable (fun _ h => absurd h (List.not_mem_nil _)) fun _ _ => NoSsh.append

/-- Logs in which every ssh attempt was pinged for compose. -/
theorem stable_pingedBeforeSsh : Stable (ExtendsBy PingedBeforeSsh) :=
  ExtendsBy.stable (NoSsh.pinged fun _ h => absurd h (List.not_mem_nil _))
    fun _ _ => PingedBeforeSsh.append

/-- `get_remote_client` on an address attempts ssh to that address only. -/
theorem getRemoteClient_sshTo (a : String) (username privateKey : Option String) :
    Preserves (ExtendsBy (SshTo a)) (getRemoteClient (.ip a) username privateKey) := by
  have hS := stable_sshTo a
  simp only [getRemoteClient, sshIp, Test.pure_bind]
  refine Preserves.bind hS (Preserves.note_extends _ (by simp [SshTo, sshAddress])) fun _ =>
    Preserves.bind hS (Preserves.conf hS) fun cfg =>
    Preserves.bind hS (Preserves.getDM hS _ (keypairPrivateKey_preserves hS)) fun _ =>
    Preserves.bind hS (Preserves.note_extends _ (by simp [SshTo, sshAddress])) fun _ =>
    Preserves.bind hS ?_ fun _ => Preserves.pure' hS _
  refine Preserves.tryCatch hS (Preserves.bind hS (Preserves.call_extends _ fun _ => by
    simp [SshTo, sshAddress]) fun _ => Preserves.pure' hS _) fun e => ?_
  cases e
  case sshTimeout =>
    exact Preserves.bind hS (logNetDebug_diagnosticOnly.noSsh.mono_extends
      fun _ h => h.sshTo) fun _ => Preserves.throw' hS _
  all_goals exact Preserves.throw' hS _

/-- A negative check pings and attempts no ssh session. -/
theorem checkVmConnectivity_noSsh (ip : String) (username privateKey : Option String) :
    Preserves (ExtendsBy NoSsh) (checkVmConnectivity ip username privateKey false) := by
  have hS := stable_noSsh
  simp only [checkVmConnectivity, pingIpAddress, Bool.false_eq_true, if_false]
  exact Preserves.bind hS (Preserves.bind hS (Preserves.call_extends _ fun _ => by
    simp [NoSsh, attemptsSsh]) fun _ => Preserves.pure' hS _) fun _ =>
    Preserves.bind hS (Preserves.assertTrue hS _ _) fun _ => Preserves.pure' hS _

/-- A positive check attempts ssh only to its address, and only after its ping got
through. -/
theorem checkVmConnectivity_pinged (ip : String) (username privateKey : Option String) :
    Preserves (ExtendsBy PingedBeforeSsh) (checkVmConnectivity ip username privateKey true) :=
  ⟨fun w => by
    simp only [checkVmConnectivity, pingIpAddress, if_true, Test.bind_assoc, bind_call_apply]
    rcases w.env w.log (.ping ip) with e | r
    · exact ⟨_, rfl, NoSsh.pinged (by simp [NoSsh, attemptsSsh])⟩
    dsimp only
    simp only [Test.pure_bind, Test.bind_apply, assertTrue_apply]
    cases hr : pingResult true r
    · exact ⟨_, rfl, NoSsh.pinged (by simp [NoSsh, attemptsSsh])⟩
    simp only [Test.pure_apply, if_true]
    obtain ⟨es, hl, hs⟩ := (getRemoteClient_sshTo ip username privateKey).run
      (w.record (.ping ip) (.ok r))
    refine ⟨⟨.ping ip, .ok r⟩ :: es, ?_, PingedBeforeSsh.ping_cons hr hs⟩
    revert hl
    rcases getRemoteClient (.ip ip) username privateKey (w.record (.ping ip) (.ok r)) with
      ⟨_ | _, w'⟩ <;> simp⟩

/-- Both checks add nothing to what `check_vm_connectivity` may do but diagnostics. -/
theorem checks_preserve {P : List Event → Prop} (hS : Stable (ExtendsBy P))
    (happ : ∀ a b, P a → P b → P (a ++ b)) (hno : ∀ es, NoSsh es → P es)
    {username privateKey : Option String} {shouldConnect : Bool}
    (hvm : ∀ ip, Preserves (ExtendsBy P) (checkVmConnectivity ip username privateKey shouldConnect))
    (ip : String) (server : Attrs) (servers : List Attrs) :
    Preserves (ExtendsBy P)
        (checkPublicNetworkConnectivity ip username privateKey shouldConnect servers) ∧
      Preserves (ExtendsBy P)
        (checkTenantNetworkConnectivity server username privateKey shouldConnect servers) := by
  refine ⟨⟨fun w => (checkPublicNetworkConnectivity_guarded ip username privateKey
    shouldConnect servers w).extends happ hno ((hvm ip).run w)⟩, ⟨fun w => ?_⟩⟩
  cases hr : w.conf.tenantNetworksReachable
  · simpa [checkTenantNetworkConnectivity, hr] using hS.refl w
  · refine (checkTenantNetworkConnectivity_guarded server username privateKey shouldConnect
      servers w hr).extends happ hno ?_
    exact (Preserves.forM hS (fun net => Preserves.forM hS (fun ip => hvm ip) net.2)
      server.networks).run w

/-- **No ssh session without a ping that got through.**  For every address, server,
networks map and answer of the environment: with `should_connect=False`, neither
`check_vm_connectivity`, `check_public_network_connectivity` nor
`_check_tenant_network_connectivity` attempts an ssh session, in their handlers
included; with `should_connect=True`, each ssh attempt they make is to an address for
which `ping_ip_address` returned `True` earlier in the same call. -/
theorem ssh_only_after_ping (ip : String) (server : Attrs) (username privateKey : Option String)
    (servers : List Attrs) (w : World) :
    ExtendsBy NoSsh w (checkVmConnectivity ip username privateKey false w).2 ∧
    ExtendsBy PingedBeforeSsh w (checkVmConnectivity ip username privateKey true w).2 ∧
    ExtendsBy NoSsh w (checkPublicNetworkConnectivity ip username privateKey false servers w).2 ∧
    ExtendsBy PingedBeforeSsh w
      (checkPublicNetworkConnectivity ip username privateKey true servers w).2 ∧
    ExtendsBy NoSsh w
      (checkTenantNetworkConnectivity server username privateKey false servers w).2 ∧
    ExtendsBy PingedBeforeSsh w
      (checkTenantNetworkConnectivity server username privateKey true servers w).2 := by
  obtain ⟨hpubF, htenF⟩ := checks_preserve stable_noSsh (fun _ _ => NoSsh.append)
    (fun _ h => h) (checkVmConnectivity_noSsh · username privateKey) ip server servers
  obtain ⟨hpubT, htenT⟩ := checks_preserve stable_pingedBeforeSsh
    (fun _ _ => PingedBeforeSsh.append) (fun _ h => h.pinged)
    (checkVmConnectivity_pinged · username privateKey) ip server servers
  exact ⟨(checkVmConnectivity_noSsh ip username privateKey).run w,
    (checkVmConnectivity_pinged ip username privateKey).run w, hpubF.run w, hpubT.run w,
    htenF.run w, htenT.run w⟩

/-! ## What escapes a positive check -/

end Tempest
