import Tempest.NetworkFactories
import Tempest.Connectivity
import Tempest.Poll
import Mathlib.Data.List.Chain

/-!
# The polled network checks

Two checks of `NetworkScenarioTest` poll the cloud through `call_until_true`:
`check_floating_ip_status` (lines 692-713) refreshes a floating IP until it reaches a
status and then asserts the status it holds, and `_check_remote_connectivity`
(lines 739-760) pings an address from an ssh session until the ping has the outcome the
test expects.  Beside them sit the helpers that move a floating IP between ports,
`_associate_floating_ip` and `_disassociate_floating_ip` (lines 678-690), and
`_ssh_to_server` (lines 944-948).

`refresh()` of `check_floating_ip_status` updates the floating IP object in place, and
the assertion after the poll reads the status the object then holds.  So the poll is
modelled with the object passed from attempt to attempt.

* `checkFloatingIpStatus_trace`: the check reads the clock once, then refreshes the
  floating IP at most once per attempt, each refresh showing the floating IP the one
  before returned, stops at the first refresh that shows the status, and passes exactly
  when the status the object last took is the target; when no attempt fits before the
  deadline, that is the status the object came with;
* `checkRemoteConnectivity_trace`: the check pings only the given address from the given
  session, stops at the first ping with the expected outcome, and returns that outcome;
  `SSHExecCommandFailed` is the one exception it turns into an answer;

`LOG` calls and the text of the status assertion, which formats the floating IP object,
are left out.
-/

namespace Tempest

/-! ## The floating IP helpers -/

/-- Modelled from the spec: `refresh()` of a `Deletable…` resource (not under src/)
shows the resource again and takes the reply's attributes. -/
def refreshFloatingIp (floatingIp : Attrs) : Test Attrs := do
  let r ← call (.show ⟨.floatingIp, floatingIp.id⟩)
  pure r.body

/-- Modelled from the spec: `update(port_id=…)` of a `DeletableFloatingIp` (not under
src/) sends the update and takes the reply's attributes. -/
def updateFloatingIp (floatingIp : Attrs) (portId : Option String) : Test Attrs := do
  let r ← call (.update ⟨.floatingIp, floatingIp.id⟩ [("port_id", pyStr portId)])
  pure r.body

/-- **`NetworkScenarioTest._associate_floating_ip`** (lines 678-682). -/
def associateFloatingIp (floatingIp server : Attrs) : Test Attrs := do
  let portId ← getServerPortId server none
  let floatingIp ← updateFloatingIp floatingIp (some portId)
  assertEqual (some portId) floatingIp.portId
  pure floatingIp

/-- **`NetworkScenarioTest._disassociate_floating_ip`** (lines 684-690). -/
def disassociateFloatingIp (floatingIp : Attrs) : Test Attrs := do
  let floatingIp ← updateFloatingIp floatingIp none
  assertTrue floatingIp.portId.isNone "assertIsNone"
  pure floatingIp

/-- The loop of `call_until_true(refresh, …)` in `check_floating_ip_status`, with
`attempts` attempts left: each `refresh()` refreshes the floating IP object and compares
its status with `status`. -/
def checkFloatingIpStatus.poll (status : String) : Attrs → Nat → Test Attrs
  | floatingIp, 0 => pure floatingIp
  | floatingIp, attempts + 1 => do
    let floatingIp ← refreshFloatingIp floatingIp
    if status = floatingIp.status then pure floatingIp
    else checkFloatingIpStatus.poll status floatingIp attempts

/-- **`NetworkScenarioTest.check_floating_ip_status`** (lines 692-713). -/
def checkFloatingIpStatus (floatingIp : Attrs) (status : String) : Test Unit := do
  let cfg ← conf
  let attempts ← clockAttempts cfg.networkBuildTimeout cfg.networkBuildInterval
  let floatingIp ← checkFloatingIpStatus.poll status floatingIp attempts
  assertEqual status floatingIp.status

/-! ## Pinging from a server -/

/-- `ping_remote()` of `_check_remote_connectivity`: `source.ping_host(dest)` runs `ping`
over the session; `SSHExecCommandFailed` means the ping failed. -/
def checkRemoteConnectivity.pingRemote (source : RemoteClient) (dest : String)
    (shouldSucceed : Bool) : Test Bool :=
  tryCatch (do let _ ← call (.action "ping_host" [source.ip, dest]); pure shouldSucceed)
    fun e => if e = .other "SSHExecCommandFailed" then pure (!shouldSucceed) else throw e

/-- **`NetworkScenarioTest._check_remote_connectivity`** (lines 739-760). -/
def checkRemoteConnectivity (source : RemoteClient) (dest : String) (shouldSucceed : Bool) :
    Test Bool := do
  let cfg ← conf
  callUntilTrueM (checkRemoteConnectivity.pingRemote source dest shouldSucceed)
    cfg.pingTimeout 1

/-- **`NetworkScenarioTest._ssh_to_server`** (lines 944-948). -/
def sshToServer (server : Attrs) (privateKey : String) : Test RemoteClient := do
  let cfg ← conf
  getRemoteClient (.server server) (some cfg.imageSshUser) (some privateKey)

/-! ## What the floating IP check logs -/

/-- The floating IP object after the refreshes that logged `es`: the attributes of the
last reply, or, with no refresh, the object as it was given. -/
def seenAfter (floatingIp : Attrs) (es : List Event) : Except Exc Attrs :=
  (es.getLast?.map fun ev => ev.reply.map Reply.body).getD (.ok floatingIp)

/-- After an answered refresh, the object is what the later refreshes leave of its reply. -/
theorem seenAfter_cons_ok (floatingIp : Attrs) (c : Call) (r : Reply) (es : List Event) :
    seenAfter floatingIp (⟨c, .ok r⟩ :: es) = seenAfter r.body es := by
  cases es <;> simp [seenAfter, Except.map, List.getLast?_cons]

/-- One refresh after another: the first was answered with the floating IP in another
status than `status`, and the second shows the floating IP that answer named. -/
def Refreshed (status : String) (e₁ e₂ : Event) : Prop :=
  ∃ r, e₁.reply = .ok r ∧ r.body.status ≠ status ∧ e₂.call = .show ⟨.floatingIp, r.body.id⟩

/-- What a run of the poll with `attempts` attempts left may log, ending with `out`:
at most one refresh per attempt; the first shows the floating IP given, each later one
the floating IP the one before returned, in another status; and the object as the
refreshes left it. -/
def RefreshTrace (status : String) (floatingIp : Attrs) (attempts : Nat) (es : List Event)
    (out : Except Exc Attrs) : Prop :=
  es.length ≤ attempts ∧ (∀ ev ∈ es.head?, ev.call = .show ⟨.floatingIp, floatingIp.id⟩) ∧
    es.Chain' (Refreshed status) ∧ out = seenAfter floatingIp es

/-- **The poll refines `RefreshTrace`**, from every floating IP and whatever the cloud
answers. -/
theorem poll_refreshTrace (status : String) :
    ∀ attempts floatingIp, LogsAs (RefreshTrace status floatingIp attempts)
      (checkFloatingIpStatus.poll status floatingIp attempts)
  | 0, floatingIp => fun w =>
    ⟨rfl, [], by simp [checkFloatingIpStatus.poll], by simp [RefreshTrace, seenAfter,
      checkFloatingIpStatus.poll]⟩
  | attempts + 1, floatingIp => fun w => by
    simp only [checkFloatingIpStatus.poll, refreshFloatingIp, Test.bind_assoc,
      bind_call_apply, Test.pure_bind]
    rcases hr : w.env w.log (.show ⟨.floatingIp, floatingIp.id⟩) with e | r
    · exact ⟨rfl, _, rfl, by simp [RefreshTrace, seenAfter, Except.map]⟩
    · by_cases hs : status = r.body.status
      · simp only [hs, if_true, Test.pure_apply]
        exact ⟨rfl, _, rfl, by simp [RefreshTrace, seenAfter, Except.map]⟩
      · simp only [hs, if_false]
        obtain ⟨hc, es, hlog, hlen, hhead, hchain, hout⟩ :=
          poll_refreshTrace status attempts r.body (w.record _ (.ok r))
        refine ⟨hc, ⟨.show ⟨.floatingIp, floatingIp.id⟩, .ok r⟩ :: es, by simp [hlog],
          by simpa using hlen, by simp, List.chain'_cons'.2 ⟨fun ev hev => ?_, hchain⟩,
          by rw [hout, seenAfter_cons_ok]⟩
        exact ⟨r, rfl, Ne.symm hs, hhead ev hev⟩

/-- **How `check_floating_ip_status` runs.**  Whatever the cloud answers, the check reads
the clock once, for `CONF.network.build_timeout` seconds `build_interval` apart, then
refreshes the floating IP at most once per attempt that starts before the deadline: the
first refresh shows the floating IP given, and each later one the floating IP the refresh
before returned, which was in another status, so the poll stops at the first refresh
that saw the target; and the check passes exactly when the floating IP object holds the
target status after the refreshes, the status it came with when none was made. -/
theorem checkFloatingIpStatus_trace (floatingIp : Attrs) (status : String) (w : World) :
    ∃ c es, (checkFloatingIpStatus floatingIp status w).2.log =
        w.log ++ ⟨.clock w.conf.networkBuildTimeout w.conf.networkBuildInterval, .ok c⟩ :: es ∧
      es.length ≤ c.answered.length ∧
      (∀ ev ∈ es.head?, ev.call = .show ⟨.floatingIp, floatingIp.id⟩) ∧
      es.Chain' (Refreshed status) ∧
      ((checkFloatingIpStatus floatingIp status w).1 = .ok () ↔
        (seenAfter floatingIp es).map Attrs.status = .ok status) := by
  simp only [checkFloatingIpStatus, clockAttempts, conf_apply, Test.bind_apply]
  set c :=
    (w.env w.log (.clock w.conf.networkBuildTimeout w.conf.networkBuildInterval)).toOption.getD {}
  obtain ⟨-, es, hlog, hlen, hhead, hchain, hout⟩ :=
    poll_refreshTrace status c.answered.length floatingIp
      (w.record (.clock w.conf.networkBuildTimeout w.conf.networkBuildInterval) (.ok c))
  rcases hp : checkFloatingIpStatus.poll status floatingIp c.answered.length _ with
    ⟨_ | fip, w'⟩ <;> rw [hp] at hlog hout <;> dsimp only at hlog hout <;>
    refine ⟨c, es, ?_, hlen, hhead, hchain, ?_⟩
  · simp [hlog]
  · simp [← hout, Except.map]
  all_goals by_cases hs : status = fip.status <;>
    simp [← hout, hlog, Except.map, assertEqual, assertTrue, hs, eq_comm]

/-! ## What the remote ping logs -/

/-- What one `ping_remote()` ends with, given the reply to its `ping_host`: the expected
answer when the ping ran, its negation on `SSHExecCommandFailed`, and any other exception
raised again. -/
def pingRemoteOutcome (shouldSucceed : Bool) : Except Exc Reply → Except Exc Bool
  | .ok _ => .ok shouldSucceed
  | .error e => if e = .other "SSHExecCommandFailed" then .ok (!shouldSucceed) else .error e

/-- One `ping_remote()` makes its one `ping_host` call and ends as `pingRemoteOutcome` says. -/
theorem pingRemote_oneCall (source : RemoteClient) (dest : String) (shouldSucceed : Bool) :
    LogsAs (OneCall (· = .action "ping_host" [source.ip, dest]) (pingRemoteOutcome shouldSucceed))
      (checkRemoteConnectivity.pingRemote source dest shouldSucceed) := fun w => by
  simp only [checkRemoteConnectivity.pingRemote, Test.tryCatch_apply, Test.bind_apply,
    call_apply]
  rcases w.env w.log (.action "ping_host" [source.ip, dest]) with e | r
  · by_cases he : e = .other "SSHExecCommandFailed" <;>
      simp [he, OneCall, pingRemoteOutcome]
  · simp [OneCall, pingRemoteOutcome]

/-- **How `_check_remote_connectivity` runs.**  Whatever the cloud answers, the check
reads the clock once, for `CONF.compute.ping_timeout` seconds one apart, then runs
`ping_host` of `dest` from `source` at most once per attempt that starts before the
deadline and no other call; every ping but the last had the unexpected outcome; and the
check ends as the last ping's outcome says: `True` when it was the expected one, `False`
when it was not or no attempt fitted, and the exception itself when `ping_host` raised
anything but `SSHExecCommandFailed`. -/
theorem checkRemoteConnectivity_trace (source : RemoteClient) (dest : String)
    (shouldSucceed : Bool) (w : World) :
    ∃ c es, (checkRemoteConnectivity source dest shouldSucceed w).2.log =
        w.log ++ ⟨.clock w.conf.pingTimeout 1, .ok c⟩ :: es ∧
      es.length ≤ c.answered.length ∧
      (∀ ev ∈ es, ev.call = .action "ping_host" [source.ip, dest]) ∧
      (∀ ev ∈ es.dropLast, pingRemoteOutcome shouldSucceed ev.reply = .ok false) ∧
      (checkRemoteConnectivity source dest shouldSucceed w).1 =
        (es.getLast?.map fun ev => pingRemoteOutcome shouldSucceed ev.reply).getD (.ok false) := by
  let c := (w.env w.log (.clock w.conf.pingTimeout 1)).toOption.getD {}
  obtain ⟨-, es, hlog, htr⟩ :=
    callUntilTrueLoop_trace (pingRemote_oneCall source dest shouldSucceed)
    c.answered.length (w.record (.clock w.conf.pingTimeout 1) (.ok c))
  obtain ⟨hlen, hping, hno, hout⟩ := htr.oneCall
  exact ⟨c, es, by simpa [checkRemoteConnectivity, callUntilTrueM, clockAttempts] using hlog,
    hlen, hping, hno, by simpa [checkRemoteConnectivity, callUntilTrueM, clockAttempts] using hout⟩

end Tempest
