import PaperboatTunnel.ConnectorProtocol.ClientStep
import PaperboatTunnel.ConnectorProtocol.ServerStep

/-!
# `JointMachine` — a server session against a client session

One server session and one client session that talk over a network. The network keeps everything that was ever sent,
and a call that takes a message may take any of it: messages get lost, delayed, reordered and duplicated, but the
network never makes one up.

Each side sends what its operations return. The client sends a `Readiness` and a `Heartbeat` only when the call
returned without an error, and may send a rejection (`RejectionAck`) whenever it likes.
-/

namespace PaperboatTunnel.ConnectorProtocol

open GoTime TransitionSystem Option

/-! ## Messages -/

inductive ToServer where
  | ack (ack : Ack)
  | readiness (readiness : Readiness)
  | heartbeat (heartbeat : Heartbeat)
  | renewal (request : RenewalRequest)
  | drainAck (ack : DrainAck)
deriving DecidableEq

inductive ToClient where
  | welcome (welcome : Welcome)
  | snapshot (snapshot : Snapshot)
  | delta (delta : Delta)
  | heartbeatAck (ack : HeartbeatAck)
  | renewed (result : AuthResult)
  | drain (request : Drain)
deriving DecidableEq

/-- The message a server call takes from the network. -/
def ServerCall.message : ServerCall → Option ToServer
  | .handleAck _ ack _ => some (.ack ack)
  | .handleReadiness _ r _ => some (.readiness r)
  | .handleHeartbeat _ h _ => some (.heartbeat h)
  | .handleDrainAck _ ack _ => some (.drainAck ack)
  | .renew _ request _ _ _ => some (.renewal request)
  | .renewBegin _ request _ => some (.renewal request)
  | _ => none

def ClientCall.message : ClientCall → Option ToClient
  | .acceptWelcome welcome _ _ => some (.welcome welcome)
  | .applySnapshot _ snapshot _ => some (.snapshot snapshot)
  | .applyDelta _ delta _ => some (.delta delta)
  | .acceptHeartbeatAck ack _ => some (.heartbeatAck ack)
  | .applyRenewal result _ => some (.renewed result)
  | .handleDrain _ request _ => some (.drain request)
  | _ => none

def ClientReply.sends : ClientReply → List ToServer
  | .ack a _ => [.ack a]
  | .readiness r none => [.readiness r]
  | .heartbeat h none => [.heartbeat h]
  | .renewalRequest req none => [.renewal req]
  | .drainAck a _ => [.drainAck a]
  | _ => []

/-- What the server sends after a call that leaves `s`: an offer carries what the session now has pending. -/
def ServerSession.sends (s : ServerSession) (op : ServerCall) (r : Except Error ServerReply) : List ToClient :=
  match op, r with
  | .offerSnapshot .., .ok _ => s.pendingSnapshot.toList.map .snapshot
  | .offerDelta .., .ok _ => s.pendingDelta.toList.map .delta
  | _, .ok (.heartbeatAck ack) => [.heartbeatAck ack]
  | _, .ok (.drain request) => [.drain request]
  | _, .ok (.renewed result) => [.renewed result]
  | _, _ => []

/-! ## The machine -/

/-- Both sides and everything sent so far in either direction. -/
structure JointPoint where
  server : ServerPoint
  client : ClientPoint
  toServer : List ToServer
  toClient : List ToClient
deriving DecidableEq

inductive JointLabel where
  | server (l : ServerLabel)
  | client (op : ClientCall)

namespace JointPoint

/-- A message that was sent, or a rejection. -/
def reachesServer (p : JointPoint) : ToServer → Bool
  | .ack ack => p.toServer.contains (.ack ack) || ack.status == .rejected
  | message => p.toServer.contains message

variable (codec : PayloadCodec) (p : JointPoint)

def serverStep (l : ServerLabel) : Option JointPoint :=
  if l.op.message.all p.reachesServer then
    (p.server.step codec l).map (fun server =>
      { p with server, toClient := p.toClient ++ server.session.sends l.op (p.server.returned codec l) })
  else none

def clientStep (op : ClientCall) : Option JointPoint :=
  if op.message.all p.toClient.contains then
    (p.client.step codec op).map (fun client =>
      { p with client, toServer := p.toServer ++ (p.client.returned codec op).sends })
  else none

def step : JointLabel → Option JointPoint
  | .server l => p.serverStep codec l
  | .client op => p.clientStep codec op

/-- A session that `Accept` has just returned, with its welcome and its first snapshot on the way to a new
    client session. -/
def Start : Prop :=
  (∃ (sv : Server) (reg : SessionRegistry) (ctx : Option Context) (hello : Hello) (env : AcceptEnv)
    (w : Welcome) (snapshot : Snapshot),
    (sv.accept codec reg ctx hello env).2 = .ok (p.server.session, w, snapshot)
      ∧ p.server.renewals = [] ∧ p.toClient = [.welcome w, .snapshot snapshot]) ∧
  p.client.Start ∧ p.toServer = []

variable {codec : PayloadCodec} {p q : JointPoint}

theorem serverStep_cases {l : ServerLabel} (h : p.step codec (.server l) = some q) :
    p.server.step codec l = some q.server ∧ (∀ m ∈ l.op.message, p.reachesServer m = true) ∧
      q.client = p.client ∧ q.toServer = p.toServer ∧
      q.toClient = p.toClient ++ q.server.session.sends l.op (p.server.returned codec l) := by
  replace h : p.serverStep codec l = some q := h
  unfold serverStep at h
  split at h
  · next hmsg =>
    obtain ⟨_, hserver, rfl⟩ := map_eq_some_iff.mp h
    refine ⟨hserver, fun m hm => ?_, rfl, rfl, rfl⟩
    rw [mem_def.mp hm] at hmsg
    exact hmsg
  · cases h

theorem clientStep_cases {op : ClientCall} (h : p.step codec (.client op) = some q) :
    p.client.step codec op = some q.client ∧ (∀ m ∈ op.message, m ∈ p.toClient) ∧
      q.server = p.server ∧ q.toClient = p.toClient ∧
      q.toServer = p.toServer ++ (p.client.returned codec op).sends := by
  replace h : p.clientStep codec op = some q := h
  unfold clientStep at h
  split at h
  · next hmsg =>
    obtain ⟨_, hclient, rfl⟩ := map_eq_some_iff.mp h
    refine ⟨hclient, fun m hm => ?_, rfl, rfl, rfl⟩
    rw [mem_def.mp hm] at hmsg
    exact List.contains_iff_mem.mp hmsg
  · cases h

theorem Start.accepted {codec : PayloadCodec} {p : JointPoint} (h : p.Start codec) :
    ∃ sv hello env w snapshot, Accepted sv hello env p.server.session w snapshot
      ∧ p.toClient = [.welcome w, .snapshot snapshot] := by
  obtain ⟨⟨sv, _, _, hello, env, w, snapshot, hacc, _, hsent⟩, _, _⟩ := h
  exact ⟨sv, hello, env, w, snapshot, Server.accepted_of_ok hacc, hsent⟩

end JointPoint

end PaperboatTunnel.ConnectorProtocol

/-! ## The connector's session of the tests, and both sides -/

namespace PaperboatTunnel.ConnectorProtocol.Sample

open GoTime Fencing TransitionSystem

variable (c : Config)

/-- The connector's session before the welcome; the fallback is never reached. -/
def client : ClientSession :=
  match newClientSession { hello := hello 1 } now with
  | .ok c => c
  | .error _ => { config := { hello := hello 1 }, auth := auth 1 }

theorem client_start : ClientPoint.Start { session := client } := by
  have hok : (newClientSession { hello := hello 1 } now).isOk = true := by decide +kernel
  cases hnew : newClientSession { hello := hello 1 } now with
  | error => rw [hnew] at hok; cases hok
  | ok =>
    refine ⟨{ hello := hello 1 }, now, ?_, rfl, rfl, rfl⟩
    show newClientSession { hello := hello 1 } now = .ok client
    unfold client
    rw [hnew]

/-- The configuration bound to the sample session, as the server sends it. -/
def Config.bound : Snapshot := bindSnapshot c.snapshot "acct_1" "connector_1" "sess_1" 1

/-- `ApplySnapshot` of a configuration, with `h` as the prepared object. -/
def stages (h : Handle) : List ClientCall :=
  [.applySnapshot (some {}) c.bound now, .applyFinish (.snapshot c.bound) { prepared := some h } now]

/-- `MarkReadyContext` of that configuration, which `Activate` accepts. -/
def promotes (h : Handle) : List ClientCall :=
  [.markReady (some {}) true true true now, .readyFinish ⟨readiness c, h, c.bound⟩ {} now]

/-- The delta from one configuration to the next, as the server sends it. -/
def deltaTo (c c' : Config) : Delta :=
  { accountID := "acct_1", tunnelID := "tunnel_1", connectorID := "connector_1", sessionID := "sess_1",
    processGeneration := 1, previousGeneration := c.generation, generation := c'.generation,
    previousContentHash := c.hash, contentHash := c'.hash, payload := c'.payload }

/-- The connector is welcomed and brings its first configuration up. -/
def bootstrap : List ClientCall := .acceptWelcome (session c).welcome now now :: (stages c 0 ++ promotes c 0)

def clientAfter (p : ClientPoint) (ops : List ClientCall) : ClientPoint :=
  (exec (ClientPoint.step sampleCodec) p ops).getD p

/-- The two sessions, with the welcome and the first snapshot on the wire. -/
def joint : JointPoint where
  server := ⟨session c, []⟩
  client := { session := client }
  toServer := []
  toClient := .welcome (session c).welcome :: (session c).pendingSnapshot.toList.map .snapshot

theorem joint_start (h : (acceptance c).2.isOk) : (joint c).Start sampleCodec := by
  cases hacc : (acceptance c).2 with
  | error => rw [hacc] at h; cases h
  | ok found =>
    obtain ⟨s, w, snapshot⟩ := found
    have hs : session c = s := by unfold session; rw [hacc]
    have haccepted : s = server.session s.ref s.auth s.lease w snapshot now.utc :=
      (Server.accepted_of_ok hacc).session
    refine ⟨⟨server, FencedMap.empty, some {}, hello 1, env 1 "sess_1" c, w, snapshot, ?_, rfl, ?_⟩,
      client_start, rfl⟩
    · show (acceptance c).2 = .ok (session c, w, snapshot)
      rw [hs]
      exact hacc
    · show _ :: (session c).pendingSnapshot.toList.map _ = _
      rw [hs, haccepted]
      rfl

def jointAfter (p : JointPoint) (labels : List JointLabel) : JointPoint :=
  (exec (JointPoint.step sampleCodec) p labels).getD p

/-- Calls on the sample server session with first snapshot `c`. -/
def serverCalls (ops : List ServerCall) : List JointLabel := ops.map (fun op => .server ⟨reg c, op⟩)

end PaperboatTunnel.ConnectorProtocol.Sample
