import PaperboatTunnel.ConnectorProtocol.ClientSession

/-!
# `Consumer` — a snapshot or a delta comes in, and its acknowledgement goes out

`Consumer.HandleFrame` of `internal/connectorprotocol/consumer.go` for the two messages that a session applies. The
frame is taken as decoded; of `NewFrame` only the check of the acknowledgement is left, whose document is short and
has no key twice. Other calls run between the sections, so each section has its own session.
-/

namespace PaperboatTunnel.ConnectorProtocol

open GoTime ClientSession

/-- The code of the typed error that `errors.As` finds: the outermost one, and of joined errors the first. -/
def Error.typed : Error → Option Code
  | .coded code _ _ | .caused code _ _ _ => some code
  | .text _ => none
  | .abortFailed cleanup => cleanup.typed
  | .joined primary cleanup => primary.typed <|> cleanup.typed

/-- `CodeOf`; `unset` is the empty text. -/
def codeOf (err : Option Error) : Code := (err.bind Error.typed).getD .unset

def ClientSession.rejectionAck (c : ClientSession) (kind : AckKind) (generation : UInt64) (contentHash : String)
    (code : Code) : Ack :=
  { c.makeAckLocked kind .rejected generation contentHash with code }

namespace ClientSession.ApplyCall

def contentHash : ApplyCall → String
  | .snapshot s => s.contentHash
  | .delta d => d.contentHash

/-- The check of `validateMessagePayload`. -/
def validateBound (codec : PayloadCodec) : ApplyCall → Option Error
  | .snapshot s => s.validateBound codec
  | .delta d => d.validateBound codec

end ClientSession.ApplyCall

namespace Consumer

/-- `ApplySnapshot` or `ApplyDelta` up to the applier. -/
def applyBegin (codec : PayloadCodec) (c : ClientSession) (ctx : Context) (clock : Time) :
    ApplyCall → ClientSession × Began Ack ApplyCall
  | .snapshot s => c.applySnapshotBegin codec (some ctx) s clock
  | .delta d => c.applyDeltaBegin codec (some ctx) d clock

/-- What the apply call returns, at once or after the applier has answered `o`. -/
def apply (codec : PayloadCodec) (c later : ClientSession) (ctx : Context) (message : ApplyCall)
    (clock clock' : Time) (o : PrepareOutcome) : Ack × Option Error :=
  match (applyBegin codec c ctx clock message).2 with
  | .returned ack err => (ack, err)
  | .calling call => ((later.applyFinish call o clock').value, (later.applyFinish call o clock').err)

def rejectionCode (kind : AckKind) (applyErr : Option Error) : Code :=
  if codeOf applyErr = .unset then if kind = .snapshot then .snapshotRejected else .deltaRejected
  else codeOf applyErr

/-- The end of `applyAck`: the frame of the acknowledgement, with the error of the apply call. -/
def respond (ack : Ack) (applyErr : Option Error) : Option Ack × Option Error :=
  match ack.validate, applyErr with
  | some frameErr, some applyErr => (none, some (.joined applyErr frameErr))
  | some frameErr, none => (none, some frameErr)
  | none, applyErr => (some ack, applyErr)

def applyAck (c : ClientSession) (kind : AckKind) (generation : UInt64) (contentHash : String) (ack : Ack)
    (applyErr : Option Error) : Option Ack × Option Error :=
  respond
    (if ack.validate.isSome then c.rejectionAck kind generation contentHash (rejectionCode kind applyErr) else ack)
    applyErr

/-- `HandleFrame`: the acknowledgement it answers with, if any, and its error. -/
def handleFrame (codec : PayloadCodec) (c later last : ClientSession) (ctx : Context) (message : ApplyCall)
    (clock clock' : Time) (o : PrepareOutcome) : Option Ack × Option Error :=
  match message.validateBound codec with
  | some err => (none, some err)
  | none =>
    let applied := apply codec c later ctx message clock clock' o
    applyAck last message.kind message.generation message.contentHash applied.1 applied.2

end Consumer

end PaperboatTunnel.ConnectorProtocol
