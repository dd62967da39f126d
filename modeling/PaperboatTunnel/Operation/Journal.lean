import PaperboatTunnel.Lib.GoHex
import PaperboatTunnel.Lib.GoMap
import PaperboatTunnel.Lib.GoStrings
import PaperboatTunnel.Lib.GoTime
import PaperboatTunnel.Lib.Transition

/-!
# `Journal` — the journal of operations

`internal/operation/journal.go`. A journal binds an operation id and the id of a single-use credential (its JTI) to
the hash of a request and the decision on it. An entry is filed under both ids, and kept until `RemoveExpired` finds
it expired. SHA-256 is a parameter. The order of the maps makes no difference to `RemoveExpired` and `Snapshot`.
-/

namespace PaperboatTunnel.Operation

open GoTime TransitionSystem

/-! ## Errors and requests -/

/-- `edgeerrors.Error`; none of these wraps a cause. -/
structure EdgeError where
  (code message recovery : String)
deriving DecidableEq

def errInvalid : EdgeError := ⟨"operation_conflict", "operation is invalid", "create a new valid operation"⟩

def errReplay : EdgeError := ⟨"credential_replayed", "credential was already consumed", "request a fresh credential"⟩

def errFull : EdgeError :=
  ⟨"store_capacity_exceeded", "operation journal is at capacity", "restore journal capacity before retrying"⟩

def maxDocumentBytes : Nat := 1 <<< 20

def sha256Size : Nat := 32

/-- `[sha256.Size]byte`. -/
abbrev Digest : Type := { bytes : List UInt8 // bytes.length = sha256Size }

structure Request where
  (operationID jti : String)
  (canonical decision : List UInt8)
  retainUntil : Time
deriving DecidableEq

structure Outcome where
  decision : List UInt8
  duplicate : Bool := false
deriving DecidableEq

structure Record where
  (operationID jti requestHash : String)
  decision : List UInt8
  retainUntil : Time
deriving DecidableEq

structure Entry where
  (operationID jti : String)
  requestHash : Digest
  decision : List UInt8
  retainUntil : Time
deriving DecidableEq

/-! ## The journal -/

structure Journal where
  maxEntries : Int
  (byOperation byJTI : GoMap String Entry := ∅)

/-- The first check of `Consume`, which does not look at the journal. -/
def Request.refused (request : Request) (now : Time) : Bool :=
  request.operationID == "" || request.jti == "" || request.canonical.length == 0
    || request.canonical.length > maxDocumentBytes || request.decision.length > maxDocumentBytes
    || !request.retainUntil.after now

def Request.entry (request : Request) (hash : Digest) : Entry :=
  { operationID := request.operationID, jti := request.jti, requestHash := hash,
    decision := request.decision, retainUntil := request.retainUntil }

/-- The answer to a request that names an entry of the journal. -/
def duplicate (existing : Entry) (request : Request) (hash : Digest) : Except EdgeError Outcome :=
  if existing.operationID ≠ request.operationID ∨ existing.jti ≠ request.jti ∨ existing.requestHash ≠ hash then
    .error errReplay
  else .ok { decision := existing.decision, duplicate := true }

/-- `Restore` refuses a record with these faults; the hash is checked apart. -/
def Record.refused (record : Record) : Bool :=
  record.operationID == "" || record.jti == "" || record.decision.length > maxDocumentBytes
    || !record.retainUntil.after Time.unixEpoch

def Entry.record (value : Entry) : Record :=
  { operationID := value.operationID, jti := value.jti,
    requestHash := GoHex.encodeToString value.requestHash.val, decision := value.decision,
    retainUntil := value.retainUntil }

/-- The hash of a record, when it is the hexadecimal text of a digest. -/
def Record.digest (record : Record) : Option Digest :=
  match GoHex.decodeString record.requestHash with
  | none => none
  | some raw => if h : raw.length = sha256Size then some ⟨raw, h⟩ else none

def Record.entry (record : Record) (hash : Digest) : Entry :=
  { operationID := record.operationID, jti := record.jti, requestHash := hash,
    decision := record.decision, retainUntil := record.retainUntil }

namespace Journal

variable (sha256 : List UInt8 → Digest) (j : Journal)

/-- `NewJournal`. -/
def new (maxEntries : Int) : Except EdgeError Journal :=
  if maxEntries < 1 then .error errInvalid else .ok { maxEntries }

def file (created : Entry) : Journal :=
  { j with byOperation := j.byOperation.insert created.operationID created,
           byJTI := j.byJTI.insert created.jti created }

def full : Bool := decide (j.maxEntries ≤ j.byOperation.entries.length)

def consume (now : Time) (request : Request) : Journal × Except EdgeError Outcome :=
  if request.refused now then (j, .error errInvalid)
  else
    let hash := sha256 request.canonical
    match j.byOperation.lookup request.operationID with
    | some existing => (j, duplicate existing request hash)
    | none =>
      match j.byJTI.lookup request.jti with
      | some existing => (j, duplicate existing request hash)
      | none =>
        if j.full then (j, .error errFull)
        else
          let created := request.entry hash
          (j.file created, .ok { decision := created.decision })

/-- The loop of `RemoveExpired` over the entries that are still to be visited. -/
def removeExpiredLoop (now : Time) : List (Sigma (fun _ : String => Entry)) → Journal → Journal × Nat
  | [], j => (j, 0)
  | ⟨id, existing⟩ :: rest, j =>
    if now.before existing.retainUntil then removeExpiredLoop now rest j
    else
      let removed := removeExpiredLoop now rest
        { j with byOperation := j.byOperation.erase id, byJTI := j.byJTI.erase existing.jti }
      (removed.1, removed.2 + 1)

def removeExpired (now : Time) : Journal × Nat := removeExpiredLoop now j.byOperation.entries j

def snapshot : List Record := GoStrings.sortBy Record.operationID (j.byOperation.values.map Entry.record)

def restoreLoop : List Record → Journal → Except EdgeError Journal
  | [], j => .ok j
  | record :: rest, j =>
    if record.refused then .error errInvalid
    else
      match record.digest with
      | none => .error errInvalid
      | some hash =>
        if (j.byOperation.lookup record.operationID).isSome ∨ (j.byJTI.lookup record.jti).isSome ∨ j.full then
          .error errInvalid
        else
          restoreLoop rest (j.file (record.entry hash))

def restore (records : List Record) (maxEntries : Int) : Except EdgeError Journal :=
  match new maxEntries with
  | .error err => .error err
  | .ok j => restoreLoop records j

/-! ## The machine -/

/-- The calls on a journal; `reload` puts the journal restored from its snapshot in its place. -/
inductive Call where
  | consume (now : Time) (request : Request)
  | removeExpired (now : Time)
  | reload
deriving DecidableEq

def Call.time : Call → Option Time
  | .consume now _ => some now
  | .removeExpired now => some now
  | .reload => none

inductive Result where
  | consumed (outcome : Except EdgeError Outcome)
  | removed (count : Nat)
  | reloaded (records : List Record) (err : Option EdgeError)

def apply : Call → Journal × Result
  | .consume now request =>
    let consumed := j.consume sha256 now request
    (consumed.1, .consumed consumed.2)
  | .removeExpired now =>
    let removed := j.removeExpired now
    (removed.1, .removed removed.2)
  | .reload =>
    match restore j.snapshot j.maxEntries with
    | .ok restored => (restored, .reloaded j.snapshot none)
    | .error err => (j, .reloaded j.snapshot (some err))

def results (sha256 : List UInt8 → Digest) : Journal → List Call → List Result
  | _, [] => []
  | j, call :: calls => (j.apply sha256 call).2 :: results sha256 (j.apply sha256 call).1 calls

end Journal

/-- A journal and the time of the last call. -/
structure State where
  journal : Journal
  clock : Time := Time.unixEpoch

/-- One call; times start at the Unix epoch and never go back. -/
def step (sha256 : List UInt8 → Digest) (s : State) (call : Journal.Call) : Option State :=
  let now := call.time.getD s.clock
  if now.before s.clock then none else some { journal := (s.journal.apply sha256 call).1, clock := now }

end PaperboatTunnel.Operation
