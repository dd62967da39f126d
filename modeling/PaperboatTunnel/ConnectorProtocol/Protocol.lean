import PaperboatTunnel.Lib.GoBase64
import PaperboatTunnel.Lib.GoTime

/-!
# `Protocol` — codes, errors, identifiers and negotiation

The part of `internal/connectorprotocol/protocol.go` that every message rests on: the code and reason vocabularies,
the typed error, the syntactic checks, and the negotiation of capabilities and version.

The string-typed enumerations of the source become inductive types. Go's empty string is `unset`; a string outside the
vocabulary behaves like it, because every check compares with the listed constants only.
-/

namespace PaperboatTunnel.ConnectorProtocol

open GoTime

/-! ## Limits -/

def protocolName : String := "paperboat.connector"
def protocolVersion : String := "1.0"

def maxSnapshotBytes : Nat := 4 <<< 20
def maxDeltaBytes : Nat := 1 <<< 20
def maxCapabilities : Nat := 64
def maxCapabilityBytes : Nat := 128
def maxIdentifierBytes : Nat := 128
def maxProofBytes : Nat := 16 <<< 10
def maxNonceBytes : Nat := 128
def maxActiveStreams : UInt32 := 1048576

def maxClockSkew : Duration := 2 * Duration.minute
def defaultLease : Duration := 45 * Duration.second
def defaultHeartbeat : Duration := 5 * Duration.second
def defaultApplyTimeout : Duration := 15 * Duration.second
def defaultAbortTimeout : Duration := 5 * Duration.second
def maxLease : Duration := 24 * Duration.hour

/-! ## Codes, reasons and errors -/

inductive Code where
  | unset
  | invalidInput | malformedFrame | frameTooLarge | protocolIncompatible | capabilityMissing
  | authenticationFailed | credentialExpired | identityMismatch | sessionConflict | sessionClosed
  | leaseExpired | heartbeatTimeout | snapshotRequired | generationGap | staleGeneration
  | contentHashMismatch | snapshotRejected | deltaRejected | notReady | canceled | staleSession
  | unsupportedMessage | drainRejected | drainTimeout | credentialRotationRejected
  | credentialRotationNotReady | credentialRotationFailed
deriving DecidableEq

def validCode (code : Code) : Bool := code != .unset

inductive DisconnectReason where
  | unset
  | protocolMismatch | capabilityMissing | malformed | authentication | credentialExpired
  | leaseExpired | heartbeatTimeout | sessionReplaced | staleGeneration | snapshotRejected
  | generationGap | credentialRotation | canceled | serverShutdown | protocolClosed
deriving DecidableEq

def validDisconnectReason (reason : DisconnectReason) : Bool := reason != .unset

/-- The errors of the package: the typed `Error` without and with a cause, a plain `errors.New` text (also
    the stand-in for an error of an external call), and the two shapes `joinCleanup` builds. -/
inductive Error where
  | coded (code : Code) (reason : DisconnectReason) (retryable : Bool)
  | caused (code : Code) (reason : DisconnectReason) (retryable : Bool) (cause : Error)
  | text (message : String)
  | abortFailed (cleanup : Error)
  | joined (primary cleanup : Error)
deriving DecidableEq

def errInvalidInput : Error := .coded .invalidInput .unset false
def errCapabilityMissing : Error := .coded .capabilityMissing .unset false
def errAuthenticationFailed : Error := .coded .authenticationFailed .unset false
def errIdentityMismatch : Error := .coded .identityMismatch .unset false

/-- `codeError`; of its base error the source only reads the code. -/
def codeError (base : Code) (reason : DisconnectReason) (retryable : Bool := false)
    (cause : Option Error := none) : Error :=
  match cause with
  | none => .coded base reason retryable
  | some cause => .caused base reason retryable cause

/-- `joinCleanup`: the primary error, extended by the error of a failed cleanup. -/
def joinCleanup : Option Error → Option Error → Option Error
  | primary, none => primary
  | none, some cleanup => some (.abortFailed cleanup)
  | some primary, some cleanup => some (.joined primary (.abortFailed cleanup))

/-! ## Identifiers, hashes, keys and proofs -/

variable (value : String)

/-- The bytes of a Go string. The patterns below are ASCII classes, which no byte of a longer character
    matches. -/
def bytes : List UInt8 := value.toByteArray.data.toList

def code (c : Char) : UInt8 := c.val.toUInt8

def digitByte (b : UInt8) : Bool := code '0' ≤ b && b ≤ code '9'
def lowerByte (b : UInt8) : Bool := code 'a' ≤ b && b ≤ code 'z'
def upperByte (b : UInt8) : Bool := code 'A' ≤ b && b ≤ code 'Z'

def alnumByte (b : UInt8) : Bool := upperByte b || lowerByte b || digitByte b

def identifierByte (b : UInt8) : Bool :=
  alnumByte b || b == code '.' || b == code '_' || b == code ':' || b == code '-'

/-- `^[A-Za-z0-9][A-Za-z0-9._:-]{0,127}$` -/
def identifierPattern : Bool :=
  match bytes value with
  | [] => false
  | b :: bs => alnumByte b && bs.length ≤ 127 && bs.all identifierByte

def validateIdentifier : Option Error :=
  if !identifierPattern value || value.utf8ByteSize > maxIdentifierBytes then
    some errInvalidInput
  else none

/-- What follows a fixed literal at the start of a string. -/
def afterLiteral (literal value : String) : Option (List UInt8) :=
  if (bytes literal).isPrefixOf (bytes value) then some ((bytes value).drop (bytes literal).length)
  else none

def lowerHexByte (b : UInt8) : Bool := digitByte b || (code 'a' ≤ b && b ≤ code 'f')

/-- `^sha256:[0-9a-f]{64}$` -/
def hashPattern : Bool :=
  match afterLiteral "sha256:" value with
  | none => false
  | some digest => digest.length == 64 && digest.all lowerHexByte

def base64URLByte (b : UInt8) : Bool := alnumByte b || b == code '_' || b == code '-'

/-- `^[A-Za-z0-9_-]{43}$` -/
def identityThumbprintPattern (value : List UInt8) : Bool := value.length == 43 && value.all base64URLByte

/-- `ValidateIdentityKey`: `keyID` is `ed25519:` followed by the thumbprint. -/
def validateIdentityKey (keyID thumbprint : String) : Option Error :=
  match afterLiteral "ed25519:" keyID with
  | none => some errInvalidInput
  | some key =>
    if !identityThumbprintPattern key || !identityThumbprintPattern (bytes thumbprint)
        || key != bytes thumbprint then
      some errInvalidInput
    else none

def isSpace (c : Char) : Bool :=
  let n := c.toNat
  (9 ≤ n && n ≤ 13) || n == 0x20 || n == 0x85 || n == 0xa0 || n == 0x1680
    || (0x2000 ≤ n && n ≤ 0x200a) || n == 0x2028 || n == 0x2029 || n == 0x202f
    || n == 0x205f || n == 0x3000

/-- `strings.TrimSpace(value) == value`. -/
def isTrimmed : Bool := !(value.toList.head?.any isSpace) && !(value.toList.getLast?.any isSpace)

/-- `strings.ContainsAny(value, "\r\n")`. -/
def hasLineBreak : Bool := (bytes value).any (fun b => b == code '\r' || b == code '\n')

def validateProof : Option Error :=
  if value.utf8ByteSize < 32 || value.utf8ByteSize > maxProofBytes
      || !isTrimmed value || hasLineBreak value then
    some errInvalidInput
  else none

/-- The nonce conditions shared by `AuthRequest.validate` and `RenewalRequest.validate`. -/
def badNonce (nonce : String) : Bool := nonce.utf8ByteSize < 16 || nonce.utf8ByteSize > maxNonceBytes
    || !isTrimmed nonce || hasLineBreak nonce

/-! ## Capabilities -/

def capabilitySnapshot : String := "config.snapshot.v1"
def capabilityDelta : String := "config.delta.v1"
def capabilityAck : String := "config.ack.v1"
def capabilityHeartbeat : String := "session.heartbeat.v1"
def capabilityRenewal : String := "auth.renew.v1"
def capabilityDrain : String := "connector.drain.v1"

def requiredCapabilities : List String :=
  [capabilitySnapshot, capabilityDelta, capabilityAck, capabilityHeartbeat, capabilityRenewal]

/-- `^[a-z][a-z0-9_.-]{1,127}$` -/
def capabilityPattern : Bool :=
  match bytes value with
  | [] => false
  | b :: bs => lowerByte b && 1 ≤ bs.length && bs.length ≤ 127
      && bs.all (fun b => lowerByte b || digitByte b || b == code '_' || b == code '.' || b == code '-')

/-- The loop of `ValidateCapabilities` over the offered values. -/
def scanCapabilities (seen : List String) : List String → Option Error
  | [] => none
  | value :: values =>
    if value.utf8ByteSize > maxCapabilityBytes || !capabilityPattern value then
      some errInvalidInput
    else if seen.contains value then some errInvalidInput
    else scanCapabilities (value :: seen) values

/-- `ValidateCapabilities`. The source ranges over a map to find a missing required capability; the
    model takes the first in the order the map is written in. -/
def validateCapabilities (values : List String) : Option Error :=
  if values.length == 0 || values.length > maxCapabilities then some errCapabilityMissing
  else match scanCapabilities [] values with
    | some err => some err
    | none =>
      match requiredCapabilities.find? (fun required => !values.contains required) with
      | some required =>
        some (codeError .capabilityMissing .capabilityMissing false
          (some (.text ("missing capability \"" ++ required ++ "\""))))
      | none => none

def negotiateCapabilities (offered supported : List String) : Except Error (List String) :=
  match validateCapabilities offered with
  | some err => .error err
  | none =>
    match validateCapabilities supported with
    | some err => .error err
    | none =>
      let selected := offered.filter supported.contains
      match validateCapabilities selected with
      | some err => .error (codeError .capabilityMissing .capabilityMissing false (some err))
      | none => .ok selected

def hasCapability (values : List String) (capability : String) : Bool := values.contains capability

/-! ## Versions -/

/-- One decimal component, as `strconv.Atoi` reads it and `strconv.Itoa` would print it again. -/
def parseVersionPart (digits : List Char) : Option Nat :=
  if digits.isEmpty || !digits.all Char.isDigit then none
  else
    let value := digits.foldl (fun n c => 10 * n + (c.toNat - '0'.toNat)) 0
    if value < 1 <<< 63 ∧ Nat.toDigits 10 value = digits then some value else none

def parseVersion : Option (Nat × Nat) :=
  match value.toList.splitOn '.' with
  | [major, minor] =>
    match parseVersionPart major, parseVersionPart minor with
    | some major, some minor => some (major, minor)
    | _, _ => none
  | _ => none

/-- `^[0-9]+\.[0-9]+$` -/
def versionPattern : Bool :=
  match value.toList.splitOn '.' with
  | [major, minor] => !major.isEmpty && !minor.isEmpty && major.all Char.isDigit && minor.all Char.isDigit
  | _ => false

def versionError (message : String) : Error :=
  codeError .protocolIncompatible .protocolMismatch false (some (.text message))

def negotiateVersion (minVersion maxVersion : String) : Except Error String :=
  if !versionPattern minVersion || !versionPattern maxVersion then
    .error (versionError "invalid version range")
  else match parseVersion minVersion, parseVersion maxVersion, parseVersion protocolVersion with
    | some (minMajor, minMinor), some (maxMajor, maxMinor), some (selectedMajor, selectedMinor) =>
      if minMajor > maxMajor || minMajor > selectedMajor
          || maxMajor < selectedMajor
          || (minMajor == selectedMajor && minMinor > selectedMinor)
          || (maxMajor == selectedMajor && maxMinor < selectedMinor) then
        .error (versionError "no compatible protocol version")
      else .ok protocolVersion
    | _, _, _ => .error (versionError "invalid protocol version")

example : negotiateVersion "1.0" "1.0" = .ok "1.0" := by decide

/-! ## Keys, thumbprints and process epochs

The checks on machine identities that the control session and the edge share. SHA-256 is a parameter:
nothing depends on what it computes.
-/

def publicKeySize : Nat := 32

/-- `IdentityThumbprint`, as the bytes of the thumbprint. -/
def identityThumbprint (sha256 : List UInt8 → List UInt8) (publicKey : List UInt8) : Except Error (List UInt8) :=
  if publicKey.length ≠ publicKeySize then .error errInvalidInput
  else
    let canonical := bytes "\x7b\"crv\":\"Ed25519\",\"kty\":\"OKP\",\"x\":\""
      ++ GoBase64.encode publicKey ++ bytes "\"\x7d"
    .ok (GoBase64.encode (sha256 canonical))

def minOpaqueEpochBytes : Nat := 8
def maxOpaqueEpochBytes : Nat := 128

/-- `ValidateOpaqueEpoch`: a process epoch in the base64url alphabet. -/
def validateOpaqueEpoch : Option Error :=
  if value.utf8ByteSize < minOpaqueEpochBytes ∨ value.utf8ByteSize > maxOpaqueEpochBytes then
    some errInvalidInput
  else if (bytes value).all base64URLByte then none
  else some errInvalidInput

end PaperboatTunnel.ConnectorProtocol
