import Mathlib.Data.List.Basic

/-!
# `PaperboatQUIC` — forwarding a terminal stream

`App.forwardStream` connects a QUIC stream with the socket of the broker. That the peer may end a side by itself is
left out. After a failure of the socket in the middle of the handshake the function returns without a word to the
peer (`terminal_stream_left_open`).
-/

namespace PaperboatTunnel.PaperboatQUIC

/-- One side of a stream: `Close` finishes the write side, and the read side is finished at its end. -/
inductive Side where
  | opened | finished | canceled
deriving DecidableEq

structure Stream where
  (read write : Side)
deriving DecidableEq

/-- The answers of the socket, in the order of the calls, and what the peer sends. -/
structure Behaviour where
  (dials setsDeadline writesLength writesHostname : Bool := true)
  /-- The byte that `io.ReadFull` reads. -/
  status : Option UInt8 := some 0
  clearsDeadline : Bool := true
  /-- What is read from the stream up to its end, and whether the socket takes each piece. -/
  pieces : List (List UInt8 × Bool) := []

/-- The read side after `io.Copy` from the stream to the socket, which stops when a write fails. -/
def copyFrom (pieces : List (List UInt8 × Bool)) : Side := if pieces.all Prod.snd then .finished else .opened

/-- `forwardStream`, from its start with a new stream. The copy to the stream is always followed by `Close`. -/
def forwardStream (b : Behaviour) : Stream :=
  if !b.dials then ⟨.canceled, .canceled⟩
  else if !b.setsDeadline then ⟨.opened, .opened⟩
  else if !b.writesLength then ⟨.opened, .opened⟩
  else if !b.writesHostname then ⟨.opened, .opened⟩
  else if b.status ≠ some 0 then ⟨.canceled, .canceled⟩
  else if !b.clearsDeadline then ⟨.opened, .opened⟩
  else ⟨copyFrom b.pieces, .finished⟩

/-- Once dialed, the socket fails in the handshake read only. -/
def Behaviour.Reliable (b : Behaviour) : Prop :=
  b.dials = true → b.setsDeadline = true ∧ b.writesLength = true ∧ b.writesHostname = true
    ∧ (b.status = some 0 → b.clearsDeadline = true ∧ b.pieces.all Prod.snd = true)

/-- **Every terminal stream is finished** on both sides when `forwardStream` returns, exactly if the socket is
    reliable. -/
theorem terminal_stream_finished (b : Behaviour) :
    ((forwardStream b).read ≠ .opened ∧ (forwardStream b).write ≠ .opened) ↔ b.Reliable := by
  unfold forwardStream Behaviour.Reliable
  cases hdials : b.dials with
  | false => simp
  | true =>
    by_cases hready : b.setsDeadline = true ∧ b.writesLength = true ∧ b.writesHostname = true
    · obtain ⟨hdeadline, hlength, hhostname⟩ := hready
      by_cases hstatus : b.status = some 0
      · cases hclears : b.clearsDeadline <;> simp [hdeadline, hlength, hhostname, hstatus, copyFrom]
      · simp [hdeadline, hlength, hhostname, hstatus]
    · -- one of the bare returns before the handshake read
      grind

/-- **A stream is left open** on both sides when the first deadline cannot be set. -/
theorem terminal_stream_left_open : forwardStream { setsDeadline := false } = ⟨.opened, .opened⟩ := rfl

end PaperboatTunnel.PaperboatQUIC
