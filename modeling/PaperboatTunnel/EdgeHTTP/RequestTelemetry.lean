import Mathlib.Algebra.Ring.Nat
import Mathlib.Data.List.Basic

/-!
# `RequestTelemetry` — what the telemetry around a request changes and counts

`requestResponseWriter` notes by itself whether the header was written, and takes an informational code for the header
too: the final code that follows it is lost (`telemetry_hides_status`). The layers add to one traffic metric, each for
itself (`traffic_counted`), and no upgrade can be written through them (`survives_iff`).
-/

namespace PaperboatTunnel.EdgeHTTP

abbrev Header := List (String × String)

/-- What a handler does with its writer. `source` are the pieces that `ReadFrom` reads. -/
inductive ResponseCall where
  | header (change : Header → Header)
  | writeHeader (status : Nat)
  | write (payload : List UInt8)
  | readFrom (source : List (List UInt8))
  | flush

/-- The writer of `net/http`: the calls of `WriteHeader` in order, each with the header at that time, and what is
    written. Among them are those that the other calls make; the ones after the final code have no effect. -/
structure Response where
  header : Header := []
  heads : List (Nat × Header) := []
  payloads : List (List UInt8) := []

def Informational (status : Nat) : Prop := 100 ≤ status ∧ status ≤ 199 ∧ status ≠ 101

instance (status : Nat) : Decidable (Informational status) := inferInstanceAs (Decidable (_ ∧ _ ∧ _))

/-- How many bytes of the payloads are sent after the final header: none if the code has no body, and no more than the
    declared length. -/
abbrev Take := Option (Nat × Header) → List (List UInt8) → Nat

namespace Response

def writeHeader (r : Response) (status : Nat) : Response := { r with heads := r.heads ++ [(status, r.header)] }

def write (r : Response) (payload : List UInt8) : Response :=
  { r.writeHeader 200 with payloads := r.payloads ++ [payload] }

@[simp] def call (r : Response) : ResponseCall → Response
  | .header change => { r with header := change r.header }
  | .writeHeader status => r.writeHeader status
  | .write payload => r.write payload
  -- `io.Copy` does not write a piece that is empty
  | .readFrom source => (source.filter (· ≠ [])).foldl write r
  | .flush => r.writeHeader 200

def final (r : Response) : Option (Nat × Header) := r.heads.find? (fun head => ¬ Informational head.1)

/-- The client gets 200 if the handler returns without a code. -/
def client (take : Take) (r : Response) : List (Nat × Header) × Nat × List UInt8 :=
  (r.heads.takeWhile (fun head => Informational head.1), (r.final.map Prod.fst).getD 200,
    r.payloads.flatten.take (take r.final r.payloads))

end Response

structure RequestResponseWriter where
  writer : Response := {}
  wroteHead : Bool := false

namespace RequestResponseWriter

@[simp] def writeHeader (w : RequestResponseWriter) (status : Nat) : RequestResponseWriter :=
  if w.wroteHead then w else { writer := w.writer.writeHeader status, wroteHead := true }

/-- `Write`, `ReadFrom` and `FlushError` write the header first, and then go on with the writer below. -/
@[simp] def call (w : RequestResponseWriter) (c : ResponseCall) : RequestResponseWriter :=
  match c with
  | .header _ => { w with writer := w.writer.call c }
  | .writeHeader status => w.writeHeader status
  | _ => { w.writeHeader 200 with writer := (w.writeHeader 200).writer.call c }

end RequestResponseWriter

/-! ### What the calls amount to -/

namespace ResponseCall

def after (h : Header) : ResponseCall → Header
  | header change => change h
  | _ => h

def payloads : ResponseCall → List (List UInt8)
  | write payload => [payload]
  | readFrom source => source.filter (· ≠ [])
  | _ => []

def heads (h : Header) : ResponseCall → List (Nat × Header)
  | header _ => []
  | writeHeader status => [(status, h)]
  | flush => [(200, h)]
  | c => c.payloads.map (fun _ => (200, h))

end ResponseCall

def withoutCodes : List ResponseCall → List ResponseCall
  | [] => []
  | .writeHeader _ :: calls => withoutCodes calls
  | c :: calls => c :: withoutCodes calls

def Bodiless (calls : List ResponseCall) : Prop := (calls.flatMap ResponseCall.payloads).flatten = []

def headsOf : Header → List ResponseCall → List (Nat × Header)
  | _, [] => []
  | h, c :: calls => c.heads h ++ headsOf (c.after h) calls

/-- The calls go on with code 200 or none, and where they have a body its header is the one of `head`. -/
def Continues (h : Header) (calls : List ResponseCall) (head : Option (Nat × Header)) : Prop :=
  (∀ first ∈ (headsOf h calls).head?, first.1 = 200) ∧ (Bodiless calls ∨ (headsOf h calls).head? = head)

/-- **What the wrapper does not change**: after an informational code, which it takes for the final one, and after a
    `ReadFrom` that reads nothing, for which it sends 200. -/
def Agrees : Header → List ResponseCall → Prop
  | h, .header change :: calls => Agrees (change h) calls
  | h, .writeHeader status :: calls =>
    Informational status → Continues h calls (headsOf h (withoutCodes calls)).head?
  | h, .readFrom source :: calls => source.flatten = [] → Continues h calls (some (200, h))
  | _, _ => True

namespace Response

open List

variable {r r' : Response} {calls : List ResponseCall} {c : ResponseCall}

theorem foldl_write (r : Response) (payloads : List (List UInt8)) : payloads.foldl write r =
    { r with heads := r.heads ++ payloads.map (fun _ => (200, r.header)), payloads := r.payloads ++ payloads } := by
  induction payloads generalizing r with
  | nil => simp
  | cons payload payloads ih => simp [ih, write, writeHeader]

theorem call_eq (r : Response) (c : ResponseCall) : r.call c =
    ⟨c.after r.header, r.heads ++ c.heads r.header, r.payloads ++ c.payloads⟩ := by
  cases c with
  | readFrom source => exact foldl_write r _
  | _ => simp [ResponseCall.after, ResponseCall.heads, ResponseCall.payloads, writeHeader, write]

theorem client_run (take : Take) (r : Response) (calls : List ResponseCall) : (calls.foldl call r).client take =
    client take ⟨[], r.heads ++ headsOf r.header calls, r.payloads ++ calls.flatMap ResponseCall.payloads⟩ := by
  induction calls generalizing r with
  | nil => simp [headsOf, client, final]
  | cons c calls ih =>
    rw [foldl_cons, ih, call_eq]
    simp [headsOf]

/-- A wrapper that has noted a header drops the codes that follow. -/
theorem foldl_noted (r : Response) (calls : List ResponseCall) :
    calls.foldl RequestResponseWriter.call ⟨r, true⟩ = ⟨(withoutCodes calls).foldl call r, true⟩ := by
  induction calls generalizing r with
  | nil => rfl
  | cons c calls ih => cases c <;> simp [ih, withoutCodes]

theorem payloads_withoutCodes (calls : List ResponseCall) :
    (withoutCodes calls).flatMap ResponseCall.payloads = calls.flatMap ResponseCall.payloads := by
  induction calls with
  | nil => rfl
  | cons c calls ih => cases c <;> simp [ih, withoutCodes, ResponseCall.payloads]

theorem code_of_withoutCodes (h : Header) (calls : List ResponseCall) :
    ∀ head ∈ headsOf h (withoutCodes calls), head.1 = 200 := by
  induction calls generalizing h with
  | nil => simp [withoutCodes, headsOf]
  | cons c calls ih => cases c <;> grind [withoutCodes, headsOf, ResponseCall.heads, ResponseCall.after]

section Compare

variable {heads heads' : List (Nat × Header)} {payloads : List (List UInt8)} {status : Nat} {h : Header}

theorem client_final (hfinal : ¬ Informational status) (take : Take) : client take ⟨[], (status, h) :: heads, payloads⟩ =
    client take ⟨[], (status, h) :: heads', payloads⟩ := by
  simp [client, final, hfinal]

theorem client_informational (hinfo : Informational status) (take : Take) :
    client take ⟨[], (status, h) :: heads, payloads⟩ = client take ⟨[], (status, h) :: heads', payloads⟩ ↔
      client take ⟨[], heads, payloads⟩ = client take ⟨[], heads', payloads⟩ := by
  simp [client, final, hinfo]

theorem client_ok (hok : ∀ first ∈ heads.head?, first.1 = 200) (take : Take) :
    client take ⟨[], heads, payloads⟩ = ([], 200, payloads.flatten.take (take heads.head? payloads)) := by
  have hfinal : ¬ Informational 200 := by decide
  cases heads <;> simp_all [client, final]

/-- **What looks like an answer with 200**, whatever is taken of the payloads. -/
theorem client_eq_iff (hok : ∀ first ∈ heads.head?, first.1 = 200) :
    (∀ take, client take ⟨[], heads, payloads⟩ = client take ⟨[], heads', payloads⟩) ↔
      (∀ first ∈ heads'.head?, first.1 = 200) ∧ (payloads.flatten = [] ∨ heads'.head? = heads.head?) := by
  simp only [client_ok hok]
  by_cases hok' : ∀ first ∈ heads'.head?, first.1 = 200
  · simp only [client_ok hok', Prod.mk.injEq, true_and, and_iff_right hok']
    refine ⟨fun hsame => or_iff_not_imp_right.mpr (fun hne => ?_), fun hsame take => ?_⟩
    · -- everything is taken after one of the headers, and nothing after the other
      have hbody := hsame fun final payloads => if final = heads.head? then payloads.flatten.length else 0
      simpa only [if_neg hne, ↓reduceIte, take_length, take_zero] using hbody
    · rcases hsame with hempty | heq
      · rw [hempty, take_nil, take_nil]
      · rw [heq]
  · refine iff_of_false (fun hsame => hok' ?_) (fun h => hok' h.1)
    have hcode := hsame fun _ _ => 0
    rcases heads' with _ | ⟨⟨status, sent⟩, heads'⟩
    · simp
    · by_cases hinfo : Informational status <;> simp_all [client, final]

end Compare

/-- Once the wrapper has noted the header of a call, the client sees the codes of the other calls no more. -/
theorem client_noted (h : Header) (c : ResponseCall) (calls : List ResponseCall)
    (hc : RequestResponseWriter.call ⟨{ header := h }, false⟩ c = ⟨r, true⟩) (take : Take) :
    ((c :: calls).foldl RequestResponseWriter.call ⟨{ header := h }, false⟩).writer.client take = client take
      ⟨[], r.heads ++ headsOf r.header (withoutCodes calls), r.payloads ++ calls.flatMap ResponseCall.payloads⟩ := by
  rw [foldl_cons, hc, foldl_noted, client_run, payloads_withoutCodes]

/-- **From any header on**, by induction along its changes to the first call that sends one. -/
theorem transparent_iff (h : Header) (calls : List ResponseCall) :
    (∀ take, (calls.foldl RequestResponseWriter.call ⟨{ header := h }, false⟩).writer.client take
      = (calls.foldl call { header := h }).client take) ↔ Agrees h calls := by
  have hok : ¬ Informational 200 := by decide
  induction calls generalizing h with
  | nil => exact iff_of_true (fun _ => rfl) trivial
  | cons c calls ih =>
    cases c with
    | header change => exact ih (change h)
    | write payload | flush =>
      refine iff_of_true (fun take => ?_) trivial
      refine (client_noted _ _ _ rfl take).trans (Eq.trans ?_ (client_run ..).symm)
      exact client_final hok take
    | writeHeader status =>
      simp only [client_noted h (.writeHeader status) calls rfl, client_run]
      by_cases hinfo : Informational status
      · refine (forall_congr' (client_informational hinfo)).trans ((client_eq_iff ?_).trans ?_)
        · exact fun first hfirst => code_of_withoutCodes h calls first (mem_of_mem_head? hfirst)
        · exact ⟨fun hagrees _ => hagrees, fun hagrees => hagrees hinfo⟩
      · exact iff_of_true (client_final hinfo) (fun hi => absurd hi hinfo)
    | readFrom source =>
      simp only [client_noted h (.readFrom source) calls rfl, client_run, call_eq, headsOf, flatMap_cons,
        ResponseCall.heads, ResponseCall.payloads]
      have hsource : source.flatten = [] ↔ source.filter (· ≠ []) = [] := by simp
      simp only [Agrees, hsource]
      cases source.filter (· ≠ []) with
      | nil =>
        refine (client_eq_iff ?_).trans ⟨fun hagrees _ => hagrees, fun hagrees => hagrees rfl⟩
        rintro first ⟨⟩
        rfl
      | cons payload payloads => exact iff_of_true (client_final hok) nofun

/-- **The telemetry handler is transparent** exactly for these calls: whatever is taken, the client gets the same from
    the wrapped writer as from the writer itself. -/
theorem telemetry_transparent (calls : List ResponseCall) :
    (∀ take, (calls.foldl RequestResponseWriter.call {}).writer.client take = (calls.foldl call {}).client take) ↔
      Agrees [] calls :=
  transparent_iff [] calls

/-- **A final code is lost** after an informational one: the client gets 200 for 404. -/
theorem telemetry_hides_status :
    let calls : List ResponseCall := [.writeHeader 103, .writeHeader 404]
    ((calls.foldl RequestResponseWriter.call {}).writer.client fun _ _ => 0).2.1 = 200
      ∧ ((calls.foldl call {}).client fun _ _ => 0).2.1 = 404 := ⟨rfl, rfl⟩

end Response

/-! ## Traffic -/

/-- The traffic metric, which the layers share. Its two series are there. -/
structure Traffic where
  ingress : Nat := 0
  egress : Nat := 0
deriving DecidableEq

/-- `AddCounter`: a sum beyond `uint64` is refused. -/
def addCounter (value delta : Nat) : Nat := if UInt64.size - 1 - value < delta then value else value + delta

def addIngress (t : Traffic) (count : Nat) : Traffic := { t with ingress := addCounter t.ingress count }

def addEgress (t : Traffic) (count : Nat) : Traffic := { t with egress := addCounter t.egress count }

/-- What `Read` or `Write` returns, and the state of the body after it. -/
abbrev Answer (σ α : Type) := (α × Option String) × σ

/-- A response body. Only some types have `Write`. -/
structure Body (σ : Type) where
  read : σ → Nat → Answer σ (List UInt8)
  write : Option (σ → List UInt8 → Answer σ Nat) := none

namespace Body

variable {σ : Type} (b : Body σ)

/-- `carrierResponseStream`, whose `Write` always fails. -/
def carrierResponseStream : Body σ :=
  { read := b.read, write := some fun s _ => ((0, some "io: read/write on closed pipe"), s) }

def telemetryStream : Body (Traffic × σ) where
  read | (t, s), n => let (out, s) := b.read s n; (out, addIngress t out.1.length, s)
  write := b.write.map fun write (t, s) payload => let (out, s) := write s payload; (out, addEgress t out.1, s)

/-- `requestBody` of the handler or of the round tripper, around a body that counts already. -/
def requestBody (b : Body (Traffic × σ)) : Body (Traffic × σ) where
  read s n := let (out, t, s) := b.read s n; (out, if out.1 = [] then t else addIngress t out.1.length, s)

def responseBody (b : Body (Traffic × σ)) : Body (Traffic × σ) where
  read s n := let (out, t, s) := b.read s n; (out, addEgress t out.1.length, s)

/-- The body that the two round trippers return. -/
def roundTripped : Body (Traffic × σ) := b.carrierResponseStream.telemetryStream.responseBody

def uncounted : Body (Traffic × σ) where
  read | (t, s), n => let (out, s) := b.read s n; (out, t, s)

/-- The `Write` of `requestResponseWriter`, when the client takes everything. -/
def clientWrite (t : Traffic) (payload : List UInt8) : Traffic := addEgress t payload.length

def countingWrite (write : Traffic → List UInt8 → Traffic) (t : Traffic) (payload : List UInt8) : Traffic :=
  addEgress (write t payload) payload.length

/-- One turn of the copy in `responseBody.WriteTo`; `b` is the body inside. -/
def writeTo {σ : Type} (b : Body (Traffic × σ)) (write : Traffic → List UInt8 → Traffic) (s : Traffic × σ) (n : Nat) :
    Traffic × σ :=
  let ((payload, _), t, s) := b.read s n
  (countingWrite write t payload, s)

end Body

/-- What goes through the layers next: a piece of the request body that the transport reads, or one of the response
    body that is copied to the client, by `Read` or by `WriteTo`. -/
inductive Piece where
  | request (payload : List UInt8)
  | response (payload : List UInt8)
  | copied (payload : List UInt8)

namespace Piece

open Body

def requested : Piece → Nat
  | request payload => payload.length
  | _ => 0

def responded : Piece → Nat
  | request _ => 0
  | response payload | copied payload => payload.length

def body (payload : List UInt8) : Body Unit where
  read s n := ((payload.take n, none), s)

def pass (t : Traffic) : Piece → Traffic
  | request payload => ((body payload).uncounted.requestBody.requestBody.read (t, ()) payload.length).2.1
  | response payload =>
    let ((bytes, _), t, _) := (body payload).roundTripped.read (t, ()) payload.length
    clientWrite t bytes
  | copied payload =>
    ((body payload).carrierResponseStream.telemetryStream.writeTo clientWrite (t, ()) payload.length).1

theorem addCounter_of_lt {value delta : Nat} (h : value + delta < UInt64.size) :
    addCounter value delta = value + delta := if_neg (by omega)

variable {t : Traffic} {p : Piece}

/-- **One piece** that the counters have room for. -/
theorem pass_eq (hin : t.ingress + (2 * p.requested + p.responded) < UInt64.size)
    (hout : t.egress + 2 * p.responded < UInt64.size) :
    pass t p = ⟨t.ingress + (2 * p.requested + p.responded), t.egress + 2 * p.responded⟩ := by
  cases p with
  | request payload =>
    have hpass : pass t (request payload) = addIngress (addIngress t payload.length) payload.length := by
      by_cases hempty : payload = []
      · simp [pass, requestBody, uncounted, body, hempty, addIngress, addCounter]
      · simp [pass, requestBody, uncounted, body, hempty]
    grind [requested, responded, addIngress, addCounter_of_lt]
  | response payload | copied payload =>
    rw [show pass t _ = addEgress (addEgress (addIngress t payload.length) payload.length) payload.length by
      simp [pass, roundTripped, writeTo, responseBody, telemetryStream, carrierResponseStream, body, clientWrite,
        countingWrite]]
    grind [requested, responded, addIngress, addEgress, addCounter_of_lt]

/-- **Whole bodies, in any pieces**: the request body counts twice, the response body twice as egress and once more as
    ingress. So each byte counts once only if both bodies are empty. -/
theorem traffic_counted (t : Traffic) (pieces : List Piece) (r s : Nat) (hr : (pieces.map requested).sum = r)
    (hs : (pieces.map responded).sum = s) (hin : t.ingress + (2 * r + s) < UInt64.size)
    (hout : t.egress + 2 * s < UInt64.size) :
    pieces.foldl pass t = ⟨t.ingress + (2 * r + s), t.egress + 2 * s⟩
      ∧ (pieces.foldl pass t = ⟨t.ingress + r, t.egress + s⟩ ↔ r = 0 ∧ s = 0) := by
  have hcount : pieces.foldl pass t = ⟨t.ingress + (2 * r + s), t.egress + 2 * s⟩ := by
    induction pieces generalizing t r s with
    | nil => simp [← hr, ← hs]
    | cons p pieces ih =>
      simp only [List.map_cons, List.sum_cons] at hr hs
      rw [List.foldl_cons, pass_eq (by omega) (by omega), ih _ _ _ rfl rfl (by grind) (by grind)]
      grind
  refine ⟨hcount, ?_⟩
  rw [hcount, Traffic.mk.injEq]
  omega

/-- A byte that is sent back. -/
theorem traffic_counted_echo : [request [1], response [1]].foldl pass {} = ⟨3, 2⟩ :=
  (traffic_counted {} _ 1 1 rfl rfl (by decide) (by decide)).1

/-- One byte of a request counts as two. -/
theorem traffic_counted_twice : [request [1]].foldl pass {} = ⟨2, 0⟩ := by decide

end Piece

/-! ## Upgrades -/

namespace Body

variable {σ : Type} (b : Body σ)

/-- Read with buffers of these sizes, up to the first error. -/
def readAll {σ : Type} (b : Body σ) : σ → List Nat → List UInt8 × Option String
  | _, [] => ([], none)
  | s, n :: sizes =>
    match b.read s n with
    | ((bytes, some err), _) => (bytes, some err)
    | ((bytes, none), s) => (bytes ++ (readAll b s sizes).1, (readAll b s sizes).2)

/-- **Reading is not changed** by the round trippers. -/
theorem readAll_roundTripped (t : Traffic) (s : σ) (sizes : List Nat) :
    b.roundTripped.readAll (t, s) sizes = b.readAll s sizes := by
  induction sizes generalizing t s with
  | nil => rfl
  | cons n sizes ih =>
    have hread : b.roundTripped.read (t, s) n = ((b.read s n).1, _, (b.read s n).2) := rfl
    unfold readAll
    rw [hread]
    rcases b.read s n with ⟨⟨bytes, _ | err⟩, s'⟩
    · simp only [ih]
    · rfl

/-- An upgrade can be written as before, and reading is not changed. -/
def Survives (status : Nat) : Prop :=
  (status = 101 → ∀ write, b.write = some write → ∃ write', b.roundTripped.write = some write' ∧
      ∀ t s bytes, (write' (t, s) bytes).1 = (write s bytes).1 ∧ (write' (t, s) bytes).2.2 = (write s bytes).2)
    ∧ ∀ t s sizes, b.roundTripped.readAll (t, s) sizes = b.readAll s sizes

/-- **No upgrade survives**, and every other response does. -/
theorem survives_iff (status : Nat) : b.Survives status ↔ ¬ (status = 101 ∧ b.write.isSome) := by
  constructor
  · rintro ⟨hwrites, _⟩ ⟨hstatus, hsome⟩
    obtain ⟨write, hwrite⟩ := Option.isSome_iff_exists.mp hsome
    obtain ⟨_, hnone, _⟩ := hwrites hstatus write hwrite
    cases hnone
  · intro h
    refine ⟨fun hstatus write hwrite => ?_, b.readAll_roundTripped⟩
    exact absurd ⟨hstatus, by simp [hwrite]⟩ h

/-- A body that takes every byte. -/
theorem upgrade_not_writable :
    ¬ Survives ⟨fun s _ => (([], none), s), some fun n bytes => ((bytes.length, none), n + bytes.length)⟩ 101 := by
  rintro ⟨hwrites, _⟩
  obtain ⟨_, hnone, _⟩ := hwrites rfl _ rfl
  cases hnone

end Body

end PaperboatTunnel.EdgeHTTP
