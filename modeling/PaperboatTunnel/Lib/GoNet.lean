import PaperboatTunnel.Lib.GoStrings

/-!
# `GoNet` — addresses of Go's `net` package

`net.SplitHostPort`, of which the callers here use the host and whether it succeeds, and `net.ParseIP`, of
which they use whether it succeeds.
-/

namespace GoNet

def cutLastColon (s : List Char) : Option (List Char × List Char) :=
  match (s.reverse.span (· != ':')) with
  | (_, []) => none
  | (port, _ :: host) => some (host.reverse, port.reverse)

/-- `net.SplitHostPort`; `none` is any of its errors. A host in brackets may contain colons, and its closing
    bracket stands right before the last colon. -/
def splitHostPort (hostport : String) : Option (String × String) :=
  match cutLastColon hostport.toList with
  | none => none
  | some (host, port) =>
    match hostport.toList with
    | '[' :: rest =>
      let inner := rest.takeWhile (· != ']')
      -- what follows the first closing bracket must be the last colon and the port
      if rest.drop inner.length = ']' :: ':' :: port ∧ ¬ inner.contains '[' ∧ ¬ port.contains '['
          ∧ ¬ port.contains ']' then
        some (String.ofList inner, String.ofList port)
      else none
    | _ =>
      if host.contains ':' ∨ hostport.toList.contains '[' ∨ hostport.toList.contains ']' then none
      else some (String.ofList host, String.ofList port)

/-! ## `ParseIP` -/

def decimalField (s : List Char) : Bool :=
  !s.isEmpty && s.length ≤ 3 && s.all Char.isDigit && (s.length == 1 || s.head? != some '0')
    && s.foldl (fun n c => 10 * n + (c.toNat - '0'.toNat)) 0 ≤ 255

/-- Four decimal fields without leading zeros. -/
def isIPv4 (s : List Char) : Bool :=
  let fields := s.splitOn '.'
  fields.length == 4 && fields.all decimalField

def hexDigit (c : Char) : Bool := c.isDigit || ('a' ≤ c && c ≤ 'f') || ('A' ≤ c && c ≤ 'F')

/-- Colon-separated groups of one to four hexadecimal digits; the last one may be an IPv4 address, which
    counts for two. The result is the number of 16-bit groups. -/
def groups : List (List Char) → Option Nat
  | [] => some 0
  | [last] =>
    if last.contains '.' then (if isIPv4 last then some 2 else none)
    else if !last.isEmpty && last.length ≤ 4 && last.all hexDigit then some 1 else none
  | g :: gs =>
    if !g.isEmpty && g.length ≤ 4 && g.all hexDigit then (groups gs).map (· + 1) else none

def part (s : List Char) : Option Nat := if s.isEmpty then some 0 else groups (s.splitOn ':')

/-- The part of the address before the first `::`, and the part after it. -/
def cutEllipsis : List Char → Option (List Char × List Char)
  | ':' :: ':' :: rest => some ([], rest)
  | c :: rest => (cutEllipsis rest).map (fun p => (c :: p.1, p.2))
  | [] => none

/-- Eight groups, or fewer with one `::` for at least one group; no embedded IPv4 before the `::`. -/
def isIPv6 (s : List Char) : Bool :=
  match cutEllipsis s with
  | none => part s == some 8
  | some (left, right) =>
    match part left, part right with
    | some m, some n => !left.contains '.' && m + n ≤ 7
    | _, _ => false

/-- `net.ParseIP(s) != nil`: the first of `.`, `:` and `%` decides the form, and a zone is refused. -/
def isIP (s : String) : Bool :=
  match s.toList.find? (fun c => c == '.' || c == ':' || c == '%') with
  | some '.' => isIPv4 s.toList
  | some ':' => !s.toList.contains '%' && isIPv6 s.toList
  | _ => false

example : isIP "192.0.2.1" = true ∧ isIP "1.2.3" = false ∧ isIP "2001:db8::1" = true
    ∧ isIP "::ffff:192.0.2.1" = true ∧ isIP "a::b::c" = false ∧ isIP "edge.example" = false := by decide

example : splitHostPort "edge.example:443" = some ("edge.example", "443")
    ∧ splitHostPort "[::1]:80" = some ("::1", "80") ∧ splitHostPort "a:b:c" = none
    ∧ splitHostPort "edge.example" = none := by decide

end GoNet
