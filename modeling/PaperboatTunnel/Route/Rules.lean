import PaperboatTunnel.Lib.GoNet

/-!
# `Rules` — route rules, their normal form and the choice among them

The pure part of `internal/route/matcher.go`. Hosts are texts. Paths are lists of bytes, because the path of a request
may be any bytes. Punycode (`idna.Lookup.ToASCII`) is the parameter `toASCII`, and nothing is assumed about it.
-/

namespace PaperboatTunnel.Route

open GoStrings

/-! ## Errors and kinds -/

/-- The errors of the package; `context` is the error of a cancelled context. -/
inductive Error where
  | invalid | conflict | stale | noMatch | matchConflict | generationStale | generationNotReady
  | generationConflict | generationClosed | drainTimeout | context | streamOverloaded
deriving DecidableEq

def matchExact : String := "exact"
def matchManagedExact : String := "managed_exact"
def matchOneLabelWildcard : String := "one_label_wildcard"
def matchCatchAll : String := "catch_all"

def defaultMaximumRoutes : Nat := 4096
def defaultMaximumStreams : Nat := 16384

/-- `Kind`; `unset` is any text outside the vocabulary. -/
inductive Kind where
  | unset | helperHTTPSWSS | previewHTTPSWSS | tunnelHTTPSWSS | tunnelTCP | tunnelPrivateTCP
deriving DecidableEq

abbrev Path := List UInt8

abbrev ToASCII := String → Option String

def slash : UInt8 := 47

structure RouteRule where
  id : String := ""
  (revision generation : UInt64 := 0)
  routeID : String := ""
  routeGeneration : UInt64 := 0
  assignmentID : String := ""
  assignmentGeneration : UInt64 := 0
  resourceKind : String := ""
  sessionGeneration : UInt64 := 0
  (environment accountID hostID machineIdentityPublicKey machineIdentityThumbprint tunnelID : String := "")
  (connectorID connectorSessionID : String := "")
  (connectorProcessGeneration configGeneration : UInt64 := 0)
  (configContentHash node edgeProcessEpoch edgeFailureDomain : String := "")
  kind : Kind := .unset
  (matchType hostname wildcardSuffix : String := "")
  pathPrefix : Path := []
  priority : Int := 0
  (target protocol publicTCPListenerID : String := "")
  publicTCPPort : UInt16 := 0
  (originScheme accessMode : String := "")
  preserveHost : Bool := false
  (hostOverride desiredState observedState reason : String := "")
deriving DecidableEq

/-! ## Normal forms -/

/-- `normalizeHost` of `route.go`. -/
def normalizeHost (host : String) : String := toLower (trimSuffix (trimSpace host) ".")

def lowerHex (c : Char) : Bool := c.isDigit || ('a' ≤ c && c ≤ 'f')

/-- `^[0-9a-f]{8}-[0-9a-f]{4}-[0-9a-f]{4}-[89ab][0-9a-f]{3}-[0-9a-f]{12}$` -/
def opaqueTunnelEndpointLabelPattern (label : String) : Bool :=
  match label.toList.splitOn '-' with
  | [a, b, c, d, e] =>
    a.length == 8 && b.length == 4 && c.length == 4 && d.length == 4 && e.length == 12
      && [a, b, c, d, e].all (fun part => part.all lowerHex)
      && (d.head?.any (fun x => x == '8' || x == '9' || x == 'a' || x == 'b'))
  | _ => false

def validOpaqueTunnelHostname (host : String) : Bool :=
  let host := trimSpace host
  if host == "" || host != normalizeHost host then false
  else
    let labels := split host '.'
    2 ≤ labels.length && labels.head?.any opaqueTunnelEndpointLabelPattern

def badLabel (label : String) : Bool :=
  label.utf8ByteSize == 0 || label.utf8ByteSize > 63 || hasPrefix label "-" || hasSuffix label "-"

variable (toASCII : ToASCII)

/-- `normalizeMatchHost`; `toASCII` is `idna.Lookup.ToASCII`. -/
def normalizeMatchHost (host : String) : Except Error String :=
  let host := trimSpace host
  if host == "" || containsAny host ['\r', '\n', '\x00', ' ', '/', '?'] then .error .invalid
  else
    let parsed := GoNet.splitHostPort host
    if parsed.isNone && count host ':' > 0 then .error .invalid
    else
      let host := trimSuffix ((parsed.map Prod.fst).getD host) "."
      if host == "" || GoNet.isIP host then .error .invalid
      else match toASCII host with
        | none => .error .invalid
        | some ascii =>
          if ascii == "" || ascii.utf8ByteSize > 253 || containsList ascii.toList ['.', '.'] then
            .error .invalid
          else if (split ascii '.').any badLabel then .error .invalid
          else .ok (toLower ascii)

/-- The bytes a path must not contain: `\r`, `\n`, `\x00`, `?` and `#`. -/
def badPathByte (b : UInt8) : Bool := b == 13 || b == 10 || b == 0 || b == 63 || b == 35

def normalizeRequestPath (requestPath : Path) : Except Error Path :=
  if requestPath = [] then .ok [slash]
  else if requestPath.head? ≠ some slash ∨ requestPath.any badPathByte ∨ containsList requestPath [slash, slash] then
    .error .invalid
  else if (requestPath.splitOn slash).any (fun segment => segment == [46] || segment == [46, 46]) then
    .error .invalid
  else if requestPath.length > 1 ∧ requestPath.getLast? = some slash then .ok requestPath.dropLast
  else .ok requestPath

def desiredStates : List String :=
  ["active", "ready", "degraded", "offline", "registering", "disabled", "deleted", "expired", "removed"]

/-- The host part of `normalizeRule`: the normalized `Hostname` and `WildcardSuffix`. -/
def normalizeRuleHost (rule : RouteRule) (matchType : String) : Except Error (String × String) :=
  if matchType = matchExact ∨ matchType = matchManagedExact then
    if rule.hostname = "" ∧ rule.wildcardSuffix ≠ "" then .error .invalid
    else if containsChar rule.hostname '*' ∨ containsChar rule.wildcardSuffix '*' then .error .invalid
    else match normalizeMatchHost toASCII rule.hostname with
      | .error _ => .error .invalid
      | .ok host =>
        if host = "" ∨ GoNet.isIP host then .error .invalid
        else if matchType = matchManagedExact ∧ rule.kind = .tunnelHTTPSWSS ∧ ¬ validOpaqueTunnelHostname host then
          .error .invalid
        else .ok (host, "")
  else if matchType = matchOneLabelWildcard then
    let suffix :=
      if rule.wildcardSuffix = "" ∧ hasPrefix rule.hostname "*." then trimPrefix rule.hostname "*."
      else rule.wildcardSuffix
    if suffix = "" ∨ containsChar suffix '*' then .error .invalid
    else match normalizeMatchHost toASCII suffix with
      | .error _ => .error .invalid
      | .ok suffix =>
        if suffix = "" ∨ GoNet.isIP suffix ∨ ¬ containsChar suffix '.' then .error .invalid
        else .ok ("", suffix)
  else if matchType = matchCatchAll then
    if rule.hostname ≠ "" ∨ rule.wildcardSuffix ≠ "" then .error .invalid else .ok ("", "")
  else .error .invalid

def normalizeRule (generation : UInt64) (rule : RouteRule) : Except Error RouteRule :=
  if rule.id = "" ∨ containsAny rule.id ['\r', '\n', '\x00'] then .error .invalid
  else
    let ruleGeneration := if rule.generation = 0 then generation else rule.generation
    if ruleGeneration ≠ generation then .error .invalid
    else if rule.kind ≠ .helperHTTPSWSS ∧ rule.kind ≠ .previewHTTPSWSS ∧ rule.kind ≠ .tunnelHTTPSWSS then
      .error .invalid
    else
      let lowered := toLower (trimSpace rule.matchType)
      let matchType := if lowered = "" then matchExact else lowered
      match normalizeRuleHost toASCII rule matchType, normalizeRequestPath rule.pathPrefix with
      | .error err, _ => .error err
      | .ok _, .error _ => .error .invalid
      | .ok (hostname, wildcardSuffix), .ok pathPrefix =>
        let desiredState := if rule.desiredState = "" then "active" else rule.desiredState
        let originScheme := toLower rule.originScheme
        if ¬ desiredStates.contains desiredState then .error .invalid
        else if rule.hostOverride ≠ ""
            ∧ containsAny rule.hostOverride ['\r', '\n', '\x00', '/', '?', '#', ' ', '\t'] then
          .error .invalid
        else if rule.originScheme ≠ "" ∧ ¬ ["http", "https", "h2c", "unix"].contains originScheme then
          .error .invalid
        else if rule.target = "" ∨ containsAny rule.target ['\r', '\n', '\x00'] then .error .invalid
        else
          let normalized := { rule with
              generation := ruleGeneration, matchType, hostname, wildcardSuffix, pathPrefix,
              desiredState, originScheme := if rule.originScheme = "" then "" else originScheme }
          if rule.kind = .tunnelHTTPSWSS then
            -- the target of a durable tunnel route is an opaque binding, not an address
            if containsAny rule.target [' ', '\t', '?', '#'] then .error .invalid else .ok normalized
          else if normalized.originScheme = "unix" then
            if ¬ hasPrefix rule.target "/" ∨ containsAny rule.target ['?', '#'] then .error .invalid
            else .ok normalized
          else if normalized.originScheme ≠ "" ∧ (GoNet.splitHostPort rule.target).isNone then
            .error .invalid
          else .ok normalized

/-! ## Matching and ranking -/

def isExactMatchType (matchType : String) : Bool := matchType == matchExact || matchType == matchManagedExact

/-- The characters of `host` before `.suffix`, if it ends so and is longer than the suffix. -/
def beforeSuffix (host suffix : String) : Option (List Char) :=
  if host = suffix ∨ ¬ ('.' :: suffix.toList).isSuffixOf host.toList then none
  else some (host.toList.take (host.toList.length - (suffix.toList.length + 1)))

/-- `hostMatch`: the host class and the number of suffix labels, and whether the rule matches. -/
def hostMatch (rule : RouteRule) (host : String) : Nat × Nat × Bool :=
  if rule.matchType = matchExact ∨ rule.matchType = matchManagedExact then (3, 0, host == rule.hostname)
  else if rule.matchType = matchOneLabelWildcard then
    match beforeSuffix host rule.wildcardSuffix with
    | none => (0, 0, false)
    | some label =>
      if label = [] ∨ label.contains '.' then (0, 0, false)
      else (2, count rule.wildcardSuffix '.' + 1, true)
  else if rule.matchType = matchCatchAll then (1, 0, true)
  else (0, 0, false)

def pathMatches (pathPrefix requestPath : Path) : Bool :=
  pathPrefix == [slash] || requestPath == pathPrefix || (pathPrefix ++ [slash]).isPrefixOf requestPath

structure RouteCandidate where
  rule : RouteRule
  (hostClass suffixLabels : Nat)
deriving DecidableEq

def compareInt (left right : Nat) : Int := if left < right then -1 else if left > right then 1 else 0

/-- `compareCandidates`; a lower priority number is preferred. -/
def compareCandidates (left right : RouteCandidate) : Int :=
  if left.hostClass ≠ right.hostClass then compareInt left.hostClass right.hostClass
  else if left.suffixLabels ≠ right.suffixLabels then compareInt left.suffixLabels right.suffixLabels
  else if left.rule.pathPrefix.length ≠ right.rule.pathPrefix.length then
    compareInt left.rule.pathPrefix.length right.rule.pathPrefix.length
  else if left.rule.priority ≠ right.rule.priority then
    if left.rule.priority < right.rule.priority then 1 else -1
  else 0

/-! ## Sets of rules -/

def exactFallsUnderWildcard (host suffix : String) : Bool :=
  match beforeSuffix host suffix with
  | none => false
  | some label => !label.contains '.'

def hostsOverlap (left right : RouteRule) : Bool :=
  if left.matchType = matchCatchAll ∨ right.matchType = matchCatchAll then true
  else if isExactMatchType left.matchType ∧ isExactMatchType right.matchType then
    left.hostname == right.hostname
  else if left.matchType = matchOneLabelWildcard ∧ right.matchType = matchOneLabelWildcard then
    left.wildcardSuffix == right.wildcardSuffix
  else if isExactMatchType left.matchType ∧ right.matchType = matchOneLabelWildcard then
    exactFallsUnderWildcard left.hostname right.wildcardSuffix
  else if isExactMatchType right.matchType ∧ left.matchType = matchOneLabelWildcard then
    exactFallsUnderWildcard right.hostname left.wildcardSuffix
  else false

def rulesOverlap (left right : RouteRule) : Bool := hostsOverlap left right
    && (pathMatches left.pathPrefix right.pathPrefix || pathMatches right.pathPrefix left.pathPrefix)

def overlapHost (rule : RouteRule) : String :=
  if rule.matchType = matchExact ∨ rule.matchType = matchManagedExact then rule.hostname
  else if rule.matchType = matchOneLabelWildcard then "edge." ++ rule.wildcardSuffix
  else "edge.example.test"

def candidate (rule : RouteRule) (host : String) : RouteCandidate :=
  { rule, hostClass := (hostMatch rule host).1, suffixLabels := (hostMatch rule host).2.1 }

/-- The pair is refused by the second loop of `normalizeRules`. -/
def ambiguous (left right : RouteRule) : Bool := rulesOverlap left right
    && compareCandidates (candidate left (overlapHost left)) (candidate right (overlapHost right)) == 0

def anyAmbiguous : List RouteRule → Bool
  | [] => false
  | left :: rules => rules.any (ambiguous left) || anyAmbiguous rules

/-- The first loop of `normalizeRules`. -/
def normalizeEach (generation : UInt64) (seen : List String) : List RouteRule → Except Error (List RouteRule)
  | [] => .ok []
  | rule :: rules =>
    match normalizeRule toASCII generation rule with
    | .error err => .error err
    | .ok normalized =>
      if seen.contains normalized.id then .error .matchConflict
      else match normalizeEach generation (normalized.id :: seen) rules with
        | .error err => .error err
        | .ok result => .ok (normalized :: result)

def normalizeRules (generation : UInt64) (rules : List RouteRule) (maximum : Nat) : Except Error (List RouteRule) :=
  if rules.length > maximum then .error .invalid
  else match normalizeEach toASCII generation [] rules with
    | .error err => .error err
    | .ok normalized =>
      let result := sortBy RouteRule.id normalized
      if anyAmbiguous result then .error .matchConflict else .ok result

/-! ## The choice of a rule -/

def retiredStates : List String := ["disabled", "deleted", "expired", "removed"]

/-- The loop of `chooseRule`; `best` is the best candidate so far. -/
def chooseLoop (host : String) (requestPath : Path) (best : Option RouteCandidate) :
    List RouteRule → Except Error RouteRule
  | [] =>
    match best with
    | none => .error .noMatch
    | some best => .ok best.rule
  | rule :: rules =>
    if retiredStates.contains rule.desiredState then chooseLoop host requestPath best rules
    else if ¬ (hostMatch rule host).2.2 ∨ ¬ pathMatches rule.pathPrefix requestPath then
      chooseLoop host requestPath best rules
    else match best with
      | none => chooseLoop host requestPath (some (candidate rule host)) rules
      | some current =>
        let comparison := compareCandidates (candidate rule host) current
        if comparison > 0 then chooseLoop host requestPath (some (candidate rule host)) rules
        else if comparison = 0 then .error .matchConflict
        else chooseLoop host requestPath best rules

def chooseRule (rules : List RouteRule) (host : String) (requestPath : Path) : Except Error RouteRule :=
  chooseLoop host requestPath none rules

end PaperboatTunnel.Route
