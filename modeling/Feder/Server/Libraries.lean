import Feder.Lib.Base64
import Feder.Lib.JsonSyntax
import Feder.Server.Arrival
import Feder.Server.Handlers

/-!
# Libraries that keep the laws

The development takes its libraries as parameters; here are definitions that satisfy all their laws.
JSON and base64 are the ones of the general library.  The grammars cover plain ASCII texts.  The
cryptography is idealised: a signature is the message behind the byte of the key, and the digest of
a body is the body.

* `libraries`              all the libraries together;
* `libraries_secure`       the idealised cryptography is secure;
* `libraries_verify_sign`  it verifies what it has signed.
-/

namespace Feder
open Serde Text

namespace Libraries

/-! ## IRIs -/

def isSchemeChar (c : Char) : Bool := c.isAlphanum || c == '+' || c == '-' || c == '.'

/-- a character of an IRI behind the scheme -/
def isIriChar (c : Char) : Bool :=
  0x20 < c.toNat && !isControl c &&
    !(['"', '<', '>', '\\', '^', '\x60', '{', '|', '}'].contains c)

/-- a scheme and a colon, and only one fragment -/
def validIri (s : String) : Bool :=
  match splitOnce ':' s.toList with
  | some (c :: scheme, rest) =>
    c.isAlpha && scheme.all isSchemeChar && rest.all isIriChar && rest.count '#' ≤ 1
  | _ => false

theorem colon_of_validIri (s : String) (h : validIri s = true) : ':' ∈ s.toList := by
  unfold validIri at h
  split at h
  · rename_i hsplit
    exact mem_of_splitOnce hsplit
  · cases h

/-! ## keys -/

/-- the byte of a key, behind a label -/
def readKey (label pem : String) : Option UInt8 :=
  match splitOnce ' ' pem.toList with
  | some (l, [c]) => if l = label.toList then some (UInt8.ofNat c.toNat) else none
  | _ => none

/-! ## dates -/

def weekdays : List String := ["Sun", "Mon", "Tue", "Wed", "Thu", "Fri", "Sat"]

def months : List String :=
  ["Jan", "Feb", "Mar", "Apr", "May", "Jun", "Jul", "Aug", "Sep", "Oct", "Nov", "Dec"]

/-- a number with leading zeros -/
def padded (width n : Nat) : String :=
  let digits := Nat.toDigits 10 n
  String.ofList (List.replicate (width - digits.length) '0' ++ digits)

/-- the year, month and day of a day after the epoch -/
def civil (days : Nat) : Nat × Nat × Nat :=
  let z := days + 719468
  let era := z / 146097
  let doe := z - era * 146097
  let yoe := (doe - doe / 1460 + doe / 36524 - doe / 146096) / 365
  let doy := doe - (365 * yoe + yoe / 4 - yoe / 100)
  let mp := (5 * doy + 2) / 153
  let month := if mp < 10 then mp + 3 else mp - 9
  (yoe + era * 400 + (if month ≤ 2 then 1 else 0), month, doy - (153 * mp + 2) / 5 + 1)

/-- the day after the epoch of a date -/
def daysOf (year month day : Nat) : Nat :=
  let y := if month ≤ 2 then year - 1 else year
  let era := y / 400
  let yoe := y - era * 400
  let doy := (153 * (if month > 2 then month - 3 else month + 9) + 2) / 5 + day - 1
  era * 146097 + (yoe * 365 + yoe / 4 - yoe / 100 + doy) - 719468

/-- the fixed format of dates in headers -/
def fmtHttpDate (time : Int) : String :=
  let seconds := (time / 1000000000).toNat
  let days := seconds / 86400
  let (year, month, day) := civil days
  (weekdays[(days + 4) % 7]?).getD "" ++ ", " ++ padded 2 day ++ " " ++
    (months[month - 1]?).getD "" ++ " " ++ padded 4 year ++ " " ++ padded 2 (seconds / 3600 % 24) ++
    ":" ++ padded 2 (seconds / 60 % 60) ++ ":" ++ padded 2 (seconds % 60) ++ " GMT"

/-- the number that the digits at a place of a text stand for -/
def digitsAt (s : List Char) (start width : Nat) : Option Nat :=
  let digits := (s.drop start).take width
  if digits.length = width ∧ digits.all Char.isDigit then some (Nat.ofDigitChars 10 digits 0)
  else none

def parseHttpDate (s : String) : Option Int := do
  let text := s.toList
  let day ← digitsAt text 5 2
  let month ← months.findIdx? fun month => month.toList = (text.drop 8).take 3
  let year ← digitsAt text 12 4
  let hour ← digitsAt text 17 2
  let minute ← digitsAt text 20 2
  let second ← digitsAt text 23 2
  if text.length = 29 ∧ text.drop 25 = " GMT".toList then
    some (1000000000 *
      (((daysOf year (month + 1) day * 86400 + hour * 3600 + minute * 60 + second : Nat)) : Int))
  else none

/-! ## URLs -/

def isHostChar (c : Char) : Bool := c.isAlphanum || c == '-' || c == '.'

def parsePort (digits : List Char) : Option UInt16 :=
  if digits.isEmpty || !digits.all Char.isDigit then none
  else
    let port := Nat.ofDigitChars 10 digits 0
    if port < 65536 then some (UInt16.ofNat port) else none

/-- a domain name, with a port or without -/
def parseAuthority (s : String) : Option Authority :=
  let (host, port) := (splitOnce ':' s.toList).elim (s.toList, none) fun p => (p.1, some p.2)
  if host.isEmpty || !host.all isHostChar then none
  else
    match port with
    | none => some ⟨s, String.ofList host, none⟩
    | some digits => (parsePort digits).map fun port => ⟨s, String.ofList host, some port⟩

def isPathChar (c : Char) : Bool :=
  c.isAlphanum || ['-', '.', '_', '~', '/', '%', '=', '&', '+', ',', ';', ':', '@', '!', '$', '(',
    ')', '*'].contains c

/-- the parts of a URL: the scheme, the authority, the path and the query -/
structure Parts where
  scheme : List Char
  authority : Authority
  path : List Char
  query : Option (List Char)
  path_chars : path.all isPathChar = true
  query_chars : ∀ q ∈ query, q.all isPathChar = true

theorem isLine_of_pathChars {s : List Char} (h : s.all isPathChar = true) :
    isLine (String.ofList s) := by
  unfold isLine
  rw [String.toList_ofList]
  intro hmem
  have hchar := List.all_eq_true.mp h _ hmem
  revert hchar
  decide

def splitUrl (s : String) : Option Parts :=
  match splitOnce ':' s.toList with
  | some (scheme, '/' :: '/' :: rest) =>
    let authority := rest.takeWhile fun c => !(['/', '?', '#'].contains c)
    let tail := (rest.drop authority.length).takeWhile fun c => c != '#'
    let (path, query) := (splitOnce '?' tail).elim (tail, none) fun p => (p.1, some p.2)
    (parseAuthority (String.ofList authority)).bind fun authority =>
      if h : path.all isPathChar = true ∧ ∀ q ∈ query, q.all isPathChar = true then
        some ⟨scheme, authority, path, query, h.1, h.2⟩
      else none
  | _ => none

def defaultPort (scheme : List Char) : Option UInt16 :=
  if scheme = "http".toList then some 80 else if scheme = "https".toList then some 443 else none

def parseUrl (s : String) : Option Url :=
  (splitUrl s).map fun parts =>
    { scheme := String.ofList parts.scheme
      username := ""
      password := none
      host := some (.Domain (toAsciiLowercase parts.authority.host))
      port :=
        if parts.authority.portU16 = defaultPort parts.scheme then none
        else parts.authority.portU16
      path := if parts.path.isEmpty then "/" else String.ofList parts.path
      query := parts.query.map String.ofList
      path_line := by
        split
        · unfold isLine
          decide
        · exact isLine_of_pathChars parts.path_chars
      query_line := by
        intro q hq
        obtain ⟨chars, hchars, rfl⟩ := Option.map_eq_some_iff.mp hq
        exact isLine_of_pathChars (parts.query_chars chars hchars) }

/-- an absolute URI -/
def parseUri (s : String) : Option Uri :=
  (splitUrl s).map fun parts =>
    { scheme := some (String.ofList parts.scheme)
      authority := some parts.authority
      pathAndQuery := none
      path := String.ofList parts.path
      target_line := nofun
      path_line := isLine_of_pathChars parts.path_chars }

/-- a media type and its parameters -/
def parseMime (s : String) : Option Mime :=
  match (split ';' s.toList).map trimChars with
  | [] => none
  | essence :: params =>
    if essence.contains '/' then
      some ⟨toAsciiLowercase (String.ofList essence), params.filterMap fun param =>
        (splitOnce '=' param).map fun p => (String.ofList p.1, String.ofList p.2)⟩
    else none

def hostToString : Host → String
  | .Domain name => name
  | .Ipv4 address => join "." ([24, 16, 8, 0].map fun shift =>
      toString ((address >>> shift).truncate 8 : BitVec 8).toNat)
  | .Ipv6 address => "[" ++ join ":" ([112, 96, 80, 64, 48, 32, 16, 0].map fun shift =>
      String.ofList (Nat.toDigits 16 ((address >>> shift).truncate 16 : BitVec 16).toNat)) ++ "]"

def pushSegments (url : String) (segments : List String) : Option String :=
  (splitUrl url).map fun _ =>
    let base := url.toList.takeWhile fun c => c != '?' && c != '#'
    let base := if base.getLast? = some '/' then base.dropLast else base
    String.ofList base ++ pushedSegments segments

/-! ## the web framework -/

/-- the first pattern that a path matches -/
def matchPath (patterns : List String) (path : String) : Option (String × List String) :=
  patterns.findSome? fun pattern =>
    (matchSegments (segments pattern) (segments path)).map (pattern, ·)

/-- no form decoder is needed where no request has a query -/
def framework : Framework where
  matchPath := matchPath
  serves
    | .get, method => method.str == "GET" || method.str == "HEAD"
    | .post, method => method.str == "POST"
  path params := (params.mapM Percent.decodeText).elim (.error .BAD_REQUEST) .ok
  query _ := .ok none
  body limit bytes := if bytes.length ≤ limit then .ok bytes else .error .PAYLOAD_TOO_LARGE

theorem matchPath_of_only {patterns : List String} {pattern path : String} {params : List String}
    (hmem : pattern ∈ patterns)
    (hmatch : matchSegments (segments pattern) (segments path) = some params)
    (honly : ∀ other ∈ patterns, other ≠ pattern →
      matchSegments (segments other) (segments path) = none) :
    matchPath patterns path = some (pattern, params) := by
  induction patterns with
  | nil => cases hmem
  | cons first rest ih =>
    unfold matchPath
    rw [List.findSome?_cons]
    by_cases hfirst : first = pattern
    · rw [hfirst, hmatch]
      rfl
    · rw [honly first List.mem_cons_self hfirst]
      exact ih ((List.mem_cons.mp hmem).resolve_left (Ne.symm hfirst))
        fun other hother => honly other (List.mem_cons_of_mem _ hother)

theorem framework_limitsBodies : framework.LimitsBodies := by
  intro limit bytes body
  show (if bytes.length ≤ limit then Except.ok bytes else .error Rejection.PAYLOAD_TOO_LARGE) =
    .ok body ↔ _
  by_cases h : bytes.length ≤ limit <;> simp [h, eq_comm]

theorem framework_documented : framework.Documented where
  matchPath _ _ _ _ hmem hmatch honly := matchPath_of_only hmem hmatch honly
  get _ := rfl
  post _ := rfl
  path _ := rfl
  body := framework_limitsBodies

end Libraries

/-! ## the libraries together -/

open Libraries in
/-- libraries that keep all the laws -/
@[reducible] def libraries : Crates where
  valid := validIri
  colon_of_valid := colon_of_validIri
  valid_activitystreamsContext := by decide
  valid_publicCollection := by decide
  toString := JsonSyntax.toString
  fromStr := JsonSyntax.fromStr
  fromStr_toString _ h := JsonSyntax.fromStr_toString h
  toVec := JsonSyntax.toVec
  fromSlice := JsonSyntax.fromSlice
  fromSlice_toVec _ h := JsonSyntax.fromSlice_toVec h
  PrivateKey := UInt8
  PublicKey := UInt8
  decEqPublicKey := inferInstance
  fromPkcs8Pem := readKey "PRIVATE"
  fromPublicKeyPem := readKey "PUBLIC"
  publicKey privateKey := privateKey
  sign privateKey message := privateKey :: message
  isSignature _ := true
  verify publicKey message signature := signature == publicKey :: message
  sha256 body := body
  encode := Base64.encode
  decode := Base64.decode
  decode_encode := Base64.decode_encode
  encode_alphabet := Base64.encode_alphabet
  parseAuthority := parseAuthority
  parseUri := parseUri
  parseMime := parseMime
  parseHttpDate := parseHttpDate
  fmtHttpDate := fmtHttpDate
  parseUrl := parseUrl
  hostToString := hostToString
  pushSegments := pushSegments

section
attribute [local instance] libraries

/-- **The idealised cryptography is secure.** -/
theorem libraries_secure : SecureCrypto where
  binds publicKey privateKey message message' h := by
    have hsignature := @beq_iff_eq (List UInt8) _ _ (privateKey :: message)
      (publicKey :: message') |>.mp h
    exact (List.cons.inj hsignature).2.symm
  collisionFree _ _ h := h

/-- **It verifies what it has signed.** -/
theorem libraries_verify_sign (privateKey : Crypto.PrivateKey) (message : List UInt8) :
    Crypto.verify (Crypto.publicKey privateKey) message (Crypto.sign privateKey message) = true :=
  @beq_self_eq_true (List UInt8) _ _ (privateKey :: message)

theorem libraries_encode_sign (privateKey : Crypto.PrivateKey) (message : List UInt8) :
    Crypto.encode (Crypto.sign privateKey message) ≠ "" := by
  intro hempty
  have hdecode := Crypto.decode_encode (Crypto.sign privateKey message)
  rw [hempty] at hdecode
  cases hdecode

end

/-! ## two servers -/

/-- two actors, each the only one of a server -/
inductive Peer where
  | alice
  | bob
deriving DecidableEq

section
attribute [local instance] libraries

/-- an actor with its own key, at a server with a shared inbox -/
def account (id inbox outbox key sharedInbox : Iri) : Actor where
  context := none
  kind := .Person
  id := id
  inbox := inbox
  outbox := outbox
  followers := none
  preferredUsername := none
  name := none
  endpoints := some ⟨some sharedInbox⟩
  publicKey := some (.id key)

/-- a document is small enough if it has few characters -/
theorem published_size {j : Json} (h : 4 * (JsonSyntax.print j).length ≤ MAX_ACTOR_BODY_SIZE) :
    (JsonText.toVec j).length ≤ MAX_ACTOR_BODY_SIZE :=
  (JsonSyntax.length_toVec_le j).trans h

namespace Peer

def host : Peer → String
  | alice => "a.x"
  | bob => "b.x"

def keyId : Peer → Iri
  | alice => ⟨"http://a.x/alice#key", by decide⟩
  | bob => ⟨"http://b.x/bob#key", by decide⟩

def actor : Peer → Actor
  | alice => account ⟨"http://a.x/alice", by decide⟩ ⟨"http://a.x/alice/inbox", by decide⟩
    ⟨"http://a.x/alice/outbox", by decide⟩ alice.keyId ⟨"http://a.x/inbox", by decide⟩
  | bob => account ⟨"http://b.x/bob", by decide⟩ ⟨"http://b.x/bob/inbox", by decide⟩
    ⟨"http://b.x/bob/outbox", by decide⟩ bob.keyId ⟨"http://b.x/inbox", by decide⟩

def keyPair : Peer → ActorKeyPair
  | alice => ⟨"PRIVATE 1", "PUBLIC 1"⟩
  | bob => ⟨"PRIVATE 2", "PUBLIC 2"⟩

def key (p : Peer) : CryptographicKey :=
  ⟨p.keyId, .CryptographicKey, p.actor.id, p.keyPair.publicKeyPem⟩

/-- a network in which the two publish their documents -/
def resolver : ActorResolver where
  addressPolicy := .PublicOnly
  keyResponse url := some (published (JsonText.toVec
    (if url.host = some (.Domain alice.host) then alice.key.serialize else bob.key.serialize)))
  actorResponse url := some (published (JsonText.toVec
    (if url.host = some (.Domain alice.host) then alice.actor.serialize
    else bob.actor.serialize)))

/-- the server of an actor, which requires signatures -/
def server (p : Peer) : FederServer where
  getActor identifier := .ok (if identifier = p.host then some p.actor else none)
  getActorById id := .ok (if id = p.actor.id then some p.actor else none)
  resolver := resolver
  inboxAuthPolicy := .RequireSigned
  now := 0

theorem resolve_actor (p : Peer) : resolver.resolve p.actor.id = .ok p.actor := by
  cases p with
  | alice =>
    refine ActorResolver.resolve_of_fetch (fetchDocument_of_published rfl (by decide) rfl rfl ?_)
    exact published_size (by decide +kernel)
  | bob =>
    refine ActorResolver.resolve_of_fetch (fetchDocument_of_published rfl (by decide) rfl rfl ?_)
    exact published_size (by decide +kernel)

theorem resolve_key (p : Peer) : resolver.resolveKey p.keyId = .ok p.key := by
  cases p with
  | alice =>
    refine @ActorResolver.resolveKey_of_fetch _ _ alice.key
      (fetchDocument_of_published rfl (by decide) rfl rfl ?_)
    exact published_size (by decide +kernel)
  | bob =>
    refine @ActorResolver.resolveKey_of_fetch _ _ bob.key
      (fetchDocument_of_published rfl (by decide) rfl rfl ?_)
    exact published_size (by decide +kernel)

theorem headers_visible (q : Peer) (body : List UInt8) :
    ∀ e ∈ signedHeaders 0 body q.host, isVisible e.2 = true := by
  simp only [signedHeaders, List.forall_mem_cons, List.not_mem_nil, false_implies, implies_true,
    and_true]
  refine ⟨by decide, by decide, isVisible_digestHeader body, ?_⟩
  cases q <;> decide

/-- what one of them has sent to the inbox of the other -/
structure Request (p q : Peer) (activity : Json) (r : OutgoingRequest) : Prop where
  build : buildRequest .PublicOnly 0 p.actor p.keyPair activity q.actor.inbox = .ok r
  headers : r.headers = signedHeaders 0 (JsonText.toVec activity) q.host

theorem sendKeyId_actor (p : Peer) : sendKeyId p.actor p.keyPair = .ok p.keyId := by
  cases p <;> rfl

theorem exists_privateKey (p : Peer) : ∃ privateKey,
    Crypto.fromPkcs8Pem p.keyPair.privateKeyPem = some privateKey ∧
    Crypto.fromPublicKeyPem p.keyPair.publicKeyPem = some (Crypto.publicKey privateKey) := by
  cases p <;> exact ⟨_, rfl, rfl⟩

theorem exists_request (p q : Peer) (activity : Json) : ∃ r, Request p q activity r := by
  obtain ⟨privateKey, hprivate, _⟩ := p.exists_privateKey
  obtain ⟨url, hurl, hhttp, hhost, hport⟩ : ∃ url,
      HttpSyntax.parseUrl q.actor.inbox.str = some url ∧ url.isHttp = true ∧
      url.host = some (.Domain q.host) ∧ url.port = none := by
    cases q <;> exact ⟨_, rfl, by decide, by decide, by decide⟩
  have hheader : hostHeader (.Domain q.host) url.port = q.host := by
    rw [hport]
    rfl
  have haddress : validateLiteralHost url.host .PublicOnly = .ok () := by
    rw [hhost]
    rfl
  have hsigned : ∀ e ∈ signedHeaders 0 (JsonText.toVec activity) (hostHeader (.Domain q.host)
      url.port), isVisible e.2 = true := by
    rw [hheader]
    exact headers_visible q _
  obtain ⟨r, hbuild, _, hheaders⟩ := buildRequest_complete p.sendKeyId_actor hurl hhttp haddress
    hhost hprivate hsigned (by cases p <;> decide)
  rw [hheader] at hheaders
  exact ⟨r, hbuild, hheaders⟩

section
variable {p q : Peer} {activity : Json} {r : OutgoingRequest}

theorem Request.built (h : Request p q activity r) :
    BuiltRequest 0 p.actor p.keyPair activity r := buildRequest_ok h.build

/-- the request as it arrives -/
def Request.received (h : Request p q activity r) : InboxRequest := h.built.received

theorem Request.verifiable (h : Request p q activity r) :
    Verifiable p.keyPair p.keyId r p.key.publicKeyPem where
  visible := by
    rw [h.headers]
    exact headers_visible q _
  keyIdVisible := by cases p <;> decide
  keyIdPlain := by cases p <;> decide
  keys := by
    obtain ⟨privateKey, hprivate, hpublic⟩ := p.exists_privateKey
    exact ⟨privateKey, Crypto.publicKey privateKey, hprivate, hpublic, fun message =>
      ⟨libraries_encode_sign privateKey message, rfl, libraries_verify_sign privateKey message⟩⟩

theorem Request.get_received (h : Request p q activity r) {e : String × String}
    (he : e ∈ signedHeaders 0 (JsonText.toVec activity) q.host) :
    (h.received.headers.get e.1).bind toStr = some e.2 := by
  rw [← h.headers] at he
  exact h.built.get_received (List.mem_append_left _ he) (h.verifiable.visible e he)

theorem Request.host_received (h : Request p q activity r) :
    verifyRequestHost h.received.headers q.actor.inbox = .ok () := by
  have hget := @Request.get_received p q activity r h ("host", q.host) (by simp [signedHeaders])
  have hauthority : HttpSyntax.parseAuthority q.host = some ⟨q.host, q.host, none⟩ := by
    cases q <;> decide
  obtain ⟨uri, huri, hscheme, hinbox⟩ : ∃ uri, HttpSyntax.parseUri q.actor.inbox.str = some uri ∧
      uri.scheme = some "http" ∧ uri.authority = some ⟨q.host, q.host, none⟩ := by
    cases q <;> exact ⟨_, rfl, by decide, by decide⟩
  have hhostOnly : hostOnly ⟨q.host, q.host, none⟩ = true := by
    cases q <;> decide
  have hport : ∀ port, effectivePort ⟨q.host, q.host, none⟩ port = some port := by
    cases q <;> exact fun _ => rfl
  unfold verifyRequestHost
  rw [hget, Option.bind_some, hauthority, Option.filter_some_pos hhostOnly]
  dsimp only
  rw [huri]
  dsimp only
  rw [hinbox, Option.filter_some_pos hhostOnly, hscheme]
  dsimp only
  rw [hport]
  dsimp only
  rw [if_pos]
  rw [Bool.and_eq_true]
  exact ⟨eqIgnoreAsciiCase_iff.mpr rfl, beq_self_eq_true _⟩

theorem Request.date_received (h : Request p q activity r) :
    verifyRequestDate h.received.headers 0 = .ok () := by
  have hget := @Request.get_received p q activity r h ("date", HttpSyntax.fmtHttpDate 0)
    (by simp [signedHeaders])
  have hparse : HttpSyntax.parseHttpDate (HttpSyntax.fmtHttpDate 0) = some 0 := by decide
  unfold verifyRequestDate
  rw [hget, Option.bind_some, hparse]
  dsimp only
  rw [if_neg (by decide)]

/-- **What one of them sends to an inbox is verified there.** -/
theorem Request.verified (h : Request p q activity r) :
    verifySignedRequest resolver 0 h.received p.actor.id q.actor.inbox = .ok p.actor :=
  verifySignedRequest_received h.built p.sendKeyId_actor (resolve_key p) h.verifiable rfl
    (resolve_actor p) (by cases p <;> decide) h.host_received h.date_received

/-- its signature is good under the key of the sender only, and only for what was signed -/
theorem Request.unforged (h : Request p q activity r) {header : String}
    {signature : ParsedSignature} {bytes message : List UInt8} {key : Crypto.PublicKey}
    (hheader : (h.received.headers.get "signature").bind toStr = some header)
    (hparse : parseSignatureHeader header = some signature)
    (hdecode : Crypto.decode signature.signature = some bytes)
    (hverify : Crypto.verify key message bytes = true) :
    (∃ privateKey, Crypto.fromPkcs8Pem p.keyPair.privateKeyPem = some privateKey ∧
      Crypto.publicKey privateKey = key) ∧
    message = utf8 (draftCavageSignatureBase r.method r.requestTarget r.headers) := by
  obtain ⟨privateKey, hprivate, _⟩ := p.exists_privateKey
  obtain ⟨hheader', hparse'⟩ := h.built.signature_received p.sendKeyId_actor h.verifiable hprivate
  rw [show h.received = h.built.received from rfl, hheader'] at hheader
  cases hheader
  rw [hparse'] at hparse
  cases hparse
  rw [receivedSignature, Crypto.decode_encode] at hdecode
  cases hdecode
  have hsignature := @beq_iff_eq (List UInt8) _ _ (privateKey :: _) (key :: message) |>.mp hverify
  obtain ⟨hkey, hmessage⟩ := List.cons.inj hsignature
  exact ⟨⟨privateKey, hprivate, hkey⟩, hmessage.symm⟩

theorem Request.parsed (h : Request p q activity r) (hwritten : activity.Written maxDepth) :
    parseInboxRequest h.received = .ok (h.received, activity) :=
  parseInboxRequest_received h.built hwritten (by decide)

theorem Request.verifiedAs (h : Request p q activity r)
    (hactor : activityActorId activity = some p.actor.id) :
    Delivery.VerifiedAs ⟨q.server, q.actor, q.actor.inbox, h.received, activity, none⟩ p.actor :=
  authenticate_of_verified rfl hactor h.verified

end

/-- the store of an actor's server, with the key pair of the actor -/
def store (p : Peer) : SqliteStore :=
  { SqliteStore.empty with
    keys := Finmap.singleton p.actor.id.str
      ⟨p.keyPair.privateKeyPem, p.keyPair.publicKeyPem⟩ }

theorem load_keyPair {p : Peer} {store : SqliteStore} (h : store.keys = p.store.keys) :
    store.call (.loadActorKeyPair p.actor.id) = (.ok (some p.keyPair), store) := by
  have hpair : ActorKeyPair.fromPem p.keyPair.privateKeyPem p.keyPair.publicKeyPem =
      .ok p.keyPair := by
    cases p <;> rfl
  show (store.loadActorKeyPair p.actor.id, store) = _
  unfold SqliteStore.loadActorKeyPair
  rw [h, show p.store.keys.lookup p.actor.id.str =
    some ⟨p.keyPair.privateKeyPem, p.keyPair.publicKeyPem⟩ from Finmap.lookup_singleton_eq]
  dsimp only
  rw [hpair]

def followId : Iri := ⟨"http://a.x/follows/1", by decide⟩

/-- alice follows bob -/
def pendingFollow : PendingFollow := ⟨alice.actor.id, bob.actor, followId⟩

def follow : Follow := (createFollow alice.actor bob.actor followId).activity

def acceptId : Iri := ⟨"http://b.x/bob#accepts/http%3A%2F%2Fa%2Ex%2Ffollows%2F1", by decide⟩

/-- what the Follow of alice comes to at bob's server -/
def followOutcome : FollowOutcome where
  follower := alice.actor
  following := bob.actor.id
  accept := Accept.new acceptId (.id bob.actor.id)
    (.object { follow with actor := .object alice.actor })
  recipientInbox := alice.actor.inbox

/-- the Accept of bob -/
def accept : Accept := followOutcome.accept

/-- alice takes her Follow back -/
def undo : Undo where
  context := some activitystreams
  kind := .Undo
  id := ⟨"http://a.x/undos/1", by decide⟩
  actor := .id alice.actor.id
  object := .object follow

theorem Request.follow_received {r : OutgoingRequest} (h : Request alice bob follow.serialize r) :
    parseInboxRequest h.received = .ok (h.received, follow.serialize) ∧
    Delivery.decide ⟨bob.server, bob.actor, bob.actor.inbox, h.received, follow.serialize, none⟩ =
      .ok (.follow followOutcome) := by
  have hverified := h.verifiedAs (activityActorId_follow follow)
  have hid : acceptIdForFollow bob.actor.id followId = .ok acceptId := by decide
  exact ⟨h.parsed (follow.serialize_written.mono (by decide)),
    decide_written_follow hverified rfl hid rfl⟩

theorem Request.accept_received {r : OutgoingRequest} (h : Request bob alice accept.serialize r) :
    parseInboxRequest h.received = .ok (h.received, accept.serialize) ∧
    Delivery.decide ⟨alice.server, alice.actor, alice.actor.inbox, h.received, accept.serialize,
      none⟩ = .ok (.accept bob.actor accept) := by
  have hverified := h.verifiedAs (activityActorId_accept accept)
  exact ⟨h.parsed (accept.serialize_written.mono (by decide)), decide_written_accept hverified rfl⟩

end Peer

end

end Feder
