import Feder.Server.Send

/-!
# Verification of signed requests

`inbox.rs`: the reading of the `Signature` header and `verify_signed_request`.

* `verifySignedRequest_ok`   everything that a successful verification has checked.
-/

namespace Feder
open Serde Text

/-- 65 minutes -/
def MAX_SIGNATURE_AGE : Int := 65 * 60 * 1000000000
/-- 60 minutes -/
def MAX_CLOCK_SKEW : Int := 60 * 60 * 1000000000

/-! ## the `Signature` header -/

structure ParsedSignature where
  keyId : String
  algorithm : Option String
  signedHeaders : List String
  signature : String
deriving DecidableEq

/-- a character of the category `Cc` -/
def isControl (c : Char) : Bool := c.toNat < 0x20 || (0x7f ≤ c.toNat && c.toNat ≤ 0x9f)

/-- the loop over the characters after the opening quote -/
def scanQuoted (escaped : Bool) (value : List Char) :
    List Char → Option (List Char × List Char)
  | [] => none
  | character :: rest =>
    if escaped then scanQuoted false (value ++ [character]) rest
    else if character = '\\' then scanQuoted true value rest
    else if character = '"' then some (value, rest)
    else if isControl character then none
    else scanQuoted false (value ++ [character]) rest

def parseQuotedParameter : List Char → Option (List Char × List Char)
  | '"' :: input => scanQuoted false [] input
  | _ => none

theorem scanQuoted_length {escaped : Bool} {value input v rest : List Char}
    (h : scanQuoted escaped value input = some (v, rest)) : rest.length < input.length := by
  induction input generalizing escaped value with
  | nil => cases h
  | cons c input ih =>
    rw [List.length_cons]
    unfold scanQuoted at h
    split at h
    · exact Nat.lt_succ_of_lt (ih h)
    · split at h
      · exact Nat.lt_succ_of_lt (ih h)
      · split at h
        · cases h
          exact Nat.lt_succ_self _
        · split at h
          · cases h
          · exact Nat.lt_succ_of_lt (ih h)

theorem parseQuotedParameter_length {input v rest : List Char}
    (h : parseQuotedParameter input = some (v, rest)) : rest.length < input.length := by
  unfold parseQuotedParameter at h
  split at h
  · exact Nat.lt_succ_of_lt (scanQuoted_length h)
  · cases h

def isParameterName (name : List Char) : Bool :=
  !name.isEmpty && name.all fun c => c.isAlphanum || c == '-' || c == '_'

/-- the loop over the parameters: those read so far, and what remains of the header -/
def parseParameters (parameters : List (String × String)) (remaining : List Char) :
    Option (List (String × String)) :=
  if trimStart remaining = [] then some parameters
  else
    match _hequals : splitOnce '=' (trimStart remaining) with
    | none => none
    | some (name, rest) =>
      if ¬ isParameterName (trimChars name) then none
      else
        match _hvalue : parseQuotedParameter (trimStart rest) with
        | none => none
        | some (value, rest') =>
          let key := toAsciiLowercase (String.ofList (trimChars name))
          if (parameters.lookup key).isSome then none
          else
            let parameters := parameters ++ [(key, String.ofList value)]
            match _hrest : trimStart rest' with
            | [] => some parameters
            | ',' :: rest'' => parseParameters parameters rest''
            | _ :: _ => none
termination_by remaining.length
decreasing_by
  have h1 : (trimStart remaining).length ≤ remaining.length := length_trimStart _
  have h2 : rest.length < (trimStart remaining).length := splitOnce_length _hequals
  have h3 : (trimStart rest).length ≤ rest.length := length_trimStart _
  have h4 : rest'.length < (trimStart rest).length := parseQuotedParameter_length _hvalue
  have h5 : (trimStart rest').length ≤ rest'.length := length_trimStart _
  rw [_hrest, List.length_cons] at h5
  omega

def parseSignatureHeader (header : String) : Option ParsedSignature := do
  let parameters ← parseParameters [] header.toList
  let keyId ← parameters.lookup "keyid"
  let algorithm := (parameters.lookup "algorithm").map toAsciiLowercase
  let headers ← parameters.lookup "headers"
  let signedHeaders := (words headers).map toAsciiLowercase
  let signature ← parameters.lookup "signature"
  if keyId.isEmpty || signedHeaders.isEmpty || signature.isEmpty then none
  else some ⟨keyId, algorithm, signedHeaders, signature⟩

/-! ## host, date and digest -/

/-- the port of an authority; `none` where the text behind the host is no port -/
def effectivePort (authority : Authority) (defaultPort : Option UInt16) :
    Option (Option UInt16) :=
  let str := authority.str.toList
  let host := authority.host.toList
  if str.length < host.length then none
  else
    match str.drop host.length with
    | [] => some defaultPort
    | ':' :: _ => authority.portU16.map some
    | _ :: _ => none

/-- an authority without user information -/
def hostOnly (authority : Authority) : Bool := !authority.str.toList.contains '@'

section
variable [Crates]

def verifyRequestHost (headers : HeaderMap) (inbox : Iri) : Except StatusCode Unit :=
  match (((headers.get "host").bind toStr).bind HttpSyntax.parseAuthority).filter hostOnly with
  | none => .error .UNAUTHORIZED
  | some signedHost =>
    match HttpSyntax.parseUri inbox.str with
    | none => .error .INTERNAL_SERVER_ERROR
    | some inboxUri =>
      match inboxUri.authority.filter hostOnly with
      | none => .error .INTERNAL_SERVER_ERROR
      | some expectedHost =>
        let defaultPort : Option UInt16 :=
          match inboxUri.scheme with
          | some scheme =>
            if eqIgnoreAsciiCase scheme "http" then some 80
            else if eqIgnoreAsciiCase scheme "https" then some 443
            else none
          | none => none
        match effectivePort signedHost defaultPort with
        | none => .error .UNAUTHORIZED
        | some signedPort =>
          match effectivePort expectedHost defaultPort with
          | none => .error .INTERNAL_SERVER_ERROR
          | some expectedPort =>
            if eqIgnoreAsciiCase signedHost.host expectedHost.host && signedPort == expectedPort
            then .ok ()
            else .error .UNAUTHORIZED

def verifyRequestDate (headers : HeaderMap) (now : Int) : Except StatusCode Unit :=
  match ((headers.get "date").bind toStr).bind HttpSyntax.parseHttpDate with
  | none => .error .UNAUTHORIZED
  | some date =>
    if (date ≤ now ∧ now - date > MAX_SIGNATURE_AGE) ∨
        (now ≤ date ∧ date - now > MAX_CLOCK_SKEW) then .error .UNAUTHORIZED
    else .ok ()

/-- one entry of a `Digest` header is the SHA-256 digest that is expected -/
def digestEntryMatches (expected : String) (entry : List Char) : Bool :=
  match splitOnce '=' (trimChars entry) with
  | some (algorithm, value) =>
    eqIgnoreAsciiCase (String.ofList algorithm) "sha-256" &&
      (match splitOnce '=' expected.toList with
      | some (_, expected) => value == expected
      | none => false)
  | none => false

def verifyRequestDigest (headers : HeaderMap) (body : List UInt8) : Except StatusCode Unit :=
  match (headers.get "digest").bind toStr with
  | none => .error .UNAUTHORIZED
  | some digest =>
    if (split ',' digest.toList).any (digestEntryMatches (createSha256DigestHeader body)) then
      .ok ()
    else .error .UNAUTHORIZED

/-! ## the request -/

/-- The loop over the signed header names: each may occur only once among the names, and once
in the request. -/
def collectSignedHeaders (headers : HeaderMap) (seen : List String)
    (collected : List (String × String)) : List String → Option (List (String × String))
  | [] => some collected
  | name :: names =>
    if name.toList.head? == some '(' || seen.contains name then none
    else
      match headers.getAll name with
      | [value] =>
        match toStr value with
        | some text =>
          collectSignedHeaders headers (seen ++ [name]) (collected ++ [(name, text)]) names
        | none => none
      | _ => none

def actorOwnsKey (actor : Actor) (key : CryptographicKey) : Bool :=
  match actor.publicKey with
  | some (.id advertisedKeyId) => advertisedKeyId == key.id
  | some (.object advertisedKey) =>
    advertisedKey.id == key.id && advertisedKey.owner == actor.id &&
      advertisedKey.publicKeyPem == key.publicKeyPem
  | none => false

/-- `signature.algorithm` is one that is accepted, and the request target comes first -/
def acceptsSignature (signature : ParsedSignature) : Bool :=
  (match signature.algorithm with
  | none => true
  | some algorithm => algorithm == "rsa-sha256" || algorithm == "hs2019") &&
    signature.signedHeaders.head? == some "(request-target)"

def verifySignedRequest (resolver : ActorResolver) (now : Int) (request : InboxRequest)
    (activityActorId expectedInbox : Iri) : Except StatusCode Actor := do
  let some signatureHeader := (request.headers.get "signature").bind toStr
    | .error .UNAUTHORIZED
  let some signature := parseSignatureHeader signatureHeader
    | .error .UNAUTHORIZED
  if ¬ acceptsSignature signature then .error .UNAUTHORIZED
  let names := signature.signedHeaders.drop 1
  let some signedHeaders := collectSignedHeaders request.headers [] [] names
    | .error .UNAUTHORIZED
  if ¬ ["host", "date", "digest"].all (fun required => names.contains required) then
    .error .UNAUTHORIZED
  verifyRequestHost request.headers expectedInbox
  verifyRequestDate request.headers now
  verifyRequestDigest request.headers request.body
  let some keyId := Iri.parse signature.keyId
    | .error .UNAUTHORIZED
  let .ok publicKey := resolver.resolveKey keyId
    | .error .BAD_GATEWAY
  if publicKey.id ≠ keyId ∨ publicKey.owner ≠ activityActorId then .error .UNAUTHORIZED
  let .ok () := verifyDraftCavage publicKey.publicKeyPem request.method.str
      request.uri.requestTarget signedHeaders signature.signature
    | .error .UNAUTHORIZED
  let .ok actor := resolver.resolve activityActorId
    | .error .BAD_GATEWAY
  if actor.id ≠ activityActorId ∨ ¬ actorOwnsKey actor publicKey then .error .UNAUTHORIZED
  return actor

/-- everything that a successful verification has checked, with the parsed signature, the headers
under it and the key that were used -/
structure VerifiedRequest (resolver : ActorResolver) (now : Int) (request : InboxRequest)
    (activityActorId expectedInbox : Iri) (actor : Actor) (signature : ParsedSignature)
    (signedHeaders : List (String × String)) (publicKey : CryptographicKey) : Prop where
  header : ∃ text, (request.headers.get "signature").bind toStr = some text ∧
    parseSignatureHeader text = some signature
  accepted : acceptsSignature signature = true
  collected : collectSignedHeaders request.headers [] [] (signature.signedHeaders.drop 1) =
    some signedHeaders
  required : ∀ name ∈ ["host", "date", "digest"], name ∈ signature.signedHeaders.drop 1
  host : verifyRequestHost request.headers expectedInbox = .ok ()
  date : verifyRequestDate request.headers now = .ok ()
  digest : verifyRequestDigest request.headers request.body = .ok ()
  keyId : Iri.parse signature.keyId = some publicKey.id
  resolvedKey : resolver.resolveKey publicKey.id = .ok publicKey
  owner : publicKey.owner = activityActorId
  verified : verifyDraftCavage publicKey.publicKeyPem request.method.str
    request.uri.requestTarget signedHeaders signature.signature = .ok ()
  resolved : resolver.resolve activityActorId = .ok actor
  actorId : actor.id = activityActorId
  owns : actorOwnsKey actor publicKey = true

theorem verifySignedRequest_ok {resolver : ActorResolver} {now : Int} {request : InboxRequest}
    {activityActorId expectedInbox : Iri} {actor : Actor}
    (h : verifySignedRequest resolver now request activityActorId expectedInbox = .ok actor) :
    ∃ signature signedHeaders publicKey, VerifiedRequest resolver now request activityActorId
      expectedInbox actor signature signedHeaders publicKey := by
  unfold verifySignedRequest at h
  simp only [bind, Except.bind, pure, Except.pure] at h
  split at h
  case h_2 => cases h
  rename_i text htext
  split at h
  case h_2 => cases h
  rename_i signature hsignature
  obtain ⟨haccepted, h⟩ := ite_error_eq_ok.mp h
  split at h
  case h_2 => cases h
  rename_i signedHeaders hcollected
  obtain ⟨hrequired, h⟩ := ite_error_eq_ok.mp h
  split at h
  · cases h
  rename_i hhost
  split at h
  · cases h
  rename_i hdate
  split at h
  · cases h
  rename_i hdigest
  split at h
  case h_2 => cases h
  rename_i keyId hkeyId
  split at h
  case h_2 => cases h
  rename_i publicKey hkey
  obtain ⟨howner, h⟩ := ite_error_eq_ok.mp h
  split at h
  case h_2 => cases h
  rename_i hverified
  split at h
  case h_2 => cases h
  rename_i resolved hresolved
  obtain ⟨hactor, h⟩ := ite_error_eq_ok.mp h
  cases h
  rw [not_or, not_not] at howner hactor
  obtain ⟨rfl, howner⟩ := howner
  have hnames : ∀ name ∈ ["host", "date", "digest"], name ∈ signature.signedHeaders.drop 1 := by
    intro name hname
    simpa using List.all_eq_true.mp (not_not.mp hrequired) name hname
  exact ⟨signature, signedHeaders, publicKey, ⟨text, htext, hsignature⟩, not_not.mp haccepted,
    hcollected, hnames, hhost, hdate, hdigest, hkeyId, hkey, not_not.mp howner, hverified,
    hresolved, hactor.1, not_not.mp hactor.2⟩

/-- these checks are all that a verification asks for -/
theorem VerifiedRequest.ok {resolver : ActorResolver} {now : Int} {request : InboxRequest}
    {activityActorId expectedInbox : Iri} {actor : Actor} {signature : ParsedSignature}
    {signedHeaders : List (String × String)} {publicKey : CryptographicKey}
    (h : VerifiedRequest resolver now request activityActorId expectedInbox actor signature
      signedHeaders publicKey) :
    verifySignedRequest resolver now request activityActorId expectedInbox = .ok actor := by
  obtain ⟨text, htext, hparse⟩ := h.header
  have hrequired : ["host", "date", "digest"].all
      (fun required => (signature.signedHeaders.drop 1).contains required) = true := by
    apply List.all_eq_true.mpr
    intro name hname
    exact List.contains_iff_mem.mpr (h.required name hname)
  have howner : ¬ (publicKey.id ≠ publicKey.id ∨ publicKey.owner ≠ activityActorId) := by
    rw [not_or, not_not, not_not]
    exact ⟨rfl, h.owner⟩
  have hactor : ¬ (actor.id ≠ activityActorId ∨ ¬ actorOwnsKey actor publicKey) := by
    rw [not_or, not_not, not_not]
    exact ⟨h.actorId, h.owns⟩
  unfold verifySignedRequest
  simp only [bind, Except.bind, pure, Except.pure]
  rw [htext]
  dsimp only
  rw [hparse]
  dsimp only
  rw [if_neg (not_not.mpr h.accepted)]
  rw [h.collected]
  dsimp only
  rw [if_neg (not_not.mpr hrequired)]
  rw [h.host, h.date, h.digest]
  dsimp only
  rw [h.keyId]
  dsimp only
  rw [h.resolvedKey]
  dsimp only
  rw [if_neg howner]
  rw [h.verified]
  dsimp only
  rw [h.resolved]
  dsimp only
  rw [if_neg hactor]

end

end Feder
