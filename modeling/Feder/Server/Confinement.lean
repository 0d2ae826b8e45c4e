import Feder.Server.Libraries

/-!
# Outbound connections are confined

The addresses to which the client connects when it fetches a document or delivers an activity.  The
client itself is a parameter: with the settings of `build_client` it connects to the literal address
of a URL, or to an address that its DNS hook has returned for the domain.

* `public_of_validate`      an address that passes the check is outside of all networks;
* `resolve_public`          so are the addresses that the DNS hook returns;
* `Outbound.url_ok`         the URLs that are handed to the client;
* `connections_confined`    no connection leaves the public networks.
-/

namespace Feder
open Serde

/-! ## public addresses -/

/-- outside of all networks that are not public -/
def IsPublic (address : IpAddr) : Prop :=
  ∀ network ∈ nonPublicNetworks, network.contains address = false

/-- Public, and so is the IPv4 address behind an IPv4-mapped one. -/
structure Confined (address : IpAddr) : Prop where
  outside : IsPublic address
  mapped : ∀ v6 v4, address = .V6 v6 → toIpv4Mapped v6 = some v4 → IsPublic (.V4 v4)

theorem public_of_networks {address : IpAddr} (h : validateNetworks address = .ok ()) :
    IsPublic address := by
  unfold validateNetworks at h
  split at h
  · cases h
  · rename_i hany
    intro network hnetwork
    rw [Bool.not_eq_true, List.any_eq_false] at hany
    exact Bool.not_eq_true _ ▸ hany network hnetwork

/-- a prefix that disagrees with the mapped block on their common bits -/
def apartFromMapped : IpNet → Bool
  | .V4 _ _ => true
  | .V6 network length =>
    network >>> max 32 (128 - length) != 0xffff#128 >>> (max 32 (128 - length) - 32)

theorem networks_apart : ∀ network ∈ nonPublicNetworks, apartFromMapped network = true := by
  decide

theorem mapped_public {v6 : BitVec 128} (h : v6 >>> 32 = 0xffff#128) : IsPublic (.V6 v6) := by
  intro network hnetwork
  have hapart := networks_apart network hnetwork
  cases network with
  | V4 _ _ => rfl
  | V6 network length =>
    unfold apartFromMapped at hapart
    rw [bne_iff_ne] at hapart
    unfold IpNet.contains
    rw [beq_eq_false_iff_ne]
    intro heq
    apply hapart
    have hwide : 128 - length + (max 32 (128 - length) - (128 - length)) =
        max 32 (128 - length) := by omega
    have hmapped : 32 + (max 32 (128 - length) - 32) = max 32 (128 - length) := by omega
    calc network >>> max 32 (128 - length)
        = network >>> (128 - length) >>> (max 32 (128 - length) - (128 - length)) := by
          rw [← BitVec.shiftRight_add, hwide]
      _ = v6 >>> (128 - length) >>> (max 32 (128 - length) - (128 - length)) := by rw [heq]
      _ = v6 >>> 32 >>> (max 32 (128 - length) - 32) := by
          rw [← BitVec.shiftRight_add, ← BitVec.shiftRight_add, hwide, hmapped]
      _ = _ := by rw [h]

theorem toIpv4Mapped_some {v6 : BitVec 128} {v4 : BitVec 32} (h : toIpv4Mapped v6 = some v4) :
    v6 >>> 32 = 0xffff#128 := by
  unfold toIpv4Mapped at h
  split at h
  · assumption
  · cases h

/-- **An address that passes the check is confined**, a mapped one by the check of the address
behind it. -/
theorem public_of_validate {address : IpAddr} (h : validatePublicAddress address = .ok ()) :
    Confined address := by
  cases address with
  | V4 v4 =>
    refine ⟨public_of_networks h, fun v6 v4' e => ?_⟩
    cases e
  | V6 v6 =>
    unfold validatePublicAddress at h
    dsimp only at h
    cases hmapped : toIpv4Mapped v6 with
    | some v4 =>
      rw [hmapped] at h
      refine ⟨mapped_public (toIpv4Mapped_some hmapped), fun v6' v4' e he => ?_⟩
      cases e
      rw [hmapped] at he
      cases he
      exact public_of_networks h
    | none =>
      rw [hmapped] at h
      refine ⟨public_of_networks h, fun v6' v4' e he => ?_⟩
      cases e
      rw [hmapped] at he
      cases he

/-! ## the DNS hook -/

inductive DnsError where
  | Lookup
  | NotFound (host : String)
  | PermissionDenied (host : String) (blocked : IpAddr)
deriving DecidableEq

/-- the loop over the addresses of an answer -/
def validateAddresses : List IpAddr → Except IpAddr Unit
  | [] => .ok ()
  | address :: rest =>
    match validatePublicAddress address with
    | .error blocked => .error blocked
    | .ok () => validateAddresses rest

structure PublicDnsResolver where
  policy : OutboundAddressPolicy

/-- `PublicDnsResolver::resolve`, on what `lookup_host` has found -/
def PublicDnsResolver.resolve (resolver : PublicDnsResolver) (host : String) :
    Option (List IpAddr) → Except DnsError (List IpAddr)
  | none => .error .Lookup
  | some addresses =>
    if addresses.isEmpty then .error (.NotFound host)
    else if resolver.policy = .PublicOnly then
      match validateAddresses addresses with
      | .error blocked => .error (.PermissionDenied host blocked)
      | .ok () => .ok addresses
    else .ok addresses

theorem validateAddresses_ok {addresses : List IpAddr} (h : validateAddresses addresses = .ok ()) :
    ∀ address ∈ addresses, validatePublicAddress address = .ok () := by
  induction addresses with
  | nil =>
    intro address hmem
    cases hmem
  | cons a rest ih =>
    unfold validateAddresses at h
    split at h
    · cases h
    · rename_i ha
      intro address hmem
      rcases List.mem_cons.mp hmem with rfl | hmem
      · exact ha
      · exact ih h address hmem

/-- **The addresses that the DNS hook returns are confined**, whatever the answer was. -/
theorem resolve_public {host : String} {answer : Option (List IpAddr)} {addresses : List IpAddr}
    (h : PublicDnsResolver.resolve ⟨.PublicOnly⟩ host answer = .ok addresses) :
    ∀ address ∈ addresses, Confined address := by
  unfold PublicDnsResolver.resolve at h
  split at h
  · cases h
  · split at h
    · cases h
    · rw [if_pos rfl] at h
      split at h
      · cases h
      · rename_i hvalid
        cases h
        intro address hmem
        exact public_of_validate (validateAddresses_ok hvalid address hmem)

/-! ## the client -/

/-- what a client does when it is redirected -/
inductive RedirectPolicy where
  | none
  | limited (max : Nat)
deriving DecidableEq

/-- the settings of a client; times are seconds -/
structure ClientSettings where
  dnsResolver : Option PublicDnsResolver
  redirect : RedirectPolicy
  noProxy : Bool
  connectTimeout : Nat
  timeout : Nat

def CONNECT_TIMEOUT : Nat := 10

def REQUEST_TIMEOUT : Nat := 30

/-- the client of `build_client` -/
def buildClient (policy : OutboundAddressPolicy) : ClientSettings where
  dnsResolver := some ⟨policy⟩
  redirect := .none
  noProxy := true
  connectTimeout := CONNECT_TIMEOUT
  timeout := REQUEST_TIMEOUT

/-- the addresses to which a client with these settings connects for a URL, given the answers of the
DNS to each lookup -/
abbrev Connect := ClientSettings → (Nat → String → Option (List IpAddr)) → Url → List IpAddr

/-- A client that follows no redirects and uses no proxy connects to a literal address of the URL,
or to an address that its DNS hook has returned for the domain. -/
def ConnectsDirectly (connect : Connect) : Prop :=
  ∀ settings resolver lookupHost url, settings.redirect = .none → settings.noProxy = true →
    settings.dnsResolver = some resolver → ∀ address ∈ connect settings lookupHost url,
      match url.host with
      | some (.Ipv4 v4) => address = .V4 v4
      | some (.Ipv6 v6) => address = .V6 v6
      | some (.Domain name) => ∃ n addresses, resolver.resolve name (lookupHost n name) =
          .ok addresses ∧ address ∈ addresses
      | none => False

theorem buildClient_confined {connect : Connect} (hclient : ConnectsDirectly connect)
    {lookupHost : Nat → String → Option (List IpAddr)} {url : Url}
    (hliteral : validateLiteralHost url.host .PublicOnly = .ok ()) :
    ∀ address ∈ connect (buildClient .PublicOnly) lookupHost url, Confined address := by
  intro address hmem
  have hconnect := hclient (buildClient .PublicOnly) _ lookupHost url rfl rfl rfl address hmem
  cases hhost : url.host with
  | none =>
    rw [hhost] at hconnect
    exact hconnect.elim
  | some host =>
    rw [hhost] at hconnect hliteral
    cases host with
    | Domain name =>
      obtain ⟨n, addresses, hresolve, haddress⟩ := hconnect
      exact resolve_public hresolve address haddress
    | Ipv4 v4 =>
      cases hconnect
      exact public_of_validate hliteral
    | Ipv6 v6 =>
      cases hconnect
      exact public_of_validate hliteral

/-! ## the calls that go out -/

section
variable [Crates]

/-- the part of `fetch_document` before the request -/
def fetchUrl (addressPolicy : OutboundAddressPolicy) (resourceId : Iri) :
    Except ActorResolveError Url :=
  match HttpSyntax.parseUrl resourceId.str with
  | none => .error (.InvalidResourceId resourceId.str)
  | some url =>
    if ¬ url.isHttp then .error (.InvalidResourceId resourceId.str)
    else
      match validateLiteralHost url.host addressPolicy with
      | .error address => .error (.PrivateResourceAddress resourceId.str address)
      | .ok () => .ok url

/-- `fetch_document` asks the client for this URL only, and for none where the part fails -/
theorem fetchDocument_url (addressPolicy : OutboundAddressPolicy) (resourceId : Iri) :
    (∀ url, fetchUrl addressPolicy resourceId = .ok url → ∀ get get' : Url → Option HttpResponse,
      get url = get' url →
      fetchDocument addressPolicy get resourceId = fetchDocument addressPolicy get' resourceId) ∧
    ∀ e, fetchUrl addressPolicy resourceId = .error e →
      ∀ get, fetchDocument addressPolicy get resourceId = .error e := by
  unfold fetchUrl fetchDocument
  cases HttpSyntax.parseUrl resourceId.str with
  | none =>
    refine ⟨fun url h => ?_, fun e h get => ?_⟩
    · cases h
    · cases h
      rfl
  | some url =>
    dsimp only
    by_cases hhttp : ¬ url.isHttp = true
    · rw [if_pos hhttp]
      refine ⟨fun url' h => ?_, fun e h get => ?_⟩
      · cases h
      · cases h
        exact if_pos hhttp
    · rw [if_neg hhttp]
      cases hliteral : validateLiteralHost url.host addressPolicy with
      | error address =>
        refine ⟨fun url' h => ?_, fun e h get => ?_⟩
        · cases h
        · cases h
          exact if_neg hhttp
      | ok _ =>
        refine ⟨fun url' h get get' hget => ?_, fun e h => ?_⟩
        · cases h
          rw [if_neg hhttp, if_neg hhttp, hget]
        · cases h

/-- the calls with which the server reaches out -/
inductive Outbound where
  | resolve (actorId : Iri)
  | resolveKey (keyId : Iri)
  | sendActivity (now : Int) (localActor : Actor) (keyPair : ActorKeyPair) (activity : Json)
      (inbox : Iri)

namespace Outbound

/-- the IRI that a call is about -/
def iri : Outbound → Iri
  | .resolve actorId => actorId
  | .resolveKey keyId => keyId
  | .sendActivity _ _ _ _ inbox => inbox

/-- the URL that a call hands to the client -/
def url (addressPolicy : OutboundAddressPolicy) : Outbound → Option Url
  | .resolve actorId => (fetchUrl addressPolicy actorId).toOption
  | .resolveKey keyId => (fetchUrl addressPolicy keyId).toOption
  | .sendActivity now localActor keyPair activity inbox =>
    (buildRequest addressPolicy now localActor keyPair activity inbox).toOption.map (·.url)

/-- the addresses to which a call connects -/
def connections (connect : Connect) (addressPolicy : OutboundAddressPolicy)
    (lookupHost : Nat → String → Option (List IpAddr)) (call : Outbound) : List IpAddr :=
  match call.url addressPolicy with
  | none => []
  | some url => connect (buildClient addressPolicy) lookupHost url

/-- **The URLs that are handed to the client** have passed the checks. -/
theorem url_ok {addressPolicy : OutboundAddressPolicy} {call : Outbound} {url : Url}
    (h : call.url addressPolicy = some url) :
    HttpSyntax.parseUrl call.iri.str = some url ∧ url.isHttp = true ∧
      validateLiteralHost url.host addressPolicy = .ok () := by
  have hfetch : ∀ resourceId : Iri, (fetchUrl addressPolicy resourceId).toOption = some url →
      HttpSyntax.parseUrl resourceId.str = some url ∧ url.isHttp = true ∧
        validateLiteralHost url.host addressPolicy = .ok () := by
    intro resourceId h
    unfold fetchUrl at h
    split at h
    · cases h
    · rename_i url' hurl
      split at h
      · cases h
      · rename_i hhttp
        split at h
        · cases h
        · rename_i hliteral
          cases h
          exact ⟨hurl, not_not.mp hhttp, hliteral⟩
  cases call with
  | resolve actorId => exact hfetch actorId h
  | resolveKey keyId => exact hfetch keyId h
  | sendActivity now localActor keyPair activity inbox =>
    obtain ⟨r, hr, rfl⟩ := Option.map_eq_some_iff.mp h
    cases hbuild : buildRequest addressPolicy now localActor keyPair activity inbox with
    | error e =>
      rw [hbuild] at hr
      cases hr
    | ok r' =>
      rw [hbuild] at hr
      cases hr
      obtain ⟨hurl, hhttp, hliteral, _⟩ := buildRequest_url hbuild
      exact ⟨hurl, hhttp, hliteral⟩

end Outbound

/-- **No connection leaves the public networks.**  Whatever the DNS answers to each lookup, every
address to which a call connects is outside of all networks that are not public, and the IPv4
address behind a mapped one is, too.  A URL with user information, without a host or with another
scheme causes no connection. -/
theorem connections_confined {connect : Connect} (hclient : ConnectsDirectly connect)
    (lookupHost : Nat → String → Option (List IpAddr)) (call : Outbound) :
    (∀ address ∈ call.connections connect .PublicOnly lookupHost, Confined address) ∧
    ∀ url, HttpSyntax.parseUrl call.iri.str = some url →
      (url.username ≠ "" ∨ url.password ≠ none ∨ url.host = none ∨
        (url.scheme ≠ "http" ∧ url.scheme ≠ "https")) →
      call.connections connect .PublicOnly lookupHost = [] := by
  constructor
  · intro address hmem
    unfold Outbound.connections at hmem
    split at hmem
    · cases hmem
    · rename_i url hurl
      obtain ⟨_, _, hliteral⟩ := Outbound.url_ok hurl
      exact buildClient_confined hclient hliteral address hmem
  · intro url hparse hbad
    unfold Outbound.connections
    cases hurl : call.url .PublicOnly with
    | none => rfl
    | some url' =>
      obtain ⟨hparse', hhttp, _⟩ := Outbound.url_ok hurl
      rw [hparse] at hparse'
      cases hparse'
      unfold Url.isHttp at hhttp
      simp only [Bool.and_eq_true, Bool.or_eq_true, beq_iff_eq, String.isEmpty_iff,
        Option.isNone_iff_eq_none, Option.isSome_iff_ne_none] at hhttp
      obtain ⟨⟨⟨hscheme, husername⟩, hpassword⟩, hhost⟩ := hhttp
      rcases hbad with hbad | hbad | hbad | ⟨hbad, hbad'⟩
      · exact absurd husername hbad
      · exact absurd hpassword hbad
      · exact absurd hbad hhost
      · rcases hscheme with hscheme | hscheme
        · exact absurd hscheme hbad
        · exact absurd hscheme hbad'

end

section
attribute [local instance] libraries

/-- a client that looks a domain up once and tries all the addresses -/
def connectDirectly : Connect := fun settings lookupHost url =>
  match url.host with
  | some (.Ipv4 v4) => [.V4 v4]
  | some (.Ipv6 v6) => [.V6 v6]
  | some (.Domain name) =>
    match settings.dnsResolver with
    | some resolver => ((resolver.resolve name (lookupHost 0 name)).toOption).getD []
    | none => (lookupHost 0 name).getD []
  | none => []

theorem connectDirectly_direct : ConnectsDirectly connectDirectly := by
  intro settings resolver lookupHost url _ _ hresolver address hmem
  unfold connectDirectly at hmem
  cases hhost : url.host with
  | none =>
    rw [hhost] at hmem
    cases hmem
  | some host =>
    rw [hhost] at hmem
    cases host with
    | Ipv4 v4 => exact List.mem_singleton.mp hmem
    | Ipv6 v6 => exact List.mem_singleton.mp hmem
    | Domain name =>
      dsimp only at hmem ⊢
      rw [hresolver] at hmem
      dsimp only at hmem
      cases hdns : resolver.resolve name (lookupHost 0 name) with
      | error e =>
        rw [hdns] at hmem
        cases hmem
      | ok addresses =>
        rw [hdns] at hmem
        exact ⟨0, addresses, hdns, hmem⟩

/-- bob's document is fetched from the one address of his host, which is a public one -/
theorem connections_confined_of_bob :
    (Outbound.resolve Peer.bob.actor.id).connections connectDirectly .PublicOnly
      (fun _ _ => some [.V4 (ipv4 93 184 216 34)]) = [.V4 (ipv4 93 184 216 34)] ∧
    Confined (.V4 (ipv4 93 184 216 34)) := by
  have hconnections : (Outbound.resolve Peer.bob.actor.id).connections connectDirectly .PublicOnly
      (fun _ _ => some [.V4 (ipv4 93 184 216 34)]) = [.V4 (ipv4 93 184 216 34)] := by
    decide
  obtain ⟨hconfined, _⟩ := connections_confined connectDirectly_direct
    (fun _ _ => some [.V4 (ipv4 93 184 216 34)]) (.resolve Peer.bob.actor.id)
  rw [hconnections] at hconfined
  exact ⟨hconnections, hconfined _ (List.mem_singleton.mpr rfl)⟩

end

end Feder
