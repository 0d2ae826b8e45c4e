import Feder.Server.DraftCavage

/-!
# Feder accepts what Feder sends

A request that `send_activity` has built for an inbox, as it arrives there.  It is verified exactly
where the key id of the sender is visible ASCII and the authority of the inbox has no `@` and no
empty port.

* `Authority.Splits`       the parts of an authority;
* `ReadAlike`              what the libraries read alike in the inbox;
* `verifyRequestHost_iff`  the host of the request fits its inbox;
* `sent_verified_iff`      when the request is verified.
-/

namespace Feder
open Serde Text

section
variable [Crates]

/-! ## hosts and ports -/

/-- the port that goes without saying -/
def wellKnownPort (scheme : String) : Option UInt16 :=
  if eqIgnoreAsciiCase scheme "http" then some 80
  else if eqIgnoreAsciiCase scheme "https" then some 443
  else none

omit [Crates] in
/-- The parts of an authority: user information up to an `@` may stand before the host, a colon
and the port, which may be empty, may stand behind it. -/
structure Authority.Splits (a : Authority) (user tail : List Char) : Prop where
  str : a.str.toList = user ++ (a.host.toList ++ tail)
  user : user = [] ∨ '@' ∈ user
  plain : '@' ∉ a.host.toList ++ tail
  port : (tail = [] ∧ a.portU16 = none) ∨ ∃ digits, tail = ':' :: digits

omit [Crates] in
theorem hostOnly_iff {a : Authority} {user tail : List Char} (h : a.Splits user tail) :
    hostOnly a = true ↔ user = [] := by
  unfold hostOnly
  rw [Bool.not_eq_true', List.contains_eq_mem, decide_eq_false_iff_not, h.str, List.mem_append,
    not_or]
  constructor
  · rintro ⟨huser, _⟩
    exact h.user.resolve_right huser
  · rintro rfl
    exact ⟨List.not_mem_nil, h.plain⟩

omit [Crates] in
theorem effectivePort_of_splits {a : Authority} {tail : List Char} (h : a.Splits [] tail)
    (defaultPort : Option UInt16) :
    effectivePort a defaultPort = if tail = [] then some defaultPort else a.portU16.map some := by
  have hstr : a.str.toList = a.host.toList ++ tail := h.str
  have hlength : ¬ a.str.toList.length < a.host.toList.length := by
    rw [hstr, List.length_append]
    omega
  unfold effectivePort
  rw [if_neg hlength, hstr, List.drop_left]
  rcases h.port with ⟨rfl, _⟩ | ⟨digits, rfl⟩ <;> rfl

omit [Crates] in
theorem effectivePort_isSome (a : Authority) (defaultPort : Option UInt16) :
    (effectivePort a defaultPort).isSome = (effectivePort a none).isSome := by
  unfold effectivePort
  dsimp only
  split
  · rfl
  · split <;> rfl

omit [Crates] in
theorem effectivePort_eq {a : Authority} {tail : List Char} (h : a.Splits [] tail)
    (hport : (effectivePort a none).isSome = true) (defaultPort : Option UInt16) :
    effectivePort a defaultPort = some (a.portU16.or defaultPort) := by
  rw [effectivePort_of_splits h] at hport ⊢
  rcases h.port with ⟨rfl, hnone⟩ | ⟨digits, rfl⟩
  · rw [if_pos rfl, hnone]
    rfl
  · rw [if_neg (List.cons_ne_nil _ _), Option.isSome_map] at hport
    obtain ⟨port, hsome⟩ := Option.isSome_iff_exists.mp hport
    rw [if_neg (List.cons_ne_nil _ _), hsome]
    rfl

/-- What the libraries read alike in an inbox, given as a URL and as a URI: the scheme, the host up
to letter case, and the port, where none stands for the one of the scheme.  The text of the host is
visible, and a `Host` header that is made of it is read as this host and port. -/
structure ReadAlike (url : Url) (host : Host) (uri : Uri) (authority : Authority) : Prop where
  urlHost : url.host = some host
  visible : isVisible (HttpSyntax.hostToString host) = true
  noUser : '@' ∉ (HttpSyntax.hostToString host).toList
  header : HttpSyntax.parseAuthority (hostHeader host url.port) =
    some ⟨hostHeader host url.port, HttpSyntax.hostToString host, url.port⟩
  uriAuthority : uri.authority = some authority
  splits : ∃ user tail, authority.Splits user tail
  scheme : ∃ scheme, uri.scheme = some scheme ∧ eqIgnoreAsciiCase scheme url.scheme = true
  sameHost : eqIgnoreAsciiCase (HttpSyntax.hostToString host) authority.host = true
  samePort : url.port.or (wellKnownPort url.scheme) =
    authority.portU16.or (wellKnownPort url.scheme)

omit [Crates] in
theorem mem_toString {n : Nat} {c : Char} (h : c ∈ (toString n).toList) : c.isDigit = true := by
  rw [show toString n = n.repr from rfl, Nat.toList_repr] at h
  exact Nat.isDigit_of_mem_toDigits (by decide) (by decide) h

theorem ReadAlike.header_splits {url : Url} {host : Host} {uri : Uri} {authority : Authority}
    (h : ReadAlike url host uri authority) :
    ∃ tail, Authority.Splits ⟨hostHeader host url.port, HttpSyntax.hostToString host, url.port⟩ []
      tail ∧ (tail = [] ∨ url.port.isSome = true) := by
  unfold hostHeader
  cases hport : url.port with
  | none =>
    refine ⟨[], ⟨?_, Or.inl rfl, ?_, Or.inl ⟨rfl, rfl⟩⟩, Or.inl rfl⟩
    · rw [List.append_nil]
      rfl
    · rw [List.append_nil]
      exact h.noUser
  | some port =>
    refine ⟨':' :: (toString port.toNat).toList, ⟨?_, Or.inl rfl, ?_, Or.inr ⟨_, rfl⟩⟩, Or.inr rfl⟩
    · show (HttpSyntax.hostToString host ++ ":" ++ toString port.toNat).toList = _
      rw [String.toList_append, String.toList_append, List.append_assoc]
      rfl
    · rw [List.mem_append, List.mem_cons, not_or, not_or]
      refine ⟨h.noUser, by decide, fun hmem => ?_⟩
      exact absurd (mem_toString hmem) (by decide)

theorem ReadAlike.header_port {url : Url} {host : Host} {uri : Uri} {authority : Authority}
    (h : ReadAlike url host uri authority) : (effectivePort
      ⟨hostHeader host url.port, HttpSyntax.hostToString host, url.port⟩ none).isSome = true := by
  obtain ⟨tail, hsplits, hport⟩ := h.header_splits
  rw [effectivePort_of_splits hsplits]
  rcases hport with rfl | hport
  · rw [if_pos rfl]
    rfl
  · split
    · rfl
    · rw [Option.isSome_map]
      exact hport

theorem ReadAlike.header_visible {url : Url} {host : Host} {uri : Uri} {authority : Authority}
    (h : ReadAlike url host uri authority) : isVisible (hostHeader host url.port) = true := by
  unfold hostHeader
  cases url.port with
  | none => exact h.visible
  | some port =>
    have hdigits : isVisible (toString port.toNat) = true := by
      unfold isVisible
      rw [List.all_eq_true]
      intro c hc
      have hdigit := mem_toString hc
      have hnat := toNat_of_isAlphanum
        (show c.isAlphanum = true by rw [Char.isAlphanum, hdigit, Bool.or_true])
      rw [Bool.or_eq_true, Bool.and_eq_true, decide_eq_true_eq, decide_eq_true_eq]
      omega
    rw [isVisible_append, isVisible_append, h.visible, hdigits]
    decide

/-- **The host of a request fits its inbox** where the authority of the inbox is only a host and has
no empty port. -/
theorem verifyRequestHost_iff {headers : HeaderMap} {inbox : Iri} {url : Url} {host : Host}
    {uri : Uri} {authority : Authority}
    (hget : (headers.get "host").bind toStr = some (hostHeader host url.port))
    (huri : HttpSyntax.parseUri inbox.str = some uri) (h : ReadAlike url host uri authority) :
    verifyRequestHost headers inbox = .ok () ↔
      hostOnly authority = true ∧ (effectivePort authority none).isSome = true := by
  obtain ⟨tail, hheader, _⟩ := h.header_splits
  obtain ⟨user, tail', hauthority⟩ := h.splits
  obtain ⟨scheme, hscheme, hsame⟩ := h.scheme
  have hport : (if eqIgnoreAsciiCase scheme "http" then some 80
      else if eqIgnoreAsciiCase scheme "https" then some 443 else none) =
      wellKnownPort url.scheme := by
    unfold wellKnownPort eqIgnoreAsciiCase
    rw [eqIgnoreAsciiCase_iff.mp hsame]
  unfold verifyRequestHost
  rw [hget, Option.bind_some, h.header, Option.filter_some_pos ((hostOnly_iff hheader).mpr rfl)]
  dsimp only
  rw [huri]
  dsimp only
  rw [h.uriAuthority]
  by_cases honly : hostOnly authority = true
  · have huser := (hostOnly_iff hauthority).mp honly
    subst huser
    rw [Option.filter_some_pos honly, hscheme]
    dsimp only
    rw [hport, effectivePort_eq hheader h.header_port]
    dsimp only
    by_cases hsome : (effectivePort authority none).isSome = true
    · rw [effectivePort_eq hauthority hsome]
      dsimp only
      rw [h.sameHost, h.samePort, beq_self_eq_true, Bool.and_self, if_pos rfl]
      exact iff_of_true rfl ⟨honly, hsome⟩
    · have hnone : effectivePort authority (wellKnownPort url.scheme) = none := by
        rw [← Option.not_isSome_iff_eq_none, effectivePort_isSome]
        exact hsome
      rw [hnone]
      exact iff_of_false nofun fun h => hsome h.2
  · rw [Option.filter_some_neg (Bool.not_eq_true _ ▸ honly)]
    exact iff_of_false nofun fun h => honly h.1

/-! ## what is sent and what is verified -/

section
variable {now : Int} {localActor : Actor} {keyPair : ActorKeyPair} {activity : Json}
  {r : OutgoingRequest}

theorem BuiltRequest.signature_eq (h : BuiltRequest now localActor keyPair activity r) {keyId : Iri}
    (hkeyId : sendKeyId localActor keyPair = .ok keyId) :
    ∃ names signature, r.signature = signatureHeader keyId.str names signature := by
  obtain ⟨keyId', hkeyId', hsign⟩ := h.signed
  rw [hkeyId] at hkeyId'
  cases hkeyId'
  unfold signDraftCavage at hsign
  split at hsign
  · cases hsign
  · exact ⟨_, _, (Except.ok.inj hsign).symm⟩

/-- a key id that is not visible makes the whole header unreadable -/
theorem BuiltRequest.keyId_visible (h : BuiltRequest now localActor keyPair activity r) {keyId : Iri}
    (hkeyId : sendKeyId localActor keyPair = .ok keyId) {text : String}
    (hread : (h.received.headers.get "signature").bind toStr = some text) :
    isVisible keyId.str = true := by
  have hmem : ("signature", r.signature) ∈ r.allHeaders :=
    List.mem_append_right _ (List.mem_singleton.mpr rfl)
  rw [HeaderMap.get_of_getAll (h.getAll_received hmem), Option.bind_some] at hread
  have hvisible := isVisible_of_toStr hread
  obtain ⟨names, signature, hheader⟩ := h.signature_eq hkeyId
  rw [hheader, signatureHeader] at hvisible
  simp only [isVisible_append, Bool.and_eq_true] at hvisible
  exact hvisible.1.1.1.1.1.2

theorem actorOwnsKey_of_sent {actor : Actor} {key : CryptographicKey}
    (hkeyId : sendKeyId localActor keyPair = .ok key.id) (hid : actor.id = localActor.id)
    (hsame : actor.publicKey = localActor.publicKey)
    (hpem : key.publicKeyPem = keyPair.publicKeyPem) : actorOwnsKey actor key = true := by
  unfold sendKeyId at hkeyId
  unfold actorOwnsKey
  rw [hsame]
  cases hpublic : localActor.publicKey with
  | none =>
    rw [hpublic] at hkeyId
    cases hkeyId
  | some reference =>
    rw [hpublic] at hkeyId
    cases reference with
    | id keyId =>
      cases hkeyId
      exact beq_self_eq_true _
    | object advertised =>
      dsimp only at hkeyId
      split at hkeyId
      · cases hkeyId
      · rename_i hmatch
        rw [not_or, not_not, not_not] at hmatch
        obtain ⟨howner, hkey⟩ := hmatch
        dsimp only
        rw [Except.ok.inj hkeyId, howner, hid, hkey, hpem, beq_self_eq_true, beq_self_eq_true,
          beq_self_eq_true, Bool.and_self, Bool.and_self]

end

/-- **Feder accepts what Feder sends**, where the key id is visible ASCII and the authority of the
inbox has no `@` and no empty port, and only there.  The request was built for the inbox and arrives
as it was sent; the clock of the receiver is within 60 minutes before and 65 minutes after the date
of the request, and the resolver finds the advertised key and actor of the sender. -/
theorem sent_verified_iff (hiri : ∀ i : Iri, IsPlain i.str.toList) (hsigning : CorrectSigning)
    {policy : OutboundAddressPolicy} {now : Int} {localActor : Actor} {keyPair : ActorKeyPair}
    {activity : Json} {inbox : Iri} {r : OutgoingRequest}
    (hbuild : buildRequest policy now localActor keyPair activity inbox = .ok r)
    (hpair : ActorKeyPair.fromPem keyPair.privateKeyPem keyPair.publicKeyPem = .ok keyPair)
    {keyId : Iri} (hkeyId : sendKeyId localActor keyPair = .ok keyId)
    {host : Host} {uri : Uri} {authority : Authority}
    (huri : HttpSyntax.parseUri inbox.str = some uri) (halike : ReadAlike r.url host uri authority)
    {date : Int} (hvisible : isVisible (HttpSyntax.fmtHttpDate now) = true)
    (hdate : HttpSyntax.parseHttpDate (HttpSyntax.fmtHttpDate now) = some date)
    {now' : Int} (hearly : date - now' ≤ 60 * 60 * 1000000000)
    (hlate : now' - date ≤ 65 * 60 * 1000000000)
    {resolver : ActorResolver} {key : CryptographicKey} (hkey : resolver.resolveKey keyId = .ok key)
    (howner : key.owner = localActor.id) (hpem : key.publicKeyPem = keyPair.publicKeyPem)
    {actor : Actor} (hactor : resolver.resolve localActor.id = .ok actor)
    (hsame : actor.publicKey = localActor.publicKey) :
    verifySignedRequest resolver now' (buildRequest_ok hbuild).received localActor.id inbox =
        .ok actor ↔
      isVisible keyId.str = true ∧ hostOnly authority = true ∧
        (effectivePort authority none).isSome = true := by
  have hbuilt := buildRequest_ok hbuild
  obtain ⟨_, _, _, host', hhost', hheaders⟩ := buildRequest_url hbuild
  have hhost := halike.urlHost
  rw [hhost'] at hhost
  cases hhost
  have hsigned : ∀ e ∈ r.headers, isVisible e.2 = true := by
    rw [hheaders]
    simp only [signedHeaders, List.forall_mem_cons, List.not_mem_nil, false_implies, implies_true,
      and_true]
    exact ⟨by decide, hvisible, isVisible_digestHeader _, halike.header_visible⟩
  have hget : ∀ e ∈ r.headers, (hbuilt.received.headers.get e.1).bind toStr = some e.2 :=
    fun e he => hbuilt.get_received (List.mem_append_left _ he) (hsigned e he)
  have hhostHeader := verifyRequestHost_iff
    (hget ("host", hostHeader host r.url.port) (by simp [hheaders, signedHeaders])) huri halike
  constructor
  · intro hok
    obtain ⟨signature, headers, publicKey, hverified⟩ := verifySignedRequest_ok hok
    obtain ⟨text, htext, _⟩ := hverified.header
    exact ⟨hbuilt.keyId_visible hkeyId htext, hhostHeader.mp hverified.host⟩
  · rintro ⟨hkeyIdVisible, honly⟩
    obtain ⟨privateKey, hprivate, hpublic⟩ := ActorKeyPair.keys_of_fromPem hpair
    have hid := ActorResolver.resolveKey_id hkey
    have hactorId := ActorResolver.resolve_id hactor
    have hverifiable : Verifiable keyPair keyId r key.publicKeyPem :=
      { visible := hsigned
        keyIdVisible := hkeyIdVisible
        keyIdPlain := hiri keyId
        keys := by
          rw [hpem]
          exact ⟨privateKey, Crypto.publicKey privateKey, hprivate, hpublic, fun message =>
            ⟨hsigning.encode_sign _ _, hsigning.isSignature_sign _ _, hsigning.verify_sign _ _⟩⟩ }
    have hdateOk : verifyRequestDate hbuilt.received.headers now' = .ok () := by
      unfold verifyRequestDate
      rw [hget ("date", HttpSyntax.fmtHttpDate now) (by simp [hheaders, signedHeaders]),
        Option.bind_some, hdate]
      dsimp only
      rw [if_neg]
      unfold MAX_SIGNATURE_AGE MAX_CLOCK_SKEW
      omega
    rw [← hactorId] at howner hactor ⊢
    refine verifySignedRequest_received hbuilt hkeyId hkey hverifiable howner hactor ?_
      (hhostHeader.mpr honly) hdateOk
    rw [← hid] at hkeyId
    exact actorOwnsKey_of_sent hkeyId hactorId hsame hpem

end

section
attribute [local instance] libraries

theorem libraries_plain (i : Iri) : IsPlain i.str.toList := by
  have hvalid : Libraries.validIri i.str = true := i.valid
  unfold Libraries.validIri at hvalid
  split at hvalid
  · rename_i c scheme rest hsplit
    obtain ⟨hs, _⟩ := splitOnce_eq hsplit
    simp only [Bool.and_eq_true, List.all_eq_true] at hvalid
    obtain ⟨⟨⟨hc, hscheme⟩, hrest⟩, _⟩ := hvalid
    rw [hs]
    intro d hd
    rw [List.mem_append, List.mem_cons, List.mem_cons] at hd
    rcases hd with (rfl | hd) | rfl | hd
    · exact plain_of_isAlphanum (by rw [Char.isAlphanum, hc, Bool.true_or])
    · have hchar := hscheme d hd
      unfold Libraries.isSchemeChar at hchar
      simp only [Bool.or_eq_true, beq_iff_eq] at hchar
      rcases hchar with ((hchar | rfl) | rfl) | rfl
      · exact plain_of_isAlphanum hchar
      all_goals decide
    · decide
    · have hchar := hrest d hd
      unfold Libraries.isIriChar at hchar
      simp only [Bool.and_eq_true, Bool.not_eq_true', List.contains_eq_mem,
        decide_eq_false_iff_not] at hchar
      obtain ⟨⟨_, hcontrol⟩, hmem⟩ := hchar
      refine ⟨?_, ?_, hcontrol⟩
      · rintro rfl
        exact hmem (by decide)
      · rintro rfl
        exact hmem (by decide)
  · cases hvalid

theorem Peer.readAlike (q : Peer) : ∃ url uri,
    HttpSyntax.parseUrl q.actor.inbox.str = some url ∧
    HttpSyntax.parseUri q.actor.inbox.str = some uri ∧
    ReadAlike url (.Domain q.host) uri ⟨q.host, q.host, none⟩ := by
  have hsplits : Authority.Splits ⟨q.host, q.host, none⟩ [] [] := by
    refine ⟨by rw [List.append_nil]; rfl, Or.inl rfl, ?_, Or.inl ⟨rfl, rfl⟩⟩
    cases q <;> decide
  obtain ⟨url, hurl, hscheme, hhost, hport⟩ : ∃ url,
      HttpSyntax.parseUrl q.actor.inbox.str = some url ∧ url.scheme = "http" ∧
      url.host = some (.Domain q.host) ∧ url.port = none := by
    cases q <;> exact ⟨_, rfl, by decide, by decide, by decide⟩
  obtain ⟨uri, huri, hscheme', hauthority⟩ : ∃ uri,
      HttpSyntax.parseUri q.actor.inbox.str = some uri ∧ uri.scheme = some "http" ∧
      uri.authority = some ⟨q.host, q.host, none⟩ := by
    cases q <;> exact ⟨_, rfl, by decide, by decide⟩
  refine ⟨url, uri, hurl, huri, ?_⟩
  exact
    { urlHost := hhost
      visible := by cases q <;> decide
      noUser := by cases q <;> decide
      header := by
        rw [hport]
        cases q <;> decide
      uriAuthority := hauthority
      splits := ⟨[], [], hsplits⟩
      scheme := ⟨"http", hscheme', by rw [hscheme]; decide⟩
      sameHost := by cases q <;> decide
      samePort := by rw [hport] }

/-- alice's Follow arrives at bob's server 65 minutes later and is verified there -/
theorem sent_verified_iff_of_alice : ∃ r,
    ∃ h : Peer.Request .alice .bob Peer.follow.serialize r,
    verifySignedRequest Peer.resolver (65 * 60 * 1000000000) h.received Peer.alice.actor.id
      Peer.bob.actor.inbox = .ok Peer.alice.actor := by
  obtain ⟨r, hr⟩ := Peer.exists_request .alice .bob Peer.follow.serialize
  obtain ⟨url, uri, hurl, huri, halike⟩ := Peer.readAlike .bob
  rw [(buildRequest_url hr.build).1] at hurl
  cases hurl
  have hdate : HttpSyntax.parseHttpDate (HttpSyntax.fmtHttpDate 0) = some 0 := by decide
  have hiff := sent_verified_iff libraries_plain libraries_correctSigning hr.build rfl
    (Peer.sendKeyId_actor .alice) huri halike (by decide) hdate
    (show (0 : Int) - 65 * 60 * 1000000000 ≤ _ by decide) (by decide) (Peer.resolve_key .alice) rfl
    rfl (Peer.resolve_actor .alice) rfl
  exact ⟨r, hr, hiff.mpr ⟨by decide, by decide, by decide⟩⟩

/-! ## a key id that is no ASCII text -/

def accentedKey : CryptographicKey :=
  ⟨⟨"http://a.x/alice#clé", by decide⟩, .CryptographicKey, Peer.alice.actor.id,
    Peer.alice.keyPair.publicKeyPem⟩

/-- alice, with a key whose id is no ASCII text -/
def accented : Actor := { Peer.alice.actor with publicKey := some (.id accentedKey.id) }

def accentedResolver : ActorResolver where
  addressPolicy := .PublicOnly
  keyResponse _ := some (published (JsonText.toVec accentedKey.serialize))
  actorResponse _ := some (published (JsonText.toVec accented.serialize))

/-- her Follow is sent, but bob's server does not accept it -/
theorem accented_key_rejected : ∃ r, ∃ h : buildRequest .PublicOnly 0 accented Peer.alice.keyPair
      Peer.follow.serialize Peer.bob.actor.inbox = .ok r,
    accentedResolver.resolve accented.id = .ok accented ∧
    accentedResolver.resolveKey accentedKey.id = .ok accentedKey ∧
    verifySignedRequest accentedResolver 0 (buildRequest_ok h).received accented.id
      Peer.bob.actor.inbox = .error .UNAUTHORIZED := by
  obtain ⟨privateKey, hprivate, _⟩ := Peer.exists_privateKey .alice
  obtain ⟨url, uri, hurl, huri, halike⟩ := Peer.readAlike .bob
  have hkeyId : sendKeyId accented Peer.alice.keyPair = .ok accentedKey.id := rfl
  have hhttp : url.isHttp = true := by
    obtain ⟨url', hurl', hhttp⟩ : ∃ url', HttpSyntax.parseUrl Peer.bob.actor.inbox.str = some url' ∧
        url'.isHttp = true := ⟨_, rfl, by decide⟩
    rw [hurl] at hurl'
    cases hurl'
    exact hhttp
  have haddress : validateLiteralHost url.host .PublicOnly = .ok () := by
    rw [halike.urlHost]
    rfl
  have hsigned : ∀ e ∈ signedHeaders 0 (JsonText.toVec Peer.follow.serialize)
      (hostHeader (.Domain (Peer.host .bob)) url.port), isVisible e.2 = true := by
    simp only [signedHeaders, List.forall_mem_cons, List.not_mem_nil, false_implies, implies_true,
      and_true]
    exact ⟨by decide, by decide, isVisible_digestHeader _, halike.header_visible⟩
  obtain ⟨r, hbuild, _, _⟩ := buildRequest_complete hkeyId hurl hhttp haddress halike.urlHost
    hprivate hsigned (libraries_plain accentedKey.id)
  refine ⟨r, hbuild, ?_, ?_, ?_⟩
  · refine ActorResolver.resolve_of_fetch (fetchDocument_of_published rfl (by decide) rfl rfl ?_)
    exact published_size (by decide +kernel)
  · refine @ActorResolver.resolveKey_of_fetch _ _ accentedKey
      (fetchDocument_of_published rfl (by decide) rfl rfl ?_)
    exact published_size (by decide +kernel)
  · have hunread : ((buildRequest_ok hbuild).received.headers.get "signature").bind toStr =
        none := by
      rw [Option.eq_none_iff_forall_ne_some]
      intro text hread
      exact absurd ((buildRequest_ok hbuild).keyId_visible hkeyId hread) (by decide)
    unfold verifySignedRequest
    rw [hunread]

end

end Feder
