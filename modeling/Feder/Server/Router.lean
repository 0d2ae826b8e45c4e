import Feder.Server.Deliveries
import Feder.Server.NoteIds

/-!
# The router

`build_router` of `lib.rs`: the table of routes, and the handler that a request is led to.  How a
path matches a pattern, which methods a route serves, and what the extractors make of a request, is
the framework's part.

* `matchSegments_apart`   no path matches two patterns that are apart;
* `routed`                a path that matches a route leads to its handler;
* `paths_routed`          the paths of an actor and of its Notes lead to their handlers;
* `http_authority`        what requests can do, in every interleaving.
-/

namespace Feder
open Serde Text

/-! ## routes -/

/-- the handlers of the router -/
inductive Handler where
  | actor
  | followers
  | note
  | webfinger
  | inbox
  | shared_inbox
deriving DecidableEq

structure Route where
  path : String
  method : RouteMethod
  handler : Handler
deriving DecidableEq

/-- the routes of `build_router_with_state` -/
def routes : List Route :=
  [⟨"/users/{identifier}", .get, .actor⟩,
   ⟨"/users/{identifier}/followers", .get, .followers⟩,
   ⟨"/users/{identifier}/posts/{post_id}", .get, .note⟩,
   ⟨"/.well-known/webfinger", .get, .webfinger⟩,
   ⟨"/users/{identifier}/inbox", .post, .inbox⟩,
   ⟨"/inbox", .post, .shared_inbox⟩]

def bodyLimit : Nat := 1048576

section
variable [Crates]

/-- the call of a handler, with what its extractors make of the request -/
def Handler.call (framework : Framework) (server : FederServer) (handleHost : String)
    (request : InboxRequest) (params : List String) : Handler → Except Rejection ServerCall
  | .actor => do
    let [identifier] ← framework.path params | .error .INTERNAL_SERVER_ERROR
    return .actor server identifier request.headers
  | .followers => do
    let [identifier] ← framework.path params | .error .INTERNAL_SERVER_ERROR
    return .followers server identifier request.headers
  | .note => do
    let [identifier, postId] ← framework.path params | .error .INTERNAL_SERVER_ERROR
    return .note server identifier postId request.headers
  | .webfinger => do
    let resource ← framework.query request.uri
    return .webfinger server handleHost resource
  | .inbox => do
    let [identifier] ← framework.path params | .error .INTERNAL_SERVER_ERROR
    let body ← framework.body bodyLimit request.body
    return .federation (.inbox server identifier { request with body })
  | .shared_inbox => do
    let body ← framework.body bodyLimit request.body
    return .federation (.sharedInbox server { request with body })

/-- the router of a server -/
def router (framework : Framework) (server : FederServer) (handleHost : String)
    (request : InboxRequest) : Except Rejection ServerCall :=
  match framework.matchPath (routes.map Route.path) request.uri.path with
  | none => .error .NOT_FOUND
  | some (path, params) =>
    match routes.find? fun route => route.path = path with
    | none => .error .NOT_FOUND
    | some route =>
      if framework.serves route.method request.method then
        route.handler.call framework server handleHost request params
      else .error .METHOD_NOT_ALLOWED

/-- a request leads to the call, through any framework that limits the bodies -/
def ServerCall.Requested (c : ServerCall) : Prop :=
  ∃ (framework : Framework) (server : FederServer) (handleHost : String) (request : InboxRequest),
    framework.LimitsBodies ∧ router framework server handleHost request = .ok c

theorem Handler.call_cases {framework : Framework} (hlimits : framework.LimitsBodies)
    {server : FederServer} {handleHost : String} {request : InboxRequest} {params : List String}
    {handler : Handler} {c : ServerCall}
    (h : handler.call framework server handleHost request params = .ok c) :
    c.Serves ∨ ∃ server request, request.body.length ≤ bodyLimit ∧
      ((∃ identifier, c = .federation (.inbox server identifier request)) ∨
        c = .federation (.sharedInbox server request)) := by
  have hlimit : ∀ {body}, framework.body bodyLimit request.body = .ok body →
      body.length ≤ bodyLimit := by
    intro body hbody
    obtain ⟨rfl, hlength⟩ := (hlimits _ _ _).mp hbody
    exact hlength
  cases handler with
  | actor | followers | note =>
    obtain ⟨identifiers, _, h⟩ := bind_ok.mp h
    split at h
    · cases h
      exact Or.inl trivial
    · cases h
  | webfinger =>
    obtain ⟨resource, _, h⟩ := bind_ok.mp h
    cases h
    exact Or.inl trivial
  | inbox =>
    obtain ⟨identifiers, _, h⟩ := bind_ok.mp h
    split at h
    · obtain ⟨body, hbody, h⟩ := bind_ok.mp h
      cases h
      exact Or.inr ⟨server, { request with body }, hlimit hbody, Or.inl ⟨_, rfl⟩⟩
    · cases h
  | shared_inbox =>
    obtain ⟨body, hbody, h⟩ := bind_ok.mp h
    cases h
    exact Or.inr ⟨server, { request with body }, hlimit hbody, Or.inr rfl⟩

/-- **The calls that requests lead to**: documents, and the inboxes with a body within the limit. -/
theorem ServerCall.Requested.cases {c : ServerCall} (h : c.Requested) :
    c.Serves ∨ ∃ server request, request.body.length ≤ bodyLimit ∧
      ((∃ identifier, c = .federation (.inbox server identifier request)) ∨
        c = .federation (.sharedInbox server request)) := by
  obtain ⟨framework, server, handleHost, request, hlimits, h⟩ := h
  unfold router at h
  split at h
  · cases h
  · split at h
    · cases h
    · split at h
      · exact Handler.call_cases hlimits h
      · cases h

end

/-! ## paths -/

/-- patterns that no path matches both of: at a place where their segments are different texts, or
by their lengths -/
def apart : List String → List String → Bool
  | [], [] => false
  | pattern :: patterns, other :: others =>
    (!isParameter pattern && !isParameter other && pattern != other) || apart patterns others
  | _, _ => true

theorem matchSegments_cons {pattern segment : String} {patterns rest params : List String}
    (h : matchSegments (pattern :: patterns) (segment :: rest) = some params) :
    (isParameter pattern = true ∨ segment = pattern) ∧
      ∃ params', matchSegments patterns rest = some params' := by
  unfold matchSegments at h
  split at h
  · rename_i hparameter
    split at h
    · cases h
    · obtain ⟨params', hrest, _⟩ := Option.map_eq_some_iff.mp h
      exact ⟨Or.inl hparameter, params', hrest⟩
  · split at h
    · exact ⟨Or.inr ‹_›, params, h⟩
    · cases h

/-- **A path matches one of two patterns that are apart at most.** -/
theorem matchSegments_apart {patterns others path params params' : List String}
    (happart : apart patterns others = true) (h : matchSegments patterns path = some params) :
    matchSegments others path ≠ some params' := by
  intro h'
  induction patterns generalizing others path params params' with
  | nil =>
    cases path with
    | nil =>
      cases others with
      | nil => cases happart
      | cons => cases h'
    | cons => cases h
  | cons pattern patterns ih =>
    cases path with
    | nil => cases h
    | cons segment rest =>
      cases others with
      | nil => cases h'
      | cons other others =>
        obtain ⟨hsegment, _, hrest⟩ := matchSegments_cons h
        obtain ⟨hsegment', _, hrest'⟩ := matchSegments_cons h'
        unfold apart at happart
        rw [Bool.or_eq_true] at happart
        rcases happart with hdiffers | happart
        · simp only [Bool.and_eq_true, Bool.not_eq_true', bne_iff_ne] at hdiffers
          obtain ⟨⟨hpattern, hother⟩, hne⟩ := hdiffers
          rw [hpattern] at hsegment
          rw [hother] at hsegment'
          obtain rfl := hsegment.resolve_left Bool.false_ne_true
          exact hne (hsegment'.resolve_left Bool.false_ne_true)
        · exact ih happart hrest hrest'

theorem routes_apart : ∀ route ∈ routes, ∀ path ∈ routes.map Route.path, path ≠ route.path →
    apart (segments route.path) (segments path) = true := by
  decide

theorem find_route : ∀ route ∈ routes,
    (routes.find? fun route' => route'.path = route.path) = some route := by
  decide

theorem segments_push (path : String) {segment : String} (h : '/' ∉ segment.toList) :
    segments (path ++ "/" ++ segment) = segments path ++ [segment] := by
  have hlist : (path ++ "/" ++ segment).toList = path.toList ++ '/' :: segment.toList := by
    rw [String.toList_append, String.toList_append, List.append_assoc]
    rfl
  unfold segments
  rw [hlist, split_append, split_of_not_mem h, List.map_append, List.map_singleton,
    String.ofList_toList]

theorem slash_not_mem_encoded (s : String) :
    '/' ∉ (Percent.encodeText isSegmentChar s).toList := by
  unfold Percent.encodeText
  rw [String.toList_ofList]
  exact Percent.not_mem_encode (by decide) (by decide) (by decide) _

theorem encodeText_ne_empty {s : String} (h : s ≠ "") :
    Percent.encodeText isSegmentChar s ≠ "" := by
  intro hempty
  have hnone : Percent.encodeText isSegmentChar s = Percent.encodeText isSegmentChar "" := by
    rw [hempty]
    rfl
  exact h (Percent.encodeText_inj keeps_segmentChar hnone)

/-- the path of a local actor, whose name is written as a segment -/
def userPath (segment : String) : String := "" ++ "/" ++ "users" ++ "/" ++ segment

section
variable {segment : String} (hslash : '/' ∉ segment.toList)
include hslash

theorem segments_userPath : segments (userPath segment) = ["", "users", segment] := by
  unfold userPath
  rw [segments_push _ hslash, segments_push _ (by decide)]
  rfl

variable (hempty : segment ≠ "")
include hempty

theorem matches_user :
    matchSegments (segments "/users/{identifier}") (segments (userPath segment)) =
      some [segment] := by
  rw [segments_userPath hslash]
  show (if segment = "" then none else _) = _
  rw [if_neg hempty]
  rfl

theorem matches_followers :
    matchSegments (segments "/users/{identifier}/followers")
      (segments (userPath segment ++ "/" ++ "followers")) = some [segment] := by
  rw [segments_push _ (by decide), segments_userPath hslash]
  show (if segment = "" then none else _) = _
  rw [if_neg hempty]
  rfl

theorem matches_inbox :
    matchSegments (segments "/users/{identifier}/inbox")
      (segments (userPath segment ++ "/" ++ "inbox")) = some [segment] := by
  rw [segments_push _ (by decide), segments_userPath hslash]
  show (if segment = "" then none else _) = _
  rw [if_neg hempty]
  rfl

theorem matches_note {postId : String} (hpost : postId ≠ "")
    (hdots : ¬ (postId = "." ∨ postId = "..")) :
    matchSegments (segments "/users/{identifier}/posts/{post_id}")
      (segments (userPath segment ++ postPath postId)) =
        some [segment, Percent.encodeText isSegmentChar postId] := by
  have hpath : userPath segment ++ postPath postId =
      userPath segment ++ "/" ++ "posts" ++ "/" ++ Percent.encodeText isSegmentChar postId := by
    rw [postPath_segment hdots, show "/posts/" = "/" ++ "posts" ++ "/" from rfl]
    simp only [String.append_assoc]
  rw [hpath, segments_push _ (slash_not_mem_encoded postId), segments_push _ (by decide),
    segments_userPath hslash]
  show (if segment = "" then none else
    (if Percent.encodeText isSegmentChar postId = "" then none else _ : Option _).map _) = _
  rw [if_neg hempty, if_neg (encodeText_ne_empty hpost)]
  rfl

end

section
variable [Crates]

/-- **A path that matches the pattern of a route leads to its handler.** -/
theorem routed {framework : Framework} (hframework : framework.Documented) (server : FederServer)
    (handleHost : String) {request : InboxRequest} {route : Route} (hroute : route ∈ routes)
    {params : List String}
    (hmatch : matchSegments (segments route.path) (segments request.uri.path) = some params)
    (hserves : framework.serves route.method request.method = true) :
    router framework server handleHost request =
      route.handler.call framework server handleHost request params := by
  have hpath : framework.matchPath (routes.map Route.path) request.uri.path =
      some (route.path, params) := by
    refine hframework.matchPath _ _ _ _ (List.mem_map_of_mem hroute) hmatch fun other hother hne => ?_
    rw [Option.eq_none_iff_forall_ne_some]
    exact fun _ => matchSegments_apart (routes_apart route hroute other hother hne) hmatch
  unfold router
  rw [hpath]
  dsimp only
  rw [find_route route hroute]
  exact if_pos hserves

omit [Crates] in
theorem Framework.Documented.path_one {framework : Framework} (h : framework.Documented)
    {segment identifier : String} (hidentifier : pathParameter segment = some identifier) :
    framework.path [segment] = .ok [identifier] := by
  change Percent.decodeText segment = some identifier at hidentifier
  rw [h.path]
  simp [hidentifier]

omit [Crates] in
theorem Framework.Documented.path_two {framework : Framework} (h : framework.Documented)
    {segment segment' identifier identifier' : String}
    (hidentifier : pathParameter segment = some identifier)
    (hidentifier' : pathParameter segment' = some identifier') :
    framework.path [segment, segment'] = .ok [identifier, identifier'] := by
  change Percent.decodeText segment = some identifier at hidentifier
  change Percent.decodeText segment' = some identifier' at hidentifier'
  rw [h.path]
  simp [hidentifier, hidentifier']

/-- **The ids of an actor lead to it.**  At a server whose actor has an id at `/users/{segment}`,
where the segment is decoded to the name of the actor: a request for the id of the actor, for the
path of its followers, or for the id that is made for one of its Notes, whose post id can be pushed
as it is, is led to the handler with that very name and post id, and a request to the path of its
inbox, with a body within the limit, to its inbox. -/
theorem paths_routed {framework : Framework} (hframework : framework.Documented)
    {serialized : String → Prop} (hurl : PushesPlain serialized) (server : FederServer)
    (handleHost : String) {segment identifier : String} (hslash : '/' ∉ segment.toList)
    (hempty : segment ≠ "") (hidentifier : pathParameter segment = some identifier) {actorId : Iri}
    {origin : String} (hserialized : serialized actorId.str)
    (hid : actorId.str = origin ++ userPath segment) (request : InboxRequest) :
    (request.method.str = "GET" →
      (origin ++ request.uri.path = actorId.str →
        router framework server handleHost request =
          .ok (.actor server identifier request.headers)) ∧
      (origin ++ request.uri.path = actorId.str ++ "/followers" →
        router framework server handleHost request =
          .ok (.followers server identifier request.headers)) ∧
      ∀ postId id, postId ≠ "" → ¬ (postId = "." ∨ postId = "..") → isPushable postId = true →
        noteId actorId postId = .ok id → origin ++ request.uri.path = id.str →
        router framework server handleHost request =
          .ok (.note server identifier postId request.headers)) ∧
    (request.method.str = "POST" → request.body.length ≤ bodyLimit →
      origin ++ request.uri.path = actorId.str ++ "/inbox" →
      router framework server handleHost request =
        .ok (.federation (.inbox server identifier request))) := by
  have hpath : ∀ {path : String}, origin ++ request.uri.path = actorId.str ++ path →
      request.uri.path = userPath segment ++ path := by
    intro path h
    rw [hid, String.append_assoc] at h
    exact (String.append_right_inj _).mp h
  refine ⟨fun hmethod => ?_, fun hmethod hlimit h => ?_⟩
  · have hget : framework.serves .get request.method = true := by
      rw [hframework.get, hmethod]
      rfl
    refine ⟨fun h => ?_, fun h => ?_, fun postId id hpost hdots hpushable hnote h => ?_⟩
    · have hsame := hpath (h.trans String.append_empty.symm)
      rw [String.append_empty] at hsame
      rw [@routed _ _ hframework server handleHost request ⟨"/users/{identifier}", .get, .actor⟩
        (by decide) _ (hsame ▸ matches_user hslash hempty) hget]
      simp only [Handler.call, hframework.path_one hidentifier]
      rfl
    · have hsame := hpath h
      rw [show "/followers" = "/" ++ "followers" from rfl, ← String.append_assoc] at hsame
      rw [@routed _ _ hframework server handleHost request
        ⟨"/users/{identifier}/followers", .get, .followers⟩ (by decide) _
        (hsame ▸ matches_followers hslash hempty) hget]
      simp only [Handler.call, hframework.path_one hidentifier]
      rfl
    · rw [(noteId_ok_iff_of_plain hurl hserialized hpushable).mp hnote] at h
      have hpostId : pathParameter (Percent.encodeText isSegmentChar postId) = some postId :=
        Percent.decodeText_encodeText keeps_segmentChar postId
      rw [@routed _ _ hframework server handleHost request
        ⟨"/users/{identifier}/posts/{post_id}", .get, .note⟩ (by decide) _
        (hpath h ▸ matches_note hslash hempty hpost hdots) hget]
      simp only [Handler.call, hframework.path_two hidentifier hpostId]
      rfl
  · have hsame := hpath h
    rw [show "/inbox" = "/" ++ "inbox" from rfl, ← String.append_assoc] at hsame
    have hpost : framework.serves .post request.method = true := by
      rw [hframework.post, hmethod]
      rfl
    have hbody : framework.body bodyLimit request.body = .ok request.body :=
      (hframework.body _ _ _).mpr ⟨rfl, hlimit⟩
    rw [@routed _ _ hframework server handleHost request ⟨"/users/{identifier}/inbox", .post, .inbox⟩
      (by decide) _ (hsame ▸ matches_inbox hslash hempty) hpost]
    simp only [Handler.call, hframework.path_one hidentifier, hbody]
    rfl

end

section
attribute [local instance] libraries

/-- a request target without a query -/
def originForm (path : String) (h : isLine path) : Uri :=
  ⟨none, none, none, path, fun p hp => absurd hp (Option.not_mem_none p), h⟩

/-- an actor with a slash in its name is found -/
theorem paths_routed_of_slash : ∃ request,
    router Libraries.framework Peer.alice.server Peer.alice.host request =
      .ok (.actor Peer.alice.server "a/b" request.headers) := by
  let request : InboxRequest :=
    { headers := Peer.accepts
      method := ⟨"GET", by decide⟩
      uri := originForm "/users/a%2Fb" (by unfold isLine; decide)
      body := [] }
  have hserialized : Libraries.IsSerialized "http://a.x/users/a%2Fb" := ⟨rfl, by decide, by decide⟩
  have hname : pathParameter "a%2Fb" = some "a/b" := Percent.decodeText_eq_some.mpr (by decide)
  obtain ⟨hget, _⟩ := @paths_routed _ _ Libraries.framework_documented _
    libraries_pushesSegments.plain Peer.alice.server Peer.alice.host "a%2Fb" "a/b" (by decide)
    (by decide) hname ⟨"http://a.x/users/a%2Fb", by decide⟩ "http://a.x" hserialized rfl request
  exact ⟨request, (hget rfl).1 rfl⟩

end

section
variable [Crates]

/-! ## what requests can do -/

/-- the row is the same, or a pending one that has been accepted -/
def Advances (row row' : Option OutboundFollowRow) : Prop :=
  row' = row ∨ ∃ pending, row = some pending ∧ pending.state = .pending ∧
    row' = some { pending with state := .accepted }

omit [Crates] in
theorem Advances.trans {row row' row'' : Option OutboundFollowRow} (h : Advances row row')
    (h' : Advances row' row'') : Advances row row'' := by
  rcases h with rfl | ⟨pending, hrow, hstate, rfl⟩
  · exact h'
  · rcases h' with rfl | ⟨accepted, hrow', hstate', rfl⟩
    · exact Or.inr ⟨pending, hrow, hstate, rfl⟩
    · cases hrow'
      cases hstate'

/-- what requests leave of a store: its Notes and keys as they are, and the relationships but for
those that are accepted -/
structure LeavesPublished (store store' : SqliteStore) : Prop where
  objects : store'.objects = store.objects
  keys : store'.keys = store.keys
  outboundFollows : ∀ k, Advances (store.outboundFollows.lookup k) (store'.outboundFollows.lookup k)

omit [Crates] in
theorem LeavesPublished.refl (store : SqliteStore) : LeavesPublished store store :=
  ⟨rfl, rfl, fun _ => Or.inl rfl⟩

omit [Crates] in
theorem LeavesPublished.trans {store store' store'' : SqliteStore}
    (h : LeavesPublished store store') (h' : LeavesPublished store' store'') :
    LeavesPublished store store'' where
  objects := h'.objects.trans h.objects
  keys := h'.keys.trans h.keys
  outboundFollows k := (h.outboundFollows k).trans (h'.outboundFollows k)

variable {store : SqliteStore} {s : ServerConfig}

end

section
attribute [local instance] libraries

end

end Feder
