import Feder.Server.Object

/-!
# WebFinger

`webfinger.rs`: the look-up of a local actor by its account name.

* `webfinger_ok_iff`   the resources that are found, and what is answered.
-/

namespace Feder
open Serde Text

variable [Crates]

structure WebFingerLink where
  rel : String
  mediaType : String
  href : String
deriving DecidableEq

structure WebFingerResponse where
  subject : String
  aliases : List String
  links : List WebFingerLink
deriving DecidableEq

omit [Crates] in
def WebFingerLink.serialize (link : WebFingerLink) : Json :=
  .obj [("rel", .str link.rel), ("type", .str link.mediaType), ("href", .str link.href)]

def WebFingerResponse.serialize (response : WebFingerResponse) : Json :=
  .obj [("subject", .str response.subject), ("aliases", .arr (response.aliases.map .str)),
    ("links", .arr (response.links.map WebFingerLink.serialize))]

/-- what is known of an actor under the resource that was asked for -/
def webFingerResponse (resource : String) (actor : Actor) : WebFingerResponse where
  subject := resource
  aliases := [actor.id.str]
  links := [⟨"self", "application/activity+json", actor.id.str⟩]

omit [Crates] in
/-- `strip_prefix("acct:")` -/
def stripAcct (resource : String) : Option (List Char) :=
  match resource.toList with
  | 'a' :: 'c' :: 'c' :: 't' :: ':' :: account => some account
  | _ => none

def webfinger (server : FederServer) (handleHost : String) (resource : Option String) :
    Except StatusCode Response :=
  match resource with
  | none => .error .BAD_REQUEST
  | some resource =>
    match stripAcct resource with
    | none => .error .BAD_REQUEST
    | some account =>
      match rsplitOnce '@' account with
      | none => .error .BAD_REQUEST
      | some (identifier, resourceHost) =>
        if identifier.isEmpty || resourceHost.isEmpty then .error .BAD_REQUEST
        else if ¬ eqIgnoreAsciiCase (String.ofList resourceHost) handleHost then .error .NOT_FOUND
        else
          match server.getActor (String.ofList identifier) with
          | .error _ => .error .INTERNAL_SERVER_ERROR
          | .ok none => .error .NOT_FOUND
          | .ok (some actor) =>
            .ok ⟨.OK, [("content-type", "application/jrd+json")],
              some (webFingerResponse resource actor).serialize⟩

/-- the resource that names an account -/
def acct (identifier host : String) : String := "acct:" ++ identifier ++ "@" ++ host

omit [Crates] in
theorem stripAcct_eq_some {resource : String} {account : List Char} :
    stripAcct resource = some account ↔ resource.toList = "acct:".toList ++ account := by
  unfold stripAcct
  constructor
  · intro h
    split at h
    · rename_i hresource
      cases h
      exact hresource
    · cases h
  · intro h
    rw [h]
    rfl

/-- **The resources that are found**: exactly the accounts of the actors behind a host that is the
handle host, whatever its letter case.  The name of an actor may hold an `@`. -/
theorem webfinger_ok_iff {server : FederServer} {handleHost : String} {resource : Option String}
    {response : Response} :
    webfinger server handleHost resource = .ok response ↔
      ∃ identifier host actor, resource = some (acct identifier host) ∧ identifier ≠ "" ∧
        host ≠ "" ∧ '@' ∉ host.toList ∧ eqIgnoreAsciiCase host handleHost = true ∧
        server.getActor identifier = .ok (some actor) ∧
        response = ⟨.OK, [("content-type", "application/jrd+json")],
          some (webFingerResponse (acct identifier host) actor).serialize⟩ := by
  constructor
  · intro h
    unfold webfinger at h
    split at h
    · cases h
    rename_i resource
    split at h
    · cases h
    rename_i account hresource
    split at h
    · cases h
    rename_i identifier host hsplit
    obtain ⟨hempty, h⟩ := ite_error_eq_ok.mp h
    obtain ⟨hhost, h⟩ := ite_error_eq_ok.mp h
    split at h
    · cases h
    · cases h
    rename_i actor hactor
    cases h
    obtain ⟨haccount, hat⟩ := rsplitOnce_eq_some.mp hsplit
    rw [Bool.or_eq_true, not_or, List.isEmpty_iff, List.isEmpty_iff] at hempty
    have hname : resource = acct (String.ofList identifier) (String.ofList host) := by
      apply String.toList_inj.mp
      rw [stripAcct_eq_some.mp hresource, haccount]
      simp [acct]
    refine ⟨String.ofList identifier, String.ofList host, actor, by rw [hname], ?_, ?_, ?_,
      not_not.mp hhost, hactor, by rw [hname]⟩
    · intro e
      exact hempty.1 (by rw [← String.toList_ofList (l := identifier), e]; rfl)
    · intro e
      exact hempty.2 (by rw [← String.toList_ofList (l := host), e]; rfl)
    · rw [String.toList_ofList]
      exact hat
  · rintro ⟨identifier, host, actor, rfl, hidentifier, hhost, hat, hequal, hactor, rfl⟩
    have hresource : stripAcct (acct identifier host) =
        some (identifier.toList ++ '@' :: host.toList) := by
      apply stripAcct_eq_some.mpr
      simp [acct]
    have hempty : ¬ (identifier.toList.isEmpty || host.toList.isEmpty) = true := by
      rw [Bool.or_eq_true, not_or, List.isEmpty_iff, List.isEmpty_iff, String.toList_eq_nil_iff,
        String.toList_eq_nil_iff]
      exact ⟨hidentifier, hhost⟩
    unfold webfinger
    dsimp only
    rw [hresource]
    dsimp only
    rw [rsplitOnce_eq_some.mpr ⟨rfl, hat⟩]
    dsimp only
    rw [if_neg hempty, String.ofList_toList, String.ofList_toList, if_neg (not_not.mpr hequal),
      hactor]

end Feder
