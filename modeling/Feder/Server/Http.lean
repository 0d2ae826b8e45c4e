import Feder.Core.Key
import Feder.Lib.Percent
import Feder.Lib.Serde
import Feder.Server.Url
import Feder.Vocab.Types

/-!
# HTTP data and the libraries behind it

The requests and headers that the handlers see, and the interfaces of the libraries that parse
and print their parts (`HttpSyntax`) and of the framework that brings requests to the handlers
(`Framework`).  `Crates` gathers all the libraries that the development takes as parameters.
-/

namespace Feder
open Text

/-- the status codes of the handlers -/
inductive StatusCode where
  | OK
  | ACCEPTED
  | BAD_REQUEST
  | UNAUTHORIZED
  | NOT_FOUND
  | NOT_ACCEPTABLE
  | UNSUPPORTED_MEDIA_TYPE
  | INTERNAL_SERVER_ERROR
  | BAD_GATEWAY
deriving DecidableEq

/-- the bytes that a header value may hold -/
def isHeaderByte (b : UInt8) : Bool := (32 ≤ b && b != 127) || b == 9

/-- a header name in its normalised form -/
def isHeaderName (s : String) : Bool := isToken s && toAsciiLowercase s == s

/-- a multimap from header names to values, in the order of arrival -/
structure HeaderMap where
  entries : List (String × List UInt8)
  names : ∀ e ∈ entries, isHeaderName e.1 = true
  values : ∀ e ∈ entries, e.2.all isHeaderByte = true

namespace HeaderMap

def getAll (headers : HeaderMap) (name : String) : List (List UInt8) :=
  (headers.entries.filter fun e => e.1 == toAsciiLowercase name).map Prod.snd

def get (headers : HeaderMap) (name : String) : Option (List UInt8) := (headers.getAll name).head?

theorem get_of_getAll {headers : HeaderMap} {name : String} {value : List UInt8}
    (h : headers.getAll name = [value]) : headers.get name = some value := by
  rw [get, h]
  rfl

theorem name_ok {headers : HeaderMap} {name : String} {value : List UInt8}
    (h : value ∈ headers.getAll name) : isHeaderName (toAsciiLowercase name) = true := by
  obtain ⟨e, he, rfl⟩ := List.mem_map.mp h
  obtain ⟨hmem, hname⟩ := List.mem_filter.mp he
  rw [← beq_iff_eq.mp hname]
  exact headers.names e hmem

end HeaderMap

/-- a value of visible ASCII characters, spaces and tabs -/
def toStr (value : List UInt8) : Option String :=
  if value.all (fun b => b == 9 || (32 ≤ b && b < 127)) then
    some (String.ofList (value.map fun b => Char.ofNat b.toNat))
  else none

theorem isLine_of_toStr {value : List UInt8} {s : String} (h : toStr value = some s) :
    isLine s := by
  unfold toStr at h
  split at h
  · rename_i hall
    cases h
    unfold isLine
    rw [String.toList_ofList, List.mem_map]
    rintro ⟨b, hb, e⟩
    have hb' := List.all_eq_true.mp hall b hb
    have hn := toNat_ofNat_byte b
    rw [e] at hn
    have h10 : b = 10 := by
      apply UInt8.toNat_inj.mp
      exact hn.symm
    rw [h10] at hb'
    revert hb'
    decide
  · cases h

/-- a text that may be the value of a header -/
def isHeaderValue (s : String) : Bool := (utf8 s).all isHeaderByte

theorem isLine_of_isHeaderValue {s : String} (h : isHeaderValue s = true) : isLine s := by
  intro hmem
  have hbyte : (10 : UInt8) ∈ utf8 s := mem_utf8_of_ascii (by decide) hmem
  have hall := List.all_eq_true.mp h 10 hbyte
  revert hall
  decide

structure Authority where
  str : String
  host : String
  portU16 : Option UInt16
deriving DecidableEq

/-- a request target or an absolute URI; its parts hold no line break -/
structure Uri where
  scheme : Option String
  authority : Option Authority
  pathAndQuery : Option String
  path : String
  target_line : ∀ p ∈ pathAndQuery, isLine p
  path_line : isLine path

/-- `path_and_query`, or the path where there is none -/
def Uri.requestTarget (uri : Uri) : String := uri.pathAndQuery.getD uri.path

theorem Uri.requestTarget_isLine (uri : Uri) : isLine uri.requestTarget := by
  unfold Uri.requestTarget
  cases h : uri.pathAndQuery with
  | none => exact uri.path_line
  | some p => exact uri.target_line p h

/-- an HTTP method, a token -/
structure Method where
  str : String
  token : isToken str = true

/-- a URL as the `url` crate parses it; its path and query hold no line break -/
structure Url where
  scheme : String
  username : String
  password : Option String
  host : Option Host
  port : Option UInt16
  path : String
  query : Option String
  path_line : isLine path
  query_line : ∀ q ∈ query, isLine q

structure Mime where
  essence : String
  params : List (String × String)
deriving DecidableEq

/-- the characters of a path segment that `path_segments_mut` does not escape -/
def isSegmentChar (c : Char) : Bool :=
  0x20 < c.toNat && c.toNat < 0x7f &&
    !(['"', '#', '<', '>', '?', '\x60', '{', '}', '/', '%'].contains c)

/-- the text of the segments that are pushed to a URL; `.` and `..` are left out -/
def pushedSegments : List String → String
  | [] => ""
  | segment :: rest =>
    (if segment = "." ∨ segment = ".." then ""
    else "/" ++ Percent.encodeText isSegmentChar segment) ++ pushedSegments rest

/-- the parsers and printers of the HTTP libraries; times are nanoseconds since the epoch -/
class HttpSyntax where
  parseAuthority : String → Option Authority
  parseUri : String → Option Uri
  parseMime : String → Option Mime
  parseHttpDate : String → Option Int
  fmtHttpDate : Int → String
  parseUrl : String → Option Url
  hostToString : Host → String
  /-- a URL without its query and fragment, with segments pushed to its path behind an empty last
  one; `none` where there is no such URL, or it has no path segments -/
  pushSegments : String → List String → Option String

/-- the libraries that the development takes as parameters -/
class Crates extends IriSyntax, Serde.JsonText, Crypto, HttpSyntax

structure InboxRequest where
  headers : HeaderMap
  method : Method
  uri : Uri
  body : List UInt8

/-! ## the web framework -/

/-- a refusal of the framework, before a handler runs -/
inductive Rejection where
  | NOT_FOUND
  | METHOD_NOT_ALLOWED
  | BAD_REQUEST
  | PAYLOAD_TOO_LARGE
  | INTERNAL_SERVER_ERROR
deriving DecidableEq

/-- what a route is for -/
inductive RouteMethod where
  | get
  | post
deriving DecidableEq

/-- the web framework: how it leads a request to a route, and its extractors -/
structure Framework where
  /-- the pattern that a path matches, among those of a router, with the texts of its parameters -/
  matchPath : List String → String → Option (String × List String)
  serves : RouteMethod → Method → Bool
  /-- the path extractor, on the texts of the parameters -/
  path : List String → Except Rejection (List String)
  /-- the query extractor of one optional field -/
  query : Uri → Except Rejection (Option String)
  /-- the extractor of a body under a limit -/
  body : Nat → List UInt8 → Except Rejection (List UInt8)

/-- the segments of a path; the first one is before its first slash -/
def segments (path : String) : List String := (split '/' path.toList).map String.ofList

/-- a segment of a pattern that stands for any one that is not empty -/
def isParameter (pattern : String) : Bool := pattern.toList.head? == some '{'

/-- the texts of the parameters, where the segments of a path match those of a pattern -/
def matchSegments : List String → List String → Option (List String)
  | [], [] => some []
  | pattern :: patterns, segment :: rest =>
    if isParameter pattern then
      if segment = "" then none else (matchSegments patterns rest).map (segment :: ·)
    else if segment = pattern then matchSegments patterns rest
    else none
  | _, _ => none

/-- a body is handed on as it is, if it is within the limit -/
def Framework.LimitsBodies (framework : Framework) : Prop :=
  ∀ limit bytes body, framework.body limit bytes = .ok body ↔ body = bytes ∧ bytes.length ≤ limit

/-- What is relied on of the framework: a path leads to the only pattern that it matches; `HEAD` is
served with `GET`; parameters are percent-decoded once. -/
structure Framework.Documented (framework : Framework) : Prop where
  matchPath : ∀ patterns pattern path params, pattern ∈ patterns →
    matchSegments (segments pattern) (segments path) = some params →
    (∀ other ∈ patterns, other ≠ pattern →
      matchSegments (segments other) (segments path) = none) →
    framework.matchPath patterns path = some (pattern, params)
  get : ∀ method, framework.serves .get method = (method.str == "GET" || method.str == "HEAD")
  post : ∀ method, framework.serves .post method = (method.str == "POST")
  path : ∀ params, framework.path params =
    (params.mapM Percent.decodeText).elim (.error .BAD_REQUEST) .ok
  body : framework.LimitsBodies

end Feder
