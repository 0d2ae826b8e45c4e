import Feder.Server.Object

/-!
# The ids of served Notes

A Note under `{actor}/posts/{segment}` is looked up under an id that is made anew: the framework
decodes the last segment of the path, and the handler pushes the text behind it to the id of the
actor, which encodes it again.

* `noteId_ok_iff`        the id that is made of a decoded segment;
* `servedAt_iff`         a Note is served at its own id exactly if its segment is encoded as a segment
                         that is pushed;
* `notes_served_iff`     which Notes are served, and which ids are mixed up.
-/

namespace Feder
open Text

/-- the path parameter behind a segment: percent-decoded once, and refused if that is not UTF-8 -/
def pathParameter (segment : String) : Option String := Percent.decodeText segment

/-- one non-empty segment of a path that is no step in it -/
structure IsSegment (segment : String) : Prop where
  nonempty : segment ≠ ""
  not_dots : segment ≠ "." ∧ segment ≠ ".."
  one : (segment.toList.all fun c => c != '/' && c != '?' && c != '#') = true

/-- The segment is written as `path_segments_mut` writes it: of characters that are not escaped, and
of upper-case escapes of the bytes that are, which spell UTF-8. -/
def IsCanonical (segment : String) : Prop :=
  Percent.isEncoded isSegmentChar segment.toList = true ∧ (pathParameter segment).isSome = true

theorem keeps_segmentChar : Percent.Keeps isSegmentChar := by
  intro c hc
  rw [isSegmentChar, Bool.and_eq_true, Bool.and_eq_true, decide_eq_true_eq, decide_eq_true_eq] at hc
  refine ⟨by omega, ?_⟩
  rintro rfl
  exact absurd hc.2 (by decide)

/-- a segment that is written in the form that a decoded one gets when it is pushed -/
theorem isCanonical_iff {segment : String} :
    IsCanonical segment ↔ ∃ postId, pathParameter segment = some postId ∧
      Percent.encodeText isSegmentChar postId = segment := by
  unfold IsCanonical
  rw [Percent.isEncoded_iff keeps_segmentChar, Option.isSome_iff_exists]
  constructor
  · rintro ⟨hencoded, postId, hpost⟩
    refine ⟨postId, hpost, ?_⟩
    rw [Percent.encodeText, Percent.decodeText_eq_some.mp hpost, hencoded, String.ofList_toList]
  · rintro ⟨postId, hpost, rfl⟩
    refine ⟨?_, postId, hpost⟩
    rw [← Percent.decodeText_eq_some.mp hpost, Percent.encodeText, String.toList_ofList]

/-! ## pushed segments -/

theorem encode_posts : Percent.encodeText isSegmentChar "posts" = "posts" := by decide

/-- the path behind the id of an actor -/
def postPath (postId : String) : String := pushedSegments ["posts", postId]

theorem postPath_dots {postId : String} (h : postId = "." ∨ postId = "..") :
    postPath postId = "/posts" := by
  unfold postPath pushedSegments pushedSegments pushedSegments
  rw [if_neg (by decide), if_pos h, encode_posts]
  rfl

theorem postPath_segment {postId : String} (h : ¬ (postId = "." ∨ postId = "..")) :
    postPath postId = "/posts/" ++ Percent.encodeText isSegmentChar postId := by
  unfold postPath pushedSegments pushedSegments pushedSegments
  rw [if_neg (by decide), if_neg h, encode_posts, String.append_empty, ← String.append_assoc]
  rfl

theorem posts_slash_ne (s : String) : "/posts/" ++ s ≠ "/posts" := by
  intro h
  have hlength := congrArg String.length h
  rw [String.length_append, show "/posts/".length = 7 from rfl, show "/posts".length = 6 from rfl]
    at hlength
  omega

theorem postPath_eq_iff {postId postId' : String} : postPath postId = postPath postId' ↔
    postId = postId' ∨ (postId = "." ∨ postId = "..") ∧ (postId' = "." ∨ postId' = "..") := by
  by_cases hdots : postId = "." ∨ postId = ".."
  · by_cases hdots' : postId' = "." ∨ postId' = ".."
    · rw [postPath_dots hdots, postPath_dots hdots']
      exact ⟨fun _ => Or.inr ⟨hdots, hdots'⟩, fun _ => rfl⟩
    · rw [postPath_dots hdots, postPath_segment hdots']
      refine ⟨fun h => absurd h.symm (posts_slash_ne _), ?_⟩
      rintro (rfl | ⟨_, h⟩)
      · exact absurd hdots hdots'
      · exact absurd h hdots'
  · by_cases hdots' : postId' = "." ∨ postId' = ".."
    · rw [postPath_segment hdots, postPath_dots hdots']
      refine ⟨fun h => absurd h (posts_slash_ne _), ?_⟩
      rintro (rfl | ⟨h, _⟩)
      · exact absurd hdots' hdots
      · exact absurd h hdots
    · rw [postPath_segment hdots, postPath_segment hdots']
      constructor
      · intro h
        exact Or.inl (Percent.encodeText_inj keeps_segmentChar ((String.append_right_inj _).mp h))
      · rintro (rfl | ⟨h, _⟩)
        · rfl
        · exact absurd h hdots

section
variable [Crates]

/-- What is relied on of the `url` crate: `serialized` tells the texts that are URLs in its
serialised form, without query, fragment and trailing slash, and segments that are pushed to such a
URL are put behind it. -/
def PushesSegments (serialized : String → Prop) : Prop :=
  ∀ url, serialized url → ∀ segments,
    HttpSyntax.pushSegments url segments = some (url ++ pushedSegments segments)

/-- no tab, line break or backslash; `push` drops the first ones and escapes the last one in some
URLs only -/
def isPushable (segment : String) : Bool :=
  segment.toList.all fun c => !(['\t', '\n', '\r', '\\'].contains c)

/-- the same for segments without these characters -/
def PushesPlain (serialized : String → Prop) : Prop :=
  ∀ url, serialized url → ∀ segments, (∀ segment ∈ segments, isPushable segment = true) →
    HttpSyntax.pushSegments url segments = some (url ++ pushedSegments segments)

theorem PushesSegments.plain {serialized : String → Prop} (h : PushesSegments serialized) :
    PushesPlain serialized := fun url hurl segments _ => h url hurl segments

section
variable {actorId id : Iri} {postId : String}

theorem noteId_ok_iff_of_pushed (hpushed : HttpSyntax.pushSegments actorId.str ["posts", postId] =
    some (actorId.str ++ postPath postId)) :
    noteId actorId postId = .ok id ↔ id.str = actorId.str ++ postPath postId := by
  unfold noteId
  rw [hpushed, Option.bind_some]
  constructor
  · intro h
    split at h
    · rename_i hparse
      cases h
      exact Iri.str_of_parse hparse
    · cases h
  · intro h
    have hparse : Iri.parse (actorId.str ++ postPath postId) = some id := by
      rw [← Iri.parse_str id, h]
    rw [hparse]

theorem noteId_ok_iff {serialized : String → Prop} (hurl : PushesSegments serialized)
    (hactor : serialized actorId.str) :
    noteId actorId postId = .ok id ↔ id.str = actorId.str ++ postPath postId :=
  noteId_ok_iff_of_pushed (hurl _ hactor _)

theorem noteId_ok_iff_of_plain {serialized : String → Prop} (hurl : PushesPlain serialized)
    (hactor : serialized actorId.str) (hpost : isPushable postId = true) :
    noteId actorId postId = .ok id ↔ id.str = actorId.str ++ postPath postId := by
  have hpushable : ∀ segment ∈ ["posts", postId], isPushable segment = true := by
    simp [hpost, show isPushable "posts" = true by decide]
  exact noteId_ok_iff_of_pushed (hurl _ hactor _ hpushable)

end

/-- A GET for the path of an id is answered with the Note under it: the decoded segment is made into
the id again, so that the handler finds the Note, if it is public, in any store that has it, and
until another one is stored under its id in any store that it was stored in. -/
def ServedAt (actor : Actor) (id : Iri) (segment : String) : Prop :=
  ∃ postId, pathParameter segment = some postId ∧ noteId actor.id postId = .ok id ∧
    ∀ (deliver : Attempt → Except SendError Unit) (server : FederServer) (identifier : String)
      (headers : HeaderMap), server.getActor identifier = .ok (some actor) →
      acceptsActivitypub headers = true →
      (∀ (site : Site) (note : Note), site.store.loadNote id = .ok (some note) →
        isPublicNote note = true →
        (Prog.run (handle deliver) site (Object.note server identifier postId headers)).1 =
          .ok (served note)) ∧
      ∀ (store : SqliteStore) (sent : List Attempt) (calls : List StoreCall) (note : Note),
        note.id = id → isPublicNote note = true → (∀ call ∈ calls, ¬ call.StoresNote id) →
        (Prog.run (handle deliver) ⟨(store.storeNote note).runCalls calls, sent⟩
          (Object.note server identifier postId headers)).1 = .ok (served note.norm)

/-- the paths of two ids lead to one id -/
def LeadTogether (actor : Actor) (segment segment' : String) : Prop :=
  ∃ postId postId' id, pathParameter segment = some postId ∧ pathParameter segment' = some postId' ∧
    noteId actor.id postId = .ok id ∧ noteId actor.id postId' = .ok id

section
variable {serialized : String → Prop} (hurl : PushesSegments serialized) {actor : Actor}
  (hactor : serialized actor.id.str)
include hurl hactor

/-- **A Note is served at its own id exactly if its segment is canonical.** -/
theorem servedAt_iff {segment : String} (hsegment : IsSegment segment) {id : Iri}
    (hid : id.str = actor.id.str ++ "/posts/" ++ segment) :
    ServedAt actor id segment ↔ IsCanonical segment := by
  rw [isCanonical_iff]
  constructor
  · rintro ⟨postId, hpost, hnote, _⟩
    refine ⟨postId, hpost, ?_⟩
    have hpath := (noteId_ok_iff hurl hactor).mp hnote
    rw [hid, String.append_assoc] at hpath
    have hposts := (String.append_right_inj _).mp hpath
    by_cases hdots : postId = "." ∨ postId = ".."
    · rw [postPath_dots hdots] at hposts
      exact absurd hposts (posts_slash_ne segment)
    · rw [postPath_segment hdots] at hposts
      exact ((String.append_right_inj _).mp hposts).symm
  · rintro ⟨postId, hpost, hencoded⟩
    -- a decoded dot would have been written as it is
    have hdots : ¬ (postId = "." ∨ postId = "..") := by
      rintro (rfl | rfl)
      · exact hsegment.not_dots.1 (hencoded.symm.trans (by decide))
      · exact hsegment.not_dots.2 (hencoded.symm.trans (by decide))
    have hnote : noteId actor.id postId = .ok id := by
      rw [noteId_ok_iff hurl hactor, hid, postPath_segment hdots, hencoded, String.append_assoc]
    refine ⟨postId, hpost, hnote, ?_⟩
    intro deliver server identifier headers hserver haccepts
    have hserved : ∀ (site : Site) (note : Note), site.store.loadNote id = .ok (some note) →
        isPublicNote note = true →
        (Prog.run (handle deliver) site (Object.note server identifier postId headers)).1 =
          .ok (served note) := by
      intro site note hload hpublic
      rw [run_note hserver hnote hload haccepts, if_pos hpublic]
    refine ⟨hserved, ?_⟩
    rintro store sent calls note rfl hpublic hcalls
    exact hserved ⟨_, sent⟩ note.norm (runCalls_loadNote store note hcalls)
      ((isPublicNote_norm note).mpr (Or.inl hpublic))

theorem leadTogether_iff {segment segment' : String} :
    LeadTogether actor segment segment' ↔
      ∃ postId postId', pathParameter segment = some postId ∧
        pathParameter segment' = some postId' ∧
        (postId = postId' ∨ (postId = "." ∨ postId = "..") ∧ (postId' = "." ∨ postId' = "..")) ∧
        IriSyntax.valid (actor.id.str ++ postPath postId) = true := by
  constructor
  · rintro ⟨postId, postId', id, hpost, hpost', hnote, hnote'⟩
    rw [noteId_ok_iff hurl hactor] at hnote hnote'
    have hsame := (String.append_right_inj _).mp (hnote.symm.trans hnote')
    exact ⟨postId, postId', hpost, hpost', postPath_eq_iff.mp hsame, hnote ▸ id.valid⟩
  · rintro ⟨postId, postId', hpost, hpost', hsame, hvalid⟩
    refine ⟨postId, postId', ⟨_, hvalid⟩, hpost, hpost', ?_, ?_⟩
    · exact (noteId_ok_iff hurl hactor).mpr rfl
    · rw [noteId_ok_iff hurl hactor, ← postPath_eq_iff.mpr hsame]

theorem not_leadTogether {segment segment' : String} (hsegment : IsSegment segment)
    (hcanonical : IsCanonical segment) (hcanonical' : IsCanonical segment')
    (hne : segment ≠ segment') : ¬ LeadTogether actor segment segment' := by
  obtain ⟨postId, hpost, hencoded⟩ := isCanonical_iff.mp hcanonical
  obtain ⟨postId', hpost', hencoded'⟩ := isCanonical_iff.mp hcanonical'
  rw [leadTogether_iff hurl hactor]
  rintro ⟨_, _, hpost₁, hpost₁', hsame, _⟩
  rw [hpost] at hpost₁
  rw [hpost'] at hpost₁'
  cases hpost₁
  cases hpost₁'
  rcases hsame with rfl | ⟨rfl | rfl, _⟩
  · exact hne (hencoded.symm.trans hencoded')
  · exact hsegment.not_dots.1 (hencoded.symm.trans (by decide))
  · exact hsegment.not_dots.2 (hencoded.symm.trans (by decide))

/-- **Which public Notes are served at their own ids.**  A Note is served exactly if its segment is
canonical; two Notes are both served, and not mixed up, exactly if both of their segments are; and
two paths lead to one id exactly if their segments are decoded to one text, or to dots. -/
theorem notes_served_iff :
    (∀ segment (id : Iri), IsSegment segment → id.str = actor.id.str ++ "/posts/" ++ segment →
      (ServedAt actor id segment ↔ IsCanonical segment)) ∧
    (∀ segment segment' (id id' : Iri), IsSegment segment → IsSegment segment' →
      segment ≠ segment' → id.str = actor.id.str ++ "/posts/" ++ segment →
      id'.str = actor.id.str ++ "/posts/" ++ segment' →
      (ServedAt actor id segment ∧ ServedAt actor id' segment' ∧
        ¬ LeadTogether actor segment segment' ↔ IsCanonical segment ∧ IsCanonical segment')) ∧
    ∀ segment segment', LeadTogether actor segment segment' ↔
      ∃ postId postId', pathParameter segment = some postId ∧
        pathParameter segment' = some postId' ∧
        (postId = postId' ∨ (postId = "." ∨ postId = "..") ∧ (postId' = "." ∨ postId' = "..")) ∧
        IriSyntax.valid (actor.id.str ++ postPath postId) = true := by
  refine ⟨fun _ _ hsegment hid => servedAt_iff hurl hactor hsegment hid, ?_,
    fun _ _ => leadTogether_iff hurl hactor⟩
  intro segment segment' id id' hsegment hsegment' hne hid hid'
  rw [servedAt_iff hurl hactor hsegment hid, servedAt_iff hurl hactor hsegment' hid']
  refine ⟨fun ⟨h, h', _⟩ => ⟨h, h'⟩, fun ⟨h, h'⟩ => ⟨h, h', ?_⟩⟩
  exact not_leadTogether hurl hactor hsegment h h' hne

end

end

section
attribute [local instance] libraries

/-- the URLs without query, fragment and trailing slash -/
def Libraries.IsSerialized (url : String) : Prop :=
  (Libraries.splitUrl url).isSome = true ∧ (url.toList.all fun c => c != '?' && c != '#') = true ∧
    url.toList.getLast? ≠ some '/'

theorem libraries_pushesSegments : PushesSegments Libraries.IsSerialized := by
  rintro url ⟨hsplit, hplain, hlast⟩ segments
  obtain ⟨parts, hparts⟩ := Option.isSome_iff_exists.mp hsplit
  show (Libraries.splitUrl url).map _ = _
  rw [hparts, Option.map_some, List.takeWhile_eq_self_iff.mpr (List.all_eq_true.mp hplain)]
  dsimp only
  rw [if_neg hlast, String.ofList_toList]

theorem Peer.alice_serialized : Libraries.IsSerialized Peer.alice.actor.id.str :=
  ⟨rfl, by decide, by decide⟩

/-- two Notes of alice are served, one of them with an escaped letter, and not mixed up -/
theorem notes_served_iff_of_alice :
    ServedAt Peer.alice.actor ⟨"http://a.x/alice/posts/1", by decide⟩ "1" ∧
    ServedAt Peer.alice.actor ⟨"http://a.x/alice/posts/caf%C3%A9", by decide⟩ "caf%C3%A9" ∧
    ¬ LeadTogether Peer.alice.actor "1" "caf%C3%A9" := by
  have hone : IsSegment "1" := ⟨by decide, by decide, by decide⟩
  have hcafe : IsSegment "caf%C3%A9" := ⟨by decide, by decide, by decide⟩
  have hdecoded : pathParameter "caf%C3%A9" = some "café" :=
    Percent.decodeText_eq_some.mpr (by decide)
  have hplain : pathParameter "1" = some "1" := Percent.decodeText_eq_some.mpr (by decide)
  obtain ⟨_, hboth, _⟩ := notes_served_iff libraries_pushesSegments Peer.alice_serialized
  exact (hboth "1" "caf%C3%A9" _ _ hone hcafe (by decide) rfl rfl).mpr
    ⟨⟨by decide, by rw [hplain]; rfl⟩, by decide, by rw [hdecoded]; rfl⟩

/-- **A Note whose id is no ASCII text is not served, and two ids are mixed up** where one escapes a
letter that the other does not. -/
theorem accented_note_unserved :
    ¬ ServedAt Peer.alice.actor ⟨"http://a.x/alice/posts/café", by decide⟩ "café" ∧
    LeadTogether Peer.alice.actor "%41" "A" := by
  have hsegment : IsSegment "café" := ⟨by decide, by decide, by decide⟩
  have hescaped : pathParameter "%41" = some "A" := Percent.decodeText_eq_some.mpr (by decide)
  have hletter : pathParameter "A" = some "A" := Percent.decodeText_eq_some.mpr (by decide)
  constructor
  · rw [servedAt_iff libraries_pushesSegments Peer.alice_serialized hsegment rfl]
    rintro ⟨hencoded, _⟩
    revert hencoded
    decide
  · rw [leadTogether_iff libraries_pushesSegments Peer.alice_serialized]
    exact ⟨"A", "A", hescaped, hletter, Or.inl rfl, by decide⟩

end

end Feder
