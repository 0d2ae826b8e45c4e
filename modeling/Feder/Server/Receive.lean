import Feder.Server.SignatureGrammar
import Feder.Server.SignedRequest

/-!
# Requests that arrive as they were sent

What `sign_draft_cavage` writes into the `Signature` header is what `parse_signature_header` reads,
and a request of `send_activity` that arrives unchanged is verified.

* `parseParameters_parameter`   one parameter of the header;
* `parseSignatureHeader_sign`   the header as a whole is read as it was written;
* `buildRequest_complete`       a request is built where its texts can be header values;
* `verifySignedRequest_received`   a request that arrives as it was sent is verified.
-/

namespace Feder
open Serde Text

/-! ## the `Signature` header -/

/-- a text that stands between quotes as it is -/
def IsPlain (s : List Char) : Prop := ∀ c ∈ s, c ≠ '"' ∧ c ≠ '\\' ∧ isControl c = false

instance (s : List Char) : Decidable (IsPlain s) := List.decidableBAll _ s

theorem plain_of_isAlphanum {c : Char} (h : c.isAlphanum = true) :
    c ≠ '"' ∧ c ≠ '\\' ∧ isControl c = false := by
  have hnat := toNat_of_isAlphanum h
  refine ⟨?_, ?_, ?_⟩
  · rintro rfl
    exact absurd h (by decide)
  · rintro rfl
    exact absurd h (by decide)
  · unfold isControl
    simp only [Bool.or_eq_false_iff, Bool.and_eq_false_iff, decide_eq_false_iff_not]
    omega

theorem quoted_plain {value : List Char} (h : IsPlain value) : Quoted value value := by
  induction value with
  | nil => exact .nil
  | cons c value ih =>
    obtain ⟨hquote, hback, hcontrol⟩ := h c (List.mem_cons_self ..)
    exact .plain hquote hback hcontrol (ih fun d hd => h d (List.mem_cons_of_mem _ hd))

/-- **One parameter of the header**, and what may follow it. -/
theorem parseParameters_parameter {parameters : List (String × String)} {name value rest : List Char}
    (key : String) (hname : isParameterName name = true) (hvalue : IsPlain value)
    (hkey : toAsciiLowercase (String.ofList name) = key) (hnew : parameters.lookup key = none) :
    parseParameters parameters (name ++ '=' :: '"' :: (value ++ '"' :: rest)) =
      match trimStart rest with
      | [] => some (parameters ++ [(key, String.ofList value)])
      | ',' :: rest => parseParameters (parameters ++ [(key, String.ofList value)]) rest
      | _ :: _ => none := by
  subst hkey
  obtain ⟨hne, hok⟩ := isParameterName_iff.mp hname
  let p : Parameter := ⟨[], name, [], [], value, value, [], by simp [IsBlank], hne, hok,
    quoted_plain hvalue⟩
  have htext : name ++ '=' :: '"' :: (value ++ '"' :: rest) = p.text ++ rest := by
    simp [p, Parameter.text]
  have hfree : ¬ (parameters.lookup (toAsciiLowercase (String.ofList name))).isSome = true := by
    rw [hnew]
    exact Bool.false_ne_true
  rw [htext, parseParameters_eq, if_neg (p.text_not_blank rest), parameterStep_text]
  exact if_neg hfree

theorem parseParameters_cons {parameters : List (String × String)} {name value rest : List Char}
    (key : String) (hname : isParameterName name = true) (hvalue : IsPlain value)
    (hkey : toAsciiLowercase (String.ofList name) = key) (hnew : parameters.lookup key = none) :
    parseParameters parameters (name ++ '=' :: '"' :: (value ++ '"' :: ',' :: rest)) =
      parseParameters (parameters ++ [(key, String.ofList value)]) rest := by
  rw [parseParameters_parameter key hname hvalue hkey hnew, trimStart_of_head (by decide)]
  rfl

theorem parseParameters_last {parameters : List (String × String)} {name value : List Char}
    (key : String) (hname : isParameterName name = true) (hvalue : IsPlain value)
    (hkey : toAsciiLowercase (String.ofList name) = key) (hnew : parameters.lookup key = none) :
    parseParameters parameters (name ++ '=' :: '"' :: (value ++ ['"'])) =
      some (parameters ++ [(key, String.ofList value)]) := by
  rw [parseParameters_parameter key hname hvalue hkey hnew]
  rfl

/-- the text that `sign_draft_cavage` writes -/
def signatureHeader (keyId : String) (names : List String) (signature : String) : String :=
  "keyId=\"" ++ keyId ++ "\",algorithm=\"rsa-sha256\",headers=\"(request-target) " ++
    join " " names ++ "\",signature=\"" ++ signature ++ "\""

theorem isWord_requestTarget : IsWord "(request-target)" := by decide

theorem isPlain_of_token {s : String} (h : isToken s = true) : IsPlain s.toList := by
  intro c hc
  rw [isToken, Bool.and_eq_true, List.all_eq_true] at h
  have hchar := h.2 c hc
  rw [isTokenChar, Bool.or_eq_true] at hchar
  rcases hchar with hchar | hchar
  · exact plain_of_isAlphanum hchar
  · simp only [decide_eq_true_eq, List.mem_cons, List.not_mem_nil, or_false] at hchar
    rcases hchar with rfl | rfl | rfl | rfl | rfl | rfl | rfl | rfl | rfl | rfl | rfl | rfl | rfl |
      rfl | rfl <;> decide

theorem isWord_of_token {s : String} (h : isToken s = true) : IsWord s := by
  constructor
  · rintro rfl
    exact absurd h (by decide)
  · intro c hc
    by_contra hspace
    rw [Bool.not_eq_false, isAsciiWhitespace] at hspace
    simp only [Bool.or_eq_true, beq_iff_eq] at hspace
    rcases hspace with (((rfl | rfl) | rfl) | rfl) | rfl <;>
      exact not_mem_token h (by decide) hc

theorem isPlain_append {a b : List Char} (ha : IsPlain a) (hb : IsPlain b) : IsPlain (a ++ b) := by
  intro c hc
  rcases List.mem_append.mp hc with hc | hc
  · exact ha c hc
  · exact hb c hc

theorem isPlain_join {names : List String} (h : ∀ name ∈ names, isToken name = true) :
    IsPlain (join " " names).toList := by
  induction names with
  | nil =>
    intro c hc
    cases hc
  | cons name rest ih =>
    have hname := isPlain_of_token (h name (List.mem_cons_self ..))
    cases rest with
    | nil => exact hname
    | cons name' rest' =>
      rw [join_cons_cons, String.toList_append, String.toList_append]
      refine isPlain_append (isPlain_append hname ?_) (ih fun x hx => h x (List.mem_cons_of_mem _ hx))
      intro c hc
      cases List.mem_singleton.mp hc
      decide

theorem parseParameters_sign {keyId signature : String} {names : List String}
    (hkeyId : IsPlain keyId.toList) (hnames : ∀ name ∈ names, isToken name = true)
    (hsignature : IsPlain signature.toList) :
    parseParameters [] (signatureHeader keyId names signature).toList =
      some [("keyid", keyId), ("algorithm", "rsa-sha256"),
        ("headers", "(request-target) " ++ join " " names), ("signature", signature)] := by
  have hheaders : IsPlain ("(request-target) " ++ join " " names).toList := by
    rw [String.toList_append]
    refine isPlain_append ?_ (isPlain_join hnames)
    decide
  have htext : (signatureHeader keyId names signature).toList =
      "keyId".toList ++ '=' :: '"' :: (keyId.toList ++ '"' :: ',' ::
        ("algorithm".toList ++ '=' :: '"' :: ("rsa-sha256".toList ++ '"' :: ',' ::
          ("headers".toList ++ '=' :: '"' :: (("(request-target) " ++ join " " names).toList ++ '"' ::
            ',' :: ("signature".toList ++ '=' :: '"' :: (signature.toList ++ ['"']))))))) := by
    unfold signatureHeader
    simp
  rw [htext, parseParameters_cons "keyid" (by decide) hkeyId (by decide) rfl,
    parseParameters_cons "algorithm" (by decide) (by decide) (by decide) rfl,
    parseParameters_cons "headers" (by decide) hheaders (by decide) rfl,
    parseParameters_last "signature" (by decide) hsignature (by decide) rfl]
  simp only [String.ofList_toList]
  rfl

/-- **The header is read as it was written.** -/
theorem parseSignatureHeader_sign {keyId signature : String} {names : List String}
    (hkeyId : IsPlain keyId.toList) (hne : keyId ≠ "") (hnames : ∀ name ∈ names, isToken name = true)
    (hlower : ∀ name ∈ names, toAsciiLowercase name = name) (hsignature : IsPlain signature.toList)
    (hne' : signature ≠ "") :
    parseSignatureHeader (signatureHeader keyId names signature) =
      some ⟨keyId, some "rsa-sha256", "(request-target)" :: names, signature⟩ := by
  have hwords : (words ("(request-target) " ++ join " " names)).map toAsciiLowercase =
      "(request-target)" :: names := by
    rw [show "(request-target) " = "(request-target)" ++ " " by decide,
      words_cons isWord_requestTarget, words_join fun w hw => isWord_of_token (hnames w hw),
      List.map_cons, List.map_congr_left hlower, List.map_id']
    rfl
  have hpresent : (keyId.isEmpty || ("(request-target)" :: names).isEmpty || signature.isEmpty) =
      false := by
    simp [hne, hne']
  unfold parseSignatureHeader
  rw [parseParameters_sign hkeyId hnames hsignature]
  show (if (keyId.isEmpty || ((words ("(request-target) " ++ join " " names)).map
    toAsciiLowercase).isEmpty || signature.isEmpty) = true then none else some _) = _
  rw [hwords, hpresent, if_neg Bool.false_ne_true]
  have halgorithm : toAsciiLowercase "rsa-sha256" = "rsa-sha256" := by decide
  exact congrArg (fun algorithm => some (⟨keyId, some algorithm, _, signature⟩ : ParsedSignature))
    halgorithm

/-! ## texts in headers -/

/-- a text of visible ASCII characters, spaces and tabs -/
def isVisible (s : String) : Bool := s.toList.all fun c => c == '\t' || (32 ≤ c.toNat && c.toNat < 127)

theorem isVisible_append {a b : String} : isVisible (a ++ b) = (isVisible a && isVisible b) := by
  unfold isVisible
  rw [String.toList_append, List.all_append]

theorem isVisible_encode [Crypto] (bytes : List UInt8) : isVisible (Crypto.encode bytes) = true := by
  unfold isVisible
  rw [List.all_eq_true]
  intro c hc
  rcases Crypto.encode_alphabet bytes c hc with h | rfl | rfl | rfl
  · have hnat := toNat_of_isAlphanum h
    simp only [Bool.or_eq_true, Bool.and_eq_true, decide_eq_true_eq]
    omega
  all_goals decide

theorem isPlain_encode [Crypto] (bytes : List UInt8) : IsPlain (Crypto.encode bytes).toList := by
  intro c hc
  rcases Crypto.encode_alphabet bytes c hc with h | rfl | rfl | rfl
  · exact plain_of_isAlphanum h
  all_goals decide

theorem isVisible_digestHeader [Crypto] (body : List UInt8) :
    isVisible (createSha256DigestHeader body) = true := by
  unfold createSha256DigestHeader
  rw [isVisible_append, isVisible_encode]
  decide

theorem visible_char {s : String} (h : isVisible s = true) {c : Char} (hc : c ∈ s.toList) :
    c.toNat = 9 ∨ (32 ≤ c.toNat ∧ c.toNat < 127) := by
  have hchar := List.all_eq_true.mp h c hc
  rw [Bool.or_eq_true, Bool.and_eq_true, beq_iff_eq, decide_eq_true_eq, decide_eq_true_eq] at hchar
  rcases hchar with rfl | hchar
  · exact Or.inl rfl
  · exact Or.inr hchar

theorem utf8_visible {s : String} (h : isVisible s = true) :
    utf8 s = s.toList.map fun c => UInt8.ofNat c.toNat := by
  apply utf8_ascii
  intro c hc
  have hchar := visible_char h hc
  omega

theorem visible_byte {s : String} (h : isVisible s = true) {b : UInt8} (hb : b ∈ utf8 s) :
    b = 9 ∨ (32 ≤ b ∧ b < 127) := by
  rw [utf8_visible h] at hb
  obtain ⟨c, hc, rfl⟩ := List.mem_map.mp hb
  rcases visible_char h hc with h9 | ⟨hlow, hhigh⟩
  · rw [h9]
    exact Or.inl rfl
  · have hnat : (UInt8.ofNat c.toNat).toNat = c.toNat := by
      rw [UInt8.toNat_ofNat']
      omega
    rw [UInt8.le_iff_toNat_le, UInt8.lt_iff_toNat_lt, hnat]
    exact Or.inr ⟨hlow, hhigh⟩

/-- **A visible text is read from its bytes.** -/
theorem toStr_utf8 {s : String} (h : isVisible s = true) : toStr (utf8 s) = some s := by
  have hall : (utf8 s).all (fun b => b == 9 || (32 ≤ b && b < 127)) = true := by
    rw [List.all_eq_true]
    intro b hb
    rw [Bool.or_eq_true, Bool.and_eq_true, beq_iff_eq, decide_eq_true_eq, decide_eq_true_eq]
    exact visible_byte h hb
  have hread : (utf8 s).map (fun b => Char.ofNat b.toNat) = s.toList := by
    rw [utf8_visible h, List.map_map]
    conv_rhs => rw [← List.map_id' s.toList]
    apply List.map_congr_left
    intro c hc
    have hchar := visible_char h hc
    have hnat : (UInt8.ofNat c.toNat).toNat = c.toNat := by
      rw [UInt8.toNat_ofNat']
      omega
    rw [Function.comp_apply, hnat, Char.ofNat_toNat]
  unfold toStr
  rw [if_pos hall, hread, String.ofList_toList]

/-- **Only a visible text is read from its bytes.** -/
theorem isVisible_of_toStr {s t : String} (h : toStr (utf8 s) = some t) : isVisible s = true := by
  unfold toStr at h
  split at h
  · rename_i hall
    rw [List.all_eq_true] at hall
    have hbyte : ∀ b ∈ utf8 s, b = 9 ∨ (32 ≤ b ∧ b < 127) := by
      intro b hb
      simpa using hall b hb
    unfold isVisible
    rw [List.all_eq_true]
    intro c hc
    rw [Bool.or_eq_true, Bool.and_eq_true, beq_iff_eq, decide_eq_true_eq, decide_eq_true_eq]
    by_cases hascii : c.toNat < 128
    · have hb := hbyte _ (mem_utf8_of_ascii hascii hc)
      have hnat : (UInt8.ofNat c.toNat).toNat = c.toNat := by
        rw [UInt8.toNat_ofNat']
        omega
      rw [UInt8.le_iff_toNat_le, UInt8.lt_iff_toNat_lt, ← UInt8.toNat_inj, hnat] at hb
      rcases hb with h9 | hb
      · exact Or.inl (Char.toNat_inj.mp h9)
      · exact Or.inr hb
    · have hsize := c.utf8Size_pos
      rw [← String.length_utf8EncodeChar] at hsize
      obtain ⟨b, hb⟩ := List.exists_mem_of_length_pos hsize
      have hhigh := byte_of_not_ascii (Nat.le_of_not_lt hascii) b hb
      have hmem : b ∈ utf8 s := by
        rw [utf8_eq]
        exact List.mem_flatMap.mpr ⟨c, hc, hb⟩
      rw [UInt8.le_iff_toNat_le] at hhigh
      have hnat : 128 ≤ b.toNat := hhigh
      rcases hbyte b hmem with rfl | ⟨_, hlow⟩
      · exact absurd hnat (by decide)
      · rw [UInt8.lt_iff_toNat_lt] at hlow
        have hlow' : b.toNat < 127 := hlow
        omega
  · cases h

theorem isHeaderValue_append {a b : String} :
    isHeaderValue (a ++ b) = (isHeaderValue a && isHeaderValue b) := by
  unfold isHeaderValue
  rw [utf8_append, List.all_append]

theorem isHeaderValue_of_plain {s : String} (h : IsPlain s.toList) : isHeaderValue s = true := by
  unfold isHeaderValue
  rw [List.all_eq_true]
  intro b hb
  rw [utf8_eq] at hb
  obtain ⟨c, hc, hb⟩ := List.mem_flatMap.mp hb
  obtain ⟨_, _, hcontrol⟩ := h c hc
  unfold isControl at hcontrol
  simp only [Bool.or_eq_false_iff, Bool.and_eq_false_iff, decide_eq_false_iff_not] at hcontrol
  obtain ⟨hlow, hdelete⟩ := hcontrol
  have hbyte : 32 ≤ b ∧ b ≠ 127 := by
    rw [UInt8.le_iff_toNat_le, Ne, ← UInt8.toNat_inj]
    show 32 ≤ b.toNat ∧ b.toNat ≠ 127
    by_cases hascii : c.toNat < 128
    · rw [utf8EncodeChar_ascii hascii] at hb
      rw [List.mem_singleton.mp hb, UInt8.toNat_ofNat']
      omega
    · have hhigh := byte_of_not_ascii (Nat.le_of_not_lt hascii) b hb
      rw [UInt8.le_iff_toNat_le] at hhigh
      have hnat : 128 ≤ b.toNat := hhigh
      omega
  unfold isHeaderByte
  rw [Bool.or_eq_true, Bool.and_eq_true, decide_eq_true_eq, bne_iff_ne]
  exact Or.inl hbyte

theorem isHeaderValue_of_visible {s : String} (h : isVisible s = true) : isHeaderValue s = true := by
  unfold isHeaderValue
  rw [List.all_eq_true]
  intro b hb
  rcases visible_byte h hb with rfl | ⟨hlow, hhigh⟩
  · decide
  · have hne : b ≠ 127 := by
      rintro rfl
      exact absurd hhigh (by decide)
    unfold isHeaderByte
    rw [Bool.or_eq_true, Bool.and_eq_true, decide_eq_true_eq, bne_iff_ne]
    exact Or.inl ⟨hlow, hne⟩

theorem isVisible_signatureHeader {keyId signature : String} {names : List String}
    (hkeyId : isVisible keyId = true) (hnames : isVisible (join " " names) = true)
    (hsignature : isVisible signature = true) :
    isVisible (signatureHeader keyId names signature) = true := by
  unfold signatureHeader
  simp only [isVisible_append, hkeyId, hnames, hsignature, Bool.and_true]
  decide

theorem isHeaderValue_signatureHeader {keyId signature : String} {names : List String}
    (hkeyId : IsPlain keyId.toList) (hnames : isVisible (join " " names) = true)
    (hsignature : isVisible signature = true) :
    isHeaderValue (signatureHeader keyId names signature) = true := by
  unfold signatureHeader
  simp only [isHeaderValue_append, isHeaderValue_of_plain hkeyId, isHeaderValue_of_visible hnames,
    isHeaderValue_of_visible hsignature, Bool.and_true]
  decide

/-! ## a request on its arrival -/

section
variable [Crates] {now : Int} {localActor : Actor} {keyPair : ActorKeyPair} {activity : Json}
  {r : OutgoingRequest}

theorem BuiltRequest.requestTarget_isLine (h : BuiltRequest now localActor keyPair activity r) :
    isLine r.requestTarget := by
  rw [h.target]
  exact Feder.requestTarget_isLine r.url

/-- the headers that are sent, the signature behind the signed ones -/
def OutgoingRequest.allHeaders (r : OutgoingRequest) : List (String × String) :=
  r.headers ++ [("signature", r.signature)]

theorem BuiltRequest.header_ok (h : BuiltRequest now localActor keyPair activity r) :
    ∀ e ∈ r.allHeaders, isHeaderName e.1 = true ∧ isHeaderValue e.2 = true := by
  intro e he
  rcases List.mem_append.mp he with he | he
  · refine ⟨?_, h.values e he⟩
    obtain ⟨host, hheaders⟩ := h.headers
    rw [hheaders] at he
    have hnames : ∀ e ∈ signedHeaders now r.body host, isHeaderName e.1 = true := by
      simp only [signedHeaders, List.forall_mem_cons, List.not_mem_nil, false_implies, implies_true,
        and_true]
      decide
    exact hnames e he
  · cases List.mem_singleton.mp he
    exact ⟨(by decide : isHeaderName "signature" = true), h.signatureValue⟩

/-- the request as a server receives it -/
def BuiltRequest.received (h : BuiltRequest now localActor keyPair activity r) : InboxRequest where
  headers :=
    { entries := r.allHeaders.map fun e => (e.1, utf8 e.2)
      names := by
        intro e he
        obtain ⟨e', he', rfl⟩ := List.mem_map.mp he
        exact (h.header_ok e' he').1
      values := by
        intro e he
        obtain ⟨e', he', rfl⟩ := List.mem_map.mp he
        exact (h.header_ok e' he').2 }
  method := ⟨r.method, by rw [h.method]; decide⟩
  uri :=
    { scheme := none
      authority := none
      pathAndQuery := some r.requestTarget
      path := r.url.path
      target_line := by
        intro p hp
        cases hp
        exact h.requestTarget_isLine
      path_line := r.url.path_line }
  body := r.body

theorem BuiltRequest.getAll_received (h : BuiltRequest now localActor keyPair activity r)
    {e : String × String} (he : e ∈ r.allHeaders) :
    h.received.headers.getAll e.1 = [utf8 e.2] := by
  obtain ⟨host, hheaders⟩ := h.headers
  have hall : ∀ e ∈ signedHeaders now r.body host ++ [("signature", r.signature)],
      (((signedHeaders now r.body host ++ [("signature", r.signature)]).map
        fun e => (e.1, utf8 e.2)).filter fun e' => e'.1 == toAsciiLowercase e.1).map Prod.snd =
        [utf8 e.2] := by
    simp only [signedHeaders, List.cons_append, List.nil_append, List.forall_mem_cons,
      List.not_mem_nil, false_implies, implies_true, and_true]
    exact ⟨rfl, rfl, rfl, rfl, rfl⟩
  unfold OutgoingRequest.allHeaders at he
  rw [hheaders] at he
  show ((r.allHeaders.map _).filter _).map _ = _
  unfold OutgoingRequest.allHeaders
  rw [hheaders]
  exact hall e he

theorem BuiltRequest.get_received (h : BuiltRequest now localActor keyPair activity r)
    {e : String × String} (he : e ∈ r.allHeaders) (hvisible : isVisible e.2 = true) :
    (h.received.headers.get e.1).bind toStr = some e.2 := by
  rw [HeaderMap.get_of_getAll (h.getAll_received he), Option.bind_some, toStr_utf8 hvisible]

/-- the loop over the signed headers finds what was signed -/
theorem BuiltRequest.collected (h : BuiltRequest now localActor keyPair activity r)
    (hvisible : ∀ e ∈ r.headers, isVisible e.2 = true) :
    collectSignedHeaders h.received.headers [] [] (r.headers.map Prod.fst) = some r.headers := by
  have hall : ∀ e ∈ r.headers, h.received.headers.getAll e.1 = [utf8 e.2] ∧
      toStr (utf8 e.2) = some e.2 := by
    intro e he
    exact ⟨h.getAll_received (List.mem_append_left _ he), toStr_utf8 (hvisible e he)⟩
  generalize h.received.headers = headers at hall ⊢
  obtain ⟨host, hheaders⟩ := h.headers
  rw [hheaders] at hall ⊢
  unfold signedHeaders at hall ⊢
  simp only [List.forall_mem_cons, List.not_mem_nil, false_implies, implies_true, and_true] at hall
  obtain ⟨⟨h1, t1⟩, ⟨h2, t2⟩, ⟨h3, t3⟩, ⟨h4, t4⟩⟩ := hall
  simp only [List.map_cons, List.map_nil]
  unfold collectSignedHeaders
  rw [if_neg (by decide), h1]
  dsimp only
  rw [t1]
  dsimp only
  unfold collectSignedHeaders
  rw [if_neg (by decide), h2]
  dsimp only
  rw [t2]
  dsimp only
  unfold collectSignedHeaders
  rw [if_neg (by decide), h3]
  dsimp only
  rw [t3]
  dsimp only
  unfold collectSignedHeaders
  rw [if_neg (by decide), h4]
  dsimp only
  rw [t4]
  rfl

theorem BuiltRequest.digest_received (h : BuiltRequest now localActor keyPair activity r)
    (hvisible : ∀ e ∈ r.headers, isVisible e.2 = true) :
    verifyRequestDigest h.received.headers h.received.body = .ok () := by
  have hmem : ("digest", createSha256DigestHeader r.body) ∈ r.headers := by
    obtain ⟨host, hheaders⟩ := h.headers
    rw [hheaders]
    simp [signedHeaders]
  have hget := h.get_received (List.mem_append_left _ hmem) (hvisible _ hmem)
  have hcomma : ',' ∉ (createSha256DigestHeader r.body).toList :=
    fun hc => (mem_digestHeader hc).2 rfl
  have htrim : trimChars (createSha256DigestHeader r.body).toList =
      (createSha256DigestHeader r.body).toList :=
    trimChars_eq_self fun c hc => (mem_digestHeader hc).1
  have hmatches : digestEntryMatches (createSha256DigestHeader r.body)
      (createSha256DigestHeader r.body).toList = true := by
    unfold digestEntryMatches
    rw [htrim, splitOnce_digestHeader]
    show (eqIgnoreAsciiCase _ _ && (_ == _)) = true
    rw [Bool.and_eq_true, beq_iff_eq]
    exact ⟨by decide, rfl⟩
  unfold verifyRequestDigest
  rw [hget]
  show (if (split ',' (createSha256DigestHeader r.body).toList).any
    (digestEntryMatches (createSha256DigestHeader r.body)) = true then _ else _) = _
  rw [split_of_not_mem hcomma, if_pos]
  rw [List.any_cons, hmatches, Bool.true_or]

/-- **A request is built** for an inbox that requests may go to, where its texts can be header
values. -/
theorem buildRequest_complete {addressPolicy : OutboundAddressPolicy} {inbox keyId : Iri} {url : Url}
    {host : Host} {privateKey : Crypto.PrivateKey} (hkeyId : sendKeyId localActor keyPair = .ok keyId)
    (hurl : HttpSyntax.parseUrl inbox.str = some url) (hhttp : url.isHttp = true)
    (haddress : validateLiteralHost url.host addressPolicy = .ok ()) (hhost : url.host = some host)
    (hprivate : Crypto.fromPkcs8Pem keyPair.privateKeyPem = some privateKey)
    (hvisible : ∀ e ∈ signedHeaders now (JsonText.toVec activity) (hostHeader host url.port),
      isVisible e.2 = true) (hkeyIdPlain : IsPlain keyId.str.toList) :
    ∃ r, buildRequest addressPolicy now localActor keyPair activity inbox = .ok r ∧ r.url = url ∧
      r.headers = signedHeaders now (JsonText.toVec activity) (hostHeader host url.port) := by
  generalize hheaders : signedHeaders now (JsonText.toVec activity) (hostHeader host url.port) =
    headers at hvisible
  obtain ⟨signature, hsign, hsignature⟩ : ∃ signature,
      signDraftCavage keyPair keyId.str "POST" url.requestTarget headers = .ok signature ∧
      isHeaderValue signature = true := by
    unfold signDraftCavage signatureValue
    rw [hprivate]
    refine ⟨_, rfl, isHeaderValue_signatureHeader hkeyIdPlain ?_ (isVisible_encode _)⟩
    rw [← hheaders]
    show isVisible (join " " (["content-type", "date", "digest", "host"].map toAsciiLowercase)) = true
    decide
  have hvalues : (headers.all (fun h => isHeaderValue h.2) && isHeaderValue signature) = true := by
    rw [Bool.and_eq_true, List.all_eq_true]
    exact ⟨fun e he => isHeaderValue_of_visible (hvisible e he), hsignature⟩
  refine ⟨⟨url, "POST", url.requestTarget, headers, signature, JsonText.toVec activity⟩, ?_, rfl,
    rfl⟩
  unfold buildRequest
  rw [hkeyId]
  dsimp only
  rw [hurl]
  dsimp only
  rw [if_neg (not_not.mpr hhttp), haddress]
  dsimp only
  rw [hhost]
  dsimp only
  rw [hheaders, hsign]
  dsimp only
  rw [if_pos hvalues]

/-- what the verification of a signed request relies on: the texts that are signed are visible,
the key id can be written between quotes, and the key pair signs what its public key verifies -/
structure Verifiable (keyPair : ActorKeyPair) (keyId : Iri) (r : OutgoingRequest)
    (publicKeyPem : String) : Prop where
  visible : ∀ e ∈ r.headers, isVisible e.2 = true
  keyIdVisible : isVisible keyId.str = true
  keyIdPlain : IsPlain keyId.str.toList
  keys : ∃ privateKey publicKey, Crypto.fromPkcs8Pem keyPair.privateKeyPem = some privateKey ∧
    Crypto.fromPublicKeyPem publicKeyPem = some publicKey ∧ ∀ message,
      Crypto.encode (Crypto.sign privateKey message) ≠ "" ∧
      Crypto.isSignature (Crypto.sign privateKey message) = true ∧
      Crypto.verify publicKey message (Crypto.sign privateKey message) = true

/-- the parameters that a signature arrives with -/
def receivedSignature (keyId : Iri) (privateKey : Crypto.PrivateKey) (r : OutgoingRequest) :
    ParsedSignature where
  keyId := keyId.str
  algorithm := some "rsa-sha256"
  signedHeaders := "(request-target)" :: ["content-type", "date", "digest", "host"]
  signature := Crypto.encode
    (Crypto.sign privateKey (utf8 (draftCavageSignatureBase r.method r.requestTarget r.headers)))

/-- **The signature arrives as it was made.** -/
theorem BuiltRequest.signature_received (h : BuiltRequest now localActor keyPair activity r)
    {keyId : Iri} (hkeyId : sendKeyId localActor keyPair = .ok keyId) {publicKeyPem : String}
    (hverifiable : Verifiable keyPair keyId r publicKeyPem) {privateKey : Crypto.PrivateKey}
    (hprivate : Crypto.fromPkcs8Pem keyPair.privateKeyPem = some privateKey) :
    (h.received.headers.get "signature").bind toStr = some r.signature ∧
      parseSignatureHeader r.signature = some (receivedSignature keyId privateKey r) := by
  obtain ⟨keyId', hkeyId', hsign⟩ := h.signed
  rw [hkeyId] at hkeyId'
  cases hkeyId'
  have hlower : r.headers.map (fun e => toAsciiLowercase e.1) =
      ["content-type", "date", "digest", "host"] := by
    obtain ⟨host, hheaders⟩ := h.headers
    rw [hheaders]
    show ["content-type", "date", "digest", "host"].map toAsciiLowercase = _
    decide
  have hheader : r.signature =
      signatureHeader keyId.str ["content-type", "date", "digest", "host"]
        (receivedSignature keyId privateKey r).signature := by
    unfold signDraftCavage Feder.signatureValue at hsign
    rw [hprivate] at hsign
    dsimp only at hsign
    rw [hlower] at hsign
    exact (Except.ok.inj hsign).symm
  have hvisible : isVisible r.signature = true := by
    rw [hheader]
    exact isVisible_signatureHeader hverifiable.keyIdVisible (by decide) (isVisible_encode _)
  have hne : (receivedSignature keyId privateKey r).signature ≠ "" := by
    obtain ⟨privateKey', _, hprivate', _, hkeys⟩ := hverifiable.keys
    rw [hprivate] at hprivate'
    cases hprivate'
    exact (hkeys _).1
  refine ⟨h.get_received (e := ("signature", r.signature))
    (List.mem_append_right _ (List.mem_singleton.mpr rfl)) hvisible, ?_⟩
  rw [hheader]
  exact parseSignatureHeader_sign hverifiable.keyIdPlain (keyId.str_ne (by decide)) (by decide)
    (by decide) (isPlain_encode _) hne

/-- **A request that arrives as it was sent is verified**, where the host and the date pass and
the resolver finds the key and its actor. -/
theorem verifySignedRequest_received (h : BuiltRequest now localActor keyPair activity r)
    {keyId : Iri} (hkeyId : sendKeyId localActor keyPair = .ok keyId) {resolver : ActorResolver}
    {key : CryptographicKey} (hkey : resolver.resolveKey keyId = .ok key)
    (hverifiable : Verifiable keyPair keyId r key.publicKeyPem) {actor : Actor}
    (howner : key.owner = actor.id) (hactor : resolver.resolve actor.id = .ok actor)
    (howns : actorOwnsKey actor key = true) {now' : Int} {inbox : Iri}
    (hhost : verifyRequestHost h.received.headers inbox = .ok ())
    (hdate : verifyRequestDate h.received.headers now' = .ok ()) :
    verifySignedRequest resolver now' h.received actor.id inbox = .ok actor := by
  have hid := ActorResolver.resolveKey_id hkey
  subst hid
  obtain ⟨privateKey, publicKey, hprivate, hpublic, hkeys⟩ := hverifiable.keys
  obtain ⟨_, hsignature, hverify⟩ :=
    hkeys (utf8 (draftCavageSignatureBase r.method r.requestTarget r.headers))
  obtain ⟨hheader, hparse⟩ := h.signature_received hkeyId hverifiable hprivate
  have hnames : r.headers.map Prod.fst = ["content-type", "date", "digest", "host"] := by
    obtain ⟨host, hheaders⟩ := h.headers
    rw [hheaders]
    rfl
  have hcollected := h.collected hverifiable.visible
  rw [hnames] at hcollected
  have hverified : VerifiedRequest resolver now' h.received actor.id inbox actor
      (receivedSignature key.id privateKey r) r.headers key :=
    { header := ⟨r.signature, hheader, hparse⟩
      accepted := rfl
      collected := hcollected
      required := (by decide : ∀ name ∈ ["host", "date", "digest"],
        name ∈ ["content-type", "date", "digest", "host"])
      host := hhost
      date := hdate
      digest := h.digest_received hverifiable.visible
      keyId := Iri.parse_str key.id
      resolvedKey := hkey
      owner := howner
      verified := by
        unfold verifyDraftCavage receivedSignature
        rw [hpublic]
        dsimp only
        rw [Crypto.decode_encode]
        dsimp only
        rw [if_pos hsignature]
        exact if_pos hverify
      resolved := hactor
      actorId := rfl
      owns := howns }
  exact hverified.ok

end

end Feder
