import Feder.Lib.Slice
import Feder.Server.Signature

/-!
# The grammar of the `Signature` header

The scanner of `inbox.rs` against a grammar of its own, and with the byte offsets at which it cuts
the text.

* `IsSignatureHeader`         the grammar, and the signature that a text stands for;
* `parameterStep_eq_some`     one turn of the loop reads one parameter;
* `parseParameters_iff`       the loop reads a list of parameters with distinct names;
* `parseSignatureHeader_iff`  what is accepted is the grammar, and no slice is out of place.
-/

namespace Feder
open Text

/-! ## the grammar -/

def IsBlank (s : List Char) : Prop := ∀ c ∈ s, isWhitespace c = true

/-- a letter, a digit, a hyphen or an underscore -/
def IsNameChar (c : Char) : Prop :=
  ('A' ≤ c ∧ c ≤ 'Z') ∨ ('a' ≤ c ∧ c ≤ 'z') ∨ ('0' ≤ c ∧ c ≤ '9') ∨ c = '-' ∨ c = '_'

/-- A text between two quotes and what it stands for.  A backslash escapes the next character,
whatever it is; no other quote and no other control character occurs. -/
inductive Quoted : List Char → List Char → Prop where
  | nil : Quoted [] []
  | plain {c : Char} {raw value : List Char} (quote : c ≠ '"') (backslash : c ≠ '\\')
      (control : isControl c = false) (h : Quoted raw value) : Quoted (c :: raw) (c :: value)
  | escaped {c : Char} {raw value : List Char} (h : Quoted raw value) :
      Quoted ('\\' :: c :: raw) (c :: value)

/-- a parameter with the white space around its tokens -/
structure Parameter where
  before : List Char
  name : List Char
  beforeEquals : List Char
  afterEquals : List Char
  raw : List Char
  value : List Char
  after : List Char
  blank : IsBlank (before ++ beforeEquals ++ afterEquals ++ after)
  name_ne : name ≠ []
  name_ok : ∀ c ∈ name, IsNameChar c
  quoted : Quoted raw value

namespace Parameter

def text (p : Parameter) : List Char :=
  p.before ++ (p.name ++ p.beforeEquals ++
    '=' :: (p.afterEquals ++ '"' :: (p.raw ++ '"' :: p.after)))

/-- the names are compared without regard to letter case -/
def IsNamed (p : Parameter) (name : String) : Prop :=
  eqIgnoreAsciiCase (String.ofList p.name) name = true

end Parameter

/-- parameters between commas, with one more comma behind the last at most -/
def IsParameterList (s : List Char) (parameters : List Parameter) : Prop :=
  ∃ trailing, s = [','].intercalate (parameters.map Parameter.text) ++ trailing ∧
    (trailing = [] ∨ ∃ blank, IsBlank blank ∧ trailing = ',' :: blank)

/-- one of the parameters has this name and this value -/
def Carries (parameters : List Parameter) (name value : String) : Prop :=
  ∃ p ∈ parameters, p.IsNamed name ∧ String.ofList p.value = value

/-- the signature that parameters with distinct names stand for -/
structure Conveys (parameters : List Parameter) (parsed : ParsedSignature) : Prop where
  distinct : parameters.Pairwise fun p q => ¬ p.IsNamed (String.ofList q.name)
  keyId : Carries parameters "keyid" parsed.keyId
  keyId_ne : parsed.keyId ≠ ""
  algorithm : match parsed.algorithm with
    | some algorithm =>
      ∃ text, Carries parameters "algorithm" text ∧ algorithm = toAsciiLowercase text
    | none => ∀ text, ¬ Carries parameters "algorithm" text
  headers : ∃ text, Carries parameters "headers" text ∧
    parsed.signedHeaders = (words text).map toAsciiLowercase
  headers_ne : parsed.signedHeaders ≠ []
  signature : Carries parameters "signature" parsed.signature
  signature_ne : parsed.signature ≠ ""

/-- the texts of the grammar, with the signatures that they stand for -/
def IsSignatureHeader (header : String) (parsed : ParsedSignature) : Prop :=
  ∃ parameters, IsParameterList header.toList parameters ∧ Conveys parameters parsed

/-! ## names and white space -/

/-- the ranges of a name in the order of `Char.isAlphanum`, and in that of the grammar -/
theorem or_last_first {digit upper lower dash line : Prop} :
    ((digit ∨ upper ∨ lower) ∨ dash) ∨ line ↔ upper ∨ lower ∨ digit ∨ dash ∨ line := by
  rw [or_assoc, or_comm (a := digit), or_assoc, or_assoc]

theorem isParameterName_iff {name : List Char} :
    isParameterName name = true ↔ name ≠ [] ∧ ∀ c ∈ name, IsNameChar c := by
  have hchar : ∀ c : Char, (c.isAlphanum || c == '-' || c == '_') = true ↔ IsNameChar c := by
    intro c
    have hle : ∀ a b : Char, a ≤ b ↔ a.toNat ≤ b.toNat := fun a b => UInt32.le_iff_toNat_le
    rw [Bool.or_eq_true, Bool.or_eq_true, beq_iff_eq, beq_iff_eq, isAlphanum_iff]
    unfold IsNameChar
    simp only [hle]
    show ((48 ≤ c.toNat ∧ c.toNat ≤ 57 ∨ 65 ≤ c.toNat ∧ c.toNat ≤ 90 ∨
      97 ≤ c.toNat ∧ c.toNat ≤ 122) ∨ c = '-') ∨ c = '_' ↔
      65 ≤ c.toNat ∧ c.toNat ≤ 90 ∨ 97 ≤ c.toNat ∧ c.toNat ≤ 122 ∨
        48 ≤ c.toNat ∧ c.toNat ≤ 57 ∨ c = '-' ∨ c = '_'
    exact or_last_first
  unfold isParameterName
  rw [Bool.and_eq_true, List.all_eq_true]
  refine and_congr ?_ (forall₂_congr fun c _ => hchar c)
  simp

theorem parameterName_char {name : List Char} (h : isParameterName name = true) {c : Char}
    (hc : c ∈ name) : isWhitespace c = false ∧ c ≠ '=' := by
  rw [isParameterName, Bool.and_eq_true, List.all_eq_true] at h
  have hchar := h.2 c hc
  rw [Bool.or_eq_true, Bool.or_eq_true, beq_iff_eq, beq_iff_eq] at hchar
  rcases hchar with (hchar | rfl) | rfl
  · exact ⟨isWhitespace_of_isAlphanum hchar, by rintro rfl; revert hchar; decide⟩
  · decide
  · decide

theorem trimStart_of_head {c : Char} {rest : List Char} (h : isWhitespace c = false) :
    trimStart (c :: rest) = c :: rest := by
  rw [trimStart, List.dropWhile_cons_of_neg]
  rw [h]
  exact Bool.false_ne_true

theorem trimStart_eq_nil {s : List Char} : trimStart s = [] ↔ IsBlank s :=
  List.dropWhile_eq_nil_iff

theorem exists_trimStart (s : List Char) : ∃ blank, IsBlank blank ∧ s = blank ++ trimStart s :=
  ⟨s.takeWhile isWhitespace, fun _ hc => List.mem_takeWhile_imp hc,
    List.takeWhile_append_dropWhile.symm⟩

theorem exists_trimChars (s : List Char) : ∃ before after, IsBlank before ∧ IsBlank after ∧
    s = before ++ trimChars s ++ after := by
  obtain ⟨before, hbefore, hs⟩ := exists_trimStart s
  obtain ⟨after, hafter, hreverse⟩ := exists_trimStart (trimStart s).reverse
  refine ⟨before, after.reverse, hbefore, fun c hc => hafter c (List.mem_reverse.mp hc), ?_⟩
  have hstart : trimStart s = trimChars s ++ after.reverse := by
    have e := congrArg List.reverse hreverse
    rw [List.reverse_reverse, List.reverse_append] at e
    exact e
  rw [List.append_assoc, ← hstart]
  exact hs

/-! ## quoted values -/

theorem scanQuoted_quoted {raw value : List Char} (h : Quoted raw value) (acc rest : List Char) :
    scanQuoted false acc (raw ++ '"' :: rest) = some (acc ++ value, rest) := by
  induction h generalizing acc with
  | nil =>
    rw [List.nil_append, List.append_nil]
    unfold scanQuoted
    rw [if_neg Bool.false_ne_true, if_neg (by decide), if_pos rfl]
  | @plain c raw value hquote hback hcontrol _ ih =>
    rw [List.cons_append]
    unfold scanQuoted
    rw [if_neg Bool.false_ne_true, if_neg hback, if_neg hquote,
      if_neg (by rw [hcontrol]; exact Bool.false_ne_true), ih, List.append_assoc]
    rfl
  | @escaped c raw value _ ih =>
    rw [List.cons_append, List.cons_append]
    unfold scanQuoted
    rw [if_neg Bool.false_ne_true, if_pos rfl]
    unfold scanQuoted
    rw [if_pos rfl, ih, List.append_assoc]
    rfl

/-- what the scanner has passed when it returns; behind a backslash the next character is taken as
it is -/
theorem scanQuoted_some {escaped : Bool} {acc s v rest : List Char}
    (h : scanQuoted escaped acc s = some (v, rest)) :
    ∃ raw value, s = raw ++ '"' :: rest ∧ v = acc ++ value ∧
      Quoted (if escaped then '\\' :: raw else raw) value := by
  induction s generalizing escaped acc with
  | nil => cases h
  | cons c s ih =>
    unfold scanQuoted at h
    split at h
    · rename_i hescaped
      obtain ⟨raw, value, hs, hv, hquoted⟩ := ih h
      refine ⟨c :: raw, c :: value, by rw [hs, List.cons_append], ?_, ?_⟩
      · rw [hv, List.append_assoc]
        rfl
      · rw [if_pos hescaped]
        exact .escaped hquoted
    · rename_i hescaped
      rw [Bool.not_eq_true] at hescaped
      subst hescaped
      split at h
      · rename_i hback
        obtain ⟨raw, value, hs, hv, hquoted⟩ := ih h
        refine ⟨c :: raw, value, by rw [hs, List.cons_append], hv, ?_⟩
        rw [if_pos rfl] at hquoted
        rw [if_neg Bool.false_ne_true, hback]
        exact hquoted
      · rename_i hback
        split at h
        · rename_i hquote
          cases h
          exact ⟨[], [], by rw [hquote, List.nil_append], (List.append_nil _).symm, .nil⟩
        · rename_i hquote
          split at h
          · cases h
          · rename_i hcontrol
            obtain ⟨raw, value, hs, hv, hquoted⟩ := ih h
            refine ⟨c :: raw, c :: value, by rw [hs, List.cons_append], ?_, ?_⟩
            · rw [hv, List.append_assoc]
              rfl
            · exact .plain hquote hback (Bool.not_eq_true _ ▸ hcontrol) hquoted

theorem parseQuotedParameter_iff {s value rest : List Char} :
    parseQuotedParameter s = some (value, rest) ↔
      ∃ raw, s = '"' :: (raw ++ '"' :: rest) ∧ Quoted raw value := by
  constructor
  · intro h
    unfold parseQuotedParameter at h
    split at h
    · obtain ⟨raw, value', hs, hv, hquoted⟩ := scanQuoted_some h
      rw [List.nil_append] at hv
      rw [hv, hs]
      exact ⟨raw, rfl, hquoted⟩
    · cases h
  · rintro ⟨raw, rfl, hquoted⟩
    exact scanQuoted_quoted hquoted [] rest

/-! ## one parameter -/

theorem Parameter.blanks (p : Parameter) : IsBlank p.before ∧ IsBlank p.beforeEquals ∧
    IsBlank p.afterEquals ∧ IsBlank p.after := by
  have h := p.blank
  unfold IsBlank at h
  simp only [List.mem_append, or_imp, forall_and] at h
  obtain ⟨⟨⟨hbefore, hbeforeEquals⟩, hafterEquals⟩, hafter⟩ := h
  exact ⟨hbefore, hbeforeEquals, hafterEquals, hafter⟩

/-- one parameter at the start of a text: its name, its value and what follows it -/
def parameterStep (s : List Char) : Option (List Char × List Char × List Char) :=
  match splitOnce '=' (trimStart s) with
  | none => none
  | some (name, rest) =>
    if ¬ isParameterName (trimChars name) then none
    else (parseQuotedParameter (trimStart rest)).map fun p => (trimChars name, p.1, trimStart p.2)

theorem trimStart_idem (s : List Char) : trimStart (trimStart s) = trimStart s :=
  List.dropWhile_idempotent ..

theorem exists_parameter {s name value rest : List Char}
    (h : parameterStep s = some (name, value, rest)) :
    ∃ p : Parameter, s = p.text ++ rest ∧ p.name = name ∧ p.value = value ∧
      trimStart rest = rest := by
  unfold parameterStep at h
  split at h
  · cases h
  · rename_i text rest' hsplit
    split at h
    · cases h
    · rename_i hname
      obtain ⟨⟨value', behind⟩, hquoted, e⟩ := Option.map_eq_some_iff.mp h
      cases e
      obtain ⟨hne, hok⟩ := isParameterName_iff.mp (not_not.mp hname)
      obtain ⟨hs, _⟩ := splitOnce_eq hsplit
      obtain ⟨before, hbefore, hs'⟩ := exists_trimStart s
      obtain ⟨before', beforeEquals, hbefore', hbeforeEquals, htext⟩ := exists_trimChars text
      obtain ⟨afterEquals, hafterEquals, hrest⟩ := exists_trimStart rest'
      obtain ⟨raw, hraw, hvalue⟩ := parseQuotedParameter_iff.mp hquoted
      obtain ⟨after, hafter, hbehind⟩ := exists_trimStart behind
      have hblank : IsBlank (before ++ before' ++ beforeEquals ++ afterEquals ++ after) := by
        intro c hc
        simp only [List.mem_append] at hc
        rcases hc with (((hc | hc) | hc) | hc) | hc
        · exact hbefore c hc
        · exact hbefore' c hc
        · exact hbeforeEquals c hc
        · exact hafterEquals c hc
        · exact hafter c hc
      refine ⟨⟨before ++ before', trimChars text, beforeEquals, afterEquals, raw, value', after,
        hblank, hne, hok, hvalue⟩, ?_, rfl, rfl, trimStart_idem behind⟩
      calc s = before ++ trimStart s := hs'
        _ = before ++ (text ++ '=' :: rest') := by rw [hs]
        _ = before ++ (before' ++ trimChars text ++ beforeEquals ++ '=' ::
              (afterEquals ++ '"' :: (raw ++ '"' :: (after ++ trimStart behind)))) := by
            rw [← hbehind, ← hraw, ← hrest, ← htext]
        _ = _ := by
            unfold Parameter.text
            simp only [List.append_assoc, List.cons_append]

/-- **One turn of the loop reads one parameter.** -/
theorem parameterStep_text (p : Parameter) {rest : List Char} :
    parameterStep (p.text ++ rest) = some (p.name, p.value, trimStart rest) := by
  obtain ⟨hbefore, hbeforeEquals, hafterEquals, hafter⟩ := p.blanks
  have hname := isParameterName_iff.mpr ⟨p.name_ne, p.name_ok⟩
  have htrim : trimChars (p.name ++ p.beforeEquals) = p.name := by
    have hsurround := @trimChars_surround [] p.name p.beforeEquals (by simp) hbeforeEquals
    rw [List.nil_append] at hsurround
    rw [hsurround, trimChars_eq_self fun c hc => (parameterName_char hname hc).1]
  have hstart : trimStart (p.text ++ rest) = p.name ++ p.beforeEquals ++ '=' ::
      (p.afterEquals ++ '"' :: (p.raw ++ '"' :: (p.after ++ rest))) := by
    unfold Parameter.text
    rw [List.append_assoc, trimStart_blank hbefore]
    simp only [List.append_assoc, List.cons_append]
    cases hp : p.name with
    | nil => exact absurd hp p.name_ne
    | cons c name =>
      rw [List.cons_append]
      exact trimStart_of_head (parameterName_char hname (hp ▸ List.mem_cons_self ..)).1
  have hequals : '=' ∉ p.name ++ p.beforeEquals := by
    rw [List.mem_append, not_or]
    refine ⟨fun h => (parameterName_char hname h).2 rfl, fun h => ?_⟩
    exact absurd (hbeforeEquals _ h) (by decide)
  have hquoted : parseQuotedParameter
      (trimStart (p.afterEquals ++ '"' :: (p.raw ++ '"' :: (p.after ++ rest)))) =
      some (p.value, p.after ++ rest) := by
    rw [trimStart_blank hafterEquals, trimStart_of_head (by decide)]
    exact parseQuotedParameter_iff.mpr ⟨p.raw, rfl, p.quoted⟩
  unfold parameterStep
  rw [hstart, splitOnce_of_not_mem hequals]
  dsimp only
  rw [htrim, if_neg (not_not.mpr hname), hquoted, Option.map_some, trimStart_blank hafter]

/-! ## the loop -/

/-- what is kept of a parameter -/
def Parameter.entry (p : Parameter) : String × String :=
  (toAsciiLowercase (String.ofList p.name), String.ofList p.value)

theorem parseParameters_eq (parameters : List (String × String)) (s : List Char) :
    parseParameters parameters s =
      if trimStart s = [] then some parameters
      else
        match parameterStep s with
        | none => none
        | some (name, value, rest) =>
          let key := toAsciiLowercase (String.ofList name)
          if (parameters.lookup key).isSome then none
          else
            match rest with
            | [] => some (parameters ++ [(key, String.ofList value)])
            | ',' :: rest => parseParameters (parameters ++ [(key, String.ofList value)]) rest
            | _ :: _ => none := by
  rw [parseParameters]
  unfold parameterStep
  split
  · rfl
  · split
    · rename_i hsplit
      rw [hsplit]
    · rename_i name rest hsplit
      rw [hsplit]
      dsimp only
      split
      · rfl
      · split
        · rename_i hquoted
          rw [hquoted]
          rfl
        · rename_i value behind hquoted
          rw [hquoted]
          dsimp only [Option.map_some]
          split
          · rfl
          · split
            · rename_i hrest
              rw [hrest]
            · rename_i hrest
              rw [hrest]
              rfl
            · rename_i hother hrest
              rw [hrest]
              split
              · rename_i e
                cases e
              · rename_i e
                exact (hother (List.cons.inj e).1).elim
              · rfl

/-- a list of parameters as the loop finds it: nothing but white space, a last parameter, or a
parameter, a comma and another list -/
inductive ParameterList : List Char → List Parameter → Prop where
  | blank {s : List Char} (h : IsBlank s) : ParameterList s []
  | last (p : Parameter) : ParameterList p.text [p]
  | cons (p : Parameter) {s : List Char} {parameters : List Parameter}
      (h : ParameterList s parameters) : ParameterList (p.text ++ ',' :: s) (p :: parameters)

theorem ParameterList.of_parameter (p : Parameter) (parameters : List Parameter)
    {trailing : List Char}
    (h : trailing = [] ∨ ∃ blank, IsBlank blank ∧ trailing = ',' :: blank) :
    ParameterList ([','].intercalate ((p :: parameters).map Parameter.text) ++ trailing)
      (p :: parameters) := by
  induction parameters generalizing p with
  | nil =>
    rw [List.map_cons, List.map_nil, intercalate_singleton]
    rcases h with rfl | ⟨blank, hblank, rfl⟩
    · rw [List.append_nil]
      exact .last p
    · exact .cons p (.blank hblank)
  | cons q parameters ih =>
    rw [List.map_cons, List.map_cons, intercalate_cons_cons, List.append_assoc, List.cons_append]
    exact .cons p (ih q)

theorem ParameterList.isParameterList {s : List Char} {parameters : List Parameter}
    (h : ParameterList s parameters) (hne : parameters ≠ []) : IsParameterList s parameters := by
  induction h with
  | blank => exact absurd rfl hne
  | last p =>
    refine ⟨[], ?_, Or.inl rfl⟩
    rw [List.map_cons, List.map_nil, intercalate_singleton, List.append_nil]
  | @cons p s parameters h ih =>
    cases parameters with
    | nil =>
      cases h with
      | blank hblank =>
        refine ⟨',' :: s, ?_, Or.inr ⟨s, hblank, rfl⟩⟩
        rw [List.map_cons, List.map_nil, intercalate_singleton]
    | cons q parameters =>
      obtain ⟨trailing, hs, htrailing⟩ := ih (List.cons_ne_nil _ _)
      refine ⟨trailing, ?_, htrailing⟩
      rw [List.map_cons, List.map_cons, intercalate_cons_cons, List.append_assoc, List.cons_append,
        hs, List.map_cons]

theorem lookup_isSome_iff {parameters : List (String × String)} {key : String} :
    (parameters.lookup key).isSome = true ↔ key ∈ parameters.map Prod.fst := by
  rw [List.lookup_isSome_iff, List.mem_map]
  constructor
  · rintro ⟨p, hp, e⟩
    exact ⟨p, hp, (beq_iff_eq.mp e).symm⟩
  · rintro ⟨p, hp, rfl⟩
    exact ⟨p, hp, beq_self_eq_true _⟩

theorem nodup_concat {parameters : List (String × String)} {entry : String × String}
    (hnodup : (parameters.map Prod.fst).Nodup) (hnew : ¬ (parameters.lookup entry.1).isSome) :
    ((parameters ++ [entry]).map Prod.fst).Nodup := by
  rw [lookup_isSome_iff] at hnew
  rw [List.map_append, List.map_singleton, List.nodup_append]
  refine ⟨hnodup, List.nodup_singleton _, ?_⟩
  intro a ha b hb e
  rw [List.mem_singleton.mp hb] at e
  exact hnew (e ▸ ha)

/-- the parameters that the loop has read, by induction on the text that is left -/
theorem parseParameters_some (n : Nat) {parameters result : List (String × String)}
    {s : List Char} (hlength : s.length ≤ n) (hnodup : (parameters.map Prod.fst).Nodup)
    (h : parseParameters parameters s = some result) :
    ∃ ps, ParameterList s ps ∧ result = parameters ++ ps.map Parameter.entry ∧
      (result.map Prod.fst).Nodup := by
  induction n generalizing parameters s with
  | zero =>
    have hs : s = [] := List.eq_nil_of_length_eq_zero (by omega)
    subst hs
    have hblank : trimStart ([] : List Char) = [] := rfl
    rw [parseParameters_eq, if_pos hblank] at h
    cases h
    exact ⟨[], .blank (by simp [IsBlank]), (List.append_nil _).symm, hnodup⟩
  | succ n ih =>
    rw [parseParameters_eq] at h
    split at h
    · rename_i hblank
      cases h
      exact ⟨[], .blank (trimStart_eq_nil.mp hblank), (List.append_nil _).symm, hnodup⟩
    · rename_i hblank
      clear hblank
      split at h
      · cases h
      · rename_i name value rest hstep
        obtain ⟨p, rfl, rfl, rfl, -⟩ := exists_parameter hstep
        dsimp only at h
        split at h
        · cases h
        · rename_i hnew
          have hconcat := @nodup_concat _ p.entry hnodup hnew
          split at h
          · cases h
            rw [List.append_nil]
            exact ⟨[p], .last p, rfl, hconcat⟩
          · rename_i rest
            have hrest : rest.length ≤ n := by
              rw [List.length_append, List.length_cons] at hlength
              omega
            obtain ⟨ps, hps, hresult, hresult'⟩ := ih hrest hconcat h
            refine ⟨p :: ps, .cons p hps, ?_, hresult'⟩
            rw [hresult, List.append_assoc]
            rfl
          · cases h

theorem Parameter.text_not_blank (p : Parameter) (rest : List Char) :
    trimStart (p.text ++ rest) ≠ [] := by
  intro h
  have hmem : '"' ∈ p.text ++ rest := by
    unfold Parameter.text
    simp
  exact absurd (trimStart_eq_nil.mp h _ hmem) (by decide)

theorem parseParameters_list {s : List Char} {ps : List Parameter} (h : ParameterList s ps)
    {parameters : List (String × String)}
    (hnodup : ((parameters ++ ps.map Parameter.entry).map Prod.fst).Nodup) :
    parseParameters parameters s = some (parameters ++ ps.map Parameter.entry) := by
  have hnew : ∀ {parameters : List (String × String)} {p : Parameter} {ps : List Parameter},
      ((parameters ++ (p :: ps).map Parameter.entry).map Prod.fst).Nodup →
      ¬ (parameters.lookup p.entry.1).isSome := by
    intro parameters p ps hnodup hsome
    rw [List.map_append, List.nodup_append] at hnodup
    exact hnodup.2.2 _ (lookup_isSome_iff.mp hsome) _ (List.mem_cons_self ..) rfl
  induction h generalizing parameters with
  | blank hblank => rw [parseParameters_eq, if_pos (trimStart_eq_nil.mpr hblank), List.map_nil,
      List.append_nil]
  | last p =>
    have hstep := @parameterStep_text p []
    have htext := p.text_not_blank []
    rw [List.append_nil] at hstep htext
    rw [parseParameters_eq, if_neg htext, hstep]
    exact if_neg (hnew hnodup)
  | @cons p s ps _ ih =>
    rw [parseParameters_eq, if_neg (p.text_not_blank _), parameterStep_text,
      trimStart_of_head (by decide)]
    have hcons : parameters ++ (p :: ps).map Parameter.entry =
        parameters ++ [p.entry] ++ ps.map Parameter.entry := by
      rw [List.append_assoc]
      rfl
    rw [hcons] at hnodup ⊢
    rw [← ih hnodup]
    rw [← hcons] at hnodup
    exact if_neg (hnew hnodup)

/-- **The loop reads a list of parameters with distinct names.** -/
theorem parseParameters_iff {s : List Char} {result : List (String × String)} :
    parseParameters [] s = some result ↔
      ∃ ps, ParameterList s ps ∧ result = ps.map Parameter.entry ∧ (result.map Prod.fst).Nodup := by
  constructor
  · intro h
    have hnil : (([] : List (String × String)).map Prod.fst).Nodup := List.nodup_nil
    exact parseParameters_some s.length (Nat.le_refl _) hnil h
  · rintro ⟨ps, hps, rfl, hnodup⟩
    have hlist := @parseParameters_list s ps hps []
    rw [List.nil_append] at hlist
    exact hlist hnodup

/-! ## the signature of a list of parameters -/

theorem lookup_of_nodup {entries : List (String × String)} (h : (entries.map Prod.fst).Nodup)
    {key value : String} : entries.lookup key = some value ↔ (key, value) ∈ entries := by
  induction entries with
  | nil => simp
  | cons e entries ih =>
    obtain ⟨key', value'⟩ := e
    rw [List.map_cons, List.nodup_cons] at h
    rw [List.mem_cons, List.lookup_cons]
    by_cases hkey : key = key'
    · subst hkey
      rw [beq_self_eq_true]
      constructor
      · intro hvalue
        exact Or.inl (by rw [Option.some.inj hvalue])
      · rintro (hvalue | hmem)
        · cases hvalue
          rfl
        · exact absurd (List.mem_map_of_mem hmem) h.1
    · rw [beq_false_of_ne hkey]
      constructor
      · intro hvalue
        exact Or.inr ((ih h.2).mp hvalue)
      · rintro (hvalue | hmem)
        · exact absurd (Prod.mk.inj hvalue).1 hkey
        · exact (ih h.2).mpr hmem

theorem carries_iff {ps : List Parameter} (h : ((ps.map Parameter.entry).map Prod.fst).Nodup)
    {key value : String} (hkey : toAsciiLowercase key = key) :
    (ps.map Parameter.entry).lookup key = some value ↔ Carries ps key value := by
  rw [lookup_of_nodup h, List.mem_map]
  unfold Carries Parameter.IsNamed Parameter.entry
  constructor
  · rintro ⟨p, hp, e⟩
    obtain ⟨hname, hvalue⟩ := Prod.mk.inj e
    exact ⟨p, hp, eqIgnoreAsciiCase_iff.mpr (hname.trans hkey.symm), hvalue⟩
  · rintro ⟨p, hp, hname, hvalue⟩
    refine ⟨p, hp, ?_⟩
    rw [eqIgnoreAsciiCase_iff.mp hname, hkey, hvalue]

theorem distinct_iff {ps : List Parameter} :
    ((ps.map Parameter.entry).map Prod.fst).Nodup ↔
      ps.Pairwise fun p q => ¬ p.IsNamed (String.ofList q.name) := by
  rw [List.map_map, List.Nodup, List.pairwise_map]
  unfold Parameter.IsNamed
  simp only [eqIgnoreAsciiCase_iff]
  rfl

/-- what the parameters are read as -/
def readParameters (parameters : List (String × String)) : Option ParsedSignature := do
  let keyId ← parameters.lookup "keyid"
  let algorithm := (parameters.lookup "algorithm").map toAsciiLowercase
  let headers ← parameters.lookup "headers"
  let signedHeaders := (words headers).map toAsciiLowercase
  let signature ← parameters.lookup "signature"
  if keyId.isEmpty || signedHeaders.isEmpty || signature.isEmpty then none
  else some ⟨keyId, algorithm, signedHeaders, signature⟩

theorem parseSignatureHeader_eq (header : String) :
    parseSignatureHeader header = (parseParameters [] header.toList).bind readParameters := rfl

theorem readParameters_some {ps : List Parameter}
    (hnodup : ((ps.map Parameter.entry).map Prod.fst).Nodup) {parsed : ParsedSignature} :
    readParameters (ps.map Parameter.entry) = some parsed ↔ Conveys ps parsed := by
  have hcarries : ∀ {key value : String}, toAsciiLowercase key = key →
      ((ps.map Parameter.entry).lookup key = some value ↔ Carries ps key value) :=
    fun hkey => carries_iff hnodup hkey
  constructor
  · intro h
    unfold readParameters at h
    simp only [Option.bind_eq_bind, Option.bind_eq_some_iff] at h
    obtain ⟨keyId, hkeyId, headers, hheaders, signature, hsignature, h⟩ := h
    split at h
    · cases h
    · rename_i hne
      cases h
      simp only [Bool.or_eq_true, not_or, String.isEmpty_iff, List.isEmpty_iff] at hne
      obtain ⟨⟨hkeyId_ne, hheaders_ne⟩, hsignature_ne⟩ := hne
      refine ⟨distinct_iff.mp hnodup, (hcarries (by decide)).mp hkeyId, hkeyId_ne, ?_,
        ⟨headers, (hcarries (by decide)).mp hheaders, rfl⟩, hheaders_ne,
        (hcarries (by decide)).mp hsignature, hsignature_ne⟩
      cases halgorithm : (ps.map Parameter.entry).lookup "algorithm" with
      | none =>
        intro text htext
        rw [(hcarries (by decide)).mpr htext] at halgorithm
        cases halgorithm
      | some text => exact ⟨text, (hcarries (by decide)).mp halgorithm, rfl⟩
  · intro h
    obtain ⟨headers, hheaders, hsigned⟩ := h.headers
    have halgorithm : ((ps.map Parameter.entry).lookup "algorithm").map toAsciiLowercase =
        parsed.algorithm := by
      have hspec := h.algorithm
      cases hparsed : parsed.algorithm with
      | none =>
        rw [hparsed] at hspec
        cases hlookup : (ps.map Parameter.entry).lookup "algorithm" with
        | none => rfl
        | some text => exact absurd ((hcarries (by decide)).mp hlookup) (hspec text)
      | some algorithm =>
        rw [hparsed] at hspec
        obtain ⟨text, htext, rfl⟩ := hspec
        rw [(hcarries (by decide)).mpr htext]
        rfl
    have hpresent : ¬ (parsed.keyId.isEmpty || ((words headers).map toAsciiLowercase).isEmpty ||
        parsed.signature.isEmpty) = true := by
      simp only [Bool.or_eq_true, not_or, String.isEmpty_iff, List.isEmpty_iff]
      exact ⟨⟨h.keyId_ne, hsigned ▸ h.headers_ne⟩, h.signature_ne⟩
    unfold readParameters
    rw [(hcarries (by decide)).mpr h.keyId, (hcarries (by decide)).mpr hheaders,
      (hcarries (by decide)).mpr h.signature]
    show (if (parsed.keyId.isEmpty || ((words headers).map toAsciiLowercase).isEmpty ||
      parsed.signature.isEmpty) = true then none else some _) = _
    rw [if_neg hpresent, halgorithm, ← hsigned]

/-! ## byte offsets -/

/-- the loop of `parse_quoted_parameter`, with the offset of each character -/
def scanQuotedAt (input : List Char) (escaped : Bool) (value : List Char) (index : Nat) :
    List Char → Except SliceError (Option (List Char × List Char))
  | [] => .ok none
  | character :: rest =>
    let next := index + character.utf8Size
    if escaped then scanQuotedAt input false (value ++ [character]) next rest
    else if character = '\\' then scanQuotedAt input true value next rest
    else if character = '"' then (sliceFrom next input).map fun rest => some (value, rest)
    else if isControl character then .ok none
    else scanQuotedAt input false (value ++ [character]) next rest

def parseQuotedParameterAt : List Char → Except SliceError (Option (List Char × List Char))
  | '"' :: input => scanQuotedAt input false [] 0 input
  | _ => .ok none

/-- one turn of the loop of `parse_signature_header`, which cuts the text at the offset of the
first `=` and behind it -/
def parameterStepAt (s : List Char) :
    Except SliceError (Option (List Char × List Char × List Char)) :=
  let remaining := trimStart s
  match find '=' remaining with
  | none => .ok none
  | some equals => do
    let name ← sliceTo equals remaining
    if ¬ isParameterName (trimChars name) then return none
    let rest ← sliceFrom (equals + 1) remaining
    match ← parseQuotedParameterAt (trimStart rest) with
    | none => return none
    | some (value, rest) => return some (trimChars name, value, trimStart rest)

theorem scanQuotedAt_eq (before s : List Char) (escaped : Bool) (value : List Char) :
    scanQuotedAt (before ++ s) escaped value (byteLength before) s =
      .ok (scanQuoted escaped value s) := by
  induction s generalizing before escaped value with
  | nil => rfl
  | cons c s ih =>
    have hnext : byteLength before + c.utf8Size = byteLength (before ++ [c]) := by
      rw [byteLength_append, byteLength, byteLength, Nat.add_zero]
    have hinput : before ++ c :: s = before ++ [c] ++ s := by
      rw [List.append_assoc, List.singleton_append]
    unfold scanQuotedAt scanQuoted
    dsimp only
    rw [hnext, hinput, ih, ih, sliceFrom_append]
    split
    · rfl
    · split
      · rfl
      · split
        · rfl
        · split
          · rfl
          · rfl

theorem parseQuotedParameterAt_eq (s : List Char) :
    parseQuotedParameterAt s = .ok (parseQuotedParameter s) := by
  by_cases hquote : ∃ input, s = '"' :: input
  · obtain ⟨input, rfl⟩ := hquote
    exact scanQuotedAt_eq [] input false []
  · have hother : ∀ input, s = '"' :: input → False := fun input h => hquote ⟨input, h⟩
    rw [parseQuotedParameterAt.eq_2 s hother, parseQuotedParameter.eq_2 s hother]

theorem parameterStepAt_eq (s : List Char) : parameterStepAt s = .ok (parameterStep s) := by
  unfold parameterStepAt parameterStep
  dsimp only
  rw [find_eq]
  cases hsplit : splitOnce '=' (trimStart s) with
  | none => rfl
  | some p =>
    obtain ⟨name, rest⟩ := p
    obtain ⟨hs, _⟩ := splitOnce_eq hsplit
    have hequals : byteLength name + 1 = byteLength (name ++ ['=']) := by
      rw [byteLength_append]
      rfl
    have hafter : name ++ '=' :: rest = name ++ ['='] ++ rest := by
      rw [List.append_assoc, List.singleton_append]
    rw [hs, Option.map_some]
    simp only [bind, Except.bind, pure, Except.pure]
    rw [sliceTo_append, hequals, hafter, sliceFrom_append]
    dsimp only
    split
    · rfl
    · rw [parseQuotedParameterAt_eq]
      cases parseQuotedParameter (trimStart rest) with
      | none => rfl
      | some p => rfl

/-- the loop of `parse_signature_header` -/
def parseParametersAt (parameters : List (String × String)) (remaining : List Char) :
    Except SliceError (Option (List (String × String))) :=
  if trimStart remaining = [] then .ok (some parameters)
  else
    match _hstep : parameterStepAt remaining with
    | .error e => .error e
    | .ok none => .ok none
    | .ok (some (name, value, rest)) =>
      let key := toAsciiLowercase (String.ofList name)
      if (parameters.lookup key).isSome then .ok none
      else
        match rest with
        | [] => .ok (some (parameters ++ [(key, String.ofList value)]))
        | ',' :: rest => parseParametersAt (parameters ++ [(key, String.ofList value)]) rest
        | _ :: _ => .ok none
termination_by remaining.length
decreasing_by
  rw [parameterStepAt_eq] at _hstep
  obtain ⟨p, hremaining, _⟩ := exists_parameter (Except.ok.inj _hstep)
  rw [hremaining, List.length_append, List.length_cons]
  omega

def parseSignatureHeaderAt (header : String) : Except SliceError (Option ParsedSignature) :=
  (parseParametersAt [] header.toList).map fun parameters => parameters.bind readParameters

theorem parseParametersAt_eq (n : Nat) (parameters : List (String × String)) (s : List Char)
    (hlength : s.length ≤ n) : parseParametersAt parameters s = .ok (parseParameters parameters s) := by
  induction n generalizing parameters s with
  | zero =>
    have hs : s = [] := List.eq_nil_of_length_eq_zero (by omega)
    have hblank : trimStart ([] : List Char) = [] := rfl
    subst hs
    rw [parseParametersAt, parseParameters_eq, if_pos hblank, if_pos hblank]
  | succ n ih =>
    rw [parseParametersAt, parseParameters_eq]
    split
    · rfl
    · split
      · rename_i e hstep
        rw [parameterStepAt_eq] at hstep
        cases hstep
      · rename_i hstep
        rw [parameterStepAt_eq] at hstep
        rw [Except.ok.inj hstep]
      · rename_i name value rest hstep
        rw [parameterStepAt_eq] at hstep
        rw [Except.ok.inj hstep]
        dsimp only
        split
        · rfl
        · split
          · rfl
          · rename_i rest
            obtain ⟨p, hs, _⟩ := exists_parameter (Except.ok.inj hstep)
            apply ih
            rw [hs, List.length_append, List.length_cons] at hlength
            omega
          · rename_i hother _
            split
            · rename_i e
              cases e
            · rename_i e
              obtain ⟨rfl, rfl⟩ := List.cons.inj e
              exact (hother _ rfl HEq.rfl).elim
            · rfl

/-- **What is accepted is the grammar.**  The reading of a header cuts no text out of place, and it
finds a signature exactly where the grammar has one. -/
theorem parseSignatureHeader_iff (header : String) :
    parseSignatureHeaderAt header = .ok (parseSignatureHeader header) ∧
    ∀ parsed, parseSignatureHeader header = some parsed ↔ IsSignatureHeader header parsed := by
  constructor
  · unfold parseSignatureHeaderAt
    rw [parseParametersAt_eq header.toList.length [] header.toList (Nat.le_refl _)]
    rfl
  · intro parsed
    rw [parseSignatureHeader_eq, Option.bind_eq_some_iff]
    constructor
    · rintro ⟨parameters, hparameters, hread⟩
      obtain ⟨ps, hps, rfl, hnodup⟩ := parseParameters_iff.mp hparameters
      have hconveys := (readParameters_some hnodup).mp hread
      refine ⟨ps, hps.isParameterList ?_, hconveys⟩
      obtain ⟨p, hp, _⟩ := hconveys.keyId
      exact List.ne_nil_of_mem hp
    · rintro ⟨ps, ⟨trailing, hheader, htrailing⟩, hconveys⟩
      have hnodup := distinct_iff.mpr hconveys.distinct
      refine ⟨_, parseParameters_iff.mpr ⟨ps, ?_, rfl, hnodup⟩,
        (readParameters_some hnodup).mpr hconveys⟩
      rw [hheader]
      cases ps with
      | nil =>
        obtain ⟨p, hp, _⟩ := hconveys.keyId
        cases hp
      | cons p ps => exact .of_parameter p ps htrailing

end Feder
