import Feder.Lib.Serde
import Feder.Lib.Text

/-!
# The text of a JSON document

A printer and a reader of JSON, without fractions and exponents: compact on the writing side, with
free white space on the reading side.

* `readValue_print`   the reader takes a printed document off the front of a text;
* `fromStr_toString`, `fromSlice_toVec`   a document is read back from its text and from its bytes.
-/

namespace Serde.JsonSyntax
open Json Text

/-! ## printing -/

def hexChar (n : Nat) : Char := if n < 10 then Char.ofNat (48 + n) else Char.ofNat (87 + n)

/-- the characters with an escape of their own -/
def shortEscapes : List (Char × Char) :=
  [('"', '"'), ('\\', '\\'), ('\n', 'n'), ('\r', 'r'), ('\t', 't'), (Char.ofNat 8, 'b'),
    (Char.ofNat 12, 'f')]

def escapeChar (c : Char) : List Char :=
  match shortEscapes.lookup c with
  | some e => ['\\', e]
  | none =>
    if c.toNat < 32 then ['\\', 'u', '0', '0', hexChar (c.toNat / 16), hexChar (c.toNat % 16)]
    else [c]

def printString (s : String) : List Char := '"' :: (s.toList.flatMap escapeChar ++ ['"'])

def printInt : Int → List Char
  | .ofNat n => Nat.toDigits 10 n
  | .negSucc n => '-' :: Nat.toDigits 10 (n + 1)

mutual

def print : Json → List Char
  | .null => ['n', 'u', 'l', 'l']
  | .bool true => ['t', 'r', 'u', 'e']
  | .bool false => ['f', 'a', 'l', 's', 'e']
  | .int n => printInt n
  | .decimal m e => printInt m ++ 'e' :: printInt e
  | .str s => printString s
  | .arr items => '[' :: (printItems items ++ [']'])
  | .obj fields => '{' :: (printFields fields ++ ['}'])

def printItems : List Json → List Char
  | [] => []
  | [j] => print j
  | j :: rest => print j ++ ',' :: printItems rest

def printFields : List (String × Json) → List Char
  | [] => []
  | [(k, j)] => printString k ++ ':' :: print j
  | (k, j) :: rest => printString k ++ ':' :: (print j ++ ',' :: printFields rest)

end

/-! ## reading -/

def isSpace (c : Char) : Bool := c == ' ' || c == '\n' || c == '\r' || c == '\t'

def skipSpace (input : List Char) : List Char := input.dropWhile isSpace

def hexValue (c : Char) : Option Nat :=
  if c.isDigit then some (c.toNat - 48)
  else if 'a' ≤ c ∧ c ≤ 'f' then some (c.toNat - 87)
  else if 'A' ≤ c ∧ c ≤ 'F' then some (c.toNat - 55)
  else none

/-- the four digits of an escape -/
def readHex (a b c d : Char) : Option Char := do
  let a ← hexValue a
  let b ← hexValue b
  let c ← hexValue c
  let d ← hexValue d
  let n := ((a * 16 + b) * 16 + c) * 16 + d
  if n.isValidChar then some (Char.ofNat n) else none

/-- the character behind an escape -/
def unescape (e : Char) : Option Char :=
  if e = '/' then some '/' else (shortEscapes.find? fun escape => escape.2 = e).map Prod.fst

/-- the rest of a string behind its opening quote -/
def readString (read : List Char) : List Char → Option (String × List Char)
  | '"' :: rest => some (String.ofList read, rest)
  | '\\' :: 'u' :: a :: b :: c :: d :: rest =>
    match readHex a b c d with
    | some character => readString (read ++ [character]) rest
    | none => none
  | '\\' :: e :: rest =>
    match unescape e with
    | some character => readString (read ++ [character]) rest
    | none => none
  | ['\\'] => none
  | c :: rest => if c.toNat < 32 then none else readString (read ++ [c]) rest
  | [] => none

/-- the digits at the front of a text, if there are any -/
def readDigits (input : List Char) : Option (Nat × List Char) :=
  match input.takeWhile Char.isDigit with
  | [] => none
  | digits => some (Nat.ofDigitChars 10 digits 0, input.dropWhile Char.isDigit)

def readInt : List Char → Option (Int × List Char)
  | '-' :: rest => (readDigits rest).map fun r => (-r.1, r.2)
  | input => (readDigits input).map fun r => (r.1, r.2)

/-- the key of a field with its colon -/
def readKey (input : List Char) : Option (String × List Char) :=
  match skipSpace input with
  | '"' :: rest =>
    match readString [] rest with
    | some (key, rest) =>
      match skipSpace rest with
      | ':' :: rest => some (key, rest)
      | _ => none
    | none => none
  | _ => none

/-- what follows an item: another one, or the end -/
def separator (close : Char) (input : List Char) : Option (Bool × List Char) :=
  match skipSpace input with
  | ',' :: rest => some (true, rest)
  | c :: rest => if c = close then some (false, rest) else none
  | [] => none

mutual

/-- the document at the front of a text -/
def readValue : Nat → List Char → Option (Json × List Char)
  | 0, _ => none
  | fuel + 1, input =>
    match skipSpace input with
    | 'n' :: 'u' :: 'l' :: 'l' :: rest => some (.null, rest)
    | 't' :: 'r' :: 'u' :: 'e' :: rest => some (.bool true, rest)
    | 'f' :: 'a' :: 'l' :: 's' :: 'e' :: rest => some (.bool false, rest)
    | '"' :: rest => (readString [] rest).map fun r => (.str r.1, r.2)
    | '[' :: rest =>
      match skipSpace rest with
      | ']' :: rest => some (.arr [], rest)
      | rest => (readItems fuel rest).map fun r => (.arr r.1, r.2)
    | '{' :: rest =>
      match skipSpace rest with
      | '}' :: rest => some (.obj [], rest)
      | rest => (readFields fuel rest).map fun r => (.obj r.1, r.2)
    | input => (readInt input).map fun r => (.int r.1, r.2)

/-- the items of an array up to its end -/
def readItems : Nat → List Char → Option (List Json × List Char)
  | 0, _ => none
  | fuel + 1, input =>
    match readValue fuel input with
    | none => none
    | some (j, rest) =>
      match separator ']' rest with
      | some (true, rest) => (readItems fuel rest).map fun r => (j :: r.1, r.2)
      | some (false, rest) => some ([j], rest)
      | none => none

/-- the fields of an object up to its end -/
def readFields : Nat → List Char → Option (List (String × Json) × List Char)
  | 0, _ => none
  | fuel + 1, input =>
    match readKey input with
    | none => none
    | some (key, rest) =>
      match readValue fuel rest with
      | none => none
      | some (j, rest) =>
        match separator '}' rest with
        | some (true, rest) => (readFields fuel rest).map fun r => ((key, j) :: r.1, r.2)
        | some (false, rest) => some ([(key, j)], rest)
        | none => none

end

def toString (j : Json) : String := String.ofList (print j)

def fromStr (s : String) : Option Json :=
  match readValue (s.toList.length + 1) s.toList with
  | some (j, rest) => if skipSpace rest = [] then some j else none
  | none => none

def toVec (j : Json) : List UInt8 := utf8 (toString j)

def fromSlice (bytes : List UInt8) : Option Json :=
  (String.fromUTF8? ⟨bytes.toArray⟩).bind fromStr

/-- a document has four bytes for each printed character at most -/
theorem length_toVec_le (j : Json) : (toVec j).length ≤ 4 * (print j).length := by
  have hchars : ∀ cs : List Char, (cs.flatMap String.utf8EncodeChar).length ≤ 4 * cs.length := by
    intro cs
    induction cs with
    | nil => exact Nat.le_refl 0
    | cons c cs ih =>
      have hsize := c.utf8Size_le_four
      rw [List.flatMap_cons, List.length_append, String.length_utf8EncodeChar, List.length_cons]
      omega
  unfold toVec toString
  rw [utf8_eq, String.toList_ofList]
  exact hchars (print j)

/-! ## strings -/

theorem hexValue_hexChar (n : Nat) (h : n < 16) : hexValue (hexChar n) = some n := by
  revert n
  decide

theorem readHex_low {c : Char} (h : c.toNat < 32) :
    readHex '0' '0' (hexChar (c.toNat / 16)) (hexChar (c.toNat % 16)) = some c := by
  have h0 : hexValue '0' = some 0 := by decide
  have hhigh := hexValue_hexChar (c.toNat / 16) (by omega)
  have hlow := hexValue_hexChar (c.toNat % 16) (by omega)
  have hn : ((0 * 16 + 0) * 16 + c.toNat / 16) * 16 + c.toNat % 16 = c.toNat := by omega
  have hvalid : c.toNat.isValidChar := c.valid
  unfold readHex
  simp only [h0, hhigh, hlow, Option.bind_eq_bind, Option.bind_some, hn, hvalid, if_true,
    Char.ofNat_toNat]

theorem unescape_of_lookup {c e : Char} (h : shortEscapes.lookup c = some e) :
    e ≠ 'u' ∧ unescape e = some c := by
  have hmem : (c, e) ∈ shortEscapes := by
    obtain ⟨_, _, hsplit, _⟩ := List.lookup_eq_some_iff.mp h
    rw [hsplit]
    exact List.mem_append_right _ (List.mem_cons_self ..)
  have hall : ∀ p ∈ shortEscapes, p.2 ≠ 'u' ∧ unescape p.2 = some p.1 := by decide
  exact hall _ hmem

theorem ne_of_lookup_none {c : Char} (h : shortEscapes.lookup c = none) : c ≠ '"' ∧ c ≠ '\\' := by
  constructor
  · rintro rfl
    revert h
    decide
  · rintro rfl
    revert h
    decide

theorem readString_plain {c : Char} (hquote : c ≠ '"') (hback : c ≠ '\\') (hlow : ¬ c.toNat < 32)
    (read rest : List Char) : readString read (c :: rest) = readString (read ++ [c]) rest := by
  rw [readString.eq_def]
  split
  · rename_i heq
    exact absurd (List.cons.inj heq).1 hquote
  · rename_i heq
    exact absurd (List.cons.inj heq).1 hback
  · rename_i heq
    exact absurd (List.cons.inj heq).1 hback
  · rename_i heq
    exact absurd (List.cons.inj heq).1 hback
  · rename_i heq
    obtain ⟨rfl, rfl⟩ := List.cons.inj heq
    exact if_neg hlow
  · rename_i heq
    cases heq

theorem readString_escape (c : Char) (read rest : List Char) :
    readString read (escapeChar c ++ rest) = readString (read ++ [c]) rest := by
  unfold escapeChar
  cases hc : shortEscapes.lookup c with
  | some e =>
    obtain ⟨hu, hunescape⟩ := unescape_of_lookup hc
    show readString read ('\\' :: e :: rest) = _
    rw [readString.eq_def]
    split
    · rename_i heq
      cases (List.cons.inj heq).1
    · rename_i heq
      exact absurd (List.cons.inj (List.cons.inj heq).2).1 hu
    · rename_i heq
      obtain ⟨rfl, rfl⟩ := List.cons.inj (List.cons.inj heq).2
      rw [hunescape]
    · rename_i heq
      cases heq
    · rename_i hne _ heq
      obtain ⟨rfl, rfl⟩ := List.cons.inj heq
      exact absurd rfl (hne _ _ rfl)
    · rename_i heq
      cases heq
  | none =>
    obtain ⟨hquote, hback⟩ := ne_of_lookup_none hc
    dsimp only
    by_cases hlow : c.toNat < 32
    · rw [if_pos hlow]
      show readString read ('\\' :: 'u' :: '0' :: '0' :: _ :: _ :: rest) = _
      rw [readString, readHex_low hlow]
    · rw [if_neg hlow]
      exact readString_plain hquote hback hlow read rest

theorem readString_print (s read : List Char) (rest : List Char) :
    readString read (s.flatMap escapeChar ++ '"' :: rest) = some (String.ofList (read ++ s), rest) := by
  induction s generalizing read with
  | nil => simp [readString]
  | cons c s ih =>
    rw [List.flatMap_cons, List.append_assoc, readString_escape, ih, List.append_assoc]
    rfl

theorem readString_printString (s : String) (rest : List Char) :
    ∃ tail, printString s ++ rest = '"' :: tail ∧ readString [] tail = some (s, rest) := by
  refine ⟨s.toList.flatMap escapeChar ++ '"' :: rest, ?_, ?_⟩
  · unfold printString
    rw [List.cons_append, List.append_assoc]
    rfl
  · rw [readString_print, List.nil_append, String.ofList_toList]

/-! ## numbers -/

/-- the text does not start with a digit -/
def NoDigit (input : List Char) : Prop := ∀ c ∈ input.head?, c.isDigit = false

theorem noDigit_cons {c : Char} {rest : List Char} (h : c.isDigit = false) :
    NoDigit (c :: rest) := by
  intro d hd
  cases hd
  exact h

theorem readDigits_toDigits (n : Nat) {rest : List Char} (h : NoDigit rest) :
    readDigits (Nat.toDigits 10 n ++ rest) = some (n, rest) := by
  have hdigits : ∀ c ∈ Nat.toDigits 10 n, c.isDigit = true :=
    fun c hc => Nat.isDigit_of_mem_toDigits (by decide) (by decide) hc
  have htake : rest.takeWhile Char.isDigit = [] := by
    cases rest with
    | nil => rfl
    | cons c rest => exact List.takeWhile_cons_of_neg (by rw [h c rfl]; decide)
  have hdrop : rest.dropWhile Char.isDigit = rest := by
    cases rest with
    | nil => rfl
    | cons c rest => exact List.dropWhile_cons_of_neg (by rw [h c rfl]; decide)
  unfold readDigits
  rw [List.takeWhile_append_of_pos hdigits, List.dropWhile_append_of_pos hdigits, htake, hdrop,
    List.append_nil]
  have hvalue : Nat.ofDigitChars 10 (Nat.toDigits 10 n) 0 = n := Nat.ofDigitChars_ten_toDigits
  cases hd : Nat.toDigits 10 n with
  | nil => exact absurd hd Nat.toDigits_ne_nil
  | cons c cs =>
    rw [hd] at hvalue
    show some (Nat.ofDigitChars 10 (c :: cs) 0, rest) = _
    rw [hvalue]

theorem toDigits_cons (n : Nat) : ∃ c cs, Nat.toDigits 10 n = c :: cs ∧ c.isDigit = true := by
  cases hd : Nat.toDigits 10 n with
  | nil => exact absurd hd Nat.toDigits_ne_nil
  | cons c cs =>
    refine ⟨c, cs, rfl, Nat.isDigit_of_mem_toDigits (b := 10) (n := n) (by decide) (by decide) ?_⟩
    rw [hd]
    exact List.mem_cons_self ..

theorem readInt_printInt (n : Int) {rest : List Char} (h : NoDigit rest) :
    readInt (printInt n ++ rest) = some (n, rest) := by
  cases n with
  | negSucc n =>
    show (readDigits (Nat.toDigits 10 (n + 1) ++ rest)).map _ = _
    rw [readDigits_toDigits _ h]
    rfl
  | ofNat n =>
    show readInt (Nat.toDigits 10 n ++ rest) = _
    have hdigits := readDigits_toDigits n h
    obtain ⟨c, cs, hcons, hc⟩ := toDigits_cons n
    rw [hcons] at hdigits ⊢
    rw [List.cons_append] at hdigits ⊢
    unfold readInt
    split
    · rename_i heq
      obtain ⟨rfl, _⟩ := List.cons.inj heq
      cases hc
    · rw [hdigits]
      rfl

/-! ## documents -/

theorem printInt_head (n : Int) :
    ∃ c cs, printInt n = c :: cs ∧ (c = '-' ∨ c.isDigit = true) := by
  cases n with
  | negSucc n => exact ⟨'-', _, rfl, Or.inl rfl⟩
  | ofNat n =>
    obtain ⟨c, cs, hcons, hc⟩ := toDigits_cons n
    exact ⟨c, cs, hcons, Or.inr hc⟩

/-- a number starts with no character that means something else to the reader -/
theorem number_head {c : Char} (h : c = '-' ∨ c.isDigit = true) :
    isSpace c = false ∧ c ≠ ']' ∧ c ≠ '}' ∧ c ≠ 'n' ∧ c ≠ 't' ∧ c ≠ 'f' ∧ c ≠ '"' ∧ c ≠ '[' ∧
      c ≠ '{' := by
  rcases h with rfl | h
  · decide
  · have hne : ∀ d : Char, d.isDigit = false → c ≠ d := by
      rintro d hd rfl
      rw [h] at hd
      cases hd
    refine ⟨?_, hne _ (by decide), hne _ (by decide), hne _ (by decide), hne _ (by decide),
      hne _ (by decide), hne _ (by decide), hne _ (by decide), hne _ (by decide)⟩
    unfold isSpace
    rw [beq_false_of_ne (hne _ (by decide)), beq_false_of_ne (hne _ (by decide)),
      beq_false_of_ne (hne _ (by decide)), beq_false_of_ne (hne _ (by decide))]
    rfl

theorem print_head (j : Json) :
    ∃ c cs, print j = c :: cs ∧ isSpace c = false ∧ c ≠ ']' := by
  cases j with
  | null => exact ⟨'n', _, by rw [print], by decide, by decide⟩
  | str s => exact ⟨'"', _, by rw [print, printString], by decide, by decide⟩
  | arr items => exact ⟨'[', _, by rw [print], by decide, by decide⟩
  | obj fields => exact ⟨'{', _, by rw [print], by decide, by decide⟩
  | bool b =>
    cases b with
    | true => exact ⟨'t', _, by rw [print], by decide, by decide⟩
    | false => exact ⟨'f', _, by rw [print], by decide, by decide⟩
  | int n =>
    obtain ⟨c, cs, hcons, hc⟩ := printInt_head n
    exact ⟨c, cs, by rw [print, hcons], (number_head hc).1, (number_head hc).2.1⟩
  | decimal m e =>
    obtain ⟨c, cs, hcons, hc⟩ := printInt_head m
    exact ⟨c, cs ++ 'e' :: printInt e, by rw [print, hcons]; rfl, (number_head hc).1,
      (number_head hc).2.1⟩

theorem skipSpace_cons {c : Char} (h : isSpace c = false) (rest : List Char) :
    skipSpace (c :: rest) = c :: rest :=
  List.dropWhile_cons_of_neg (by rw [h]; decide)

/-- the reader takes the printed document off the front of a text -/
def Reads (j : Json) : Prop :=
  ∀ fuel rest, (print j).length ≤ fuel → NoDigit rest →
    readValue fuel (print j ++ rest) = some (j, rest)

theorem reads_int (n : Int) : Reads (.int n) := by
  intro fuel rest hfuel hrest
  have hread := readInt_printInt n hrest
  obtain ⟨c, cs, hcons, hc⟩ := printInt_head n
  obtain ⟨hspace, _, _, hn, ht, hf, hquote, harr, hobj⟩ := number_head hc
  have hprint : print (.int n) = c :: cs := by rw [print, hcons]
  rw [hprint] at hfuel ⊢
  rw [hcons, List.cons_append] at hread
  obtain ⟨fuel, rfl⟩ := Nat.exists_eq_add_of_le' (Nat.one_le_of_lt hfuel)
  rw [List.cons_append, readValue, skipSpace_cons hspace]
  split
  · rename_i heq
    exact absurd (List.cons.inj heq).1 hn
  · rename_i heq
    exact absurd (List.cons.inj heq).1 ht
  · rename_i heq
    exact absurd (List.cons.inj heq).1 hf
  · rename_i heq
    exact absurd (List.cons.inj heq).1 hquote
  · rename_i heq
    exact absurd (List.cons.inj heq).1 harr
  · rename_i heq
    exact absurd (List.cons.inj heq).1 hobj
  · rw [hread]
    rfl

theorem reads_str (s : String) : Reads (.str s) := by
  intro fuel rest hfuel _
  obtain ⟨tail, hprint, hread⟩ := readString_printString s rest
  have hpos : 1 ≤ fuel := by
    rw [print, printString, List.length_cons] at hfuel
    omega
  obtain ⟨fuel, rfl⟩ := Nat.exists_eq_add_of_le' hpos
  rw [print, hprint]
  show (readString [] tail).map (fun r => (Json.str r.1, r.2)) = _
  rw [hread]
  rfl

theorem readKey_print (key : String) (rest : List Char) :
    readKey (printString key ++ ':' :: rest) = some (key, rest) := by
  obtain ⟨tail, hprint, hread⟩ := readString_printString key (':' :: rest)
  rw [hprint]
  show (match readString [] tail with
    | some (key, rest) =>
      match skipSpace rest with
      | ':' :: rest => some (key, rest)
      | _ => none
    | none => none) = _
  rw [hread]
  rfl

theorem readItems_print {items : List Json} (hne : items ≠ []) (h : ∀ j ∈ items, Reads j) :
    ∀ fuel rest, (printItems items).length + 1 ≤ fuel →
      readItems fuel (printItems items ++ ']' :: rest) = some (items, rest) := by
  induction items with
  | nil => exact absurd rfl hne
  | cons j items ih =>
    intro fuel rest hfuel
    obtain ⟨fuel, rfl⟩ := Nat.exists_eq_add_of_le' (Nat.one_le_of_lt hfuel)
    have hj := h j (List.mem_cons_self ..)
    cases items with
    | nil =>
      rw [printItems] at hfuel ⊢
      rw [readItems, hj fuel _ (by omega) (noDigit_cons (by decide))]
      rfl
    | cons k items =>
      have hprint : printItems (j :: k :: items) = print j ++ ',' :: printItems (k :: items) := by
        rw [printItems]
        exact nofun
      rw [hprint] at hfuel ⊢
      rw [List.length_append, List.length_cons] at hfuel
      rw [List.append_assoc, List.cons_append, readItems,
        hj fuel _ (by omega) (noDigit_cons (by decide))]
      show (readItems fuel (printItems (k :: items) ++ ']' :: rest)).map _ = _
      rw [ih nofun (fun i hi => h i (List.mem_cons_of_mem _ hi)) fuel rest (by omega)]
      rfl

theorem readFields_print {fields : List (String × Json)} (hne : fields ≠ [])
    (h : ∀ f ∈ fields, Reads f.2) : ∀ fuel rest, (printFields fields).length + 1 ≤ fuel →
      readFields fuel (printFields fields ++ '}' :: rest) = some (fields, rest) := by
  induction fields with
  | nil => exact absurd rfl hne
  | cons f fields ih =>
    intro fuel rest hfuel
    obtain ⟨fuel, rfl⟩ := Nat.exists_eq_add_of_le' (Nat.one_le_of_lt hfuel)
    obtain ⟨k, j⟩ := f
    have hj : Reads j := h (k, j) (List.mem_cons_self ..)
    cases fields with
    | nil =>
      rw [printFields] at hfuel ⊢
      rw [List.length_append, List.length_cons] at hfuel
      rw [List.append_assoc, List.cons_append, readFields, readKey_print]
      dsimp only
      rw [hj fuel _ (by omega) (noDigit_cons (by decide))]
      rfl
    | cons g fields =>
      have hfields : printFields ((k, j) :: g :: fields) =
          printString k ++ ':' :: (print j ++ ',' :: printFields (g :: fields)) := by
        rw [printFields]
        exact nofun
      rw [hfields] at hfuel ⊢
      rw [List.length_append, List.length_cons, List.length_append, List.length_cons] at hfuel
      rw [List.append_assoc, List.cons_append, List.append_assoc, List.cons_append, readFields,
        readKey_print]
      dsimp only
      rw [hj fuel _ (by omega) (noDigit_cons (by decide))]
      show (readFields fuel (printFields (g :: fields) ++ '}' :: rest)).map _ = _
      rw [ih nofun (fun f hf => h f (List.mem_cons_of_mem _ hf)) fuel rest (by omega)]
      rfl

theorem reads_arr {items : List Json} (h : ∀ j ∈ items, Reads j) : Reads (.arr items) := by
  intro fuel rest hfuel _
  rw [print, List.length_cons, List.length_append, List.length_singleton] at hfuel
  obtain ⟨fuel, rfl⟩ := Nat.exists_eq_add_of_le' (Nat.one_le_of_lt hfuel)
  rw [print, List.cons_append, List.append_assoc, List.singleton_append]
  cases items with
  | nil => rfl
  | cons j items =>
    have hread := readItems_print (List.cons_ne_nil j items) h fuel rest (by omega)
    obtain ⟨c, cs, hcons, hspace, hend⟩ := print_head j
    have hitems : ∃ tail, printItems (j :: items) = c :: tail := by
      cases items with
      | nil => exact ⟨cs, by rw [printItems, hcons]⟩
      | cons k items =>
        refine ⟨cs ++ ',' :: printItems (k :: items), ?_⟩
        rw [printItems, hcons]
        · rfl
        · exact nofun
    obtain ⟨tail, htail⟩ := hitems
    rw [htail, List.cons_append] at hread ⊢
    show (match skipSpace (c :: (tail ++ ']' :: rest)) with
      | ']' :: rest => some (Json.arr [], rest)
      | rest => (readItems fuel rest).map fun (r : List Json × List Char) =>
        (Json.arr r.1, r.2)) = _
    rw [skipSpace_cons hspace]
    split
    · rename_i heq
      exact absurd (List.cons.inj heq).1 hend
    · rw [hread]
      rfl

theorem reads_obj {fields : List (String × Json)} (h : ∀ f ∈ fields, Reads f.2) :
    Reads (.obj fields) := by
  intro fuel rest hfuel _
  rw [print, List.length_cons, List.length_append, List.length_singleton] at hfuel
  obtain ⟨fuel, rfl⟩ := Nat.exists_eq_add_of_le' (Nat.one_le_of_lt hfuel)
  rw [print, List.cons_append, List.append_assoc, List.singleton_append]
  cases fields with
  | nil => rfl
  | cons f fields =>
    have hread := readFields_print (List.cons_ne_nil f fields) h fuel rest (by omega)
    have hfields : ∃ tail, printFields (f :: fields) = '"' :: tail := by
      cases fields with
      | nil => exact ⟨_, by rw [printFields, printString, List.cons_append]⟩
      | cons g fields =>
        obtain ⟨k, j⟩ := f
        refine ⟨k.toList.flatMap escapeChar ++ ['"'] ++
          ':' :: (print j ++ ',' :: printFields (g :: fields)), ?_⟩
        rw [printFields, printString, List.cons_append]
        exact nofun
    obtain ⟨tail, htail⟩ := hfields
    rw [htail, List.cons_append] at hread ⊢
    show (readFields fuel ('"' :: (tail ++ '}' :: rest))).map (fun r => (Json.obj r.1, r.2)) = _
    rw [hread]
    rfl

/-- **The reader takes a printed document off the front of a text.** -/
theorem readValue_print {n : Nat} {j : Json} (h : Written n j) : Reads j := by
  induction h with
  | null =>
    intro fuel rest hfuel _
    rw [print] at hfuel ⊢
    obtain ⟨fuel, rfl⟩ := Nat.exists_eq_add_of_le' (Nat.one_le_of_lt hfuel)
    rfl
  | bool b =>
    intro fuel rest hfuel _
    cases b with
    | true =>
      rw [print] at hfuel ⊢
      obtain ⟨fuel, rfl⟩ := Nat.exists_eq_add_of_le' (Nat.one_le_of_lt hfuel)
      rfl
    | false =>
      rw [print] at hfuel ⊢
      obtain ⟨fuel, rfl⟩ := Nat.exists_eq_add_of_le' (Nat.one_le_of_lt hfuel)
      rfl
  | int => exact reads_int _
  | str s => exact reads_str s
  | arr _ ih => exact reads_arr ih
  | obj _ _ ih => exact reads_obj ih

theorem fromStr_toString {n : Nat} {j : Json} (h : Written n j) : fromStr (toString j) = some j := by
  have hread := readValue_print h ((print j).length + 1) [] (Nat.le_succ _) nofun
  rw [List.append_nil] at hread
  unfold fromStr toString
  rw [String.toList_ofList, hread]
  rfl

/-- **A document is read back from its bytes.** -/
theorem fromSlice_toVec {n : Nat} {j : Json} (h : Written n j) : fromSlice (toVec j) = some j := by
  have hbytes : String.fromUTF8? ⟨(utf8 (toString j)).toArray⟩ = some (toString j) := by
    unfold utf8
    rw [Array.toArray_toList]
    exact dif_pos (toString j).isValidUTF8
  unfold fromSlice toVec
  rw [hbytes, Option.bind_some, fromStr_toString h]

end Serde.JsonSyntax
