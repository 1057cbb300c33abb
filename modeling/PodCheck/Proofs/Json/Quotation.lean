import Mathlib.Data.List.DropRight
import PodCheck.Proofs.Json.Script

/-! # The texts of a JSON document as they are written

Where a document is read by other rules, it matters how its texts are written: which characters are
named by their number, and how far it is from a key to its colon. The texts of a document can be
listed without reading it (`quotations`). None of them names half of a pair, and all keys are near
their colons, just if this holds for the parts of its script (`areShared_script`). -/

namespace PodCheck.Json

/-- A text of a document as it is written. -/
structure Quotation where
  /-- What stands between the quotes. -/
  inner : List Char
  /-- What comes behind the closing quote. -/
  rest : List Char

/-- The texts of a document from some place on. If the place is inside a text, `begun` holds what
there is of that text, reversed. -/
def quotationsFrom : (begun : Option (List Char)) → List Char → List Quotation
  | _, [] => []
  | none, c :: r => quotationsFrom (if c = '"' then some [] else none) r
  | some done, '"' :: r => ⟨done.reverse, r⟩ :: quotationsFrom none r
  | some done, '\\' :: c :: r => quotationsFrom (some (c :: '\\' :: done)) r
  | some done, c :: r => quotationsFrom (some (c :: done)) r

/-- The texts of a document. -/
def quotations (s : String) : List Quotation := quotationsFrom none s.toList

/-- Whether a character is one of the line breaks that may stand between the parts of a document. -/
def isLineBreak (c : Char) : Bool := c = '\n' || c = '\r'

/-- Whether a code unit is one half of a pair. -/
def isSurrogate (n : Nat) : Bool := 0xD800 ≤ n && n ≤ 0xDFFF

/-- Whether half of a pair is named by its number between the quotes of a text. -/
def namesSurrogate : List Char → Bool
  | '\\' :: 'u' :: a :: b :: c :: d :: r => (hexCode? a b c d).any isSurrogate || namesSurrogate r
  | '\\' :: _ :: r => namesSurrogate r
  | _ :: r => namesSurrogate r
  | [] => false

/-- Whether a key and the blanks behind it stand in one line and take no more than 1024 bytes. -/
def isNear (inner gap : List Char) : Bool :=
  !gap.any isLineBreak && (String.ofList ('"' :: (inner ++ '"' :: gap))).utf8ByteSize ≤ 1024

namespace Quotation

/-- The blanks behind a text. -/
def gap (q : Quotation) : List Char := q.rest.takeWhile isSpace

/-- Whether a text is a key: a colon follows. -/
def isKey (q : Quotation) : Bool := (skipSpace q.rest).head? = some ':'

/-- Whether a text can be read as YAML: it names no half of a pair by its number, and if it is a
key, its colon is near. -/
def isShared (q : Quotation) : Bool :=
  !namesSurrogate q.inner && (!q.isKey || isNear q.inner q.gap)

end Quotation

/-! ## Texts -/

/-- Units without a half of a pair. -/
def Unpaired (units : List TextUnit) : Prop := ∀ n, .code n ∈ units → isSurrogate n = false

theorem hexValue?_ne {c : Char} {n : Nat} (h : hexValue? c = some n) : c ≠ '"' ∧ c ≠ '\\' := by
  constructor <;> rintro rfl <;> simp [hexValue?] at h

theorem hexCode?_eq_some {a b c d : Char} {n : Nat} (h : hexCode? a b c d = some n) :
    ∃ i j k l, hexValue? a = some i ∧ hexValue? b = some j ∧ hexValue? c = some k
      ∧ hexValue? d = some l ∧ n = ((i * 16 + j) * 16 + k) * 16 + l := by
  simp only [hexCode?, Option.bind_eq_bind, Option.bind_eq_some_iff] at h
  obtain ⟨i, hi, j, hj, k, hk, l, hl, hn⟩ := h
  exact ⟨i, j, k, l, hi, hj, hk, hl, (Option.some.inj hn).symm⟩

theorem lt_of_hexValue? {c : Char} {n : Nat} (h : hexValue? c = some n) : n < 16 := by
  simp only [hexValue?, Bool.and_eq_true, decide_eq_true_eq, Char.le_def, UInt32.le_iff_toNat_le,
    Char.toNat_val, Char.reduceToNat] at h
  split at h
  · obtain rfl := Option.some.inj h
    omega
  · split at h
    · obtain rfl := Option.some.inj h
      omega
    · split at h
      · obtain rfl := Option.some.inj h
        omega
      · cases h

/-- A number of four digits has 16 bits. -/
theorem lt_of_hexCode? {a b c d : Char} {n : Nat} (h : hexCode? a b c d = some n) :
    n < 0x10000 := by
  obtain ⟨i, j, k, l, hi, hj, hk, hl, rfl⟩ := hexCode?_eq_some h
  have := lt_of_hexValue? hi
  have := lt_of_hexValue? hj
  have := lt_of_hexValue? hk
  have := lt_of_hexValue? hl
  omega

theorem quotationsFrom_char {c : Char} (hquote : c ≠ '"') (hslash : c ≠ '\\') (done r : List Char) :
    quotationsFrom (some done) (c :: r) = quotationsFrom (some (c :: done)) r := by
  rw [quotationsFrom]
  · exact fun h => hquote h
  · exact fun _ _ h => absurd h hslash

/-- A text ends at its closing quote. -/
theorem quotationsFrom_inner {inner : List Char} {units : List TextUnit} (h : Spelled inner units)
    (done rest : List Char) :
    quotationsFrom (some done) (inner ++ '"' :: rest)
      = ⟨done.reverse ++ inner, rest⟩ :: quotationsFrom none rest := by
  induction h generalizing done with
  | nil => simp [quotationsFrom]
  | @code a b c d n r units hn _ ih =>
    obtain ⟨i, j, k, l, hi, hj, hk, hl, -⟩ := hexCode?_eq_some hn
    simp only [List.cons_append]
    rw [quotationsFrom, quotationsFrom_char (hexValue?_ne hi).1 (hexValue?_ne hi).2,
      quotationsFrom_char (hexValue?_ne hj).1 (hexValue?_ne hj).2,
      quotationsFrom_char (hexValue?_ne hk).1 (hexValue?_ne hk).2,
      quotationsFrom_char (hexValue?_ne hl).1 (hexValue?_ne hl).2, ih]
    simp
  | short _ _ ih =>
    simp only [List.cons_append]
    rw [quotationsFrom, ih]
    simp
  | char hquote hslash _ _ ih =>
    rw [List.cons_append, quotationsFrom_char hquote hslash, ih]
    simp

theorem namesSurrogate_code {a b c d : Char} {n : Nat} (h : hexCode? a b c d = some n)
    (r : List Char) :
    namesSurrogate ('\\' :: 'u' :: a :: b :: c :: d :: r)
      = (isSurrogate n || namesSurrogate r) := by
  rw [namesSurrogate, h, Option.any_some]

theorem namesSurrogate_short {c d : Char} (h : shortEscape? c = some d) (r : List Char) :
    namesSurrogate ('\\' :: c :: r) = namesSurrogate r := by
  rw [namesSurrogate]
  -- an escape by number is no short one
  rintro _ _ _ _ _ rfl
  simp [shortEscape?] at h

theorem namesSurrogate_char {c : Char} (h : c ≠ '\\') (r : List Char) :
    namesSurrogate (c :: r) = namesSurrogate r := by
  rw [namesSurrogate]
  · exact fun _ _ _ _ _ hc => absurd hc h
  · exact fun _ _ hc => absurd hc h

/-- What is named between the quotes is among the units. -/
theorem namesSurrogate_eq_false_iff {inner : List Char} {units : List TextUnit}
    (h : Spelled inner units) : namesSurrogate inner = false ↔ Unpaired units := by
  induction h with
  | nil => simp [namesSurrogate, Unpaired]
  | code hn _ ih =>
    rw [namesSurrogate_code hn, Bool.or_eq_false_iff, ih]
    simp [Unpaired]
  | short hd _ ih =>
    rw [namesSurrogate_short hd, ih]
    simp [Unpaired]
  | char _ hslash _ _ ih =>
    rw [namesSurrogate_char hslash, ih]
    simp [Unpaired]

/-- The character of a unit that is no half of a pair. -/
def TextUnit.toChar : TextUnit → Char
  | .char c => c
  | .code n => Char.ofNat n

/-- A unit that is no half of a pair stands for its character. -/
theorem decodeUnits_cons {u : TextUnit} (h : ∀ n, u = .code n → isSurrogate n = false)
    (done : List Char) (units : List TextUnit) :
    decodeUnits done (u :: units) = decodeUnits (u.toChar :: done) units := by
  cases u with
  | char c => rw [decodeUnits, TextUnit.toChar]
  | code n =>
    have hn := h n rfl
    simp only [isSurrogate, Bool.and_eq_false_iff, decide_eq_false_iff_not] at hn
    cases units with
    | nil =>
      have hpair : ¬(0xD800 ≤ n ∧ n ≤ 0xDFFF) := by omega
      simp [decodeUnits, hpair, TextUnit.toChar]
    | cons u units =>
      have hpair : n < 0xD800 ∨ 0xDFFF < n := by omega
      simp [decodeUnits, hpair, TextUnit.toChar]

/-- Units without a half of a pair stand for one character each. -/
theorem decodeUnits_of_unpaired {units : List TextUnit} (h : Unpaired units) (done : List Char) :
    decodeUnits done units = some (done.reverse ++ units.map TextUnit.toChar) := by
  induction units generalizing done with
  | nil => simp [decodeUnits]
  | cons u units ih =>
    have hrest : Unpaired units := fun n hn => h n (List.mem_cons_of_mem _ hn)
    rw [decodeUnits_cons (fun n hu => h n (hu ▸ List.mem_cons_self ..)), ih hrest]
    simp

/-- They can be read. -/
theorem textOf?_of_unpaired {units : List TextUnit} (h : Unpaired units) :
    textOf? units = some (String.ofList (units.map TextUnit.toChar)) := by
  rw [textOf?, decodeUnits_of_unpaired h]
  rfl

/-- Outside of texts only quotes count. -/
theorem quotationsFrom_none_append {front : List Char} (h : '"' ∉ front) (rest : List Char) :
    quotationsFrom none (front ++ rest) = quotationsFrom none rest := by
  induction front with
  | nil => rfl
  | cons c front ih =>
    rw [List.mem_cons, not_or] at h
    rw [List.cons_append, quotationsFrom, if_neg (Ne.symm h.1), ih h.2]

/-- Blanks hold no quotes. -/
theorem Blanks.quote_notMem (gap : Blanks) : '"' ∉ gap.chars := fun h => by
  simpa [Json.isSpace] using gap.isSpace '"' h

theorem IsNumeral.quote_notMem {letters : List Char} (h : IsNumeral letters) : '"' ∉ letters := by
  have hchar : isNumberChar '"' = false := rfl
  cases h with
  | unsigned hd hr =>
    rw [List.mem_cons, not_or]
    exact ⟨fun h => by simp [← h] at hd, fun h => by simp [hr _ h] at hchar⟩
  | signed hd hr =>
    rw [List.mem_cons, List.mem_cons, not_or, not_or]
    exact ⟨by decide, fun h => by simp [← h] at hd, fun h => by simp [hr _ h] at hchar⟩

/-- Neither do literals and numbers. -/
theorem IsWord.quote_notMem {letters : List Char} {v : Json} (h : IsWord letters v) :
    '"' ∉ letters := by
  rcases h.isNumeral_or with hliteral | hnumeral
  · simp only [List.mem_cons, List.not_mem_nil, or_false] at hliteral
    rcases hliteral with rfl | rfl | rfl <;> decide
  · exact hnumeral.quote_notMem

/-! ## Values -/

mutual

/-- Whether the texts of a value name no half of a pair. -/
def Script.Unpaired : Script → Prop
  | .word .. | .emptyArray _ | .emptyObject _ => True
  | .text _ units _ => Json.Unpaired units
  | .array _ items => items.Unpaired
  | .object _ members => members.Unpaired

/-- Whether the texts of items name no half of a pair. -/
def ItemScript.Unpaired : ItemScript → Prop
  | .last v _ => v.Unpaired
  | .more v _ _ items => v.Unpaired ∧ items.Unpaired

/-- Whether the keys and texts of members name no half of a pair. -/
def MemberScript.Unpaired : MemberScript → Prop
  | .last key v _ => Json.Unpaired key.units ∧ v.Unpaired
  | .more key v _ _ members => Json.Unpaired key.units ∧ v.Unpaired ∧ members.Unpaired

end

/-- Whether a value is a list or an object. -/
def Script.isNested : Script → Bool
  | .word .. | .text .. => false
  | .emptyArray _ | .array .. | .emptyObject _ | .object .. => true

/-- Whether a key and its colon are near. -/
def KeyScript.isNear (k : KeyScript) : Bool := Json.isNear k.inner k.gap.chars

mutual

/-- Whether every key of a value is near its colon. -/
def Script.Near : Script → Prop
  | .word .. | .text .. | .emptyArray _ | .emptyObject _ => True
  | .array _ items => items.Near
  | .object _ members => members.Near

/-- Whether every key of items is near its colon. -/
def ItemScript.Near : ItemScript → Prop
  | .last v _ => v.Near
  | .more v _ _ items => v.Near ∧ items.Near

/-- Whether every key of members is near its colon. -/
def MemberScript.Near : MemberScript → Prop
  | .last key v _ => key.isNear ∧ v.Near
  | .more key v _ _ members => key.isNear ∧ v.Near ∧ members.Near

end

/-- Whether the texts of a document from some place on can be read as YAML. -/
def AreShared (s : List Char) : Prop := ∀ q ∈ quotationsFrom none s, q.isShared

theorem areShared_append {front : List Char} (h : '"' ∉ front) (rest : List Char) :
    AreShared (front ++ rest) ↔ AreShared rest := by
  rw [AreShared, quotationsFrom_none_append h, AreShared]

/-- What comes behind a value in brackets begins with a blank or a sign. -/
theorem Closes.cons {c : Char} {r : List Char} (h : Closes (skipSpace (c :: r))) :
    (isSpace c = true ∧ skipSpace (c :: r) = skipSpace r)
      ∨ (c ∈ [',', ']', '\x7d'] ∧ skipSpace (c :: r) = c :: r) := by
  cases hc : isSpace c with
  | true => exact .inl ⟨rfl, List.dropWhile_cons_of_pos hc⟩
  | false =>
    have hrest := skipSpace_cons hc r
    rw [hrest] at h
    exact .inr ⟨h, hrest⟩

theorem skipSpace_skipSpace (s : List Char) : skipSpace (skipSpace s) = skipSpace s :=
  List.dropWhile_idempotent isSpace s

theorem skipSpace_blanks (gap : Blanks) (s : List Char) :
    skipSpace (gap.chars ++ s) = skipSpace s :=
  List.dropWhile_append_of_pos gap.isSpace

theorem takeWhile_blanks (gap : Blanks) {c : Char} (hc : isSpace c = false) (s : List Char) :
    (gap.chars ++ c :: s).takeWhile isSpace = gap.chars := by
  rw [List.takeWhile_append_of_pos gap.isSpace]
  simp [hc]

/-- A text that is no key can be read if it names no half of a pair. -/
theorem areShared_text {inner : List Char} {units : List TextUnit} (h : Spelled inner units)
    {rest : List Char} (hrest : (skipSpace rest).head? ≠ some ':') :
    AreShared ('"' :: (inner ++ '"' :: rest)) ↔ Unpaired units ∧ AreShared rest := by
  have hquotations : quotationsFrom none ('"' :: (inner ++ '"' :: rest))
      = ⟨inner, rest⟩ :: quotationsFrom none rest := quotationsFrom_inner h [] rest
  rw [AreShared, hquotations, List.forall_mem_cons, ← namesSurrogate_eq_false_iff h, AreShared]
  simp [Quotation.isShared, Quotation.isKey, hrest]

/-- A key must be near its colon, too. -/
theorem areShared_key (k : KeyScript) (rest : List Char) :
    AreShared (k.chars ++ rest) ↔ (Unpaired k.units ∧ k.isNear) ∧ AreShared rest := by
  have hrest : '"' ∉ k.gap.chars ++ ':' :: k.gap'.chars := by
    simp [k.gap.quote_notMem, k.gap'.quote_notMem]
  have hquotations : quotationsFrom none (k.chars ++ rest)
      = ⟨k.inner, k.gap.chars ++ ':' :: (k.gap'.chars ++ rest)⟩ :: quotationsFrom none rest := by
    have h := quotationsFrom_inner k.spelled [] (k.gap.chars ++ ':' :: (k.gap'.chars ++ rest))
    have hskip := quotationsFrom_none_append hrest rest
    rw [List.append_assoc, List.cons_append] at hskip
    rw [hskip] at h
    simpa [KeyScript.chars, quotationsFrom] using h
  let q : Quotation := ⟨k.inner, k.gap.chars ++ ':' :: (k.gap'.chars ++ rest)⟩
  have hkey : q.isKey = true := by
    simp only [Quotation.isKey, q, skipSpace_blanks]
    simp [skipSpace, isSpace]
  have hgap : q.gap = k.gap.chars := takeWhile_blanks k.gap (by decide) _
  rw [AreShared, hquotations, List.forall_mem_cons, ← namesSurrogate_eq_false_iff k.spelled,
    AreShared]
  simp [Quotation.isShared, q, hkey, hgap, KeyScript.isNear]

/-- Behind a sign that is no quote it goes on with the texts after it. -/
theorem areShared_sign (gap : Blanks) {c : Char} (hc : c ∈ [',', ']', '\x7d']) (rest : List Char) :
    AreShared (gap.chars ++ c :: rest) ↔ AreShared rest := by
  have hquote : '"' ∉ gap.chars ++ [c] := by
    simp only [List.mem_append, List.mem_singleton, not_or]
    refine ⟨gap.quote_notMem, ?_⟩
    rintro rfl
    simp at hc
  have h := areShared_append hquote rest
  rwa [List.append_assoc, List.singleton_append] at h

/-- A text before such a sign is no key. -/
theorem head?_skipSpace_sign (gap : Blanks) {c : Char} (hc : c ∈ [',', ']', '\x7d'])
    (rest : List Char) : (skipSpace (gap.chars ++ c :: rest)).head? ≠ some ':' := by
  have hspace : isSpace c = false ∧ c ≠ ':' := by
    simp only [List.mem_cons, List.not_mem_nil, or_false] at hc
    rcases hc with rfl | rfl | rfl <;> decide
  rw [skipSpace_blanks, skipSpace_cons hspace.1]
  simpa using hspace.2

mutual

/-- The texts of a value can be read as YAML if they name no half of a pair and its keys are near
their colons. -/
theorem areShared_script : ∀ (t : Script) {rest : List Char},
    (skipSpace rest).head? ≠ some ':' →
      (AreShared (t.chars ++ rest) ↔ (t.Unpaired ∧ t.Near) ∧ AreShared rest)
  | .word _ _ h, rest, _ => by
    rw [Script.chars, areShared_append h.quote_notMem]
    simp [Script.Unpaired, Script.Near]
  | .text inner units h, rest, hrest => by
    have htext := areShared_text h hrest
    simpa [Script.chars, Script.Unpaired, Script.Near] using htext
  | .emptyArray gap, rest, _ => by
    rw [Script.chars, areShared_append (by simp [gap.quote_notMem])]
    simp [Script.Unpaired, Script.Near]
  | .emptyObject gap, rest, _ => by
    rw [Script.chars, areShared_append (by simp [gap.quote_notMem])]
    simp [Script.Unpaired, Script.Near]
  | .array gap items, rest, _ => by
    have hitems := areShared_items items rest
    rw [Script.chars, ← List.cons_append, List.append_assoc,
      areShared_append (by simp [gap.quote_notMem])]
    exact hitems
  | .object gap members, rest, _ => by
    have hmembers := areShared_members members rest
    rw [Script.chars, ← List.cons_append, List.append_assoc,
      areShared_append (by simp [gap.quote_notMem])]
    exact hmembers

/-- So can those of items. -/
theorem areShared_items : ∀ (items : ItemScript) (rest : List Char),
    AreShared (items.chars ++ rest) ↔ (items.Unpaired ∧ items.Near) ∧ AreShared rest
  | .last v gap, rest => by
    have hv := areShared_script v (head?_skipSpace_sign gap (c := ']') (by simp) rest)
    rw [areShared_sign gap (by simp)] at hv
    simpa [ItemScript.chars, ItemScript.Unpaired, ItemScript.Near] using hv
  | .more v gap gap' items, rest => by
    have hitems := areShared_items items rest
    rw [← areShared_append gap'.quote_notMem] at hitems
    have hv := areShared_script v
      (head?_skipSpace_sign gap (c := ',') (by simp) (gap'.chars ++ (items.chars ++ rest)))
    rw [areShared_sign gap (by simp), hitems] at hv
    simp only [ItemScript.chars, ItemScript.Unpaired, ItemScript.Near, List.append_assoc,
      List.cons_append, hv, and_assoc, and_left_comm]

/-- So can those of members. -/
theorem areShared_members : ∀ (members : MemberScript) (rest : List Char),
    AreShared (members.chars ++ rest) ↔ (members.Unpaired ∧ members.Near) ∧ AreShared rest
  | .last key v gap, rest => by
    have hv := areShared_script v (head?_skipSpace_sign gap (c := '\x7d') (by simp) rest)
    rw [areShared_sign gap (by simp)] at hv
    have hkey := areShared_key key (v.chars ++ (gap.chars ++ '\x7d' :: rest))
    rw [hv] at hkey
    simp only [MemberScript.chars, MemberScript.Unpaired, MemberScript.Near, List.append_assoc,
      List.singleton_append, hkey, and_assoc, and_left_comm]
  | .more key v gap gap' members, rest => by
    have hmembers := areShared_members members rest
    rw [← areShared_append gap'.quote_notMem] at hmembers
    have hv := areShared_script v
      (head?_skipSpace_sign gap (c := ',') (by simp) (gap'.chars ++ (members.chars ++ rest)))
    rw [areShared_sign gap (by simp), hmembers] at hv
    have hkey := areShared_key key
      (v.chars ++ (gap.chars ++ ',' :: (gap'.chars ++ (members.chars ++ rest))))
    rw [hv] at hkey
    simp only [MemberScript.chars, MemberScript.Unpaired, MemberScript.Near, List.append_assoc,
      List.cons_append, hkey, and_assoc, and_left_comm]

end

end PodCheck.Json
