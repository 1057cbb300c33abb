import PodCheck.Proofs.Json.Quotation
import PodCheck.Yaml.Scalar

/-! # JSON texts and words as scalars of YAML

What stands between the quotes of a JSON text is scanned as a quoted scalar with the same
characters, unless it names half of a surrogate pair by its number: then there is no scalar, even if
the other half comes next (`scanQuoted_spelled`). This holds for texts without the line breaks of
YAML that are none in JSON (`isForeignBreak`), which would be folded. Literals and numbers are
scanned as plain scalars, up to the sign that follows them (`scanPlain_word`). -/

namespace PodCheck.Yaml

open Json (Spelled TextUnit Unpaired)

/-! ## Places -/

namespace Place

@[simp] theorem along_nil (p : Place) : p.along [] = p := rfl

@[simp] theorem along_cons (p : Place) (c : Char) (s : List Char) :
    p.along (c :: s) = (p.right c).along s := rfl

@[simp] theorem right_column (p : Place) (c : Char) : (p.right c).column = p.column + 1 := rfl

@[simp] theorem right_line (p : Place) (c : Char) : (p.right c).line = p.line := rfl

@[simp] theorem right_index (p : Place) (c : Char) : (p.right c).index = p.index + c.utf8Size := rfl

@[simp] theorem along_line (p : Place) (s : List Char) : (p.along s).line = p.line := by
  induction s generalizing p with
  | nil => rfl
  | cons c s ih => rw [along_cons, ih, right_line]

/-- The distance from the beginning counts bytes. -/
@[simp] theorem along_index (p : Place) (s : List Char) :
    (p.along s).index = p.index + (String.ofList s).utf8ByteSize := by
  induction s generalizing p with
  | nil => rfl
  | cons c s ih =>
    rw [along_cons, ih, right_index, String.ofList_cons, String.utf8ByteSize_append,
      String.utf8ByteSize_singleton, Nat.add_assoc]

end Place

/-! ## Characters -/

/-- Whether a character is a line break in YAML and not in JSON. -/
def isForeignBreak (c : Char) : Bool := c = '\u0085' || c = '\u2028' || c = '\u2029'

theorem isBreak_eq_false {c : Char} (hline : Json.isLineBreak c = false)
    (hforeign : isForeignBreak c = false) : isBreak c = false := by
  simp only [Json.isLineBreak, isForeignBreak, Bool.or_eq_false_iff, decide_eq_false_iff_not]
    at hline hforeign
  simp [isBreak, hline, hforeign]

/-- Neither is a control character. -/
theorem isBreak_eq_false_of_le {c : Char} (hcontrol : 0x20 ≤ c.toNat)
    (hforeign : isForeignBreak c = false) : isBreak c = false := by
  refine isBreak_eq_false ?_ hforeign
  simp only [Json.isLineBreak, Bool.or_eq_false_iff, decide_eq_false_iff_not]
  constructor <;> rintro rfl <;> simp at hcontrol

theorem takeBreak?_eq_none {c : Char} (h : isBreak c = false) (p : Place) (r : List Char) :
    (Cursor.mk p (c :: r)).takeBreak? = none := by
  have hbreak : break? (c :: r) = none := by
    simp only [isBreak, Bool.or_eq_false_iff, decide_eq_false_iff_not] at h
    unfold break?
    split <;> simp_all
  rw [Cursor.takeBreak?, hbreak, Option.map_none]

/-! ## Texts -/

/-- The gap of some blanks in the line, given reversed. -/
def Gap.ofBlanks (blanks : List Char) : Gap := ⟨blanks, false, .none, []⟩

@[simp] theorem Gap.flush_ofBlanks (blanks : List Char) : (Gap.ofBlanks blanks).flush = blanks :=
  rfl

@[simp] theorem Gap.addBlank_ofBlanks (blanks : List Char) (c : Char) :
    (Gap.ofBlanks blanks).addBlank c = .ofBlanks (c :: blanks) := rfl

/-- Hexadecimal digits are the same in both languages. -/
theorem hexDigit?_eq (c : Char) : hexDigit? c = Json.hexValue? c := by
  have h : c.isDigit = ('0' ≤ c && c ≤ '9') := by
    simp [Char.isDigit, Char.le_def]
  simp [hexDigit?, Json.hexValue?, h]

/-- The number of an escape. -/
theorem hexNumber?_eq {a b c d : Char} {n : Nat} (h : Json.hexCode? a b c d = some n)
    (r : List Char) : hexNumber? 4 (a :: b :: c :: d :: r) = some n := by
  obtain ⟨i, j, k, l, hi, hj, hk, hl, rfl⟩ := Json.hexCode?_eq_some h
  simp [hexNumber?, hexDigit?_eq, hi, hj, hk, hl]

/-- A short escape means the same in both languages. -/
theorem escape?_short {c d : Char} (h : Json.shortEscape? c = some d) (r : List Char) :
    escape? (c :: r) = some (d, 1) := by
  unfold Json.shortEscape? at h
  split at h
  case h_9 => simp at h
  all_goals
    obtain rfl := Option.some.inj h
    rfl

/-- An escape by number means the same unless it is half of a pair, which YAML does not take. -/
theorem escape?_code {a b c d : Char} {n : Nat} (h : Json.hexCode? a b c d = some n)
    (r : List Char) :
    escape? ('u' :: a :: b :: c :: d :: r)
      = if Json.isSurrogate n then none else some (Char.ofNat n, 5) := by
  have hlow : ¬ 0x10FFFF < n := by
    have := Json.lt_of_hexCode? h
    omega
  simp [escape?, plainEscape?, escapeDigits?, hexNumber?_eq h, hlow, Json.isSurrogate]

section

variable {place : Place} {c : Char}

/-- A document marker stands at the beginning of a line only. -/
theorem marker_eq_false (hcolumn : 0 < place.column) (s : List Char) :
    (decide (place.column = 0) && atDocumentMarker s) = false := by
  simp [Nat.ne_of_gt hcolumn]

/-- A blank in the line is held back. -/
theorem scanQuoted_blank (hcolumn : 0 < place.column) (fuel : Nat) (done blanks r : List Char) :
    scanQuoted false (fuel + 1) done (.ofBlanks blanks) place (' ' :: r)
      = scanQuoted false fuel done (.ofBlanks (' ' :: blanks)) (place.right ' ') r := by
  rw [scanQuoted, marker_eq_false hcolumn]
  rfl

/-- Any other character of the line stands for itself, with the blanks before it. -/
theorem scanQuoted_char (hcolumn : 0 < place.column) (hblank : isBlank c = false)
    (hbreak : isBreak c = false) (hquote : c ≠ '"') (hslash : c ≠ '\\') (fuel : Nat)
    (done blanks r : List Char) :
    scanQuoted false (fuel + 1) done (.ofBlanks blanks) place (c :: r)
      = scanQuoted false fuel (c :: (blanks ++ done)) (.ofBlanks []) (place.right c) r := by
  rw [scanQuoted, marker_eq_false hcolumn]
  simp only [Bool.false_eq_true, if_false, hblank, takeBreak?_eq_none hbreak, if_neg hquote,
    if_pos hslash]
  rfl

/-- The closing quote ends the text. -/
theorem scanQuoted_quote (hcolumn : 0 < place.column) (fuel : Nat) (done blanks r : List Char) :
    scanQuoted false (fuel + 1) done (.ofBlanks blanks) place ('"' :: r)
      = some ⟨(blanks ++ done).reverse, place.right '"', r⟩ := by
  rw [scanQuoted, marker_eq_false hcolumn]
  rfl

/-- An escape stands for its character, with the blanks before it. -/
theorem scanQuoted_escape (hcolumn : 0 < place.column) (hbreak : isBreak c = false) (fuel : Nat)
    (done blanks r : List Char) :
    scanQuoted false (fuel + 1) done (.ofBlanks blanks) place ('\\' :: c :: r)
      = match escape? (c :: r) with
        | some (d, n) =>
          scanQuoted false fuel (d :: (blanks ++ done)) (.ofBlanks [])
            (place.along ('\\' :: (c :: r).take n)) ((c :: r).drop n)
        | none => none := by
  rw [scanQuoted, marker_eq_false hcolumn]
  simp only [Bool.false_eq_true, if_false, takeBreak?_eq_none hbreak]
  rfl

end

/-- **A JSON text is a scalar of YAML** with the same characters, unless it names half of a pair. -/
theorem scanQuoted_spelled {inner : List Char} {units : List TextUnit} (h : Spelled inner units)
    (hforeign : ∀ c ∈ inner, isForeignBreak c = false) (rest : List Char) (fuel : Nat)
    (done blanks : List Char) (place : Place) (hfuel : inner.length < fuel)
    (hcolumn : 0 < place.column) :
    scanQuoted false fuel done (.ofBlanks blanks) place (inner ++ '"' :: rest)
      = if Json.namesSurrogate inner then none
        else some ⟨done.reverse ++ (blanks.reverse ++ units.map TextUnit.toChar),
          place.along (inner ++ ['"']), rest⟩ := by
  -- blanks are held back until it is known that no line break follows, so that some may be waiting
  -- before any part of the text
  induction h generalizing fuel done blanks place with
  | nil =>
    obtain ⟨fuel, rfl⟩ : ∃ k, fuel = k + 1 := ⟨fuel - 1, by omega⟩
    rw [List.nil_append, scanQuoted_quote hcolumn]
    simp [Json.namesSurrogate]
  | @code a b c d n r units hn _ ih =>
    obtain ⟨fuel, rfl⟩ : ∃ k, fuel = k + 1 := ⟨fuel - 1, by omega⟩
    have hrest : ∀ c ∈ r, isForeignBreak c = false := fun c hc => hforeign c (by simp [hc])
    simp only [List.cons_append]
    rw [scanQuoted_escape hcolumn (by decide), escape?_code hn, Json.namesSurrogate_code hn]
    cases Json.isSurrogate n with
    | true => simp
    | false =>
      -- a unit that is no half of a pair is the number of its character
      have hnext := ih hrest fuel (Char.ofNat n :: (blanks ++ done)) []
        (place.along ['\\', 'u', a, b, c, d]) (by simp at hfuel; omega) (by simp)
      simpa [TextUnit.toChar] using hnext
  | @short c d r units hd _ ih =>
    obtain ⟨fuel, rfl⟩ : ∃ k, fuel = k + 1 := ⟨fuel - 1, by omega⟩
    have hrest : ∀ c ∈ r, isForeignBreak c = false := fun c hc => hforeign c (by simp [hc])
    simp only [List.cons_append]
    have hbreak : isBreak c = false := by
      unfold Json.shortEscape? at hd
      split at hd <;> first | rfl | simp at hd
    rw [scanQuoted_escape hcolumn hbreak, escape?_short hd, Json.namesSurrogate_short hd]
    have hnext := ih hrest fuel (d :: (blanks ++ done)) [] (place.along ['\\', c])
      (by simp at hfuel; omega) (by simp)
    simpa [TextUnit.toChar] using hnext
  | @char c r units hquote hslash hcontrol _ ih =>
    obtain ⟨fuel, rfl⟩ : ∃ k, fuel = k + 1 := ⟨fuel - 1, by omega⟩
    obtain ⟨hc, hrest⟩ := List.forall_mem_cons.1 hforeign
    rw [List.cons_append, Json.namesSurrogate_char hslash]
    by_cases hblank : c = ' '
    · subst hblank
      have hnext := ih hrest fuel done (' ' :: blanks) (place.right ' ')
        (by simp at hfuel; omega) (by simp)
      rw [scanQuoted_blank hcolumn, hnext]
      simp [TextUnit.toChar]
    · have hnext := ih hrest fuel (c :: (blanks ++ done)) [] (place.right c)
        (by simp at hfuel; omega) (by simp)
      have hgap : isBlank c = false := by
        simp only [isBlank, hblank, decide_false, Bool.false_or, decide_eq_false_iff_not]
        rintro rfl
        simp at hcontrol
      rw [scanQuoted_char hcolumn hgap (isBreak_eq_false_of_le hcontrol hc) hquote hslash, hnext]
      simp [TextUnit.toChar]

/-! ## Words -/

/-- Whether a character may stand anywhere in a plain scalar inside brackets. -/
def isPlainLetter (c : Char) : Bool :=
  !(isBreak c || isBlank c || isFlowMark c || c = ':' || c = '#')

/-- A letter goes on with a plain scalar. -/
theorem scanPlain_letter {c : Char} (hc : isPlainLetter c = true) {word : Bool} {place : Place}
    {r : List Char} (hword : word = true ∨ atDocumentMarker (c :: r) = false) (least : Nat)
    (done : List Char) :
    scanPlain true least done .none word place (c :: r)
      = scanPlain true least (c :: done) .none true (place.right c) r := by
  simp only [isPlainLetter, Bool.not_eq_true', Bool.or_eq_false_iff, decide_eq_false_iff_not] at hc
  obtain ⟨⟨⟨⟨hbreak, hblank⟩, hmark⟩, hcolon⟩, hcomment⟩ := hc
  rw [scanPlain]
  · simp only [hbreak, hblank, hmark, hcolon, hcomment]
    rcases hword with rfl | hmarker
    · simp
    · simp [hmarker]
  · rintro _ rfl
    simp [isBreak] at hbreak

/-- Letters go on with a plain scalar. -/
theorem scanPlain_letters {letters : List Char} (h : ∀ c ∈ letters, isPlainLetter c = true)
    (least : Nat) (done : List Char) (place : Place) (s : List Char) :
    scanPlain true least done .none true place (letters ++ s)
      = scanPlain true least (letters.reverse ++ done) .none true (place.along letters) s := by
  induction letters generalizing done place with
  | nil => rfl
  | cons c letters ih =>
    obtain ⟨hc, hletters⟩ := List.forall_mem_cons.1 h
    rw [List.cons_append, scanPlain_letter hc (.inl rfl), ih hletters]
    simp

/-- Behind its letters a plain scalar goes on to the next sign. -/
theorem scanPlain_gap {s : List Char} (hs : Json.Closes (Json.skipSpace s)) (done : List Char)
    (gap : Gap) (word : Bool) (place : Place) :
    ∃ place' broken, scanPlain true 0 done gap word place s
      = some (⟨done.reverse, place', Json.skipSpace s⟩, broken) := by
  have hmark : ∀ c ∈ [',', ']', '\x7d'],
      isFlowMark c = true ∧ isBreak c = false ∧ isBlank c = false ∧ c ≠ ':' := by
    simp [isFlowMark, isBreak, isBlank]
  have hspace : ∀ c, Json.isSpace c = true → isBreak c = false → isBlank c = true := by
    intro c hc hbreak
    simp only [Json.isSpace, Bool.or_eq_true, decide_eq_true_eq] at hc
    rcases hc with ((rfl | rfl) | rfl) | rfl <;> first | rfl | simp [isBreak] at hbreak
  -- what is left begins with a blank, which is skipped, or with the sign, which ends the scalar
  fun_induction scanPlain true 0 done gap word place s with
  | case1 => exact ⟨_, _, rfl⟩
  | case2 _ _ _ _ r ih => exact ih hs
  | case3 _ _ _ _ c r _ hbreak _ ih =>
    rcases hs.cons with ⟨-, hrest⟩ | ⟨hc, -⟩
    · rw [hrest] at hs ⊢
      exact ih hs
    · simp [(hmark c hc).2.1] at hbreak
  | case4 _ _ _ _ _ _ _ _ _ h => simp at h
  | case5 _ _ _ _ c r _ _ hblank _ ih =>
    rcases hs.cons with ⟨-, hrest⟩ | ⟨hc, -⟩
    · rw [hrest] at hs ⊢
      exact ih hs
    · simp [(hmark c hc).2.2.1] at hblank
  | case6 _ _ _ _ c r _ hbreak hblank | case8 _ _ _ _ c r _ hbreak hblank =>
    rcases hs.cons with ⟨hc, -⟩ | ⟨-, hrest⟩
    · exact absurd (hspace c hc (by simpa using hbreak)) hblank
    · exact ⟨_, _, by rw [hrest]⟩
  | case7 _ _ _ _ c r _ hbreak hblank _ h =>
    rcases hs.cons with ⟨hc, -⟩ | ⟨hc, -⟩
    · exact absurd (hspace c hc (by simpa using hbreak)) hblank
    · simp [(hmark c hc).2.2.2] at h
  | case9 _ _ _ _ c r _ hbreak hblank _ _ h =>
    rcases hs.cons with ⟨hc, -⟩ | ⟨hc, -⟩
    · exact absurd (hspace c hc (by simpa using hbreak)) hblank
    · simp [(hmark c hc).1] at h

/-- What a word begins with, if not with a sign. -/
def isWordStart (c : Char) : Bool := c.isDigit || c = 'n' || c = 't' || c = 'f'

/-- A word begins with a letter or a digit, or a sign with a digit behind it. -/
inductive BeginsWord : List Char → Prop
  /-- It has no sign. -/
  | unsigned {c : Char} {r : List Char} (hc : isWordStart c = true) : BeginsWord (c :: r)
  /-- It has one. -/
  | signed {c : Char} {r : List Char} (hc : c.isDigit = true) : BeginsWord ('-' :: c :: r)

theorem BeginsWord.append {s : List Char} (h : BeginsWord s) (r : List Char) :
    BeginsWord (s ++ r) := by
  cases h with
  | unsigned hc => exact .unsigned hc
  | signed hc => exact .signed hc

/-- A document marker begins with its character. -/
theorem atMarker_eq_false {mark c : Char} (h : c ≠ mark) (r : List Char) :
    atMarker mark (c :: r) = false := by
  unfold atMarker
  split <;> simp_all

/-- No document marker begins like a word. -/
theorem BeginsWord.atDocumentMarker_eq_false {s : List Char} (h : BeginsWord s) :
    atDocumentMarker s = false := by
  cases h with
  | @unsigned c r hc =>
    have hne : c ≠ '-' ∧ c ≠ '.' := by
      constructor <;> rintro rfl <;> simp [isWordStart] at hc
    simp [atDocumentMarker, atMarker_eq_false hne.1, atMarker_eq_false hne.2]
  | @signed c r hc =>
    have hne : c ≠ '-' := by
      rintro rfl
      simp at hc
    have hmarker : atMarker '-' ('-' :: c :: r) = false := by
      unfold atMarker
      split <;> simp_all
    simp [atDocumentMarker, hmarker, atMarker_eq_false]

theorem isPlainLetter_of_isNumberChar {c : Char} (h : Json.isNumberChar c = true) :
    isPlainLetter c = true := by
  have hne : ∀ x, Json.isNumberChar x = false → c ≠ x := by
    rintro _ hx rfl
    rw [hx] at h
    cases h
  simp [isPlainLetter, isBreak, isBlank, isFlowMark, hne '\r' rfl, hne '\n' rfl,
    hne '\u0085' rfl, hne '\u2028' rfl, hne '\u2029' rfl, hne ' ' rfl, hne '\t' rfl,
    hne ',' rfl, hne '[' rfl, hne ']' rfl, hne '\x7b' rfl, hne '\x7d' rfl, hne ':' rfl,
    hne '#' rfl]

theorem letters_of_isNumeral {letters : List Char} (h : Json.IsNumeral letters) :
    BeginsWord letters ∧ ∀ c ∈ letters, isPlainLetter c = true := by
  cases h with
  | unsigned hd hr =>
    refine ⟨.unsigned (by simp [isWordStart, hd]), List.forall_mem_cons.2 ⟨?_, fun c hc => ?_⟩⟩
    · exact isPlainLetter_of_isNumberChar (by simp [Json.isNumberChar, hd])
    · exact isPlainLetter_of_isNumberChar (hr c hc)
  | signed hd hr =>
    refine ⟨.signed hd, List.forall_mem_cons.2 ⟨rfl, List.forall_mem_cons.2 ⟨?_, fun c hc => ?_⟩⟩⟩
    · exact isPlainLetter_of_isNumberChar (by simp [Json.isNumberChar, hd])
    · exact isPlainLetter_of_isNumberChar (hr c hc)

/-- The letters of a JSON literal or number. -/
theorem letters_of_isWord {letters : List Char} {v : Json} (h : Json.IsWord letters v) :
    BeginsWord letters ∧ ∀ c ∈ letters, isPlainLetter c = true := by
  rcases h.isNumeral_or with hliteral | hnumeral
  · simp only [List.mem_cons, List.not_mem_nil, or_false] at hliteral
    rcases hliteral with rfl | rfl | rfl <;> exact ⟨.unsigned rfl, List.all_eq_true.1 rfl⟩
  · exact letters_of_isNumeral hnumeral

/-- **A JSON literal or number is a plain scalar of YAML**, which reaches to the next sign. -/
theorem scanPlain_word {letters : List Char} {v : Json} (h : Json.IsWord letters v)
    {s : List Char} (hs : Json.Closes (Json.skipSpace s)) (place : Place) :
    ∃ place' broken, scanPlain true 0 [] .none false place (letters ++ s)
      = some (⟨letters, place', Json.skipSpace s⟩, broken) := by
  obtain ⟨hbegins, hletters⟩ := letters_of_isWord h
  have hmarker := (hbegins.append s).atDocumentMarker_eq_false
  obtain ⟨c, letters, rfl⟩ : ∃ c r, letters = c :: r := by
    cases hbegins <;> exact ⟨_, _, rfl⟩
  obtain ⟨hc, hletters⟩ := List.forall_mem_cons.1 hletters
  rw [List.cons_append] at hmarker ⊢
  rw [scanPlain_letter hc (.inr hmarker), scanPlain_letters hletters]
  obtain ⟨place', broken, hgap⟩ :=
    scanPlain_gap hs (letters.reverse ++ [c]) .none true ((place.right c).along letters)
  exact ⟨place', broken, by simpa using hgap⟩

end PodCheck.Yaml
