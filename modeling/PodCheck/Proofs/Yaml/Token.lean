import PodCheck.Proofs.Yaml.Lexer

/-! # The tokens of the parts of a JSON text

What the tokens of a JSON text are (`Script.tokens`), and how each of its parts is cut off: brackets
(`At.cuts_open`, `At.cuts_close`), commas (`At.cuts_comma`), words (`At.cuts_word`), texts, if they
name no half of a pair (`At.cuts_text`), and keys with their colons (`At.cuts_key`). A key that is
far from its colon is cut off, too, but no longer announced as a key (`isFresh_eq_isNear`). -/

namespace PodCheck

/-! ## Tokens of a script -/

namespace Json

/-- The characters of units that are no halves of pairs, as a text. -/
def plainText (units : List TextUnit) : String := String.ofList (units.map TextUnit.toChar)

/-- The tokens of a key. A key that is not near its colon is not announced. -/
def KeyScript.tokens (k : KeyScript) : List Yaml.Token :=
  (if k.isNear then [.key] else []) ++ [.scalar .quoted (plainText k.units), .value]

mutual

/-- The tokens of a value. -/
def Script.tokens : Script → List Yaml.Token
  | .word letters _ _ => [.scalar .plain (String.ofList letters)]
  | .text _ units _ => [.scalar .quoted (plainText units)]
  | .emptyArray _ => [.flowSequenceStart, .flowSequenceEnd]
  | .array _ items => .flowSequenceStart :: items.tokens
  | .emptyObject _ => [.flowMappingStart, .flowMappingEnd]
  | .object _ members => .flowMappingStart :: members.tokens

/-- The tokens of items with those of the end of their list. -/
def ItemScript.tokens : ItemScript → List Yaml.Token
  | .last v _ => v.tokens ++ [.flowSequenceEnd]
  | .more v _ _ items => v.tokens ++ .flowEntry :: items.tokens

/-- The tokens of members with those of the end of their object. -/
def MemberScript.tokens : MemberScript → List Yaml.Token
  | .last key v _ => key.tokens ++ (v.tokens ++ [.flowMappingEnd])
  | .more key v _ _ members => key.tokens ++ (v.tokens ++ .flowEntry :: members.tokens)

end

end Json

namespace Yaml.Lexer

section

variable {l : Lexer} {depth : Nat} {rest : List Char}

/-! ## Single tokens -/

theorem token?_bracket (r : List Char) : l.token? '[' r = l.openFlow? .flowSequenceStart := by
  simp [token?, atMarker_eq_false]

theorem token?_brace (r : List Char) : l.token? '\x7b' r = l.openFlow? .flowMappingStart := by
  simp [token?, atMarker_eq_false]

theorem token?_bracketEnd (r : List Char) : l.token? ']' r = l.closeFlow? .flowSequenceEnd := by
  simp [token?, atMarker_eq_false]

theorem token?_braceEnd (r : List Char) : l.token? '\x7d' r = l.closeFlow? .flowMappingEnd := by
  simp [token?, atMarker_eq_false]

theorem token?_comma (r : List Char) :
    l.token? ',' r = l.dropMark?.map fun l => (l.allowKey true).emitSkip .flowEntry 1 := by
  simp [token?, atMarker_eq_false]

theorem token?_colon (h : l.inFlow = true) (r : List Char) : l.token? ':' r = l.value? := by
  simp [token?, atMarker_eq_false, h]

theorem token?_quote (r : List Char) : l.token? '"' r = l.quoted? false := by
  simp [token?, atMarker_eq_false]

theorem token?_word (h : l.inFlow = true) {c : Char} {r : List Char} (hword : BeginsWord (c :: r)) :
    l.token? c r = l.plain? := by
  have hmarker := hword.atDocumentMarker_eq_false
  simp only [atDocumentMarker, Bool.or_eq_false_iff] at hmarker
  cases hword with
  | unsigned hc =>
    have hne : ∀ x, isWordStart x = false → c ≠ x := by
      rintro _ hx rfl
      rw [hx] at hc
      cases hc
    simp [token?, hmarker, h, beginsPlain, isBlank, isBreak, hne '%' rfl, hne '[' rfl, hne ']' rfl,
      hne '\x7b' rfl, hne '\x7d' rfl, hne ',' rfl, hne '-' rfl, hne '?' rfl, hne ':' rfl,
      hne '*' rfl, hne '&' rfl, hne '!' rfl, hne '|' rfl, hne '>' rfl, hne '\'' rfl, hne '"' rfl,
      hne '#' rfl, hne '@' rfl, hne '\x60' rfl, hne ' ' rfl, hne '\t' rfl, hne '\r' rfl,
      hne '\n' rfl, hne '\u0085' rfl, hne '\u2028' rfl, hne '\u2029' rfl]
  | @signed d r hd =>
    have hne : ∀ x, x.isDigit = false → d ≠ x := by
      rintro _ hx rfl
      rw [hx] at hd
      cases hd
    have hgap : isBlank d = false ∧ isBreak d = false := by
      simp [isBlank, isBreak, hne ' ' rfl, hne '\t' rfl, hne '\r' rfl, hne '\n' rfl,
        hne '\u0085' rfl, hne '\u2028' rfl, hne '\u2029' rfl]
    simp [token?, hmarker, atGap, beginsPlain, hgap]

/-- The state with a mark where a key begins. -/
def marked (l : Lexer) : Lexer :=
  { l.setMark (some ⟨l.count, false, l.cursor.place⟩) with
    pieces := .mark l.count :: l.pieces
    count := l.count + 1 }

/-- Where a key may begin a mark is left. -/
theorem At.leaveMark?_eq_marked (h : At depth rest l) (hkey : l.keyAllowed = true) :
    l.leaveMark? = some l.marked := by
  have hindents : (l.setMark none).indents = [] := h.indents
  simp [leaveMark?, hkey, h.dropMark?, hindents]
  rfl

/-- Leaving a mark finds nothing. -/
theorem At.leaveMark? (h : At (depth + 1) rest l) :
    ∃ l', l.leaveMark? = some l' ∧ Found l [] l' ∧ At (depth + 1) rest l'
      ∧ l'.cursor = l.cursor := by
  cases hkey : l.keyAllowed with
  | true =>
    have hset := h.setMark (m := some ⟨l.count, false, l.cursor.place⟩) (by simp)
    exact ⟨l.marked, h.leaveMark?_eq_marked hkey, .mark rfl rfl rfl,
      ⟨hset.indents, hset.length_marks, hset.required, hset.rest⟩, rfl⟩
  | false =>
    exact ⟨l, by simp [Lexer.leaveMark?, hkey], .nothing rfl rfl rfl, h, rfl⟩

/-- An opening bracket is a token; behind it a key may begin. -/
theorem At.openFlow? (h : At (depth + 1) rest l) (t : Token) {c : Char} {r : List Char}
    (hrest : l.cursor.rest = c :: r) :
    ∃ l', l.openFlow? t = some l' ∧ Found l [t] l' ∧ At (depth + 2) r l'
      ∧ l'.cursor.rest = r ∧ l'.keyAllowed = true := by
  obtain ⟨m, hm, hfound, hat, hcursor⟩ := h.leaveMark?
  have hr := Cursor.rest_skip_one (hcursor ▸ hrest)
  refine ⟨(({ m with marks := none :: m.marks } : Lexer).emitSkip t 1).allowKey true, ?_, ?_, ?_,
    hr, rfl⟩
  · rw [Lexer.openFlow?, hm]
    rfl
  · have hone : Found m [t]
        ((({ m with marks := none :: m.marks } : Lexer).emitSkip t 1).allowKey true) :=
      .one rfl rfl rfl
    exact hfound.trans hone
  · refine ⟨hat.indents, congrArg Nat.succ hat.length_marks, fun o ho => ?_, congrArg _ hr⟩
    rcases List.mem_cons.1 ho with ho | ho
    · cases ho
    · exact hat.required o ho

/-- A closing bracket is a token; behind it no key may begin. -/
theorem At.closeFlow? (h : At (depth + 2) rest l) (t : Token) {c : Char} {r : List Char}
    (hrest : l.cursor.rest = c :: r) :
    ∃ l', l.closeFlow? t = some l' ∧ Found l [t] l' ∧ At (depth + 1) r l'
      ∧ l'.cursor.rest = r ∧ l'.keyAllowed = false := by
  have hr := Cursor.rest_skip_one hrest
  have hset := h.setMark (m := none) (by simp)
  refine ⟨(({ l.setMark none with marks := (l.setMark none).marks.drop 1 } : Lexer).emitSkip t
    1).allowKey false, ?_, .one rfl rfl rfl, ?_, hr, rfl⟩
  · simp only [Lexer.closeFlow?, h.dropMark?, Option.bind_eq_bind, Option.bind_some, hset.inFlow,
      if_true]
    rfl
  · refine ⟨h.indents, ?_, fun o ho => hset.required o (List.mem_of_mem_drop ho), congrArg _ hr⟩
    have hlength : ((l.setMark none).marks.drop 1).length = depth + 1 := by
      rw [List.length_drop, hset.length_marks]
      rfl
    exact hlength

/-- A comma is a token; behind it a key may begin. -/
theorem At.comma (h : At (depth + 2) rest l) {r : List Char} (hrest : l.cursor.rest = ',' :: r) :
    ∃ l', l.token? ',' r = some l' ∧ Found l [.flowEntry] l' ∧ At (depth + 2) r l'
      ∧ l'.cursor.rest = r ∧ l'.keyAllowed = true := by
  have hr := Cursor.rest_skip_one hrest
  have hset := h.setMark (m := none) (by simp)
  refine ⟨((l.setMark none).allowKey true).emitSkip .flowEntry 1, ?_, .one rfl rfl rfl,
    ⟨hset.indents, hset.length_marks, hset.required, congrArg _ hr⟩, hr, rfl⟩
  rw [token?_comma, h.dropMark?]
  rfl

/-- A word is a token. -/
theorem At.word (h : At (depth + 2) rest l) {letters : List Char} {v : Json}
    (hword : Json.IsWord letters v) {c : Char} {r r' : List Char}
    (hletters : letters ++ r' = c :: r)
    (hr' : Json.Closes (Json.skipSpace r')) (hrest : l.cursor.rest = c :: r) :
    ∃ l', l.token? c r = some l' ∧ Found l [.scalar .plain (String.ofList letters)] l'
      ∧ At (depth + 2) r' l' ∧ l'.cursor.rest = Json.skipSpace r' := by
  obtain ⟨m, hm, hfound, hat, hcursor⟩ := h.leaveMark?
  have hbegins := (letters_of_isWord hword).1.append r'
  rw [hletters] at hbegins
  obtain ⟨place, broken, hscan⟩ := scanPlain_word hword hr' l.cursor.place
  let m' := ((m.emit (.scalar .plain (String.ofList letters))).move
    ⟨place, Json.skipSpace r'⟩).allowKey broken
  refine ⟨m', ?_, ?_, ⟨hat.indents, hat.length_marks, hat.required, ?_⟩, rfl⟩
  · rw [token?_word h.inFlow hbegins, plain?, hm]
    simp only [Option.bind_eq_bind, Option.bind_some, hat.inFlow, hat.indents, List.head?_nil,
      Option.elim_none, hcursor, hrest, ← hletters, hscan]
    rfl
  · have hone : Found m [.scalar .plain (String.ofList letters)] m' := .one rfl rfl rfl
    exact hfound.trans hone
  · exact Json.skipSpace_skipSpace r'

/-- A text is a token, unless it names half of a pair. -/
theorem quoted?_eq {m : Lexer} (hm : l.leaveMark? = some m) (hcursor : m.cursor = l.cursor)
    {inner : List Char} {units : List Json.TextUnit} (hspelled : Json.Spelled inner units)
    (hforeign : ∀ c ∈ inner, isForeignBreak c = false) {r : List Char}
    (hrest : l.cursor.rest = '"' :: (inner ++ '"' :: r)) :
    l.quoted? false = if Json.namesSurrogate inner then none
      else some (((m.emit (.scalar .quoted (Json.plainText units))).move
        ⟨l.cursor.place.along ('"' :: (inner ++ ['"'])), r⟩).allowKey false) := by
  have hskip : l.cursor.skip 1 = ⟨l.cursor.place.right '"', inner ++ '"' :: r⟩ := by
    rw [Cursor.skip, hrest]
    rfl
  have hscan := scanQuoted_spelled hspelled hforeign r ((inner ++ '"' :: r).length + 1) [] []
    (l.cursor.place.right '"') (by rw [List.length_append]; omega) (Nat.succ_pos _)
  simp only [quoted?, property?, hm, Option.bind_eq_bind, Option.bind_some, hcursor, hskip]
  change ((scanQuoted false _ [] (.ofBlanks []) _ _).map _).bind _ = _
  rw [hscan]
  cases Json.namesSurrogate inner with
  | true => rfl
  | false => rfl

/-- A text that is a value is a token, unless it names half of a pair. -/
theorem At.text (h : At (depth + 2) rest l) {inner : List Char} {units : List Json.TextUnit}
    (hspelled : Json.Spelled inner units) (hforeign : ∀ c ∈ inner, isForeignBreak c = false)
    {r : List Char} (hrest : l.cursor.rest = '"' :: (inner ++ '"' :: r)) :
    (Json.Unpaired units → ∃ l', l.token? '"' (inner ++ '"' :: r) = some l'
        ∧ Found l [.scalar .quoted (Json.plainText units)] l'
        ∧ At (depth + 2) r l' ∧ l'.cursor.rest = r)
      ∧ (¬ Json.Unpaired units → l.token? '"' (inner ++ '"' :: r) = none) := by
  obtain ⟨m, hm, hfound, hat, hcursor⟩ := h.leaveMark?
  rw [token?_quote, quoted?_eq hm hcursor hspelled hforeign hrest,
    ← Json.namesSurrogate_eq_false_iff hspelled]
  refine ⟨fun hnone => ?_, fun hsome => ?_⟩
  · rw [hnone, if_neg (by simp)]
    refine ⟨_, rfl, ?_, ⟨hat.indents, hat.length_marks, hat.required, rfl⟩, rfl⟩
    exact hfound.trans (.one rfl rfl rfl)
  · rw [Bool.not_eq_false] at hsome
    rw [hsome, if_pos rfl]

/-- A colon is a token, and confirms the open mark if there is one. -/
theorem At.value? (h : At (depth + 2) rest l) {c : Char} {r : List Char}
    (hrest : l.cursor.rest = c :: r) :
    ∃ l', l.value? = some l' ∧ l'.pieces = .token .value :: l.pieces ∧ l'.count = l.count
      ∧ l'.confirmed = (l.openMark.map fun m => (m.id, false)).toList ++ l.confirmed
      ∧ At (depth + 2) r l' ∧ l'.cursor.rest = r := by
  have hr := Cursor.rest_skip_one hrest
  have hset := h.setMark (m := none) (by simp)
  have hdeeper : ∀ column, l.isDeeper column = false := fun column => by
    rw [isDeeper, h.inFlow]
    rfl
  cases hmark : l.openMark with
  | some m =>
    refine ⟨({ l.setMark none with confirmed := (m.id, false) :: l.confirmed } : Lexer).allowKey
      false |>.emitSkip .value 1, ?_, rfl, rfl, rfl,
      ⟨hset.indents, hset.length_marks, hset.required, congrArg _ hr⟩, hr⟩
    simp only [Lexer.value?, hmark, hdeeper, Bool.false_eq_true, if_false]
    rfl
  | none =>
    refine ⟨(l.allowKey false).emitSkip .value 1, ?_, rfl, rfl, rfl,
      ⟨h.indents, h.length_marks, h.required, congrArg _ hr⟩, hr⟩
    have hopen : l.openBlock .blockMappingStart = l := by
      rw [openBlock, hdeeper, if_neg (by simp)]
    simp only [Lexer.value?, hmark, h.inFlow, hopen]
    rfl

/-! ## Parts of a value -/

/-- Blanks before the rest do not matter. -/
theorem At.blanks (gap : Json.Blanks) (h : At depth (gap.chars ++ rest) l) : At depth rest l :=
  ⟨h.indents, h.length_marks, h.required, h.rest.trans (Json.skipSpace_blanks gap rest)⟩

/-- One token is cut at the end of a gap. -/
theorem Settles.cuts {s : Lexer} {c : Char} {r : List Char} (h : Settles l s c r) {ok : Prop}
    {ts : List Token} {state : Lexer → Prop}
    (hok : ok → ∃ l', s.token? c r = some l' ∧ Found s ts l' ∧ l'.cursor.rest.length ≤ r.length
      ∧ state l') (hnot : ¬ ok → s.token? c r = none) : Cuts l ok ts state where
  finds hyes := by
    obtain ⟨l', htoken, hfound, hlength, hstate⟩ := hok hyes
    exact ⟨l', ⟨h.found.trans hfound, h.runs l' htoken hlength⟩, hstate⟩
  fails hno := h.fails (hnot hno)

/-- An opening bracket is cut off. -/
theorem At.cuts_open {c : Char} {r : List Char} (h : At (depth + 1) (c :: r) l) (hready : Ready l)
    (hends : EndsGap (c :: r)) {t : Token} (htoken : ∀ s : Lexer, s.token? c r = s.openFlow? t) :
    Cuts l True [t] fun l' => At (depth + 2) r l' ∧ l'.keyAllowed = true := by
  obtain ⟨s, hs, hat⟩ := h.exists_settles hready hends
  refine hs.cuts (fun _ => ?_) fun hnot => absurd trivial hnot
  obtain ⟨l', hopen, hfound, hat', hrest, hkey⟩ := hat.openFlow? t hs.rest
  exact ⟨l', (htoken s).trans hopen, hfound, by rw [hrest], hat', hkey⟩

/-- Behind a closing bracket. -/
structure Behind (depth : Nat) (r : List Char) (l : Lexer) : Prop extends At depth r l where
  /-- Nothing has been skipped. -/
  cursor_rest : l.cursor.rest = r
  /-- No key may begin. -/
  keyAllowed : l.keyAllowed = false

/-- A closing bracket is cut off. -/
theorem At.cuts_close {c : Char} {r : List Char} (h : At (depth + 2) (c :: r) l)
    (hends : EndsGap (c :: r)) {t : Token} (htoken : ∀ s : Lexer, s.token? c r = s.closeFlow? t) :
    Cuts l True [t] (Behind (depth + 1) r) := by
  obtain ⟨s, hs, hat⟩ := h.exists_settles h.ready hends
  refine hs.cuts (fun _ => ?_) fun hnot => absurd trivial hnot
  obtain ⟨l', hclose, hfound, hat', hrest, hkey⟩ := hat.closeFlow? t hs.rest
  exact ⟨l', (htoken s).trans hclose, hfound, by rw [hrest], hat', hrest, hkey⟩

/-- A comma is cut off. -/
theorem At.cuts_comma {r : List Char} (h : At (depth + 2) (',' :: r) l) :
    Cuts l True [.flowEntry] fun l' => At (depth + 2) r l' ∧ l'.keyAllowed = true := by
  obtain ⟨s, hs, hat⟩ := h.exists_settles h.ready (endsGap_cons rfl r)
  refine hs.cuts (fun _ => ?_) fun hnot => absurd trivial hnot
  obtain ⟨l', hcomma, hfound, hat', hrest, hkey⟩ := hat.comma hs.rest
  exact ⟨l', hcomma, hfound, by rw [hrest], hat', hkey⟩

/-- A word is cut off. -/
theorem At.cuts_word {letters : List Char} {v : Json} (hword : Json.IsWord letters v)
    {r : List Char} (hr : Json.Closes (Json.skipSpace r)) (h : At (depth + 2) (letters ++ r) l) :
    Cuts l True [.scalar .plain (String.ofList letters)] (At (depth + 2) r) := by
  have hbegins := (letters_of_isWord hword).1
  obtain ⟨c, letters', rfl⟩ : ∃ c r, letters = c :: r := by
    cases hbegins <;> exact ⟨_, _, rfl⟩
  obtain ⟨s, hs, hat⟩ := h.exists_settles h.ready (hbegins.append r).endsGap
  refine hs.cuts (fun _ => ?_) fun hnot => absurd trivial hnot
  obtain ⟨l', htoken, hfound, hat', hrest⟩ := hat.word hword rfl hr hs.rest
  refine ⟨l', htoken, hfound, ?_, hat'⟩
  have := Json.length_skipSpace_le r
  simp only [hrest, List.append_eq, List.length_append]
  omega

/-- A text that is a value is cut off, unless it names half of a pair. -/
theorem At.cuts_text {inner : List Char} {units : List Json.TextUnit}
    (hspelled : Json.Spelled inner units) (hforeign : ∀ c ∈ inner, isForeignBreak c = false)
    {r : List Char} (h : At (depth + 2) ('"' :: (inner ++ '"' :: r)) l) :
    Cuts l (Json.Unpaired units) [.scalar .quoted (Json.plainText units)] (At (depth + 2) r) := by
  obtain ⟨s, hs, hat⟩ := h.exists_settles h.ready (endsGap_cons rfl _)
  obtain ⟨hsome, hnone⟩ := hat.text hspelled hforeign hs.rest
  refine hs.cuts (fun hunpaired => ?_) hnone
  obtain ⟨l', htoken, hfound, hat', hrest⟩ := hsome hunpaired
  exact ⟨l', htoken, hfound, by rw [hrest]; simp; omega, hat'⟩

/-- The mark of a key is fresh at its colon if the two are near. -/
theorem isFresh_eq_isNear (k : Json.KeyScript) {place : Place} {r : List Char} {c : Cursor}
    (hpasses : (Cursor.mk (place.along ('"' :: (k.inner ++ ['"']))) r).Passes k.gap.chars c)
    (id : Nat) (required : Bool) : isFresh c.place ⟨id, required, place⟩ = k.isNear := by
  have hbytes : '"' :: (k.inner ++ '"' :: k.gap.chars)
      = '"' :: (k.inner ++ ['"']) ++ k.gap.chars := by simp
  have hindex := hpasses.index
  have hle := hpasses.line_le
  have hline := hpasses.line_eq_iff
  rw [Place.along_index] at hindex
  rw [Place.along_line] at hle hline
  rw [Bool.eq_iff_iff, isFresh, Json.KeyScript.isNear, Json.isNear, hbytes, String.ofList_append,
    String.utf8ByteSize_append]
  simp only [Bool.not_eq_true', Bool.or_eq_false_iff, decide_eq_false_iff_not, Bool.and_eq_true,
    decide_eq_true_eq, ← hline]
  omega

/-- The state behind the closing quote of a key. -/
def behindText (k : Json.KeyScript) (r : List Char) (l : Lexer) : Lexer :=
  ((l.marked.emit (.scalar .quoted (Json.plainText k.units))).move
    ⟨l.cursor.place.along ('"' :: (k.inner ++ ['"'])),
      k.gap.chars ++ ':' :: (k.gap'.chars ++ r)⟩).allowKey false

/-- A colon behind a key is cut off. If it is near, it announces the key. -/
theorem At.runs_colon {k : Json.KeyScript} {r : List Char} (h : At (depth + 2) rest l) :
    ∃ l', Runs (l.behindText k r) l' ∧ Found l k.tokens l' ∧ At (depth + 2) r l' := by
  have hset := h.setMark (m := some ⟨l.count, false, l.cursor.place⟩) (by simp)
  have hat : At (depth + 2) (k.gap.chars ++ ':' :: (k.gap'.chars ++ r)) (l.behindText k r) :=
    ⟨hset.indents, hset.length_marks, hset.required, rfl⟩
  obtain ⟨s, hs, hats⟩ := (hat.blanks k.gap).exists_settles hat.ready (endsGap_cons rfl _)
  obtain ⟨l', hvalue, hpieces, hcount, hconfirmed, hat', hrest⟩ := hats.value? hs.rest
  have hgap : (l.behindText k r).cursor.rest.takeWhile Json.isSpace = k.gap.chars :=
    Json.takeWhile_blanks k.gap rfl _
  have hpasses := hs.passes
  rw [hgap] at hpasses
  -- the mark is given up in the gap before the colon if the colon is far away
  have hopen : s.openMark
      = if k.isNear then some ⟨l.count, false, l.cursor.place⟩ else none := by
    rw [openMark, hs.marks, ← isFresh_eq_isNear k hpasses l.count false]
    simp [behindText, marked, Lexer.setMark, move, allowKey, emit, Option.filter]
  refine ⟨l', hs.runs l' ((token?_colon hats.inFlow _).trans hvalue) (by rw [hrest]), ?_,
    hat'.blanks k.gap'⟩
  refine .key ?_ ?_ ?_
  · rw [hpieces, hs.pieces]
    rfl
  · rw [hcount, hs.count]
    rfl
  · rw [hconfirmed, hs.confirmed, hopen]
    cases k.isNear <;> rfl

/-- A key with its colon is cut off, unless it names half of a pair. -/
theorem At.cuts_key (k : Json.KeyScript) (hforeign : ∀ c ∈ k.inner, isForeignBreak c = false)
    {r : List Char} (h : At (depth + 2) (k.chars ++ r) l) (hkey : l.keyAllowed = true) :
    Cuts l (Json.Unpaired k.units) k.tokens (At (depth + 2) r) := by
  have hchars : k.chars ++ r
      = '"' :: (k.inner ++ '"' :: (k.gap.chars ++ ':' :: (k.gap'.chars ++ r))) := by
    simp [Json.KeyScript.chars]
  rw [hchars] at h
  obtain ⟨s, hs, hat⟩ := h.exists_settles h.ready (endsGap_cons rfl _)
  -- only the colon tells what becomes of the mark, so that text and colon are found in one go
  have hmark := hat.leaveMark?_eq_marked (hs.keyAllowed.trans hkey)
  have htoken := quoted?_eq hmark rfl k.spelled hforeign hs.rest
  rw [← token?_quote (k.inner ++ '"' :: (k.gap.chars ++ ':' :: (k.gap'.chars ++ r)))] at htoken
  refine ⟨fun hunpaired => ?_, fun hpaired => ?_⟩
  · rw [(Json.namesSurrogate_eq_false_iff k.spelled).2 hunpaired, if_neg (by simp)] at htoken
    obtain ⟨l', hruns, hfound, hat'⟩ := hat.runs_colon (k := k) (r := r)
    have hlength : (s.behindText k r).cursor.rest.length
        ≤ (k.inner ++ '"' :: (k.gap.chars ++ ':' :: (k.gap'.chars ++ r))).length := by
      simp [behindText, move, allowKey]
      omega
    exact ⟨l', ⟨hs.found.trans hfound, (hs.runs _ htoken hlength).trans hruns⟩, hat'⟩
  · rw [← Json.namesSurrogate_eq_false_iff k.spelled, Bool.not_eq_false] at hpaired
    rw [hpaired, if_pos rfl] at htoken
    exact hs.fails htoken

end

end Yaml.Lexer

end PodCheck
