import PodCheck.Proofs.Json.Printing

/-! # JSON texts by their parts

Many texts stand for one JSON value: there may be blanks between the parts, and a character of a
text can be written in several ways. A script is a value with the way it is written: its characters
are the text (`Script.chars`), and what they stand for is the value (`Script.value`). Whatever the
reader takes as a value has a script (`exists_script_of_read?`), so that what holds of all texts can
be shown by induction over scripts. -/

namespace PodCheck.Json

/-! ## Texts -/

/-- The units that are spelled by what stands between the quotes of a text. -/
inductive Spelled : List Char → List TextUnit → Prop
  /-- Nothing spells nothing. -/
  | nil : Spelled [] []
  /-- A unit may be written by its number. -/
  | code {a b c d : Char} {n : Nat} {r : List Char} {units : List TextUnit}
    (h : hexCode? a b c d = some n) (hr : Spelled r units) :
    Spelled ('\\' :: 'u' :: a :: b :: c :: d :: r) (.code n :: units)
  /-- Some characters have a short escape. -/
  | short {c d : Char} {r : List Char} {units : List TextUnit} (h : shortEscape? c = some d)
    (hr : Spelled r units) : Spelled ('\\' :: c :: r) (.char d :: units)
  /-- Any other character stands for itself, if it is no control character. -/
  | char {c : Char} {r : List Char} {units : List TextUnit} (hquote : c ≠ '"') (hslash : c ≠ '\\')
    (hcontrol : 0x20 ≤ c.toNat) (hr : Spelled r units) : Spelled (c :: r) (.char c :: units)

/-- The units that are read are spelled by what is read. -/
theorem spelled_of_readUnits {done : List TextUnit} {s : List Char} {units : List TextUnit}
    {r : List Char} (h : readUnits done s = .ok (units, r)) :
    ∃ inner more, Spelled inner more ∧ s = inner ++ '"' :: r ∧ units = done.reverse ++ more := by
  fun_induction readUnits done s with
  | case1 | case3 | case5 | case6 | case7 | case9 | case10 => simp at h
  | case2 done r' =>
    simp only [Except.ok.injEq, Prod.mk.injEq] at h
    obtain ⟨rfl, rfl⟩ := h
    exact ⟨[], [], .nil, rfl, by simp⟩
  | case4 done a b c d r' n hn ih =>
    obtain ⟨inner, more, hspelled, rfl, rfl⟩ := ih h
    exact ⟨_, _, .code hn hspelled, rfl, by simp⟩
  | case8 done c r' hu hnil d hd ih =>
    obtain ⟨inner, more, hspelled, rfl, rfl⟩ := ih h
    exact ⟨_, _, .short hd hspelled, rfl, by simp⟩
  | case11 done c r' hquote hlast _ _ hescape hcontrol ih =>
    obtain ⟨inner, more, hspelled, rfl, rfl⟩ := ih h
    refine ⟨_, _, .char (fun h => hquote h) ?_ (by omega) hspelled, rfl, by simp⟩
    -- a backslash is followed by some character, because the text has an end
    rintro rfl
    cases hinner : inner ++ '"' :: r with
    | nil => exact hlast rfl hinner
    | cons d r' => exact hescape d r' rfl hinner

/-! ## Literals and numbers -/

/-- The digits of a whole number: a zero stands alone. -/
structure IsWhole (digits : List Char) : Prop where
  /-- There is one. -/
  ne_nil : digits ≠ []
  /-- All of them are digits. -/
  isDigit : ∀ c ∈ digits, c.isDigit = true
  /-- Only zero begins with a zero. -/
  eq_zero : digits.head? = some '0' → digits = ['0']

/-- Whether a character may stand in a number. -/
def isNumberChar (c : Char) : Bool :=
  c.isDigit || c = '-' || c = '+' || c = '.' || c = 'e' || c = 'E'

/-- What begins like a number and goes on like one. -/
inductive IsNumeral : List Char → Prop
  /-- A number without a sign begins with a digit. -/
  | unsigned {d : Char} {r : List Char} (hd : d.isDigit = true)
    (hr : ∀ c ∈ r, isNumberChar c = true) : IsNumeral (d :: r)
  /-- A number with a sign has a digit behind it. -/
  | signed {d : Char} {r : List Char} (hd : d.isDigit = true)
    (hr : ∀ c ∈ r, isNumberChar c = true) : IsNumeral ('-' :: d :: r)

/-- The value of a literal or a number. -/
inductive IsWord : List Char → Json → Prop
  /-- The literal `null`. -/
  | null : IsWord ['n', 'u', 'l', 'l'] .null
  /-- The literal `true`. -/
  | true : IsWord ['t', 'r', 'u', 'e'] (.bool true)
  /-- The literal `false`. -/
  | false : IsWord ['f', 'a', 'l', 's', 'e'] (.bool false)
  /-- A whole number without a sign. -/
  | natural {digits : List Char} (h : IsWhole digits) : IsWord digits (.int (digitsValue digits))
  /-- A whole number with a sign, other than zero. -/
  | negative {digits : List Char} (h : IsWhole digits) (hne : digitsValue digits ≠ 0) :
    IsWord ('-' :: digits) (.int (-(digitsValue digits : Int)))
  /-- Any other number. -/
  | real {letters : List Char} (h : IsNumeral letters) :
    IsWord letters (.real (String.ofList letters))

theorem readLiteral_eq_ok {value v : Json} {cs s r : List Char}
    (h : readLiteral value cs s = .ok (v, r)) : s = cs ++ r ∧ v = value := by
  fun_induction readLiteral value cs s with
  | case1 s =>
    simp only [Except.ok.injEq, Prod.mk.injEq] at h
    exact ⟨h.2, h.1.symm⟩
  | case2 | case4 => simp at h
  | case3 cs d s ih =>
    obtain ⟨rfl, rfl⟩ := ih h
    exact ⟨rfl, rfl⟩

theorem readDigits_eq_ok {done s done' r : List Char} (h : readDigits done s = .ok (done', r)) :
    ∃ digits, digits ≠ [] ∧ (∀ c ∈ digits, c.isDigit = true) ∧ s = digits ++ r
      ∧ done' = digits.reverse ++ done := by
  unfold readDigits at h
  split at h
  · simp at h
  · next c s =>
    split at h
    · next hc =>
      simp only [Except.ok.injEq, Prod.mk.injEq] at h
      obtain ⟨rfl, rfl⟩ := h
      exact ⟨_, by simp [hc], List.all_eq_true.1 List.all_takeWhile,
        List.takeWhile_append_dropWhile.symm, rfl⟩
    · simp at h

theorem readWhole_eq_ok {done s done' r : List Char} (h : readWhole done s = .ok (done', r)) :
    ∃ digits, IsWhole digits ∧ s = digits ++ r ∧ done' = digits.reverse ++ done := by
  unfold readWhole at h
  split at h
  · next s =>
    have hr : s = r ∧ done' = '0' :: done := by
      split at h
      · split at h
        · simp at h
        · simp_all
      · simp_all
    obtain ⟨rfl, rfl⟩ := hr
    exact ⟨['0'], ⟨by simp, by simp, by simp⟩, rfl, rfl⟩
  · next hzero =>
    obtain ⟨digits, hne, hdigits, rfl, rfl⟩ := readDigits_eq_ok h
    refine ⟨digits, ⟨hne, hdigits, fun hhead => ?_⟩, rfl, rfl⟩
    obtain ⟨c, digits, rfl⟩ := List.exists_cons_of_ne_nil hne
    obtain rfl := Option.some.inj hhead
    exact absurd rfl (hzero (digits ++ r))

/-- A part of a number is taken off the front of a text. -/
def TakesNumberChars (s r done done' : List Char) : Prop :=
  ∃ part, (∀ c ∈ part, isNumberChar c = true) ∧ s = part ++ r ∧ done' = part.reverse ++ done

theorem takesNumberChars_of_readDigits {done s done' r : List Char} (front : List Char)
    (hfront : ∀ c ∈ front, isNumberChar c = true)
    (h : readDigits (front.reverse ++ done) s = .ok (done', r)) :
    TakesNumberChars (front ++ s) r done done' := by
  obtain ⟨digits, -, hdigits, rfl, rfl⟩ := readDigits_eq_ok h
  refine ⟨front ++ digits, fun c hc => ?_, by simp, by simp⟩
  rcases List.mem_append.1 hc with hc | hc
  · exact hfront c hc
  · simp [isNumberChar, hdigits c hc]

theorem takesNumberChars_of_readFraction {done s done' r : List Char}
    (h : readFraction done s = .ok (done', r)) : TakesNumberChars s r done done' := by
  unfold readFraction at h
  split at h
  · exact takesNumberChars_of_readDigits ['.'] (List.forall_mem_singleton.2 rfl) h
  · simp only [Except.ok.injEq, Prod.mk.injEq] at h
    obtain ⟨rfl, rfl⟩ := h
    exact ⟨[], by simp, rfl, rfl⟩

theorem takesNumberChars_of_readExponent {done s done' r : List Char}
    (h : readExponent done s = .ok (done', r)) : TakesNumberChars s r done done' := by
  unfold readExponent at h
  split at h
  · next c s =>
    split at h
    · next hc =>
      have hmark : isNumberChar c = true := by
        rcases Bool.or_eq_true .. ▸ hc with hc | hc <;> simp [isNumberChar, of_decide_eq_true hc]
      have hfront : ∀ sign, isNumberChar sign = true → ∀ d ∈ [c, sign], isNumberChar d = true := by
        simp [hmark]
      split at h
      · exact takesNumberChars_of_readDigits [c, '+'] (hfront '+' rfl) h
      · exact takesNumberChars_of_readDigits [c, '-'] (hfront '-' rfl) h
      · exact takesNumberChars_of_readDigits [c] (by simpa using hmark) h
    · simp only [Except.ok.injEq, Prod.mk.injEq] at h
      obtain ⟨rfl, rfl⟩ := h
      exact ⟨[], by simp, rfl, rfl⟩
  · simp only [Except.ok.injEq, Prod.mk.injEq] at h
    obtain ⟨rfl, rfl⟩ := h
    exact ⟨[], by simp, rfl, rfl⟩

theorem IsWhole.isNumeral {digits : List Char} (h : IsWhole digits) {more : List Char}
    (hmore : ∀ c ∈ more, isNumberChar c = true) :
    IsNumeral (digits ++ more) ∧ IsNumeral ('-' :: (digits ++ more)) := by
  obtain ⟨d, digits, rfl⟩ := List.exists_cons_of_ne_nil h.ne_nil
  obtain ⟨hd, hdigits⟩ := List.forall_mem_cons.1 h.isDigit
  have hrest : ∀ c ∈ digits ++ more, isNumberChar c = true := fun c hc => by
    rcases List.mem_append.1 hc with hc | hc
    · simp [isNumberChar, hdigits c hc]
    · exact hmore c hc
  exact ⟨.unsigned hd hrest, .signed hd hrest⟩

/-- A word is a literal or a number. -/
theorem IsWord.isNumeral_or {letters : List Char} {v : Json} (h : IsWord letters v) :
    letters ∈ [['n', 'u', 'l', 'l'], ['t', 'r', 'u', 'e'], ['f', 'a', 'l', 's', 'e']]
      ∨ IsNumeral letters := by
  cases h with
  | null | true | false => exact .inl (by decide)
  | natural h => exact .inr (by simpa using (h.isNumeral (List.forall_mem_nil _)).1)
  | negative h => exact .inr (by simpa using (h.isNumeral (List.forall_mem_nil _)).2)
  | real h => exact .inr h

/-- The letters of a number with or without a sign, given those of a whole number in front and of
the other parts. -/
theorem isWord_of_parts {sign digits more : List Char} (hsign : sign = [] ∨ sign = ['-'])
    (hdigits : IsWhole digits) (hmore : ∀ c ∈ more, isNumberChar c = true) :
    IsWord (sign ++ (digits ++ more))
      (if more ≠ [] ∨ digitsValue digits = 0 ∧ sign ≠ [] then
        .real (String.ofList (sign ++ (digits ++ more)))
      else .int (if sign = [] then digitsValue digits else -digitsValue digits)) := by
  split
  · rcases hsign with rfl | rfl
    · exact .real (hdigits.isNumeral hmore).1
    · exact .real (hdigits.isNumeral hmore).2
  · next hwhole =>
    rw [not_or, not_and, Classical.not_not] at hwhole
    obtain ⟨rfl, hvalue⟩ := hwhole
    rw [List.append_nil]
    rcases hsign with rfl | rfl
    · exact .natural hdigits
    · exact .negative hdigits fun hzero => hvalue hzero (by simp)

/-- A number is read by its letters. -/
theorem isWord_of_readNumber {s r : List Char} {v : Json} (h : readNumber s = .ok (v, r)) :
    ∃ letters, s = letters ++ r ∧ IsWord letters v := by
  unfold readNumber at h
  split at h
  rename_i sign s' hsplit
  obtain ⟨hs, hsign⟩ : s = sign ++ s' ∧ (sign = [] ∨ sign = ['-']) := by
    split at hsplit <;> obtain ⟨rfl, rfl⟩ := Prod.mk.inj hsplit <;> simp
  simp only [bind, Except.bind] at h
  split at h
  · simp at h
  rename_i whole hwhole
  split at h
  · simp at h
  rename_i fraction hfraction
  split at h
  · simp at h
  rename_i exponent hexponent
  obtain ⟨digits, hdigits, hs', hwhole⟩ := readWhole_eq_ok hwhole
  obtain ⟨part, hpart, hrest, hfraction⟩ := takesNumberChars_of_readFraction hfraction
  obtain ⟨part', hpart', hrest', hexponent⟩ := takesNumberChars_of_readExponent hexponent
  -- it has a fraction or an exponent just if there are more letters than those of the whole number
  have hword := isWord_of_parts hsign hdigits (List.forall_mem_append.2 ⟨hpart, hpart'⟩)
  have hreverse : sign.reverse = sign := by rcases hsign with rfl | rfl <;> rfl
  have hlexeme : exponent.1.reverse = sign ++ (digits ++ (part ++ part')) := by
    simp [hexponent, hfraction, hwhole, hreverse]
  have hvalue : whole.1.reverse.drop sign.length = digits := by simp [hwhole, hreverse]
  have hlength : exponent.1.length ≠ whole.1.length ↔ part ++ part' ≠ [] := by
    rw [hexponent, hfraction]
    simp only [List.length_append, List.length_reverse, ne_eq,
      ← List.length_eq_zero_iff]
    omega
  simp only [hvalue, hlexeme, hlength, Bool.or_eq_true, Bool.and_eq_true, decide_eq_true_eq] at h
  have hletters : s = sign ++ (digits ++ (part ++ part')) ++ exponent.2 := by
    simp [hs, hs', hrest, hrest']
  split at h
  · next hreal =>
    rw [if_pos hreal] at hword
    obtain ⟨rfl, rfl⟩ := Prod.mk.inj (Except.ok.inj h)
    exact ⟨_, hletters, hword⟩
  · next hwhole =>
    rw [if_neg hwhole] at hword
    obtain ⟨rfl, rfl⟩ := Prod.mk.inj (Except.ok.inj h)
    exact ⟨_, hletters, hword⟩

/-! ## Values -/

/-- Blanks between two parts of a text. -/
structure Blanks where
  /-- The blanks. -/
  chars : List Char
  /-- There is nothing else. -/
  isSpace : ∀ c ∈ chars, Json.isSpace c = true

/-- A key as it is written, with its colon. -/
structure KeyScript where
  /-- What stands between the quotes. -/
  inner : List Char
  /-- The units. -/
  units : List TextUnit
  /-- They are spelled by what stands there. -/
  spelled : Spelled inner units
  /-- The blanks before the colon. -/
  gap : Blanks
  /-- The blanks behind the colon. -/
  gap' : Blanks

mutual

/-- A value as it is written. -/
inductive Script
  /-- A literal or a number. -/
  | word (letters : List Char) (value : Json) (h : IsWord letters value)
  /-- A text. -/
  | text (inner : List Char) (units : List TextUnit) (h : Spelled inner units)
  /-- A list without items. -/
  | emptyArray (gap : Blanks)
  /-- A list of items, with the blanks before the first one. -/
  | array (gap : Blanks) (items : ItemScript)
  /-- An object without members. -/
  | emptyObject (gap : Blanks)
  /-- An object of members, with the blanks before the first one. -/
  | object (gap : Blanks) (members : MemberScript)

/-- The items of a list as they are written, from one of them on, with the end of the list. -/
inductive ItemScript
  /-- The last item, with the blanks behind it. -/
  | last (v : Script) (gap : Blanks)
  /-- An item, with the blanks around the comma behind it, and the other ones. -/
  | more (v : Script) (gap gap' : Blanks) (items : ItemScript)

/-- The members of an object as they are written, from one of them on, with the end of the
object. -/
inductive MemberScript
  /-- The last member, with the blanks behind it. -/
  | last (key : KeyScript) (v : Script) (gap : Blanks)
  /-- A member, with the blanks around the comma behind it, and the other ones. -/
  | more (key : KeyScript) (v : Script) (gap gap' : Blanks) (members : MemberScript)

end

/-- The text of some units, if it can be read. -/
def textOf? (units : List TextUnit) : Option String := (decodeUnits [] units).map String.ofList

namespace KeyScript

/-- The characters of a key. -/
def chars (k : KeyScript) : List Char :=
  '"' :: (k.inner ++ '"' :: (k.gap.chars ++ ':' :: k.gap'.chars))

/-- The key, if it can be read. -/
def value (k : KeyScript) : Option String := textOf? k.units

end KeyScript

mutual

/-- The characters of a value. -/
def Script.chars : Script → List Char
  | .word letters _ _ => letters
  | .text inner _ _ => '"' :: (inner ++ ['"'])
  | .emptyArray gap => '[' :: (gap.chars ++ [']'])
  | .array gap items => '[' :: (gap.chars ++ items.chars)
  | .emptyObject gap => '\x7b' :: (gap.chars ++ ['\x7d'])
  | .object gap members => '\x7b' :: (gap.chars ++ members.chars)

/-- The characters of items. -/
def ItemScript.chars : ItemScript → List Char
  | .last v gap => v.chars ++ (gap.chars ++ [']'])
  | .more v gap gap' items => v.chars ++ (gap.chars ++ ',' :: (gap'.chars ++ items.chars))

/-- The characters of members. -/
def MemberScript.chars : MemberScript → List Char
  | .last key v gap => key.chars ++ (v.chars ++ (gap.chars ++ ['\x7d']))
  | .more key v gap gap' members =>
    key.chars ++ (v.chars ++ (gap.chars ++ ',' :: (gap'.chars ++ members.chars)))

end

mutual

/-- What is written. -/
def Script.value : Script → Json
  | .word _ value _ => value
  | .text _ units _ => (textOf? units).elim .unreadable .text
  | .emptyArray _ => .array []
  | .array _ items => .array items.values
  | .emptyObject _ => .object []
  | .object _ members => ofMembers members.values

/-- The items that are written. -/
def ItemScript.values : ItemScript → List Json
  | .last v _ => [v.value]
  | .more v _ _ items => v.value :: items.values

/-- The members that are written. -/
def MemberScript.values : MemberScript → List (Option String × Json)
  | .last key v _ => [(key.value, v.value)]
  | .more key v _ _ members => (key.value, v.value) :: members.values

end

/-! ## What is read has a script -/

/-- A text is some blanks and what comes behind them. -/
theorem exists_blanks (s : List Char) : ∃ gap : Blanks, s = gap.chars ++ skipSpace s :=
  ⟨⟨s.takeWhile isSpace, List.all_eq_true.1 List.all_takeWhile⟩,
    List.takeWhile_append_dropWhile.symm⟩

theorem spelled_of_readText {s r : List Char} {t : Option String} (h : readText s = .ok (t, r)) :
    ∃ inner units, Spelled inner units ∧ s = inner ++ '"' :: r ∧ t = textOf? units := by
  unfold readText at h
  simp only [bind, Except.bind] at h
  split at h
  · simp at h
  · next units hunits =>
    obtain ⟨inner, more, hspelled, rfl, hmore⟩ := spelled_of_readUnits hunits
    obtain ⟨rfl, rfl⟩ := Prod.mk.inj (Except.ok.inj h)
    rw [List.reverse_nil, List.nil_append] at hmore
    exact ⟨inner, more, hspelled, rfl, by rw [hmore]; rfl⟩

/-- A key that is read, with its colon, has a script. -/
theorem exists_key_of_readText {s r r' : List Char} {t : Option String}
    (h : readText s = .ok (t, r)) (hcolon : skipSpace r = ':' :: r') :
    ∃ key : KeyScript, '"' :: s = key.chars ++ skipSpace r' ∧ key.value = t := by
  obtain ⟨inner, units, hspelled, rfl, rfl⟩ := spelled_of_readText h
  obtain ⟨gap, hgap⟩ := exists_blanks r
  obtain ⟨gap', hgap'⟩ := exists_blanks r'
  rw [hcolon] at hgap
  refine ⟨⟨inner, units, hspelled, gap, gap'⟩, ?_, rfl⟩
  rw [KeyScript.chars, hgap]
  conv => lhs; rw [hgap']
  simp

theorem of_mapError_eq_ok {ε ε' α : Type} {f : ε → ε'} {x : Except ε α} {a : α}
    (h : x.mapError f = .ok a) : x = .ok a := by
  cases x with
  | error e => cases h
  | ok b =>
    rw [mapError_ok] at h
    exact congrArg _ (Except.ok.inj h)

/-- Every value that is read with some fuel has a script. -/
def ScriptedValues (fuel : Nat) : Prop :=
  ∀ {s : List Char} {v : Json} {r : List Char}, readValue fuel s = .ok (v, r) →
    ∃ t : Script, s = t.chars ++ r ∧ v = t.value

/-- So have the items of every list, from one of them on. -/
def ScriptedItems (fuel : Nat) : Prop :=
  ∀ {done : List Json} {s : List Char} {v : Json} {r : List Char},
    readItems fuel done s = .ok (v, r) →
      ∃ items : ItemScript, s = items.chars ++ r ∧ v = .array (done.reverse ++ items.values)

/-- So have the members of every object, from one of them on. -/
def ScriptedMembers (fuel : Nat) : Prop :=
  ∀ {done : List (Option String × Json)} {s : List Char} {v : Json} {r : List Char},
    readMembers fuel done s = .ok (v, r) →
      ∃ members : MemberScript, s = members.chars ++ r
        ∧ v = ofMembers (done.reverse ++ members.values)

theorem scriptedValues_succ {fuel : Nat} (hitems : ScriptedItems fuel)
    (hmembers : ScriptedMembers fuel) : ScriptedValues (fuel + 1) := by
  intro s v r h
  unfold readValue at h
  split at h
  · simp at h
  · simp at h
  next fuel' c r' hfuel =>
  obtain rfl : fuel = fuel' := by omega
  split at h
  · obtain ⟨rfl, rfl⟩ := readLiteral_eq_ok h
    exact ⟨.word _ _ .null, rfl, rfl⟩
  · obtain ⟨rfl, rfl⟩ := readLiteral_eq_ok h
    exact ⟨.word _ _ .true, rfl, rfl⟩
  · obtain ⟨rfl, rfl⟩ := readLiteral_eq_ok h
    exact ⟨.word _ _ .false, rfl, rfl⟩
  · simp only [bind, Except.bind] at h
    split at h
    · simp at h
    · next hread =>
      obtain ⟨inner, units, hspelled, rfl, ht⟩ := spelled_of_readText hread
      obtain ⟨rfl, rfl⟩ := Prod.mk.inj (Except.ok.inj h)
      exact ⟨.text inner units hspelled, by simp [Script.chars], by rw [ht, Script.value]⟩
  · obtain ⟨gap, hgap⟩ := exists_blanks r'
    split at h
    · next hclose =>
      obtain ⟨rfl, rfl⟩ := Prod.mk.inj (Except.ok.inj h)
      rw [hclose] at hgap
      exact ⟨.emptyArray gap, by simp [Script.chars, hgap], rfl⟩
    · obtain ⟨items, hchars, rfl⟩ := hitems h
      rw [hchars] at hgap
      exact ⟨.array gap items, by simp [Script.chars, hgap], rfl⟩
  · obtain ⟨gap, hgap⟩ := exists_blanks r'
    split at h
    · next hclose =>
      obtain ⟨rfl, rfl⟩ := Prod.mk.inj (Except.ok.inj h)
      rw [hclose] at hgap
      exact ⟨.emptyObject gap, by simp [Script.chars, hgap], rfl⟩
    · obtain ⟨members, hchars, rfl⟩ := hmembers h
      rw [hchars] at hgap
      exact ⟨.object gap members, by simp [Script.chars, hgap], rfl⟩
  · split at h
    · obtain ⟨letters, hs, hword⟩ := isWord_of_readNumber h
      exact ⟨.word letters v hword, hs, rfl⟩
    · simp at h

theorem scriptedItems_succ {fuel : Nat} (hvalues : ScriptedValues fuel)
    (hitems : ScriptedItems fuel) : ScriptedItems (fuel + 1) := by
  intro done s v r h
  simp only [readItems, bind, Except.bind] at h
  split at h
  · simp at h
  next p hread =>
  obtain ⟨t, hs, ht⟩ := hvalues (of_mapError_eq_ok hread)
  obtain ⟨gap, hgap⟩ := exists_blanks p.2
  split at h
  · next r' hcomma =>
    obtain ⟨gap', hgap'⟩ := exists_blanks r'
    obtain ⟨items, hchars, rfl⟩ := hitems h
    rw [hcomma] at hgap
    rw [hchars] at hgap'
    exact ⟨.more t gap gap' items, by simp [ItemScript.chars, hs, hgap, hgap'],
      by simp [ItemScript.values, ht]⟩
  · next hclose =>
    obtain ⟨rfl, rfl⟩ := Prod.mk.inj (Except.ok.inj h)
    rw [hclose] at hgap
    exact ⟨.last t gap, by simp [ItemScript.chars, hs, hgap], by simp [ItemScript.values, ht]⟩
  · simp at h
  · simp at h

theorem scriptedMembers_succ {fuel : Nat} (hvalues : ScriptedValues fuel)
    (hmembers : ScriptedMembers fuel) : ScriptedMembers (fuel + 1) := by
  intro done s v r h
  unfold readMembers at h
  split at h
  · simp only [bind, Except.bind] at h
    split at h
    · simp at h
    next q hkey =>
    split at h
    · simp at h
    · next r' hcolon =>
      obtain ⟨key, hfront, hvalue⟩ := exists_key_of_readText (of_mapError_eq_ok hkey) hcolon
      split at h
      · simp at h
      next p hread =>
      obtain ⟨t, hs, ht⟩ := hvalues (of_mapError_eq_ok hread)
      rw [hs] at hfront
      obtain ⟨behind, hbehind⟩ := exists_blanks p.2
      split at h
      · next r'' hcomma =>
        obtain ⟨next, hnext⟩ := exists_blanks r''
        obtain ⟨members, hchars, rfl⟩ := hmembers h
        rw [hcomma] at hbehind
        rw [hchars] at hnext
        exact ⟨.more key t behind next members,
          by simp [MemberScript.chars, hfront, hbehind, hnext],
          by simp [MemberScript.values, ht, hvalue]⟩
      · next hclose =>
        obtain ⟨rfl, rfl⟩ := Prod.mk.inj (Except.ok.inj h)
        rw [hclose] at hbehind
        exact ⟨.last key t behind, by simp [MemberScript.chars, hfront, hbehind],
          by simp [MemberScript.values, ht, hvalue]⟩
      · simp at h
      · simp at h
    · simp at h
  · simp only [bind, Except.bind] at h
    split at h <;> simp at h

/-- Whatever is read has a script. -/
theorem scripted (fuel : Nat) :
    ScriptedValues fuel ∧ ScriptedItems fuel ∧ ScriptedMembers fuel := by
  induction fuel with
  | zero =>
    refine ⟨fun h => ?_, fun h => ?_, fun h => ?_⟩
    · simp [readValue] at h
    · simp [readItems] at h
    · simp [readMembers] at h
  | succ fuel ih =>
    obtain ⟨hvalues, hitems, hmembers⟩ := ih
    exact ⟨scriptedValues_succ hitems hmembers, scriptedItems_succ hvalues hitems,
      scriptedMembers_succ hvalues hmembers⟩

/-- **Every text that is read is the script of what is read**, with blanks around it. -/
theorem exists_script_of_read? {s : String} {v : Json} (h : read? s = some v) :
    ∃ (before after : Blanks) (t : Script),
      s.toList = before.chars ++ (t.chars ++ after.chars) ∧ v = t.value := by
  unfold read? read at h
  simp only [bind, Except.bind] at h
  split at h
  · simp [Except.toOption] at h
  next p hread =>
  obtain ⟨t, hs, ht⟩ := (scripted _).1 hread
  obtain ⟨before, hbefore⟩ := exists_blanks s.toList
  obtain ⟨after, hafter⟩ := exists_blanks p.2
  split at h
  · next hend =>
    rw [hend, List.append_nil] at hafter
    rw [hs] at hbefore
    exact ⟨before, after, t, by rw [hbefore, ← hafter], (Option.some.inj h).symm.trans ht⟩
  · simp [Except.toOption] at h

end PodCheck.Json
