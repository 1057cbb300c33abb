import PodCheck.Json.Printer
import PodCheck.Json.Reader
import PodCheck.Proofs.Digits

/-! # What is printed is read back

The compact form of a value is read as that value (`Json.read?_print`), if the value has no part
that printing does not keep (`Json.Plain`). The reader takes a unit of fuel for every value, item
and member, and a text has two characters at least for each; so its length bounds the fuel, and the
induction is on the value, for any rest of the text that a value may be followed by
(`Json.Closes`). -/

namespace PodCheck.Json

/-- A value whose numbers are whole and whose texts can all be read. -/
inductive Plain : Json → Prop
  /-- The literal `null`. -/
  | null : Plain .null
  /-- A truth value. -/
  | bool (value : Bool) : Plain (.bool value)
  /-- A whole number. -/
  | int (value : Int) : Plain (.int value)
  /-- A text. -/
  | text (value : String) : Plain (.text value)
  /-- A list of such values. -/
  | array {items : List Json} (h : ∀ v ∈ items, Plain v) : Plain (.array items)
  /-- An object of such values. -/
  | object {members : List (String × Json)} (h : ∀ m ∈ members, Plain m.2) :
      Plain (.object members)

attribute [simp] Plain.null Plain.bool Plain.int Plain.text

/-- A list is plain if its items are. -/
@[simp] theorem plain_array_iff {items : List Json} :
    (array items).Plain ↔ ∀ v ∈ items, v.Plain := ⟨fun | .array h => h, .array⟩

/-- An object is plain if its members are. -/
@[simp] theorem plain_object_iff {members : List (String × Json)} :
    (object members).Plain ↔ ∀ m ∈ members, m.2.Plain := ⟨fun | .object h => h, .object⟩

/-! ## Texts -/

/-- The unit as which a character is written. -/
def unitOf (c : Char) : TextUnit :=
  if 0x20 ≤ c.toNat ∨ c ∈ ['\x08', '\x0c', '\n', '\r', '\t'] then .char c else .code c.toNat

/-- The number of a control character has four digits. -/
theorem hexCode?_control : ∀ n < 32,
    hexCode? '0' '0' (Nat.digitChar (n / 16)) (Nat.digitChar (n % 16)) = some n := by
  decide

/-- A character is read as the unit as which it is written. -/
theorem readUnits_escapeChar (done : List TextUnit) (c : Char) (s : List Char) :
    readUnits done (escapeChar c ++ s) = readUnits (unitOf c :: done) s := by
  by_cases hshort : c ∈ ['"', '\\', '\x08', '\x0c', '\n', '\r', '\t']
  · simp only [List.mem_cons, List.not_mem_nil, or_false] at hshort
    rcases hshort with rfl | rfl | rfl | rfl | rfl | rfl | rfl <;>
      simp [escapeChar, readUnits, shortEscape?, unitOf]
  · simp only [List.mem_cons, List.not_mem_nil, or_false, not_or] at hshort
    obtain ⟨hquote, hslash, hb, hf, hn, hr, ht⟩ := hshort
    by_cases hcontrol : c.toNat < 0x20
    · have hcode := hexCode?_control c.toNat hcontrol
      have hunit : unitOf c = .code c.toNat := by
        simp [unitOf, hb, hf, hn, hr, ht, hcontrol]
      simp [escapeChar, hquote, hslash, hb, hf, hn, hr, ht, hcontrol, readUnits, hcode, hunit]
    · have hunit : unitOf c = .char c := by
        simp [unitOf, Nat.not_lt.1 hcontrol]
      simp only [escapeChar, hquote, hslash, hb, hf, hn, hr, ht, hcontrol, if_false, hunit,
        List.singleton_append]
      rw [readUnits]
      · rw [if_neg hcontrol]
      all_goals simp_all

/-- A unit below the surrogates stands for its character. -/
theorem decodeUnits_code {n : Nat} (h : n < 0xD800) (done : List Char) (units : List TextUnit) :
    decodeUnits done (.code n :: units) = decodeUnits (Char.ofNat n :: done) units := by
  cases units with
  | nil =>
    have hn : ¬(0xD800 ≤ n ∧ n ≤ 0xDFFF) := by omega
    simp [decodeUnits, hn]
  | cons u units => simp [decodeUnits, h]

/-- A unit stands for the character that it was written for. -/
theorem decodeUnits_unitOf (done : List Char) (c : Char) (units : List TextUnit) :
    decodeUnits done (unitOf c :: units) = decodeUnits (c :: done) units := by
  unfold unitOf
  split
  · rw [decodeUnits]
  · rename_i h
    rw [decodeUnits_code (by omega), Char.ofNat_toNat]

/-- The characters of a text are read as the units as which they are written. -/
theorem readUnits_flatMap (done : List TextUnit) (cs s : List Char) :
    readUnits done (cs.flatMap escapeChar ++ '"' :: s)
      = .ok (done.reverse ++ cs.map unitOf, s) := by
  induction cs generalizing done with
  | nil => simp [readUnits]
  | cons c cs ih =>
    rw [List.flatMap_cons, List.append_assoc, readUnits_escapeChar, ih]
    simp

/-- The units of a text stand for its characters. -/
theorem decodeUnits_map (done cs : List Char) :
    decodeUnits done (cs.map unitOf) = some (done.reverse ++ cs) := by
  induction cs generalizing done with
  | nil => simp [decodeUnits]
  | cons c cs ih => rw [List.map_cons, decodeUnits_unitOf, ih]; simp

/-- **A text is read back**, whatever it is followed by. -/
theorem readText_printText (t : String) (s : List Char) :
    readText (t.toList.flatMap escapeChar ++ '"' :: s) = .ok (some t, s) := by
  rw [readText, readUnits_flatMap]
  simp only [bind, Except.bind, List.reverse_nil, List.nil_append, decodeUnits_map, Option.map_some,
    String.ofList_toList]
  rfl

/-! ## Numbers -/

/-- A rest that a value may be followed by. -/
def Closes : List Char → Prop
  | [] => True
  | c :: _ => c ∈ [',', ']', '\x7d']

/-- A rest that a value may be followed by is none that the value goes on with. -/
theorem Closes.head_ne {s : List Char} (h : Closes s) :
    ∀ c, s.head? = some c → c.isDigit = false ∧ c ≠ '.' ∧ c ≠ 'e' ∧ c ≠ 'E' := by
  intro c hc
  cases s with
  | nil => simp at hc
  | cons d s =>
    obtain rfl := Option.some.inj hc
    have hd : d ∈ [',', ']', '\x7d'] := h
    simp only [List.mem_cons, List.not_mem_nil, or_false] at hd
    rcases hd with rfl | rfl | rfl <;> decide

/-- The digits of a number are read before the point. -/
theorem readWhole_toDigits (sign : List Char) (n : Nat) {s : List Char} (hs : Closes s) :
    readWhole sign (Nat.toDigits 10 n ++ s) = .ok ((Nat.toDigits 10 n).reverse ++ sign, s) := by
  have hdigits : ∀ c ∈ Nat.toDigits 10 n, c.isDigit = true := fun c hc =>
    Nat.isDigit_of_mem_toDigits (by decide) (by decide) hc
  by_cases hn : n = 0
  · subst hn
    cases s with
    | nil => rfl
    | cons c s => simp [readWhole, (hs.head_ne c rfl).1]
  · obtain ⟨htake, hdrop⟩ := Digits.takeWhile_append hdigits fun c hc => (hs.head_ne c hc).1
    rcases hcons : Nat.toDigits 10 n with _ | ⟨c, r⟩
    · exact absurd hcons Nat.toDigits_ne_nil
    have hc : c ≠ '0' := by
      rintro rfl
      exact hn (Digits.eq_zero_of_head? (by rw [hcons]; rfl))
    have hdigit : c.isDigit = true := hdigits c (by rw [hcons]; exact List.mem_cons_self ..)
    rw [hcons] at htake hdrop
    rw [List.cons_append] at htake hdrop ⊢
    rw [readWhole, readDigits]
    · simp only [hdigit, if_true, htake, hdrop]
    · simpa using hc

/-- Behind a whole number there is neither a point nor an exponent. -/
theorem readNumber_rest (lexeme : List Char) {s : List Char} (hs : Closes s) :
    readFraction lexeme s = .ok (lexeme, s) ∧ readExponent lexeme s = .ok (lexeme, s) := by
  cases s with
  | nil => exact ⟨rfl, rfl⟩
  | cons c s =>
    obtain ⟨-, hpoint, he, hE⟩ := hs.head_ne c rfl
    refine ⟨?_, ?_⟩
    · rw [readFraction]
      simpa using hpoint
    · simp [readExponent, he, hE]

/-- The digits behind a sign are read as a number of that sign, other than a negative zero. -/
theorem readNumber_toDigits (n : Nat) {s : List Char} (hs : Closes s) :
    readNumber (Nat.toDigits 10 n ++ s) = .ok (.int n, s)
      ∧ (n ≠ 0 → readNumber ('-' :: (Nat.toDigits 10 n ++ s)) = .ok (.int (-n), s)) := by
  have hvalue : digitsValue (Nat.toDigits 10 n) = n := Digits.value_toDigits 0 n
  have hrest := fun lexeme => readNumber_rest lexeme hs
  constructor
  · obtain ⟨c, r, hcons⟩ := List.exists_cons_of_ne_nil (Nat.toDigits_ne_nil (n := n) (b := 10))
    have hminus : c ≠ '-' := by
      rintro rfl
      have hmem : '-' ∈ Nat.toDigits 10 n := by
        rw [hcons]
        exact List.mem_cons_self ..
      have hdigit := Nat.isDigit_of_mem_toDigits (by decide) (by decide) hmem
      simp at hdigit
    have hwhole := readWhole_toDigits [] n hs
    rw [hcons, List.cons_append] at hwhole ⊢
    unfold readNumber
    split
    rename_i sign rest hsign
    have hnone : sign = [] ∧ rest = c :: (r ++ s) := by
      split at hsign
      · rename_i hcons'
        exact absurd (List.cons.inj hcons').1 hminus
      · obtain ⟨hsign, hrest⟩ := Prod.mk.inj hsign
        exact ⟨hsign.symm, hrest.symm⟩
    obtain ⟨rfl, rfl⟩ := hnone
    rw [hwhole, ← hcons]
    simp [hrest, bind, Except.bind, pure, Except.pure, hvalue]
  · intro hn
    have hwhole := readWhole_toDigits ['-'] n hs
    simp [readNumber, hwhole, hrest, bind, Except.bind, pure, Except.pure, hvalue, hn]

/-- **A whole number is read back**, whatever closes it. -/
theorem readNumber_toString (n : Int) {s : List Char} (hs : Closes s) :
    readNumber ((toString n).toList ++ s) = .ok (.int n, s) := by
  cases n with
  | ofNat m =>
    have hprint : (toString (Int.ofNat m)).toList = Nat.toDigits 10 m := Nat.toList_repr
    rw [hprint]
    exact (readNumber_toDigits m hs).1
  | negSucc m =>
    have hprint : (toString (Int.negSucc m)).toList = '-' :: Nat.toDigits 10 (m + 1) := by
      show ("-" ++ Nat.repr (m + 1)).toList = _
      rw [String.toList_append, Nat.toList_repr]
      rfl
    rw [hprint]
    exact (readNumber_toDigits (m + 1) hs).2 (Nat.succ_ne_zero m)

/-! ## Values -/

/-- There are no blanks to skip before what is none. -/
theorem skipSpace_cons {c : Char} (h : isSpace c = false) (s : List Char) :
    skipSpace (c :: s) = c :: s := by
  simp [skipSpace, h]

/-- A printed number begins with a digit or a sign. -/
theorem toString_cons (n : Int) :
    ∃ c r, (toString n).toList = c :: r ∧ (c = '-' ∨ c.isDigit = true) := by
  cases n with
  | ofNat m =>
    have hprint : (toString (Int.ofNat m)).toList = Nat.toDigits 10 m := Nat.toList_repr
    obtain ⟨c, r, hcons⟩ := List.exists_cons_of_ne_nil (Nat.toDigits_ne_nil (n := m) (b := 10))
    refine ⟨c, r, hprint.trans hcons, .inr ?_⟩
    exact Nat.isDigit_of_mem_toDigits (by decide) (by decide) (hcons ▸ List.mem_cons_self ..)
  | negSucc m =>
    have hprint : (toString (Int.negSucc m)).toList = '-' :: (Nat.repr (m + 1)).toList := by
      show ("-" ++ Nat.repr (m + 1)).toList = _
      rw [String.toList_append]
      rfl
    exact ⟨_, _, hprint, .inl rfl⟩

/-- A printed value begins with a character that is neither a blank nor the end of a list. -/
theorem printChars_cons {v : Json} (h : v.Plain) :
    ∃ c r, v.printChars = c :: r ∧ isSpace c = false ∧ c ≠ ']' := by
  cases h with
  | null => exact ⟨'n', _, rfl, by decide⟩
  | bool value => cases value <;> exact ⟨_, _, rfl, by decide⟩
  | int n =>
    obtain ⟨c, r, hcons, hc⟩ := toString_cons n
    refine ⟨c, r, hcons, ?_⟩
    rcases hc with rfl | hdigit
    · decide
    · constructor
      · simp only [isSpace, Bool.or_eq_false_iff, decide_eq_false_iff_not]
        refine ⟨⟨⟨?_, ?_⟩, ?_⟩, ?_⟩ <;> rintro rfl <;> simp at hdigit
      · rintro rfl
        simp at hdigit
  | text value => exact ⟨'"', _, rfl, by decide⟩
  | array => exact ⟨'[', _, by rw [printChars], by decide⟩
  | object => exact ⟨'\x7b', _, by rw [printChars], by decide⟩

/-- A value is read back, whatever closes it. -/
def ReadsBack (v : Json) : Prop :=
  ∀ fuel s, 2 * v.printChars.length ≤ fuel → Closes s →
    readValue fuel (v.printChars ++ s) = .ok (v, s)

/-- A whole number is read back as a value. -/
theorem readsBack_int (n : Int) : ReadsBack (.int n) := by
  intro fuel s hfuel hs
  obtain ⟨c, r, hcons, hc⟩ := toString_cons n
  have hnumber := readNumber_toString n hs
  rw [printChars, hcons] at hfuel ⊢
  rw [hcons] at hnumber
  rw [List.length_cons] at hfuel
  obtain ⟨fuel, rfl⟩ : ∃ k, fuel = k + 1 := ⟨fuel - 1, by omega⟩
  rw [List.cons_append] at hnumber ⊢
  rw [readValue]
  · rw [if_pos (by simpa using hc), hnumber]
  -- neither a digit nor a sign begins a value of another kind
  all_goals
    rintro rfl
    simp at hc

/-- Parts with commas between them begin with the first one. -/
theorem commas_cons (c : Char) (r : List Char) (parts : List (List Char)) :
    ∃ t, commas ((c :: r) :: parts) = c :: t := by
  cases parts with
  | nil => exact ⟨r, rfl⟩
  | cons => exact ⟨_, rfl⟩

/-- There are no blanks before items. -/
theorem printItems_cons {v : Json} (h : v.Plain) (items : List Json) :
    ∃ c t, commas (printChars.printItems (v :: items)) = c :: t ∧ isSpace c = false ∧ c ≠ ']' := by
  obtain ⟨c, r, hcons, hc⟩ := printChars_cons h
  rw [printChars.printItems, hcons]
  obtain ⟨t, ht⟩ := commas_cons c r (printChars.printItems items)
  exact ⟨c, t, ht, hc⟩

/-- A value that is read is the same within another one. -/
theorem mapError_ok {ε ε' α : Type} (f : ε → ε') (a : α) :
    (Except.ok a).mapError f = .ok a := rfl

/-- The items of a list are read back, with those before them. -/
theorem readItems_print {items : List Json} (hne : items ≠ [])
    (hitems : ∀ v ∈ items, v.Plain ∧ ReadsBack v) (fuel : Nat) (done : List Json) (s : List Char)
    (hfuel : 2 * (commas (printChars.printItems items)).length + 1 ≤ fuel) :
    readItems fuel done (commas (printChars.printItems items) ++ ']' :: s)
      = .ok (.array (done.reverse ++ items), s) := by
  induction items generalizing fuel done with
  | nil => exact absurd rfl hne
  | cons v items ih =>
    obtain ⟨hplain, hv⟩ := hitems v (List.mem_cons_self ..)
    obtain ⟨fuel, rfl⟩ : ∃ k, fuel = k + 1 := ⟨fuel - 1, by omega⟩
    cases items with
    | nil =>
      rw [printChars.printItems, printChars.printItems, commas] at hfuel ⊢
      rw [readItems, hv fuel (']' :: s) (by omega) (by simp [Closes])]
      simp [mapError_ok, bind, Except.bind, pure, Except.pure, skipSpace, isSpace]
    | cons w items =>
      have hcommas : commas (printChars.printItems (v :: w :: items))
          = v.printChars ++ ',' :: commas (printChars.printItems (w :: items)) := rfl
      rw [hcommas] at hfuel ⊢
      rw [List.length_append, List.length_cons] at hfuel
      have hrest : ∀ u ∈ w :: items, u.Plain ∧ ReadsBack u := fun u hu =>
        hitems u (List.mem_cons_of_mem _ hu)
      have hnext := ih (by simp) hrest fuel (v :: done) (by omega)
      obtain ⟨c, t, hcons, hspace, -⟩ :=
        printItems_cons (hrest w (List.mem_cons_self ..)).1 items
      rw [hcons] at hnext ⊢
      rw [List.append_assoc, List.cons_append, readItems,
        hv fuel (',' :: (c :: t ++ ']' :: s)) (by omega) (by simp [Closes])]
      simp only [mapError_ok, bind, Except.bind, skipSpace_cons (c := ',') (by decide),
        List.cons_append, skipSpace_cons hspace] at hnext ⊢
      rw [hnext]
      simp

/-- There are no blanks before members. -/
theorem printMembers_cons (m : String × Json) (members : List (String × Json)) :
    ∃ t, commas (printChars.printMembers (m :: members)) = '"' :: t := by
  rw [printChars.printMembers]
  exact commas_cons ..

/-- Keys that can be read make an object. -/
theorem ofMembers_map (members : List (String × Json)) :
    ofMembers (members.map fun m => (some m.1, m.2)) = .object members := by
  have hkeys : readableKeys? (members.map fun m => (some m.1, m.2)) = some members := by
    rw [readableKeys?, List.mapM_map]
    induction members with
    | nil => rfl
    | cons m members ih => rw [List.mapM_cons, ih]; rfl
  rw [ofMembers, hkeys]

/-- A member is read back, and what follows it decides how the object goes on. -/
theorem readMembers_member {k : String} {v : Json} (hplain : v.Plain) (hv : ReadsBack v)
    (fuel : Nat) (done : List (Option String × Json)) {s : List Char}
    (hfuel : 2 * v.printChars.length ≤ fuel) (hs : Closes s) :
    readMembers (fuel + 1) done (printText k ++ ':' :: (v.printChars ++ s))
      = match skipSpace s with
        | ',' :: r => readMembers fuel ((some k, v) :: done) (skipSpace r)
        | '\x7d' :: r => .ok (ofMembers ((some k, v) :: done).reverse, r)
        | [] => .error (.unfinished (.object ((some k, v) :: done).reverse))
        | _ => .error .malformed := by
  obtain ⟨c, r, hcons, hspace, -⟩ := printChars_cons hplain
  have hvalue := hv fuel s hfuel hs
  rw [hcons, List.cons_append] at hvalue ⊢
  rw [printText, List.cons_append, List.append_assoc, List.singleton_append, readMembers,
    readText_printText]
  simp only [mapError_ok, bind, Except.bind, skipSpace_cons (c := ':') (by decide),
    skipSpace_cons hspace, hvalue]
  rfl

/-- The members of an object are read back, with those before them. -/
theorem readMembers_print {members : List (String × Json)} (hne : members ≠ [])
    (hmembers : ∀ m ∈ members, m.2.Plain ∧ ReadsBack m.2) (fuel : Nat)
    (done : List (Option String × Json)) (s : List Char)
    (hfuel : 2 * (commas (printChars.printMembers members)).length + 1 ≤ fuel) :
    readMembers fuel done (commas (printChars.printMembers members) ++ '\x7d' :: s)
      = .ok (ofMembers (done.reverse ++ members.map fun m => (some m.1, m.2)), s) := by
  induction members generalizing fuel done with
  | nil => exact absurd rfl hne
  | cons m members ih =>
    obtain ⟨k, v⟩ := m
    obtain ⟨hplain, hv⟩ : v.Plain ∧ ReadsBack v := hmembers (k, v) (List.mem_cons_self ..)
    obtain ⟨fuel, rfl⟩ : ∃ k, fuel = k + 1 := ⟨fuel - 1, by omega⟩
    cases members with
    | nil =>
      have hcommas : commas (printChars.printMembers [(k, v)])
          = printText k ++ ':' :: v.printChars := rfl
      rw [hcommas] at hfuel ⊢
      rw [List.length_append, List.length_cons] at hfuel
      rw [List.append_assoc, List.cons_append,
        readMembers_member hplain hv fuel done (by omega) (by simp [Closes])]
      simp [skipSpace, isSpace]
    | cons w members =>
      have hcommas : commas (printChars.printMembers ((k, v) :: w :: members))
          = printText k ++ ':' :: v.printChars
            ++ ',' :: commas (printChars.printMembers (w :: members)) := rfl
      rw [hcommas] at hfuel ⊢
      rw [List.length_append, List.length_append, List.length_cons, List.length_cons] at hfuel
      have hnext := ih (by simp) (fun m hm => hmembers m (List.mem_cons_of_mem _ hm)) fuel
        ((some k, v) :: done) (by omega)
      obtain ⟨t, hcons⟩ := printMembers_cons w members
      have hshape : printText k ++ ':' :: v.printChars ++ ',' :: '"' :: t ++ '\x7d' :: s
          = printText k ++ ':' :: (v.printChars ++ ',' :: '"' :: (t ++ '\x7d' :: s)) := by simp
      rw [hcons] at hnext ⊢
      rw [hshape, readMembers_member hplain hv fuel done (by omega) (by simp [Closes]),
        skipSpace_cons (by decide)]
      simp only [skipSpace_cons (c := '"') (by decide)]
      exact hnext.trans (by simp)

/-- A text is read back. -/
theorem readsBack_text (t : String) : ReadsBack (.text t) := by
  intro fuel s hfuel hs
  rw [printChars, printText] at hfuel ⊢
  rw [List.length_cons] at hfuel
  obtain ⟨fuel, rfl⟩ : ∃ k, fuel = k + 1 := ⟨fuel - 1, by omega⟩
  rw [List.cons_append, List.append_assoc, List.singleton_append, readValue, readText_printText]
  rfl

/-- A list is read back if its items are. -/
theorem readsBack_array {items : List Json} (hitems : ∀ v ∈ items, v.Plain ∧ ReadsBack v) :
    ReadsBack (.array items) := by
  intro fuel s hfuel hs
  rw [printChars] at hfuel ⊢
  rw [List.length_cons, List.length_append] at hfuel
  obtain ⟨fuel, rfl⟩ : ∃ k, fuel = k + 1 := ⟨fuel - 1, by omega⟩
  rw [List.cons_append, List.append_assoc, List.singleton_append, readValue]
  cases items with
  | nil => rfl
  | cons v items =>
    -- the first item does not begin like the end of a list
    obtain ⟨c, t, hcons, hspace, hc⟩ :=
      printItems_cons (hitems v (List.mem_cons_self ..)).1 items
    have hread := readItems_print (by simp) hitems fuel [] s (by omega)
    rw [hcons, List.cons_append] at hread ⊢
    rw [skipSpace_cons hspace]
    split
    · rename_i hclose
      exact absurd (List.cons.inj hclose).1 hc
    · exact hread

/-- An object is read back if its members are. -/
theorem readsBack_object {members : List (String × Json)}
    (hmembers : ∀ m ∈ members, m.2.Plain ∧ ReadsBack m.2) : ReadsBack (.object members) := by
  intro fuel s hfuel hs
  rw [printChars] at hfuel ⊢
  rw [List.length_cons, List.length_append] at hfuel
  obtain ⟨fuel, rfl⟩ : ∃ k, fuel = k + 1 := ⟨fuel - 1, by omega⟩
  rw [List.cons_append, List.append_assoc, List.singleton_append, readValue]
  cases members with
  | nil => rfl
  | cons m members =>
    obtain ⟨t, hcons⟩ := printMembers_cons m members
    have hread := readMembers_print (by simp) hmembers fuel [] s (by omega)
    rw [hcons, List.cons_append] at hread ⊢
    rw [skipSpace_cons (by decide)]
    exact hread.trans (by rw [List.reverse_nil, List.nil_append, ofMembers_map])

/-- **Every plain value is read back**, whatever closes it. -/
theorem readsBack_of_plain {v : Json} (h : v.Plain) : ReadsBack v := by
  induction h with
  | int n => exact readsBack_int n
  | text t => exact readsBack_text t
  | array hplain ih => exact readsBack_array fun v hv => ⟨hplain v hv, ih v hv⟩
  | object hplain ih => exact readsBack_object fun m hm => ⟨hplain m hm, ih m hm⟩
  | null =>
    intro fuel s hfuel hs
    have hlength : Json.null.printChars.length = 4 := rfl
    obtain ⟨fuel, rfl⟩ : ∃ k, fuel = k + 1 := ⟨fuel - 1, by omega⟩
    rfl
  | bool b =>
    intro fuel s hfuel hs
    have hlength : 0 < (Json.bool b).printChars.length := by cases b <;> decide
    obtain ⟨fuel, rfl⟩ : ∃ k, fuel = k + 1 := ⟨fuel - 1, by omega⟩
    cases b <;> rfl

/-- **What is printed is read back.** -/
theorem read?_print {v : Json} (h : v.Plain) : read? v.print = some v := by
  obtain ⟨c, r, hcons, hspace, -⟩ := printChars_cons h
  have hlength : v.print.length = v.printChars.length := by
    rw [print, String.length_ofList]
  have hvalue := readsBack_of_plain h (2 * v.print.length + 1) [] (by omega) trivial
  rw [List.append_nil] at hvalue
  rw [read?, read, print, String.toList_ofList]
  rw [print] at hvalue
  rw [hcons] at hvalue ⊢
  rw [skipSpace_cons hspace, hvalue]
  rfl

end PodCheck.Json
