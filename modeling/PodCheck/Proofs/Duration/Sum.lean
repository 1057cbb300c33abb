import PodCheck.Duration.Reader

/-! # Durations as sums

A text is read term by term, and every term adds seconds and nanoseconds in one or two steps. Here
the two are told apart: which steps a text asks for (`Duration.Additions`), and what comes of taking
them one after the other (`Duration.addAll`). A duration that has been read is the exact sum of its
steps (`Duration.toNanos_of_addAll`). The reader itself stops in one place only: where the steps so
far come to the very limit of seconds and their nanoseconds to exactly one second
(`Duration.read_eq_crashed_iff`); this carry is made without a check. The length of a text is enough
fuel for all of its terms (`Duration.readTerms_of_length_le`). -/

namespace PodCheck.Duration

/-! ## Steps -/

/-- A step: what is added to a duration at once. -/
structure Addition where
  /-- Whole seconds. -/
  secs : Nat
  /-- Nanoseconds, as many as a machine word holds. -/
  nanos : Nat
deriving DecidableEq

/-- The whole length of a step in nanoseconds. -/
def Addition.toNanos (a : Addition) : Nat := a.secs * nanosPerSecond + a.nanos

/-- The length of some steps together in nanoseconds. -/
def sumNanos : List Addition → Nat
  | [] => 0
  | a :: l => a.toNanos + sumNanos l

/-- Takes some steps one after the other. -/
def addAll (d : Duration) (l : List Addition) : Except ReadFailure Duration :=
  l.foldlM (fun d a => d.add a.secs a.nanos) d

@[simp] theorem addAll_nil (d : Duration) : d.addAll [] = .ok d := rfl

theorem addAll_cons (d : Duration) (a : Addition) (l : List Addition) :
    d.addAll (a :: l) = (d.add a.secs a.nanos).bind fun d => d.addAll l := rfl

theorem addAll_append (d : Duration) (l l' : List Addition) :
    d.addAll (l ++ l') = (d.addAll l).bind fun d => d.addAll l' := List.foldlM_append

/-- What is bound to a result that is there. -/
theorem exists_of_bind {α β : Type} {x : Except ReadFailure α} {f : α → Except ReadFailure β}
    {b : β} (h : x.bind f = .ok b) : ∃ a, x = .ok a ∧ f a = .ok b := by
  cases x with
  | error e => cases h
  | ok a => exact ⟨a, rfl, h⟩

/-- A machine word is too small for some counts, and holds all others. -/
theorem word_cases (n : Nat) :
    (secondsLimit ≤ n ∧ word n = .error (.refused .tooLarge))
      ∨ (n < secondsLimit ∧ word n = .ok n) := by
  unfold word
  split
  · exact .inr ⟨‹_›, rfl⟩
  · exact .inl ⟨Nat.le_of_not_lt ‹_›, rfl⟩

/-- The duration of some parts is exact, and they have none just beyond the range. -/
theorem ofParts?_cases (secs nanos : Nat) :
    (∃ d, ofParts? secs nanos = some d ∧ d.toNanos = secs * nanosPerSecond + nanos)
      ∨ (ofParts? secs nanos = none ∧ secondsLimit ≤ secs + nanos / nanosPerSecond) := by
  unfold ofParts?
  split
  · refine .inl ⟨_, rfl, ?_⟩
    simp only [toNanos, nanosPerSecond]
    omega
  · exact .inr ⟨rfl, Nat.le_of_not_lt ‹_›⟩

/-- A step fills up a duration: the nanoseconds make up exactly one second, and with it the whole
comes to the limit of seconds. -/
def Fills (d : Duration) (a : Addition) : Prop :=
  d.nanos + a.nanos = nanosPerSecond ∧ d.toNanos + a.toNanos = secondsLimit * nanosPerSecond

/-- A duration stays below the limit of seconds. -/
theorem toNanos_lt (d : Duration) : d.toNanos < secondsLimit * nanosPerSecond := by
  have hsecs := d.secs_lt
  have hnanos := d.nanos_lt
  simp only [toNanos, nanosPerSecond, secondsLimit] at *
  omega

/-- The end of a step: the nanoseconds that are left may still make up a second. -/
def settle (secs n : Nat) : Except ReadFailure Duration := do
  let secs ← word secs
  match ofParts? secs n with
  | some d => pure d
  | none => .error (.crashed .secondCarried)

/-- A step carries nanoseconds beyond one second under check, and leaves the rest to its end. -/
theorem add_eq (d : Duration) (secs nanos : Nat) :
    d.add secs nanos = (word (d.nanos + nanos)).bind fun n =>
      if nanosPerSecond < n then
        (word (secs + n / nanosPerSecond)).bind fun secs =>
          settle (d.secs + secs) (n % nanosPerSecond)
      else settle (d.secs + secs) n := by
  unfold add
  cases word (d.nanos + nanos) with
  | error e => rfl
  | ok n =>
    show (if nanosPerSecond < n then _ else _) = if nanosPerSecond < n then _ else _
    by_cases hcarry : nanosPerSecond < n
    · simp only [if_pos hcarry]
      rfl
    · simp only [if_neg hcarry]
      rfl

/-- The end of a step is exact, or too large by a second at least, or stops the reader where a whole
second of nanoseconds is left and there is no room for it. -/
theorem settle_cases (secs : Nat) {n : Nat} (hn : n ≤ nanosPerSecond) :
    (∃ d, settle secs n = .ok d ∧ d.toNanos = secs * nanosPerSecond + n)
      ∨ (settle secs n = .error (.refused .tooLarge) ∧ secondsLimit ≤ secs)
      ∨ (settle secs n = .error (.crashed .secondCarried) ∧ n = nanosPerSecond
        ∧ secs + 1 = secondsLimit) := by
  unfold settle
  rcases word_cases secs with ⟨hsecs, hword⟩ | ⟨hsecs, hword⟩
  · exact .inr (.inl ⟨by rw [hword]; rfl, hsecs⟩)
  rw [hword]
  rcases ofParts?_cases secs n with ⟨d, hd, hexact⟩ | ⟨hnone, hlimit⟩
  · exact .inl ⟨d, by simp only [bind, Except.bind, hd, pure, Except.pure], hexact⟩
  · refine .inr (.inr ⟨by simp only [bind, Except.bind, hnone], ?_⟩)
    simp only [nanosPerSecond, secondsLimit] at *
    omega

/-- **What a step can do**: it adds exactly what it says, is refused as too large, or stops the
reader where it fills up the duration. -/
theorem add_cases (d : Duration) (a : Addition) :
    (∃ d', d.add a.secs a.nanos = .ok d' ∧ d'.toNanos = d.toNanos + a.toNanos)
      ∨ (d.add a.secs a.nanos = .error (.refused .tooLarge) ∧ ¬ d.Fills a)
      ∨ (d.add a.secs a.nanos = .error (.crashed .secondCarried) ∧ d.Fills a) := by
  have hsecs := d.secs_lt
  have hnanos := d.nanos_lt
  rw [add_eq]
  rcases word_cases (d.nanos + a.nanos) with ⟨hn, hword⟩ | ⟨hn, hword⟩
  · rw [hword]
    refine .inr (.inl ⟨rfl, ?_⟩)
    rintro ⟨hfill, -⟩
    simp only [nanosPerSecond, secondsLimit] at *
    omega
  rw [hword, Except.bind]
  by_cases hcarry : nanosPerSecond < d.nanos + a.nanos
  · -- more than one second is carried, so no whole second is left
    have hover : ¬ d.Fills a := fun hfill => absurd hfill.1 (Nat.ne_of_gt hcarry)
    have hleft : (d.nanos + a.nanos) % nanosPerSecond < nanosPerSecond :=
      Nat.mod_lt _ (by decide)
    rw [if_pos hcarry]
    rcases word_cases (a.secs + (d.nanos + a.nanos) / nanosPerSecond) with
      ⟨-, hword⟩ | ⟨-, hword⟩
    · exact .inr (.inl ⟨by rw [hword]; rfl, hover⟩)
    rw [hword, Except.bind]
    rcases settle_cases (d.secs + (a.secs + (d.nanos + a.nanos) / nanosPerSecond))
      (Nat.le_of_lt hleft) with ⟨d', hd', hexact⟩ | ⟨hrefused, -⟩ | ⟨-, hfull, -⟩
    · refine .inl ⟨d', hd', ?_⟩
      rw [hexact]
      simp only [toNanos, Addition.toNanos, nanosPerSecond]
      omega
    · exact .inr (.inl ⟨hrefused, hover⟩)
    · exact absurd hfull (Nat.ne_of_lt hleft)
  · rw [if_neg hcarry]
    rcases settle_cases (d.secs + a.secs) (Nat.le_of_not_lt hcarry) with
      ⟨d', hd', hexact⟩ | ⟨hrefused, hlimit⟩ | ⟨hcrashed, hfull, hlimit⟩
    · refine .inl ⟨d', hd', ?_⟩
      rw [hexact]
      simp only [toNanos, Addition.toNanos, nanosPerSecond]
      omega
    · refine .inr (.inl ⟨hrefused, ?_⟩)
      rintro ⟨hfill, hwhole⟩
      simp only [toNanos, Addition.toNanos, nanosPerSecond, secondsLimit] at *
      omega
    · refine .inr (.inr ⟨hcrashed, hfull, ?_⟩)
      simp only [toNanos, Addition.toNanos, nanosPerSecond, secondsLimit] at *
      omega

/-- **The reader stops at a step just if the step fills up the duration.** -/
theorem add_eq_crashed_iff {d : Duration} {a : Addition} {crash : Crash} :
    d.add a.secs a.nanos = .error (.crashed crash) ↔ d.Fills a := by
  cases crash
  rcases d.add_cases a with ⟨d', hd', hexact⟩ | ⟨hrefused, hnot⟩ | ⟨hcrashed, hfills⟩
  · rw [hd']
    refine ⟨nofun, fun hfills => absurd d'.toNanos_lt ?_⟩
    rw [hexact, hfills.2]
    exact Nat.lt_irrefl _
  · rw [hrefused]
    exact ⟨nofun, fun hfills => absurd hfills hnot⟩
  · exact ⟨fun _ => hfills, fun _ => hcrashed⟩

/-- A step that is taken is exact. -/
theorem toNanos_of_add {d d' : Duration} {a : Addition} (h : d.add a.secs a.nanos = .ok d') :
    d'.toNanos = d.toNanos + a.toNanos := by
  rcases d.add_cases a with ⟨e, he, hexact⟩ | ⟨he, -⟩ | ⟨he, -⟩
  · rw [← hexact, Except.ok.inj (h.symm.trans he)]
  · cases h.symm.trans he
  · cases h.symm.trans he

/-- **What has been added up is the exact sum.** -/
theorem toNanos_of_addAll {d d' : Duration} {l : List Addition} (h : d.addAll l = .ok d') :
    d'.toNanos = d.toNanos + sumNanos l := by
  induction l generalizing d with
  | nil =>
    obtain rfl : d = d' := by simpa using h
    exact (Nat.add_zero _).symm
  | cons a l ih =>
    obtain ⟨e, he, h⟩ := exists_of_bind h
    rw [ih h, toNanos_of_add he, sumNanos, Nat.add_assoc]

/-- **The reader stops at some steps just if one of them fills up what those before it come to.** -/
theorem addAll_eq_crashed_iff {d : Duration} {l : List Addition} {crash : Crash} :
    d.addAll l = .error (.crashed crash)
      ↔ ∃ before a after e, l = before ++ a :: after ∧ d.addAll before = .ok e ∧ e.Fills a := by
  induction l generalizing d with
  | nil => simp
  | cons b l ih =>
    -- the step at which the reader stops is the first one, or it is met by taking the rest
    rw [addAll_cons]
    constructor
    · intro h
      cases hb : d.add b.secs b.nanos with
      | error e =>
        rw [hb] at h
        obtain rfl := Except.error.inj h
        exact ⟨[], b, l, d, rfl, rfl, add_eq_crashed_iff.1 hb⟩
      | ok d' =>
        rw [hb] at h
        obtain ⟨before, a, after, e, rfl, hbefore, hfills⟩ := ih.1 h
        refine ⟨b :: before, a, after, e, rfl, ?_, hfills⟩
        rw [addAll_cons, hb]
        exact hbefore
    · rintro ⟨before, a, after, e, hl, hbefore, hfills⟩
      rcases List.cons_eq_append_iff.1 hl with ⟨rfl, htail⟩ | ⟨before, rfl, rfl⟩
      · obtain ⟨rfl, rfl⟩ := List.cons.inj htail
        obtain rfl := Except.ok.inj hbefore
        rw [add_eq_crashed_iff.2 hfills]
        rfl
      · rw [addAll_cons] at hbefore
        cases hb : d.add b.secs b.nanos with
        | error e =>
          rw [hb] at hbefore
          cases hbefore
        | ok d' =>
          rw [hb] at hbefore
          exact ih.2 ⟨before, a, after, e, rfl, hbefore, hfills⟩

/-! ## Faults of the text -/

/-- A result with which the reader does not stop. -/
def Proper {α : Type} (x : Except ReadFailure α) : Prop := ∀ crash, x ≠ .error (.crashed crash)

theorem Proper.ok {α : Type} (a : α) : Proper (.ok a) := nofun

theorem Proper.refused {α : Type} (e : ReadError) :
    Proper (.error (.refused e) : Except ReadFailure α) := nofun

theorem Proper.bind {α β : Type} {x : Except ReadFailure α} {f : α → Except ReadFailure β}
    (hx : Proper x) (hf : ∀ a, Proper (f a)) : Proper (x >>= f) := by
  cases x with
  | error e =>
    intro crash h
    obtain rfl : e = .crashed crash := Except.error.inj h
    exact hx crash rfl
  | ok a => exact hf a

theorem proper_word (n : Nat) : Proper (word n) := by
  rcases word_cases n with ⟨-, h⟩ | ⟨-, h⟩ <;> rw [h]
  · exact .refused _
  · exact .ok _

theorem proper_firstDigit? (mark offset : Nat) (s : List Char) :
    Proper (firstDigit? mark offset s) := by
  induction s generalizing offset with
  | nil => exact .ok _
  | cons c r ih =>
    unfold firstDigit?
    split
    · exact .ok _
    split
    · exact ih _
    · exact .refused _

theorem proper_readFraction (whole : Nat) (f : Fraction) (mark offset : Nat) (s : List Char) :
    Proper (readFraction whole f mark offset s) := by
  induction s generalizing f mark offset with
  | nil =>
    unfold readFraction
    split
    · exact .refused _
    · exact .ok _
  | cons c r ih =>
    unfold readFraction
    split
    · exact (proper_word _).bind fun _ => (proper_word _).bind fun _ => ih _ _ _
    split
    · exact ih _ _ _
    split
    · exact .ok _
    · exact .refused _

theorem proper_readNumber (whole offset : Nat) (s : List Char) :
    Proper (readNumber whole offset s) := by
  induction s generalizing whole offset with
  | nil => exact .ok _
  | cons c r ih =>
    unfold readNumber
    split
    · exact (proper_word _).bind fun _ => ih _ _
    split
    · exact ih _ _
    split
    · exact .ok _
    split
    · exact proper_readFraction _ _ _ _ _
    · exact .refused _

theorem proper_readUnit (offset : Nat) (s : List Char) : Proper (readUnit offset s) := by
  induction s generalizing offset with
  | nil => exact .ok _
  | cons c r ih =>
    unfold readUnit
    split
    · exact .ok _
    split
    · exact .ok _
    split
    · exact (ih _).bind fun _ => .ok _
    · exact .refused _

/-! ## Terms -/

/-- A term of a text. -/
structure Term where
  /-- Its unit. -/
  unit : TimeUnit
  /-- Its digits before the point. -/
  whole : Nat
  /-- Those behind it, if there is a point. -/
  fraction : Option Fraction
  /-- The byte at which the next term begins. -/
  offset : Nat
  /-- The text from the next term on. -/
  rest : List Char

/-- The next term of a text; `none` at its end. -/
def readTerm? (offset : Nat) (s : List Char) : Except ReadFailure (Option Term) := do
  match ← firstDigit? offset offset s with
  | none => pure none
  | some (digit, offset, s) =>
    let n ← readNumber digit offset s
    let u ← readUnit n.offset n.rest
    match TimeUnit.named? (String.ofList u.name) with
    | some unit => pure (some ⟨unit, n.whole, n.fraction, u.offset, u.rest⟩)
    | none =>
      if u.name.isEmpty then .error (.refused (.unitMissing n.whole))
      else .error (.refused (.unknownUnit (String.ofList u.name)))

/-- Terms are added up one after the other. -/
theorem readTerms_succ (fuel : Nat) (total : Duration) (offset : Nat) (s : List Char) :
    readTerms (fuel + 1) total offset s = (readTerm? offset s).bind fun t? =>
      match t? with
      | none => .ok total
      | some t => (addTerm total t.unit t.whole t.fraction).bind fun total =>
        readTerms fuel total t.offset t.rest := by
  rw [readTerms, readTerm?]
  cases firstDigit? offset offset s with
  | error e => rfl
  | ok first? =>
    cases first? with
    | none => rfl
    | some first =>
      obtain ⟨digit, offset, s⟩ := first
      cases hn : readNumber digit offset s with
      | error e => simp [bind, Except.bind, hn]
      | ok n =>
        cases hu : readUnit n.offset n.rest with
        | error e => simp [bind, Except.bind, hn, hu]
        | ok u =>
          simp only [bind, Except.bind, hn, hu]
          cases TimeUnit.named? (String.ofList u.name) with
          | some unit => rfl
          | none => by_cases hname : u.name.isEmpty <;> simp only [hname] <;> rfl

theorem proper_readTerm? (offset : Nat) (s : List Char) : Proper (readTerm? offset s) := by
  unfold readTerm?
  refine (proper_firstDigit? _ _ _).bind fun first? => ?_
  split
  · exact .ok _
  refine (proper_readNumber _ _ _).bind fun n => (proper_readUnit _ _).bind fun u => ?_
  split
  · exact .ok _
  split
  · exact .refused _
  · exact .refused _

/-! ## The steps of a text -/

/-- What a text asks for: steps, and the fault at which they end, if there is one. -/
structure Additions where
  /-- The steps in order. -/
  steps : List Addition := []
  /-- The fault behind them. -/
  fault? : Option ReadFailure := none

namespace Additions

/-- A single step. -/
def one (a : Addition) : Additions := ⟨[a], none⟩

/-- A fault at once. -/
def fault (e : ReadFailure) : Additions := ⟨[], some e⟩

/-- One after the other; what stands behind a fault is not asked for. -/
def andThen (x y : Additions) : Additions :=
  match x.fault? with
  | none => ⟨x.steps ++ y.steps, y.fault?⟩
  | some _ => x

/-- Takes the steps from a duration on, up to the fault. -/
def addTo (x : Additions) (d : Duration) : Except ReadFailure Duration :=
  (d.addAll x.steps).bind fun d =>
    match x.fault? with
    | none => .ok d
    | some e => .error e

@[simp] theorem addTo_fault (e : ReadFailure) (d : Duration) : (fault e).addTo d = .error e := rfl

theorem addTo_one (a : Addition) (d : Duration) : (one a).addTo d = d.add a.secs a.nanos := by
  unfold addTo one
  rw [addAll_cons]
  cases d.add a.secs a.nanos <;> rfl

theorem addTo_andThen (x y : Additions) (d : Duration) :
    (x.andThen y).addTo d = (x.addTo d).bind y.addTo := by
  obtain ⟨steps, fault?⟩ := x
  cases fault? with
  | none =>
    simp only [andThen, addTo, addAll_append]
    cases d.addAll steps <;> rfl
  | some e =>
    simp only [andThen, addTo]
    cases d.addAll steps <;> rfl

/-- The fault is one of the text. -/
def Honest (x : Additions) : Prop := ∀ crash, x.fault? ≠ some (.crashed crash)

theorem Honest.andThen {x y : Additions} (hx : x.Honest) (hy : y.Honest) :
    (x.andThen y).Honest := by
  unfold Additions.andThen
  cases hfault : x.fault? with
  | none => exact hy
  | some e => exact hx

theorem Honest.fault {e : ReadFailure} (he : Proper (.error e : Except ReadFailure Duration)) :
    (fault e).Honest := fun crash h => he crash (by rw [Option.some.inj h])

/-- Behind an honest fault, the reader stops only in a step. -/
theorem Honest.addTo_eq_crashed_iff {x : Additions} (hx : x.Honest) {d : Duration}
    {crash : Crash} :
    x.addTo d = .error (.crashed crash) ↔ d.addAll x.steps = .error (.crashed crash) := by
  unfold addTo
  cases d.addAll x.steps with
  | error e => exact .rfl
  | ok e =>
    refine ⟨fun h => absurd ?_ (hx crash), nofun⟩
    cases hfault : x.fault? with
    | none => rw [hfault] at h; cases h
    | some e => rw [hfault] at h; cases h; rfl

end Additions

/-- What the part behind the point of a number asks for. -/
def fractionAdditions (unit : TimeUnit) : Option Fraction → Additions
  | none => {}
  | some f =>
    match unit.grains with
    | none => .fault (.refused .tooLarge)
    | some grains =>
      let n := f.numerator * grains
      if n < secondsLimit ∧ n % f.denominator = 0 then
        .one (if unit.coarse then ⟨n / f.denominator, 0⟩ else ⟨0, n / f.denominator⟩)
      else .fault (.refused .tooLarge)

/-- What a number of units asks for. -/
def termAdditions (unit : TimeUnit) (whole : Nat) (fraction : Option Fraction) : Additions :=
  if whole * unit.secs < secondsLimit ∧ whole * unit.nanos < secondsLimit then
    (Additions.one ⟨whole * unit.secs, whole * unit.nanos⟩).andThen
      (fractionAdditions unit fraction)
  else .fault (.refused .tooLarge)

/-- What the terms of a text ask for, at most as many as `fuel`. -/
def additionsFrom : Nat → Nat → List Char → Additions
  | 0, _, _ => {}
  | fuel + 1, offset, s =>
    match readTerm? offset s with
    | .error e => .fault e
    | .ok none => {}
    | .ok (some t) =>
      (termAdditions t.unit t.whole t.fraction).andThen (additionsFrom fuel t.offset t.rest)

/-- What a text asks for. -/
def additions (s : String) : Additions := additionsFrom s.toList.length 0 s.toList

theorem addTerm_eq (d : Duration) (unit : TimeUnit) (whole : Nat) (fraction : Option Fraction) :
    addTerm d unit whole fraction = (termAdditions unit whole fraction).addTo d := by
  unfold addTerm termAdditions
  rcases word_cases (whole * unit.secs) with ⟨hsecs, hword⟩ | ⟨hsecs, hword⟩
  · rw [hword, if_neg fun h => Nat.not_lt_of_le hsecs h.1]
    rfl
  rcases word_cases (whole * unit.nanos) with ⟨hnanos, hword'⟩ | ⟨hnanos, hword'⟩
  · rw [hword, hword', if_neg fun h => Nat.not_lt_of_le hnanos h.2]
    rfl
  rw [hword, hword', if_pos ⟨hsecs, hnanos⟩, Additions.addTo_andThen, Additions.addTo_one]
  -- the whole units are added either way, and the fraction to what they come to
  show (d.add _ _).bind _ = _
  congr 1
  funext d
  cases fraction with
  | none => rfl
  | some f =>
    cases hgrains : unit.grains with
    | none => simp only [fractionAdditions, hgrains, Additions.addTo_fault]
    | some grains =>
      simp only [fractionAdditions, hgrains]
      rcases word_cases (f.numerator * grains) with ⟨hn, hword⟩ | ⟨hn, hword⟩
      · rw [hword, if_neg fun h => Nat.not_lt_of_le hn h.1]
        rfl
      rw [hword]
      by_cases hwhole : f.numerator * grains % f.denominator = 0
      · rw [if_pos ⟨hn, hwhole⟩, Additions.addTo_one]
        show (if _ then _ else if _ then _ else _) = _
        rw [if_neg (not_not_intro hwhole)]
        cases unit.coarse <;> rfl
      · rw [if_neg fun h => hwhole h.2]
        exact if_pos hwhole

/-- **Reading a text is taking the steps it asks for.** -/
theorem readTerms_eq (fuel : Nat) (total : Duration) (offset : Nat) (s : List Char) :
    readTerms fuel total offset s = (additionsFrom fuel offset s).addTo total := by
  induction fuel generalizing total offset s with
  | zero => rfl
  | succ fuel ih =>
    rw [readTerms_succ, additionsFrom]
    cases readTerm? offset s with
    | error e => rfl
    | ok t? =>
      cases t? with
      | none => rfl
      | some t =>
        show (addTerm _ _ _ _).bind _ = _
        rw [addTerm_eq, Additions.addTo_andThen]
        congr 1
        funext total
        exact ih total t.offset t.rest

theorem honest_fractionAdditions (unit : TimeUnit) (fraction : Option Fraction) :
    (fractionAdditions unit fraction).Honest := by
  unfold fractionAdditions
  split
  · exact nofun
  split
  · exact .fault (.refused _)
  dsimp only
  split
  · exact nofun
  · exact .fault (.refused _)

theorem honest_termAdditions (unit : TimeUnit) (whole : Nat) (fraction : Option Fraction) :
    (termAdditions unit whole fraction).Honest := by
  unfold termAdditions
  split
  · exact .andThen nofun (honest_fractionAdditions unit fraction)
  · exact .fault (.refused _)

theorem honest_additionsFrom (fuel offset : Nat) (s : List Char) :
    (additionsFrom fuel offset s).Honest := by
  induction fuel generalizing offset s with
  | zero => exact nofun
  | succ fuel ih =>
    unfold additionsFrom
    split
    · next e he =>
      refine .fault fun crash h => proper_readTerm? offset s crash ?_
      rw [he, Except.error.inj h]
    · exact nofun
    · exact (honest_termAdditions _ _ _).andThen (ih _ _)

/-! ## Texts that the reader stops at -/

/-- A text that fills up a duration: the steps it asks for come to the limit of seconds at some
point, with nanoseconds that make up exactly one second. -/
def FillsUp (s : String) : Prop :=
  ∃ before a after d,
    (additions s).steps = before ++ a :: after ∧ addAll default before = .ok d ∧ d.Fills a

/-- Without a digit at its beginning, a text asks for nothing. -/
theorem steps_eq_nil_of_firstDigit? {s : String}
    (h : ∀ first, firstDigit? 0 0 s.toList ≠ .ok (some first)) : (additions s).steps = [] := by
  unfold additions
  cases hs : s.toList with
  | nil => rfl
  | cons c r =>
    rw [List.length_cons, additionsFrom, readTerm?]
    cases hfirst : firstDigit? 0 0 (c :: r) with
    | error e => rfl
    | ok first? =>
      cases first? with
      | none => rfl
      | some first => exact absurd (hs ▸ hfirst) (h first)

/-- A text asks for no step, and is read as nothing or refused, or its steps are taken from nothing
on. -/
theorem read_cases (s : String) :
    ((additions s).steps = [] ∧ (read s = .ok default ∨ ∃ e, read s = .error (.refused e)))
      ∨ read s = (additions s).addTo default := by
  unfold read
  split
  · next hs => exact .inl ⟨by rw [hs]; decide, .inl rfl⟩
  -- the first digit is looked for once more by the first term, which finds the same
  cases hfirst : firstDigit? 0 0 s.toList with
  | error e =>
    refine .inl ⟨steps_eq_nil_of_firstDigit? fun _ h => ?_, .inr ?_⟩
    · rw [hfirst] at h
      cases h
    · cases e with
      | refused e => exact ⟨e, rfl⟩
      | crashed crash => exact absurd hfirst (proper_firstDigit? _ _ _ crash)
  | ok first? =>
    cases first? with
    | none =>
      refine .inl ⟨steps_eq_nil_of_firstDigit? fun _ h => ?_, .inr ⟨.empty, rfl⟩⟩
      rw [hfirst] at h
      cases h
    | some first => exact .inr (readTerms_eq _ _ _ _)

/-- **The reader stops just at the texts that fill up a duration.** -/
theorem read_eq_crashed_iff {s : String} {crash : Crash} :
    read s = .error (.crashed crash) ↔ FillsUp s := by
  rcases read_cases s with ⟨hsteps, hread⟩ | hread
  · refine ⟨fun h => ?_, ?_⟩
    · rcases hread with hread | ⟨e, hread⟩ <;> rw [hread] at h <;> cases h
    · rintro ⟨before, a, after, d, hl, -, -⟩
      rw [hsteps] at hl
      exact absurd hl.symm (List.append_ne_nil_of_right_ne_nil _ (List.cons_ne_nil _ _))
  · have hhonest : (additions s).Honest := honest_additionsFrom _ _ _
    rw [hread, hhonest.addTo_eq_crashed_iff]
    exact addAll_eq_crashed_iff

/-- **A duration that has been read is the exact sum of the steps of its text.** -/
theorem toNanos_of_read {s : String} {d : Duration} (h : read s = .ok d) :
    d.toNanos = sumNanos (additions s).steps := by
  rcases read_cases s with ⟨hsteps, hread⟩ | hread
  · rw [hsteps]
    rcases hread with hread | ⟨e, hread⟩
    · rw [← Except.ok.inj (hread.symm.trans h)]
      rfl
    · rw [hread] at h
      cases h
  · rw [hread] at h
    obtain ⟨d', hsum, h⟩ := exists_of_bind h
    split at h
    · obtain rfl := Except.ok.inj h
      rw [toNanos_of_addAll hsum]
      exact Nat.zero_add _
    · cases h

/-! ## Fuel -/

theorem length_le_of_readFraction {whole mark offset : Nat} {f : Fraction} {s : List Char}
    {n : Number} (h : readFraction whole f mark offset s = .ok n) : n.rest.length ≤ s.length := by
  induction s generalizing f mark offset with
  | nil =>
    unfold readFraction at h
    split at h
    · cases h
    · cases h
      exact Nat.le_refl _
  | cons c r ih =>
    unfold readFraction at h
    split at h
    · obtain ⟨denominator, -, h⟩ := exists_of_bind h
      obtain ⟨numerator, -, h⟩ := exists_of_bind h
      exact Nat.le_succ_of_le (ih h)
    split at h
    · exact Nat.le_succ_of_le (ih h)
    split at h
    · cases h
      exact Nat.le_refl _
    · cases h

theorem length_le_of_readNumber {whole offset : Nat} {s : List Char} {n : Number}
    (h : readNumber whole offset s = .ok n) : n.rest.length ≤ s.length := by
  induction s generalizing whole offset with
  | nil =>
    cases h
    exact Nat.le_refl _
  | cons c r ih =>
    unfold readNumber at h
    split at h
    · obtain ⟨whole', -, h⟩ := exists_of_bind h
      exact Nat.le_succ_of_le (ih h)
    split at h
    · exact Nat.le_succ_of_le (ih h)
    split at h
    · cases h
      exact Nat.le_refl _
    split at h
    · exact Nat.le_succ_of_le (length_le_of_readFraction h)
    · cases h

theorem length_le_of_readUnit {offset : Nat} {s : List Char} {u : UnitEnd}
    (h : readUnit offset s = .ok u) : u.rest.length ≤ s.length := by
  induction s generalizing offset u with
  | nil =>
    cases h
    exact Nat.le_refl _
  | cons c r ih =>
    unfold readUnit at h
    split at h
    · cases h
      exact Nat.le_refl _
    split at h
    · cases h
      exact Nat.le_succ _
    split at h
    · obtain ⟨u', hunit, h⟩ := exists_of_bind h
      have hrest := ih hunit
      cases h
      exact Nat.le_succ_of_le hrest
    · cases h

theorem length_lt_of_firstDigit? {mark offset digit offset' : Nat} {s s' : List Char}
    (h : firstDigit? mark offset s = .ok (some (digit, offset', s'))) : s'.length < s.length := by
  induction s generalizing offset with
  | nil => cases h
  | cons c r ih =>
    unfold firstDigit? at h
    split at h
    · cases h
      exact Nat.lt_succ_self _
    split at h
    · exact Nat.lt_succ_of_lt (ih h)
    · cases h

/-- A term takes a character at least. -/
theorem length_lt_of_readTerm? {offset : Nat} {s : List Char} {t : Term}
    (h : readTerm? offset s = .ok (some t)) : t.rest.length < s.length := by
  unfold readTerm? at h
  obtain ⟨first?, hfirst, h⟩ := exists_of_bind h
  split at h
  · cases h
  obtain ⟨n, hn, h⟩ := exists_of_bind h
  obtain ⟨u, hu, h⟩ := exists_of_bind h
  split at h
  · cases h
    exact Nat.lt_of_le_of_lt (length_le_of_readUnit hu)
      (Nat.lt_of_le_of_lt (length_le_of_readNumber hn) (length_lt_of_firstDigit? hfirst))
  split at h
  · cases h
  · cases h

/-- **The length of a text is enough fuel**: with more, the same terms are added up. -/
theorem readTerms_of_length_le {fuel : Nat} {s : List Char} (h : s.length ≤ fuel)
    (total : Duration) (offset : Nat) :
    readTerms fuel total offset s = readTerms s.length total offset s := by
  -- the induction is on one fuel, for any other that is enough as well
  suffices hall : ∀ fuel fuel' (s : List Char), s.length ≤ fuel → s.length ≤ fuel' →
      ∀ total offset, readTerms fuel total offset s = readTerms fuel' total offset s from
    hall fuel s.length s h (Nat.le_refl _) total offset
  intro fuel
  induction fuel with
  | zero =>
    intro fuel' s hzero _ total offset
    obtain rfl := List.eq_nil_of_length_eq_zero (Nat.le_zero.1 hzero)
    cases fuel' <;> rfl
  | succ fuel ih =>
    intro fuel' s hfuel hfuel' total offset
    cases fuel' with
    | zero =>
      obtain rfl := List.eq_nil_of_length_eq_zero (Nat.le_zero.1 hfuel')
      rfl
    | succ fuel' =>
      rw [readTerms_succ, readTerms_succ]
      cases hterm : readTerm? offset s with
      | error e => rfl
      | ok t? =>
        cases t? with
        | none => rfl
        | some t =>
          have hlt := length_lt_of_readTerm? hterm
          show (addTerm _ _ _ _).bind _ = (addTerm _ _ _ _).bind _
          congr 1
          funext total
          exact ih fuel' t.rest (by omega) (by omega) total t.offset

end PodCheck.Duration
