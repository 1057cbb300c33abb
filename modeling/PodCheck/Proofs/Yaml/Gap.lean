import PodCheck.Proofs.Yaml.Scalar
import PodCheck.Yaml.Lexer

/-! # Gaps between the parts of a JSON text

The blanks of JSON are skipped between the tokens of YAML, too. Inside brackets all of them are; in
a block a tab is not, where it could be taken for indentation (`indentation`), and then it is met as
if it were the beginning of a token (`skipGap_tab`). What is counted on the way is the same for all
blanks (`Cursor.Passes`). -/

namespace PodCheck.Yaml

/-! ## Cursors -/

namespace Cursor

/-- Some blanks lead from one cursor to another one. -/
structure Passes (c : Cursor) (gap : List Char) (c' : Cursor) : Prop where
  /-- Their bytes are counted. -/
  index : c'.place.index = c.place.index + (String.ofList gap).utf8ByteSize
  /-- Lines are counted up. -/
  line_le : c.place.line ≤ c'.place.line
  /-- A line ends if there is a line break. -/
  line_eq_iff : c'.place.line = c.place.line ↔ gap.any Json.isLineBreak = false

theorem Passes.refl (c : Cursor) : c.Passes [] c := ⟨rfl, Nat.le_refl _, by simp⟩

theorem Passes.trans {c d e : Cursor} {gap gap' : List Char} (h : c.Passes gap d)
    (h' : d.Passes gap' e) : c.Passes (gap ++ gap') e where
  index := by
    rw [h'.index, h.index, String.ofList_append, String.utf8ByteSize_append, Nat.add_assoc]
  line_le := Nat.le_trans h.line_le h'.line_le
  line_eq_iff := by
    rw [List.any_append, Bool.or_eq_false_iff, ← h.line_eq_iff, ← h'.line_eq_iff]
    have := h.line_le
    have := h'.line_le
    omega

/-- A blank leads on in its line. -/
theorem passes_right {d : Char} (hd : Json.isLineBreak d = false) (place : Place)
    (r r' : List Char) :
    (Cursor.mk place r).Passes [d] ⟨place.right d, r'⟩ where
  index := place.along_index [d]
  line_le := Nat.le_refl _
  line_eq_iff := by simp [hd]

/-- A line break leads to the next line. -/
theorem passes_down {front : List Char} (hfront : front.any Json.isLineBreak = true) (place : Place)
    (r r' : List Char) : (Cursor.mk place r).Passes front ⟨place.down front, r'⟩ where
  index := place.along_index front
  line_le := Nat.le_succ _
  line_eq_iff := by simp [Place.down, hfront]

theorem rest_skip_one {c : Cursor} {d : Char} {r : List Char} (h : c.rest = d :: r) :
    (c.skip 1).rest = r := by
  rw [skip, h]
  rfl

theorem skipWhile_cons {p : Char → Bool} {d : Char} (hd : p d = true) (place : Place)
    (r : List Char) :
    (Cursor.mk place (d :: r)).skipWhile p = (Cursor.mk (place.right d) r).skipWhile p := by
  simp [skipWhile, skip, hd]

theorem skipWhile_of_head {p : Char → Bool} {place : Place} {r : List Char}
    (h : ∀ d ∈ r.head?, p d = false) : (Cursor.mk place r).skipWhile p = ⟨place, r⟩ := by
  have hnone : r.takeWhile p = [] := by
    cases r with
    | nil => rfl
    | cons d r => exact List.takeWhile_cons_of_neg (by simp [h d rfl])
  simp [skipWhile, skip, hnone]

/-- The line break at the front of some blanks, which may have two characters. -/
theorem takeBreak?_blanks {d : Char} (hd : Json.isLineBreak d = true) (gap : List Char)
    {rest : List Char} (hrest : rest.head? ≠ some '\n') (place : Place) :
    ∃ front gap', d :: gap = front ++ gap' ∧ front ≠ []
      ∧ (∀ c ∈ front, Json.isLineBreak c = true)
      ∧ (Cursor.mk place (d :: (gap ++ rest))).takeBreak?
        = some ('\n', ⟨place.down front, gap' ++ rest⟩) := by
  by_cases hpair : d = '\r' ∧ ∃ gap', gap = '\n' :: gap'
  · obtain ⟨rfl, gap', rfl⟩ := hpair
    exact ⟨['\r', '\n'], gap', rfl, by simp, List.all_eq_true.1 rfl, rfl⟩
  · refine ⟨[d], gap, rfl, by simp, by simpa using hd, ?_⟩
    have hbreak : break? (d :: (gap ++ rest)) = some ('\n', 1) := by
      unfold break?
      split
      · next r heq =>
        obtain ⟨rfl, hr⟩ := List.cons.inj heq
        rcases List.append_eq_cons_iff.1 hr with ⟨rfl, rfl⟩ | ⟨gap', rfl, rfl⟩
        · simp at hrest
        · exact absurd ⟨rfl, gap', rfl⟩ hpair
      · next heq =>
        obtain ⟨rfl, rfl⟩ := List.cons.inj heq
        simp only [Json.isLineBreak, Bool.or_eq_true, decide_eq_true_eq] at hd
        rcases hd with rfl | rfl <;> rfl
      · simp_all
    simp [takeBreak?, hbreak]

end Cursor

/-! ## Skipping -/

/-- What may come behind a gap: the end of the text, or a character that is not skipped. -/
def EndsGap (rest : List Char) : Prop :=
  ∀ d ∈ rest.head?, Json.isSpace d = false ∧ isBreak d = false ∧ d ≠ '#' ∧ d ≠ '\uFEFF'

theorem endsGap_cons {c : Char}
    (h : (Json.isSpace c || isBreak c || c = '#' || c = '\uFEFF') = false) (r : List Char) :
    EndsGap (c :: r) := by
  intro d hd
  obtain rfl := Option.some.inj hd
  simpa [and_assoc] using h

/-- A word does. -/
theorem BeginsWord.endsGap {s : List Char} (h : BeginsWord s) : EndsGap s := by
  cases h with
  | @unsigned c r hc =>
    have hne : ∀ x, isWordStart x = false → c ≠ x := by
      rintro _ hx rfl
      rw [hx] at hc
      cases hc
    refine endsGap_cons ?_ r
    simp [Json.isSpace, isBreak, hne ' ' rfl, hne '\t' rfl, hne '\r' rfl, hne '\n' rfl,
      hne '\u0085' rfl, hne '\u2028' rfl, hne '\u2029' rfl, hne '#' rfl, hne '\uFEFF' rfl]
  | signed hc => exact endsGap_cons rfl _

/-- The part of a gap of a block in which a tab could be taken for indentation: if a key may begin
here, all of it, and otherwise the other lines. -/
def indentation (keyAllowed : Bool) (gap : List Char) : List Char :=
  if keyAllowed then gap else gap.dropWhile fun c => !Json.isLineBreak c

/-- Whether tabs are skipped in a gap. -/
def SkipsTabs (flow keyAllowed : Bool) (gap : List Char) : Prop :=
  flow = true ∨ '\t' ∉ indentation keyAllowed gap

section

variable {flow keyAllowed : Bool} {gap rest : List Char}

/-- Nothing is skipped before what ends a gap. -/
theorem skipGap_rest {place : Place} (fuel : Nat) (h : ∀ d ∈ rest.head?,
      (d = ' ' || ((flow || !keyAllowed) && d = '\t')) = false ∧ isBreak d = false ∧ d ≠ '#'
        ∧ d ≠ '\uFEFF') :
    Lexer.skipGap flow (fuel + 1) keyAllowed ⟨place, rest⟩ = (keyAllowed, ⟨place, rest⟩) := by
  have hmark : rest.head? ≠ some '\uFEFF' := fun hd => (h _ hd).2.2.2 rfl
  have hcomment : rest.head? ≠ some '#' := fun hd => (h _ hd).2.2.1 rfl
  have hbreak : (Cursor.mk place rest).takeBreak? = none := by
    cases rest with
    | nil => rfl
    | cons d r => exact takeBreak?_eq_none (h d rfl).2.1 place r
  simp only [Lexer.skipGap, hmark, decide_false, Bool.and_false, Bool.false_eq_true, if_false,
    Cursor.skipWhile_of_head fun d hd => (h d hd).1, hcomment, hbreak]

/-- A blank is skipped by itself. -/
theorem skipGap_right {place : Place} {d : Char}
    (hd : (d = ' ' || ((flow || !keyAllowed) && d = '\t')) = true) (fuel : Nat) (r : List Char) :
    Lexer.skipGap flow (fuel + 1) keyAllowed ⟨place, d :: r⟩
      = Lexer.skipGap flow (fuel + 1) keyAllowed ⟨place.right d, r⟩ := by
  have hmark : d ≠ '\uFEFF' := by
    rintro rfl
    simp at hd
  have hcolumn : (place.right d).column ≠ 0 := Nat.succ_ne_zero _
  simp only [Lexer.skipGap, List.head?_cons, Option.some.injEq, hmark, hcolumn, decide_false,
    Bool.and_false, Bool.false_and, Bool.false_eq_true, if_false]
  rw [Cursor.skipWhile_cons hd]

/-- So is a line break. -/
theorem skipGap_down {place : Place} {d : Char} (hd : Json.isLineBreak d = true)
    {r : List Char} {b : Char} {c : Cursor}
    (hbreak : (Cursor.mk place (d :: r)).takeBreak? = some (b, c)) (fuel : Nat) :
    Lexer.skipGap flow (fuel + 1) keyAllowed ⟨place, d :: r⟩
      = Lexer.skipGap flow fuel (keyAllowed || !flow) c := by
  have hne : d ≠ '\uFEFF' ∧ d ≠ '#' ∧ (d = ' ' || ((flow || !keyAllowed) && d = '\t')) = false := by
    simp only [Json.isLineBreak, Bool.or_eq_true, decide_eq_true_eq] at hd
    rcases hd with rfl | rfl <;> simp
  have hskip : (Cursor.mk place (d :: r)).skipWhile
      (fun d => d = ' ' || ((flow || !keyAllowed) && d = '\t')) = ⟨place, d :: r⟩ :=
    Cursor.skipWhile_of_head fun c hc => Option.some.inj hc ▸ hne.2.2
  simp only [Lexer.skipGap, List.head?_cons, Option.some.injEq, hne.1, hne.2.1, decide_false,
    Bool.and_false, Bool.false_eq_true, if_false, hskip, hbreak]

/-- A tab must not be indentation. -/
theorem skipsTabs_tab (h : SkipsTabs flow keyAllowed ('\t' :: gap)) :
    (flow || !keyAllowed) = true := by
  rcases h with rfl | h
  · rfl
  · cases keyAllowed with
    | false => simp
    | true => simp [indentation] at h

/-- What comes behind a blank matters. -/
theorem skipsTabs_cons {d : Char} (hd : Json.isLineBreak d = false)
    (htab : d = '\t' → (flow || !keyAllowed) = true) :
    SkipsTabs flow keyAllowed (d :: gap) ↔ SkipsTabs flow keyAllowed gap := by
  cases flow with
  | true => simp [SkipsTabs]
  | false =>
    cases keyAllowed with
    | false => simp [SkipsTabs, indentation, hd]
    | true =>
      have hne : d ≠ '\t' := by simpa using htab
      simp [SkipsTabs, indentation, Ne.symm hne]

/-- Behind a line break a key is allowed. -/
theorem skipsTabs_append {front : List Char} (hne : front ≠ [])
    (hfront : ∀ c ∈ front, Json.isLineBreak c = true) :
    SkipsTabs flow keyAllowed (front ++ gap) ↔ SkipsTabs flow (keyAllowed || !flow) gap := by
  cases flow with
  | true => simp [SkipsTabs]
  | false =>
    have htab : '\t' ∉ front := fun h => by simpa [Json.isLineBreak] using hfront _ h
    obtain ⟨c, front, rfl⟩ := List.exists_cons_of_ne_nil hne
    have hc := hfront c (List.mem_cons_self ..)
    have hall : indentation keyAllowed (c :: front ++ gap) = c :: front ++ gap := by
      cases keyAllowed <;> simp [indentation, hc]
    rw [SkipsTabs, SkipsTabs, hall, List.mem_append, not_or]
    simp [htab, indentation]

/-- A blank of JSON that ends no line is one of YAML. -/
theorem eq_of_isSpace {d : Char} (h : Json.isSpace d = true) (hbreak : Json.isLineBreak d = false) :
    d = ' ' ∨ d = '\t' := by
  simp only [Json.isSpace, Json.isLineBreak, Bool.or_eq_true, Bool.or_eq_false_iff,
    decide_eq_true_eq, decide_eq_false_iff_not] at h hbreak
  rcases h with ((h | h) | h) | h
  · exact .inl h
  · exact absurd h hbreak.1
  · exact .inr h
  · exact absurd h hbreak.2

variable (flow)

/-- What is left behind a part of some blanks is shorter. -/
theorem length_lt_of_split {d : Char} {gap front gap' : List Char}
    (hsplit : d :: gap = front ++ gap') (hne : front ≠ []) : gap'.length < (d :: gap).length := by
  have := List.length_pos_iff.2 hne
  rw [hsplit, List.length_append]
  omega

/-- **Blanks are skipped**, as long as no tab stands where it could be taken for indentation. -/
theorem skipGap_blanks (hrest : EndsGap rest) :
    ∀ (gap : List Char) (_ : ∀ c ∈ gap, Json.isSpace c = true) (keyAllowed : Bool)
      (_ : SkipsTabs flow keyAllowed gap) (fuel : Nat) (_ : gap.length < fuel) (place : Place),
      ∃ place', Lexer.skipGap flow fuel keyAllowed ⟨place, gap ++ rest⟩
          = (keyAllowed || (!flow && gap.any Json.isLineBreak), ⟨place', rest⟩)
        ∧ (Cursor.mk place (gap ++ rest)).Passes gap ⟨place', rest⟩
  | [], _, keyAllowed, _, fuel, hfuel, place => by
    obtain ⟨fuel, rfl⟩ : ∃ k, fuel = k + 1 := ⟨fuel - 1, by simp at hfuel; omega⟩
    refine ⟨place, ?_, .refl _⟩
    rw [List.nil_append, skipGap_rest fuel fun d hd => ?_]
    · simp
    · obtain ⟨hspace, hbreak, hcomment, hmark⟩ := hrest d hd
      simp only [Json.isSpace, Bool.or_eq_false_iff] at hspace
      exact ⟨by simp [hspace], hbreak, hcomment, hmark⟩
  | d :: gap, hgap, keyAllowed, htabs, fuel, hfuel, place => by
    obtain ⟨fuel, rfl⟩ : ∃ k, fuel = k + 1 := ⟨fuel - 1, by simp at hfuel; omega⟩
    obtain ⟨hd, hgap'⟩ := List.forall_mem_cons.1 hgap
    cases hbreak : Json.isLineBreak d with
    | true =>
      have hline : rest.head? ≠ some '\n' := fun h => by simpa [Json.isSpace] using (hrest _ h).1
      obtain ⟨front, gap', hsplit, hne, hfront, htake⟩ :=
        Cursor.takeBreak?_blanks hbreak gap hline place
      have hlength := length_lt_of_split hsplit hne
      rw [hsplit, List.forall_mem_append] at hgap
      rw [hsplit, skipsTabs_append hne hfront] at htabs
      obtain ⟨place', hskip, hpasses⟩ := skipGap_blanks hrest gap' hgap.2 _ htabs fuel
        (by omega) (place.down front)
      have hany : front.any Json.isLineBreak = true := by
        obtain ⟨c, front, rfl⟩ := List.exists_cons_of_ne_nil hne
        simp [hfront c (List.mem_cons_self ..)]
      refine ⟨place', ?_, ?_⟩
      · -- behind the break a key may begin, which is what the blanks come to as a whole
        rw [List.cons_append, skipGap_down hbreak htake, hskip, hsplit]
        cases flow <;> simp [hany]
      · rw [hsplit]
        exact (Cursor.passes_down hany place _ _).trans hpasses
    | false =>
      have htab : d = '\t' → (flow || !keyAllowed) = true := fun h => skipsTabs_tab (h ▸ htabs)
      have hblank : (d = ' ' || ((flow || !keyAllowed) && d = '\t')) = true := by
        rcases eq_of_isSpace hd hbreak with rfl | rfl
        · rfl
        · simp [htab rfl]
      obtain ⟨place', hskip, hpasses⟩ := skipGap_blanks hrest gap hgap' _
        ((skipsTabs_cons hbreak htab).1 htabs) (fuel + 1) (by simp at hfuel; omega) (place.right d)
      refine ⟨place', ?_, ?_⟩
      · rw [List.cons_append, skipGap_right hblank, hskip, List.any_cons, hbreak, Bool.false_or]
      · exact (Cursor.passes_right hbreak place _ _).trans hpasses
termination_by gap => gap.length
decreasing_by all_goals first | exact hlength | exact Nat.lt_succ_self _

/-- **A tab that could be taken for indentation is not skipped.** -/
theorem skipGap_tab (hrest : rest.head? ≠ some '\n') :
    ∀ (gap : List Char) (_ : ∀ c ∈ gap, Json.isSpace c = true) (keyAllowed : Bool)
      (_ : ¬ SkipsTabs false keyAllowed gap) (fuel : Nat) (_ : gap.length < fuel) (place : Place),
      ∃ keyAllowed' place' r, Lexer.skipGap false fuel keyAllowed ⟨place, gap ++ rest⟩
          = (keyAllowed', ⟨place', '\t' :: r⟩)
  | [], _, keyAllowed, htabs, _, _, _ => by
    simp [SkipsTabs, indentation] at htabs
  | d :: gap, hgap, keyAllowed, htabs, fuel, hfuel, place => by
    obtain ⟨fuel, rfl⟩ : ∃ k, fuel = k + 1 := ⟨fuel - 1, by simp at hfuel; omega⟩
    obtain ⟨hd, hgap'⟩ := List.forall_mem_cons.1 hgap
    cases hbreak : Json.isLineBreak d with
    | true =>
      obtain ⟨front, gap', hsplit, hne, hfront, htake⟩ :=
        Cursor.takeBreak?_blanks hbreak gap hrest place
      have hlength := length_lt_of_split hsplit hne
      rw [hsplit, List.forall_mem_append] at hgap
      rw [hsplit, skipsTabs_append hne hfront] at htabs
      obtain ⟨keyAllowed', place', r, hskip⟩ := skipGap_tab hrest gap' hgap.2 _ htabs fuel
        (by omega) (place.down front)
      exact ⟨keyAllowed', place', r, by rw [List.cons_append, skipGap_down hbreak htake, hskip]⟩
    | false =>
      by_cases htab : d = '\t' → (false || !keyAllowed) = true
      · have hblank : (d = ' ' || ((false || !keyAllowed) && d = '\t')) = true := by
          rcases eq_of_isSpace hd hbreak with rfl | rfl
          · rfl
          · simp [htab rfl]
        obtain ⟨keyAllowed', place', r, hskip⟩ := skipGap_tab hrest gap hgap' _
          (fun h => htabs ((skipsTabs_cons hbreak htab).2 h)) (fuel + 1) (by simp at hfuel; omega)
          (place.right d)
        exact ⟨keyAllowed', place', r, by rw [List.cons_append, skipGap_right hblank, hskip]⟩
      · -- the tab itself is left where it is
        obtain ⟨rfl, hkey⟩ := Classical.not_imp.1 htab
        refine ⟨keyAllowed, place, gap ++ rest, ?_⟩
        rw [List.cons_append, skipGap_rest fuel fun d hd => ?_]
        obtain rfl := Option.some.inj hd
        exact ⟨by simp [hkey], rfl, by decide, by decide⟩
termination_by gap => gap.length
decreasing_by all_goals first | exact hlength | exact Nat.lt_succ_self _

end

end PodCheck.Yaml
