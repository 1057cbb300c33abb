import PodCheck.Proofs.Yaml.Token

/-! # JSON texts cut into tokens

A JSON value is cut into the tokens of its script, by induction over the script (`cuts_script`).
Hence a document that is a list or an object has these tokens (`tokens?_eq_some`), or none at all,
if some of its characters is not allowed, a tab could be taken for indentation or a text names half
of a pair (`tokens?_eq_none`). -/

namespace PodCheck

namespace Yaml.Lexer

section

variable {depth : Nat}

/-! ## Values -/

/-- A text without line breaks that are none in JSON. -/
def IsNative (s : List Char) : Prop := ∀ c ∈ s, isForeignBreak c = false

theorem IsNative.of_append {s t : List Char} (h : IsNative (s ++ t)) : IsNative s ∧ IsNative t :=
  List.forall_mem_append.1 h

theorem IsNative.of_cons {c : Char} {s : List Char} (h : IsNative (c :: s)) : IsNative s :=
  (List.forall_mem_cons.1 h).2

/-- A key has only such characters between its quotes if it has only such ones. -/
theorem IsNative.inner {k : Json.KeyScript} (h : IsNative k.chars) : IsNative k.inner :=
  h.of_cons.of_append.1

/-- A sign may follow a value, behind blanks. -/
theorem closes_sign (gap : Json.Blanks) {c : Char} (hc : c ∈ [',', ']', '\x7d']) (r : List Char) :
    Json.Closes (Json.skipSpace (gap.chars ++ c :: r)) := by
  have hspace : Json.isSpace c = false := by
    simp only [List.mem_cons, List.not_mem_nil, or_false] at hc
    rcases hc with rfl | rfl | rfl <;> rfl
  rw [Json.skipSpace_blanks, Json.skipSpace_cons hspace]
  exact hc

/-- Behind a value. If it has a closing bracket, nothing has been skipped behind that. -/
structure Past (t : Json.Script) (depth : Nat) (r : List Char) (l : Lexer) : Prop
    extends At depth r l where
  /-- This is so behind a bracket. -/
  behind : t.isNested = true → Behind depth r l

theorem Behind.past {t : Json.Script} {r : List Char} (h : Behind depth r l) : Past t depth r l :=
  ⟨h.toAt, fun _ => h⟩

mutual

/-- **A value is cut into its tokens**, unless one of its texts names half of a pair. A value that
has no brackets of its own must stand inside of some. -/
theorem cuts_script : ∀ (t : Json.Script) {depth : Nat} {l : Lexer} {r : List Char},
    IsNative t.chars → Ready l → At (depth + 1) (t.chars ++ r) l →
    (t.isNested = false → 0 < depth ∧ Json.Closes (Json.skipSpace r)) →
      Cuts l t.Unpaired t.tokens (Past t (depth + 1) r)
  | .word _ _ h, depth, _, r, _, _, hat, hsingle => by
    obtain ⟨hdepth, hr⟩ := hsingle rfl
    obtain ⟨depth, rfl⟩ : ∃ d, depth = d + 1 := ⟨depth - 1, by omega⟩
    exact (hat.cuts_word h hr).imp fun _ h => ⟨h, nofun⟩
  | .text inner units h, depth, _, r, hnative, _, hat, hsingle => by
    obtain ⟨hdepth, -⟩ := hsingle rfl
    obtain ⟨depth, rfl⟩ : ∃ d, depth = d + 1 := ⟨depth - 1, by omega⟩
    have hchars : (Json.Script.text inner units h).chars ++ r = '"' :: (inner ++ '"' :: r) := by
      simp [Json.Script.chars]
    rw [hchars] at hat
    exact (hat.cuts_text h hnative.of_cons.of_append.1).imp fun _ h => ⟨h, nofun⟩
  | .emptyArray gap, _, _, r, _, hready, hat, _ => by
    have hchars : (Json.Script.emptyArray gap).chars ++ r = '[' :: (gap.chars ++ ']' :: r) := by
      simp [Json.Script.chars]
    rw [hchars] at hat
    have hcuts := (hat.cuts_open hready (endsGap_cons rfl _) fun _ => token?_bracket _).bind
      fun l' h => (h.1.blanks gap).cuts_close (endsGap_cons rfl _) fun _ => token?_bracketEnd _
    simpa [Json.Script.Unpaired, Json.Script.tokens] using hcuts.imp fun _ h => h.past
  | .emptyObject gap, _, _, r, _, hready, hat, _ => by
    have hchars : (Json.Script.emptyObject gap).chars ++ r
        = '\x7b' :: (gap.chars ++ '\x7d' :: r) := by
      simp [Json.Script.chars]
    rw [hchars] at hat
    have hcuts := (hat.cuts_open hready (endsGap_cons rfl _) fun _ => token?_brace _).bind
      fun l' h => (h.1.blanks gap).cuts_close (endsGap_cons rfl _) fun _ => token?_braceEnd _
    simpa [Json.Script.Unpaired, Json.Script.tokens] using hcuts.imp fun _ h => h.past
  | .array gap items, _, _, r, hnative, hready, hat, _ => by
    have hchars : (Json.Script.array gap items).chars ++ r
        = '[' :: (gap.chars ++ (items.chars ++ r)) := by
      simp [Json.Script.chars]
    rw [hchars] at hat
    have hcuts := (hat.cuts_open hready (endsGap_cons rfl _) fun _ => token?_bracket _).bind
      fun l' h => cuts_items items hnative.of_cons.of_append.2 (h.1.blanks gap)
    simpa [Json.Script.Unpaired, Json.Script.tokens] using hcuts.imp fun _ h => h.past
  | .object gap members, _, _, r, hnative, hready, hat, _ => by
    have hchars : (Json.Script.object gap members).chars ++ r
        = '\x7b' :: (gap.chars ++ (members.chars ++ r)) := by
      simp [Json.Script.chars]
    rw [hchars] at hat
    have hcuts := (hat.cuts_open hready (endsGap_cons rfl _) fun _ => token?_brace _).bind
      fun l' h => cuts_members members hnative.of_cons.of_append.2 h.2 (h.1.blanks gap)
    simpa [Json.Script.Unpaired, Json.Script.tokens] using hcuts.imp fun _ h => h.past

/-- Items are cut into their tokens. -/
theorem cuts_items : ∀ (items : Json.ItemScript) {depth : Nat} {l : Lexer} {r : List Char},
    IsNative items.chars → At (depth + 2) (items.chars ++ r) l →
      Cuts l items.Unpaired items.tokens (Behind (depth + 1) r)
  | .last v gap, depth, _, r, hnative, hat => by
    have hchars : (Json.ItemScript.last v gap).chars ++ r
        = v.chars ++ (gap.chars ++ ']' :: r) := by simp [Json.ItemScript.chars]
    rw [hchars] at hat
    have hcuts := (cuts_script v hnative.of_append.1 hat.ready hat
      fun _ => ⟨depth.succ_pos, closes_sign gap (by simp) r⟩).bind
        fun l' h => (h.blanks gap).cuts_close (endsGap_cons rfl _) fun _ => token?_bracketEnd _
    simpa [Json.ItemScript.Unpaired, Json.ItemScript.tokens] using hcuts
  | .more v gap gap' items, depth, _, r, hnative, hat => by
    have hchars : (Json.ItemScript.more v gap gap' items).chars ++ r
        = v.chars ++ (gap.chars ++ ',' :: (gap'.chars ++ (items.chars ++ r))) := by
      simp [Json.ItemScript.chars]
    rw [hchars] at hat
    have hcuts := (cuts_script v hnative.of_append.1 hat.ready hat
      fun _ => ⟨depth.succ_pos, closes_sign gap (by simp) _⟩).bind
        fun l' h => (h.blanks gap).cuts_comma.bind fun l' h =>
          cuts_items items hnative.of_append.2.of_append.2.of_cons.of_append.2 (h.1.blanks gap')
    simpa [Json.ItemScript.Unpaired, Json.ItemScript.tokens] using hcuts

/-- Members are cut into their tokens. -/
theorem cuts_members : ∀ (members : Json.MemberScript) {depth : Nat} {l : Lexer} {r : List Char},
    IsNative members.chars → l.keyAllowed = true → At (depth + 2) (members.chars ++ r) l →
      Cuts l members.Unpaired members.tokens (Behind (depth + 1) r)
  | .last key v gap, depth, _, r, hnative, hkey, hat => by
    have hchars : (Json.MemberScript.last key v gap).chars ++ r
        = key.chars ++ (v.chars ++ (gap.chars ++ '\x7d' :: r)) := by simp [Json.MemberScript.chars]
    rw [hchars] at hat
    have hcuts := (hat.cuts_key key hnative.of_append.1.inner hkey).bind fun l' h =>
      (cuts_script v hnative.of_append.2.of_append.1 h.ready h
        fun _ => ⟨depth.succ_pos, closes_sign gap (by simp) r⟩).bind
          fun l' h => (h.blanks gap).cuts_close (endsGap_cons rfl _) fun _ => token?_braceEnd _
    simpa [Json.MemberScript.Unpaired, Json.MemberScript.tokens] using hcuts
  | .more key v gap gap' members, depth, _, r, hnative, hkey, hat => by
    have hchars : (Json.MemberScript.more key v gap gap' members).chars ++ r
        = key.chars ++ (v.chars ++ (gap.chars ++ ',' :: (gap'.chars ++ (members.chars ++ r)))) := by
      simp [Json.MemberScript.chars]
    rw [hchars] at hat
    have hcuts := (hat.cuts_key key hnative.of_append.1.inner hkey).bind fun l' h =>
      (cuts_script v hnative.of_append.2.of_append.1 h.ready h
        fun _ => ⟨depth.succ_pos, closes_sign gap (by simp) _⟩).bind
          fun l' h => (h.blanks gap).cuts_comma.bind fun l' h =>
            cuts_members members hnative.of_append.2.of_append.2.of_append.2.of_cons.of_append.2
              h.2 (h.1.blanks gap')
    simpa [Json.MemberScript.Unpaired, Json.MemberScript.tokens] using hcuts

end

end

/-! ## Documents -/

section

variable {l : Lexer} {rest : List Char}

theorem At.inFlow_eq_false (h : At 1 rest l) : l.inFlow = false := by
  simp [Lexer.inFlow, h.length_marks]

/-- No token begins with a tab. -/
theorem token?_tab (r : List Char) : l.token? '\t' r = none := by
  simp [token?, atMarker_eq_false, beginsPlain, isBlank]

/-- A tab must not be taken for indentation. -/
theorem At.fails_of_tab (h : At 1 rest l) {gap : Json.Blanks} {r : List Char}
    (hrest : l.cursor.rest = gap.chars ++ r) (hr : r.head? ≠ some '\n')
    (htab : '\t' ∈ indentation l.keyAllowed gap.chars) : Fails l := by
  have htabs : ¬ SkipsTabs false l.keyAllowed gap.chars := by simp [SkipsTabs, htab]
  have hcursor : l.cursor = ⟨l.cursor.place, gap.chars ++ r⟩ := by rw [← hrest]
  obtain ⟨keyAllowed, place, r', hskip⟩ := skipGap_tab hr gap.chars gap.isSpace l.keyAllowed htabs
    (l.cursor.rest.length + 1) (by rw [hrest, List.length_append]; omega) l.cursor.place
  rw [← hcursor, ← h.inFlow_eq_false] at hskip
  intro fuel hfuel
  obtain ⟨fuel, rfl⟩ : ∃ k, fuel = k + 1 := ⟨fuel - 1, by omega⟩
  rw [h.run_succ hskip, token?_tab, Option.bind_none]

/-- A run ends behind the blanks that come last. -/
theorem Behind.run {gap : Json.Blanks} (h : Behind 1 gap.chars l)
    (htab : '\t' ∉ indentation false gap.chars) (fuel : Nat) :
    ∃ l', l.run (fuel + 1) = some l' ∧ l'.pieces = l.pieces ∧ l'.confirmed = l.confirmed := by
  have hends : EndsGap [] := by simp [EndsGap]
  have hcursor : l.cursor = ⟨l.cursor.place, gap.chars ++ []⟩ := by
    rw [List.append_nil, ← h.cursor_rest]
  obtain ⟨place, hskip, -⟩ := skipGap_blanks false hends gap.chars gap.isSpace false (.inr htab)
    (l.cursor.rest.length + 1) (by simp [h.cursor_rest]) l.cursor.place
  rw [← hcursor] at hskip
  generalize (false || (!false && gap.chars.any Json.isLineBreak)) = keyAllowed at hskip
  have hat : At 1 [] l := At.blanks gap ((List.append_nil gap.chars).symm ▸ h.toAt)
  have hsettle := hat.settle keyAllowed place
  have hstale : ((l.move ⟨place, []⟩).allowKey keyAllowed).dropStale?
      = some (l.settle keyAllowed ⟨place, []⟩) := dropStale?_eq h.required
  refine ⟨(l.settle keyAllowed ⟨place, []⟩).setMark none, ?_, rfl, rfl⟩
  simp only [Lexer.run, hat.inFlow_eq_false, h.keyAllowed, hskip, hstale, Option.bind_eq_bind,
    Option.bind_some]
  have hclose : (l.settle keyAllowed ⟨place, []⟩).closeBlocks (fun _ => false)
      = l.settle keyAllowed ⟨place, []⟩ := closeBlocks_eq hsettle.indents _
  exact (congrArg Lexer.dropMark? hclose).trans hsettle.dropMark?

end

section

variable {before after : Json.Blanks} {t : Json.Script}

theorem exists_cons_of_isNested (h : t.isNested = true) :
    ∃ c r, t.chars = c :: r ∧ Json.isSpace c = false := by
  cases t with
  | word | text => cases h
  | emptyArray | array | emptyObject | object => exact ⟨_, _, rfl, rfl⟩

/-- The state before the first token. -/
theorem at_start (s : List Char) : At 1 s (start s) :=
  ⟨rfl, rfl, fun o ho => by simp [start] at ho, rfl⟩

/-- A list or an object with blanks around it is cut into its tokens. -/
theorem cuts_document (hnested : t.isNested = true) (hnative : IsNative t.chars)
    (htab : '\t' ∉ before.chars) :
    Cuts (start (before.chars ++ (t.chars ++ after.chars))) t.Unpaired t.tokens
      (Behind 1 after.chars) := by
  obtain ⟨c, r, hchars, hspace⟩ := exists_cons_of_isNested hnested
  have hgap : (before.chars ++ (t.chars ++ after.chars)).takeWhile Json.isSpace = before.chars := by
    rw [hchars]
    exact Json.takeWhile_blanks before hspace _
  have hready : Ready (start (before.chars ++ (t.chars ++ after.chars))) :=
    ⟨.inr (by simpa [start, hgap, indentation] using htab), .inr rfl⟩
  have hcuts := cuts_script t hnative hready ((at_start _).blanks before)
    fun hsingle => by simp [hnested] at hsingle
  exact hcuts.imp fun l' h => h.behind hnested

end

end Yaml.Lexer

namespace Yaml

open Lexer

variable {before after : Json.Blanks} {t : Json.Script}

/-- **A JSON text that is a list or an object has the tokens of its script**, if all of its
characters are allowed, no tab can be taken for indentation and no text names half of a pair. -/
theorem tokens?_eq_some (hnested : t.isNested = true)
    (hallowed : ∀ c ∈ before.chars ++ (t.chars ++ after.chars), isAllowed c = true)
    (hnative : IsNative t.chars) (hbefore : '\t' ∉ before.chars)
    (hafter : '\t' ∉ indentation false after.chars) (hunpaired : t.Unpaired) :
    tokens? (before.chars ++ (t.chars ++ after.chars)) = some t.tokens := by
  obtain ⟨l, hfinds, hbehind⟩ := (cuts_document hnested hnative hbefore).finds hunpaired
  obtain ⟨n, hn, hrun⟩ := hfinds.runs
  obtain ⟨ps, cs, hpieces, hconfirmed, -, hresolve⟩ := hfinds.exists_pieces
  generalize hs : before.chars ++ (t.chars ++ after.chars) = s at *
  have hlength : n + l.cursor.rest.length ≤ s.length := hn
  obtain ⟨fuel, hfuel⟩ : ∃ k, s.length + 1 = k + 1 + n := ⟨s.length - n, by omega⟩
  obtain ⟨l', hend, hpieces', hconfirmed'⟩ := hbehind.run hafter fuel
  have hall : s.all isAllowed = true := List.all_eq_true.2 hallowed
  have hend' : (start s).run (s.length + 1) = some l' := by rw [hfuel, hrun, hend]
  have hpieces'' : l'.pieces = ps := by rw [hpieces', hpieces]; exact List.append_nil ps
  have hconfirmed'' : l'.confirmed = cs := by rw [hconfirmed', hconfirmed]; exact List.append_nil cs
  rw [tokens?, hall, hend']
  simp only [Bool.not_true, Bool.false_eq_true, if_false, Option.bind_eq_bind, Option.bind_some,
    hpieces'', hconfirmed'']
  exact congrArg some (hresolve cs fun _ _ _ => rfl)

/-- Otherwise it has none. -/
theorem tokens?_eq_none (hnested : t.isNested = true) (hnative : IsNative t.chars)
    (h : ¬ ((∀ c ∈ before.chars ++ (t.chars ++ after.chars), isAllowed c = true)
      ∧ '\t' ∉ before.chars ∧ '\t' ∉ indentation false after.chars ∧ t.Unpaired)) :
    tokens? (before.chars ++ (t.chars ++ after.chars)) = none := by
  rw [tokens?]
  by_cases hallowed : ∀ c ∈ before.chars ++ (t.chars ++ after.chars), isAllowed c = true
  · -- what comes first in the text is what the run fails at
    have hfails : Fails (start (before.chars ++ (t.chars ++ after.chars))) := by
      by_cases hbefore : '\t' ∈ before.chars
      · obtain ⟨c, r, hchars, hspace⟩ := exists_cons_of_isNested hnested
        have hline : (t.chars ++ after.chars).head? ≠ some '\n' := by
          rw [hchars]
          intro heq
          obtain rfl := Option.some.inj heq
          cases hspace
        exact (at_start _).fails_of_tab rfl hline hbefore
      · have hcuts : Cuts (start (before.chars ++ (t.chars ++ after.chars))) t.Unpaired t.tokens
            (Behind 1 after.chars) := cuts_document hnested hnative hbefore
        by_cases hunpaired : t.Unpaired
        · obtain ⟨l, hfinds, hbehind⟩ := hcuts.finds hunpaired
          have hafter : '\t' ∈ indentation false after.chars :=
            Classical.not_not.1 fun hafter => h ⟨hallowed, hbefore, hafter, hunpaired⟩
          have hrest : l.cursor.rest = after.chars ++ [] := by
            rw [hbehind.cursor_rest, List.append_nil]
          have htab : '\t' ∈ indentation l.keyAllowed after.chars := by rwa [hbehind.keyAllowed]
          exact hfinds.runs.fails (hbehind.toAt.fails_of_tab hrest (by simp) htab)
        · exact hcuts.fails hunpaired
    have hrun := hfails _ (Nat.lt_succ_self _)
    split
    · rfl
    · exact congrArg (Option.bind · _) hrun
  · have hnot : (before.chars ++ (t.chars ++ after.chars)).all isAllowed = false := by
      rw [Bool.eq_false_iff]
      exact fun hall => hallowed (List.all_eq_true.1 hall)
    rw [hnot]
    rfl

end Yaml

end PodCheck
