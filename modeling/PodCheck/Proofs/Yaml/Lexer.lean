import PodCheck.Proofs.Yaml.Gap

/-! # Runs of the lexer

A run goes from state to state. Between two states it finds some tokens (`Found`), where a mark
that is left for a key may be confirmed later, and either gets to the second state or fails
(`Cuts`). Runs can be put together (`Cuts.bind`). In a JSON text every state stands inside brackets,
and no block is open (`At`); from there the gap that comes next leads to the beginning of a token,
which alone decides how the run goes on (`At.exists_settles`). -/

namespace PodCheck

namespace Yaml.Lexer

/-! ## Pieces -/

/-- Some tokens are found between two states. Marks that are left on the way are confirmed on the
way or not at all. -/
structure Found (l : Lexer) (ts : List Token) (l' : Lexer) : Prop where
  /-- Marks are numbered. -/
  count_le : l.count ≤ l'.count
  /-- The pieces make up the tokens, whatever marks are confirmed elsewhere. -/
  exists_pieces : ∃ ps cs, l'.pieces = ps ++ l.pieces ∧ l'.confirmed = cs ++ l.confirmed
    ∧ (∀ c ∈ cs, l.count ≤ c.1 ∧ c.1 < l'.count)
    ∧ ∀ all : List (Nat × Bool),
      (∀ id, l.count ≤ id → id < l'.count →
        all.find? (fun c => c.1 = id) = cs.find? fun c => c.1 = id) →
      ps.reverse.flatMap (Piece.resolve all) = ts

namespace Found

variable {l l' l'' : Lexer} {ts ts' : List Token}

/-- Nothing is found. -/
theorem nothing (hpieces : l'.pieces = l.pieces) (hcount : l'.count = l.count)
    (hconfirmed : l'.confirmed = l.confirmed) : Found l [] l' :=
  ⟨hcount ▸ Nat.le_refl _, [], [], hpieces, hconfirmed, by simp, fun _ _ => rfl⟩

/-- One token is found. -/
theorem one {t : Token} (hpieces : l'.pieces = .token t :: l.pieces) (hcount : l'.count = l.count)
    (hconfirmed : l'.confirmed = l.confirmed) : Found l [t] l' :=
  ⟨hcount ▸ Nat.le_refl _, [.token t], [], hpieces, hconfirmed, by simp, fun _ _ => rfl⟩

/-- A mark is left that is not confirmed. -/
theorem mark (hpieces : l'.pieces = .mark l.count :: l.pieces) (hcount : l'.count = l.count + 1)
    (hconfirmed : l'.confirmed = l.confirmed) : Found l [] l' := by
  refine ⟨by omega, [.mark l.count], [], hpieces, hconfirmed, by simp, fun all hall => ?_⟩
  have hnone := hall l.count (Nat.le_refl _) (by omega)
  simp [Piece.resolve, hnone]

/-- A key is found that may have been confirmed by its colon. -/
theorem key {near : Bool} {t : Token}
    (hpieces : l'.pieces = .token .value :: .token t :: .mark l.count :: l.pieces)
    (hcount : l'.count = l.count + 1)
    (hconfirmed : l'.confirmed = (if near then [(l.count, false)] else []) ++ l.confirmed) :
    Found l ((if near then [.key] else []) ++ [t, .value]) l' := by
  refine ⟨by omega, [.token .value, .token t, .mark l.count],
    if near then [(l.count, false)] else [], hpieces, hconfirmed, ?_, fun all hall => ?_⟩
  · intro c hc
    cases near with
    | false => cases hc
    | true =>
      obtain rfl := List.mem_singleton.1 hc
      exact ⟨Nat.le_refl _, by omega⟩
  · have hmark := hall l.count (Nat.le_refl _) (by omega)
    cases near <;> simp [Piece.resolve, hmark]

/-- What is found on the way from one state to another one and on is found one after the other. -/
theorem trans (h : Found l ts l') (h' : Found l' ts' l'') : Found l (ts ++ ts') l'' := by
  obtain ⟨ps, cs, hps, hcs, hids, hts⟩ := h.exists_pieces
  obtain ⟨ps', cs', hps', hcs', hids', hts'⟩ := h'.exists_pieces
  have hle := h.count_le
  have hle' := h'.count_le
  refine ⟨by omega, ps' ++ ps, cs' ++ cs, by simp [hps', hps], by simp [hcs', hcs], ?_, ?_⟩
  · intro c hc
    rcases List.mem_append.1 hc with hc | hc
    · have := hids' c hc
      omega
    · have := hids c hc
      omega
  · intro all hall
    -- no mark of the one part is confirmed in the other one
    have hnone : ∀ id < l'.count, cs'.find? (fun c => c.1 = id) = none := by
      intro id hid
      rw [List.find?_eq_none]
      intro c hc heq
      have := hids' c hc
      simp only [decide_eq_true_eq] at heq
      omega
    have hnone' : ∀ id, l'.count ≤ id → cs.find? (fun c => c.1 = id) = none := by
      intro id hid
      rw [List.find?_eq_none]
      intro c hc heq
      have := hids c hc
      simp only [decide_eq_true_eq] at heq
      omega
    rw [List.reverse_append, List.flatMap_append, hts all fun id hid hlt => ?_,
      hts' all fun id hid hlt => ?_]
    · rw [hall id (by omega) hlt, List.find?_append, hnone' id hid, Option.or_none]
    · rw [hall id hid (by omega), List.find?_append, hnone id hlt, Option.none_or]

end Found

/-! ## Runs -/

/-- The run goes from one state to another one, and takes at least one character for every unit of
fuel. -/
def Runs (l l' : Lexer) : Prop :=
  ∃ n, n + l'.cursor.rest.length ≤ l.cursor.rest.length ∧ ∀ fuel, l.run (fuel + n) = l'.run fuel

/-- The run fails. -/
def Fails (l : Lexer) : Prop := ∀ fuel, l.cursor.rest.length < fuel → l.run fuel = none

theorem Runs.trans {l l' l'' : Lexer} (h : Runs l l') (h' : Runs l' l'') : Runs l l'' := by
  obtain ⟨n, hn, hrun⟩ := h
  obtain ⟨n', hn', hrun'⟩ := h'
  refine ⟨n' + n, by omega, fun fuel => ?_⟩
  rw [← Nat.add_assoc, hrun, hrun']

theorem Runs.fails {l l' : Lexer} (h : Runs l l') (h' : Fails l') : Fails l := by
  obtain ⟨n, hn, hrun⟩ := h
  intro fuel hfuel
  obtain ⟨k, rfl⟩ : ∃ k, fuel = k + n := ⟨fuel - n, by omega⟩
  rw [hrun, h' k (by omega)]

/-- The run goes from one state to another one and finds some tokens on the way. -/
structure Finds (l : Lexer) (ts : List Token) (l' : Lexer) : Prop extends Found l ts l' where
  /-- It gets there. -/
  runs : Runs l l'

theorem Finds.trans {l l' l'' : Lexer} {ts ts' : List Token} (h : Finds l ts l')
    (h' : Finds l' ts' l'') : Finds l (ts ++ ts') l'' :=
  ⟨h.toFound.trans h'.toFound, h.runs.trans h'.runs⟩

/-- If some condition holds, the run finds some tokens and comes to a state of some kind; otherwise
it fails. -/
structure Cuts (l : Lexer) (ok : Prop) (ts : List Token) (state : Lexer → Prop) : Prop where
  /-- It finds the tokens. -/
  finds : ok → ∃ l', Finds l ts l' ∧ state l'
  /-- It fails. -/
  fails : ¬ ok → Fails l

theorem Cuts.imp {l : Lexer} {ok : Prop} {ts : List Token} {state state' : Lexer → Prop}
    (h : Cuts l ok ts state) (himp : ∀ l', state l' → state' l') : Cuts l ok ts state' where
  finds hok := (h.finds hok).imp fun l' hl' => ⟨hl'.1, himp l' hl'.2⟩
  fails := h.fails

/-- A run goes on from any state that it may come to. -/
theorem Cuts.bind {l : Lexer} {ok ok' : Prop} {ts ts' : List Token} {state state' : Lexer → Prop}
    (h : Cuts l ok ts state) (h' : ∀ l', state l' → Cuts l' ok' ts' state') :
    Cuts l (ok ∧ ok') (ts ++ ts') state' where
  finds := by
    rintro ⟨hok, hok'⟩
    obtain ⟨m, hfinds, hstate⟩ := h.finds hok
    obtain ⟨m', hfinds', hstate'⟩ := (h' m hstate).finds hok'
    exact ⟨m', hfinds.trans hfinds', hstate'⟩
  fails := by
    intro hnot
    by_cases hok : ok
    · obtain ⟨m, hfinds, hstate⟩ := h.finds hok
      exact hfinds.runs.fails ((h' m hstate).fails fun hok' => hnot ⟨hok, hok'⟩)
    · exact h.fails hok

/-! ## States -/

/-- The state stands inside some brackets, before what remains of the text. -/
structure At (depth : Nat) (rest : List Char) (l : Lexer) : Prop where
  /-- No block collection is open. -/
  indents : l.indents = []
  /-- There is a place for the mark of every bracket. -/
  length_marks : l.marks.length = depth
  /-- No key is required. -/
  required : ∀ o, some o ∈ l.marks → o.required = false
  /-- Blanks do not count. -/
  rest : Json.skipSpace l.cursor.rest = Json.skipSpace rest

/-- Whether an open mark is in the line of a place and near enough. -/
def isFresh (place : Place) (m : OpenMark) : Bool :=
  !(m.place.line < place.line || m.place.index + 1024 < place.index)

/-- The state behind a gap: stale marks are given up. -/
def settle (keyAllowed : Bool) (c : Cursor) (l : Lexer) : Lexer :=
  { l with cursor := c, keyAllowed, marks := l.marks.map (·.filter (isFresh c.place)) }

section

variable {l : Lexer}

theorem closeBlocks_eq (h : l.indents = []) (keep : Nat → Bool) : l.closeBlocks keep = l := by
  unfold closeBlocks
  split
  · rfl
  · cases l
    simp_all

theorem mapM_eq_some_map {α β : Type} {f : α → Option β} {g : α → β} {as : List α}
    (h : ∀ a ∈ as, f a = some (g a)) : as.mapM f = some (as.map g) := by
  induction as with
  | nil => rfl
  | cons a as ih =>
    obtain ⟨ha, has⟩ := List.forall_mem_cons.1 h
    rw [List.mapM_cons, ha, ih has]
    rfl

/-- Marks can be given up where no key is required. -/
theorem dropStale?_eq (h : ∀ o, some o ∈ l.marks → o.required = false) :
    l.dropStale? = some { l with marks := l.marks.map (·.filter (isFresh l.cursor.place)) } := by
  rw [dropStale?, mapM_eq_some_map (g := (·.filter (isFresh l.cursor.place)))]
  · rfl
  · rintro (_ | m) hm
    · rfl
    · have hrequired := h m hm
      cases hstale : decide (m.place.line < l.cursor.place.line)
          || decide (m.place.index + 1024 < l.cursor.place.index) with
      | true => simp only [hstale, hrequired, isFresh, Option.filter]; rfl
      | false => simp only [hstale, isFresh, Option.filter]; rfl

variable {depth : Nat} {rest : List Char}

/-- Inside brackets there is more than the mark of the block. -/
theorem At.inFlow (h : At (depth + 2) rest l) : l.inFlow = true := by
  simp [Lexer.inFlow, h.length_marks]

theorem At.openMark_required (h : At depth rest l) : l.openMark.any (·.required) = false := by
  unfold openMark
  cases hmarks : l.marks with
  | nil => rfl
  | cons m ms =>
    cases m with
    | none => rfl
    | some m => exact h.required m (hmarks ▸ List.mem_cons_self ..)

/-- The open mark of the innermost bracket can be replaced. -/
theorem At.setMark (h : At (depth + 1) rest l) {m : Option OpenMark}
    (hm : ∀ o ∈ m, o.required = false) : At (depth + 1) rest (l.setMark m) where
  indents := h.indents
  length_marks := by simp [Lexer.setMark, h.length_marks]
  required o ho := by
    rcases List.mem_cons.1 ho with rfl | ho
    · exact hm o rfl
    · exact h.required o (List.mem_of_mem_drop ho)
  rest := h.rest

theorem At.dropMark? (h : At depth rest l) : l.dropMark? = some (l.setMark none) := by
  rw [Lexer.dropMark?, h.openMark_required, if_neg (by simp)]

/-- Marks are given up in a gap. -/
theorem At.settle (h : At depth rest l) (keyAllowed : Bool) (place : Place) :
    At depth rest (l.settle keyAllowed ⟨place, rest⟩) where
  indents := h.indents
  length_marks := by simp [Lexer.settle, h.length_marks]
  required o ho := by
    obtain ⟨m, hm, hfilter⟩ := List.mem_map.1 ho
    obtain ⟨rfl, -⟩ := Option.filter_eq_some_iff.1 hfilter
    exact h.required o hm
  rest := rfl

/-- A run goes on with the token behind a gap. -/
theorem At.run_succ (h : At depth rest l) {keyAllowed : Bool} {place : Place} {c : Char}
    {r : List Char}
    (hskip : skipGap l.inFlow (l.cursor.rest.length + 1) l.keyAllowed l.cursor
      = (keyAllowed, ⟨place, c :: r⟩)) (fuel : Nat) :
    l.run (fuel + 1) = ((l.settle keyAllowed ⟨place, c :: r⟩).token? c r).bind (·.run fuel) := by
  have hstale : ((l.move ⟨place, c :: r⟩).allowKey keyAllowed).dropStale?
      = some (l.settle keyAllowed ⟨place, c :: r⟩) := dropStale?_eq h.required
  have hclose : (l.settle keyAllowed ⟨place, c :: r⟩).closeBlocks
      (· ≤ (l.settle keyAllowed ⟨place, c :: r⟩).column) = l.settle keyAllowed ⟨place, c :: r⟩ :=
    closeBlocks_eq (l := l.settle keyAllowed ⟨place, c :: r⟩) h.indents _
  simp only [Lexer.run, hskip, hstale, Option.bind_eq_bind, Option.bind_some]
  simp only [Lexer.settle] at hclose ⊢
  rw [hclose]

/-- A state at the beginning of a token to which a gap leads. -/
structure Settles (l s : Lexer) (c : Char) (r : List Char) : Prop where
  /-- Nothing is found in a gap. -/
  pieces : s.pieces = l.pieces
  /-- No mark is left. -/
  count : s.count = l.count
  /-- No mark is confirmed. -/
  confirmed : s.confirmed = l.confirmed
  /-- A key may begin behind the gap if it may begin before it. -/
  keyAllowed : s.keyAllowed = l.keyAllowed
  /-- The token begins here. -/
  rest : s.cursor.rest = c :: r
  /-- The gap is all blanks. -/
  passes : l.cursor.Passes (l.cursor.rest.takeWhile Json.isSpace) s.cursor
  /-- Stale marks are given up. -/
  marks : s.marks = l.marks.map (·.filter (isFresh s.cursor.place))
  /-- The run goes on behind the token. -/
  runs : ∀ s', s.token? c r = some s' → s'.cursor.rest.length ≤ r.length → Runs l s'
  /-- If there is none, it fails. -/
  fails : s.token? c r = none → Fails l

theorem Settles.found {s : Lexer} {c : Char} {r : List Char} (h : Settles l s c r) : Found l [] s :=
  .nothing h.pieces h.count h.confirmed

/-- The gap that comes next is skipped, and a key may begin behind it if it may begin before it. -/
structure Ready (l : Lexer) : Prop where
  /-- Tabs are skipped. -/
  skipsTabs : SkipsTabs l.inFlow l.keyAllowed (l.cursor.rest.takeWhile Json.isSpace)
  /-- Line breaks make no difference. -/
  keyAllowed : l.inFlow = true ∨ l.keyAllowed = true

/-- So it is in brackets. -/
theorem At.ready (h : At (depth + 2) rest l) : Ready l := ⟨.inl h.inFlow, .inl h.inFlow⟩

/-- Such a gap leads to a token. -/
theorem At.exists_settles {c : Char} {r : List Char} (h : At depth (c :: r) l) (hready : Ready l)
    (hends : EndsGap (c :: r)) : ∃ s, Settles l s c r ∧ At depth (c :: r) s := by
  have hspace := (hends c rfl).1
  have hsplit : l.cursor.rest = l.cursor.rest.takeWhile Json.isSpace ++ c :: r := by
    conv => lhs; rw [← List.takeWhile_append_dropWhile (p := Json.isSpace) (l := l.cursor.rest)]
    exact congrArg _ (h.rest.trans (Json.skipSpace_cons hspace r))
  have hcursor : l.cursor
      = ⟨l.cursor.place, l.cursor.rest.takeWhile Json.isSpace ++ c :: r⟩ := by rw [← hsplit]
  have hlength := (List.takeWhile_sublist (l := l.cursor.rest) Json.isSpace).length_le
  obtain ⟨place, hskip, hpasses⟩ := skipGap_blanks l.inFlow hends
    (l.cursor.rest.takeWhile Json.isSpace) (List.all_eq_true.1 List.all_takeWhile) l.keyAllowed
    hready.skipsTabs (l.cursor.rest.length + 1) (by omega) l.cursor.place
  rw [← hcursor] at hskip hpasses
  have hallowed : (l.keyAllowed || (!l.inFlow
      && (l.cursor.rest.takeWhile Json.isSpace).any Json.isLineBreak)) = l.keyAllowed := by
    rcases hready.keyAllowed with hkey | hkey <;> simp [hkey]
  rw [hallowed] at hskip
  have hle : (c :: r).length ≤ l.cursor.rest.length := by
    rw [hsplit, List.length_append]
    omega
  refine ⟨l.settle l.keyAllowed ⟨place, c :: r⟩, ?_, h.settle _ _⟩
  refine ⟨rfl, rfl, rfl, rfl, rfl, hpasses, rfl, fun s' hs' hlength => ?_, fun hnone => ?_⟩
  · refine ⟨1, by rw [List.length_cons] at hle; omega, fun fuel => ?_⟩
    rw [h.run_succ hskip, hs', Option.bind_some]
  · intro fuel hfuel
    obtain ⟨fuel, rfl⟩ : ∃ k, fuel = k + 1 := ⟨fuel - 1, by omega⟩
    rw [h.run_succ hskip, hnone, Option.bind_none]

end

end Yaml.Lexer

end PodCheck
