import PodCheck.Proofs.Form.Mirror
import PodCheck.Proofs.Yaml.Document

/-! # The node of a JSON text stands for its value

A literal or a number of JSON means the same as a word of YAML (`mirrors_word`), so that the node of
a whole value stands for it (`mirrors_script`). -/

namespace PodCheck.Yaml

open Json (IsWhole IsWord IsNumeral)

/-! ## Words -/

theorem digitValue?_of_isDigit {c : Char} (h : c.isDigit = true) :
    digitValue? c = some (c.toNat - 48) := by
  rw [digitValue?, if_pos h]

/-- The value of a digit is less than ten. -/
theorem lt_ten_of_isDigit {c : Char} (h : c.isDigit = true) : c.toNat - 48 < 10 := by
  simp only [Char.isDigit, Bool.and_eq_true, decide_eq_true_eq, UInt32.le_iff_toNat_le] at h
  have : c.val.toNat ≤ 57 := h.2
  have : c.toNat = c.val.toNat := rfl
  omega

/-- Digits are read alike in both languages. -/
theorem digits?_eq {digits : List Char} (hne : digits ≠ [])
    (h : ∀ c ∈ digits, c.isDigit = true) : digits? 10 digits = some (Json.digitsValue digits) := by
  have hfold : ∀ n, digits.foldlM (fun n c => (digitValue? c).bind fun d =>
      if d < 10 then some (n * 10 + d) else none) n
        = some (digits.foldl (fun n c => n * 10 + (c.toNat - 48)) n) := by
    clear hne
    induction digits with
    | nil => exact fun n => rfl
    | cons c digits ih =>
      intro n
      obtain ⟨hc, hdigits⟩ := List.forall_mem_cons.1 h
      rw [List.foldlM_cons, digitValue?_of_isDigit hc]
      simpa [lt_ten_of_isDigit hc] using ih hdigits (n * 10 + (c.toNat - 48))
  rw [digits?, if_neg hne, hfold]
  rfl

/-- The digits of a whole number have no mark, no zero before them and no sign of their own. -/
theorem plain_of_isWhole {digits : List Char} (h : IsWhole digits) :
    marked? digits = none ∧ isZeroPadded digits = false ∧ isZeroPadded ('-' :: digits) = false
      ∧ dropPlus digits = digits ∧ digits.head? ≠ some '-' := by
  obtain ⟨c, r, rfl⟩ := List.exists_cons_of_ne_nil h.ne_nil
  have hc := h.isDigit c (List.mem_cons_self ..)
  have hplus : c ≠ '+' := by rintro rfl; cases hc
  have hminus : c ≠ '-' := by rintro rfl; cases hc
  have hzero : c = '0' → r = [] := by
    rintro rfl
    exact (List.cons.inj (h.eq_zero rfl)).2
  have hdrop : dropPlus (c :: r) = c :: r := by
    rw [dropPlus]
    rintro _ heq
    exact hplus (List.cons.inj heq).1
  have hsign : dropSign (c :: r) = c :: r := by
    rw [dropSign, hdrop]
    rintro _ heq
    exact hminus (List.cons.inj heq).1
  have hpadded : ∀ s, dropSign s = c :: r → isZeroPadded s = false := by
    intro s hs
    rw [isZeroPadded, hs]
    split <;> simp_all
  refine ⟨?_, hpadded _ hsign, hpadded _ rfl, hdrop, by simpa using hminus⟩
  unfold marked?
  split <;> simp_all

theorem integer?_natural {digits : List Char} (h : IsWhole digits) :
    integer? digits = some (Json.digitsValue digits : Int) := by
  obtain ⟨hmark, hzero, -, hplus, hminus⟩ := plain_of_isWhole h
  have hdigits := digits?_eq h.ne_nil h.isDigit
  unfold integer?
  split
  · simp at hminus
  · simp [natural?, hplus, hmark, hzero, hdigits]

theorem integer?_negative {digits : List Char} (h : IsWhole digits) :
    integer? ('-' :: digits) = some (-(Json.digitsValue digits : Int)) := by
  obtain ⟨hmark, -, hzero, -⟩ := plain_of_isWhole h
  simp [integer?, hmark, hzero, digits?_eq h.ne_nil h.isDigit]

/-- A number is no other word. -/
theorem ne_word_of_isNumeral {letters : List Char} (h : IsNumeral letters) :
    String.ofList letters ≠ "" ∧ isNull (String.ofList letters) = false
      ∧ bool? (String.ofList letters) = none := by
  have hne : ∀ word : String, (word.toList.head?.any fun c => c.isDigit || c = '-') = false →
      String.ofList letters ≠ word := by
    rintro _ hword rfl
    cases h with
    | unsigned hd => simp [hd] at hword
    | signed => simp at hword
  refine ⟨hne _ rfl, ?_, ?_⟩
  · simp [isNull, hne "null" rfl, hne "Null" rfl, hne "NULL" rfl, hne "~" rfl]
  · simp [bool?, hne "true" rfl, hne "True" rfl, hne "TRUE" rfl, hne "false" rfl, hne "False" rfl,
      hne "FALSE" rfl]

/-- A whole number means the same as its word. -/
theorem mirrors_int {letters : List Char} {n : Int} (hnumeral : IsNumeral letters)
    (h : integer? letters = some n) :
    Mirrors (.int n) (.scalar none .plain (String.ofList letters)) := by
  obtain ⟨hempty, hnull, hbool⟩ := ne_word_of_isNumeral hnumeral
  exact .int (by rw [String.toList_ofList, h]) hempty hnull hbool

/-- A literal or a number means the same as a word of YAML. -/
theorem mirrors_word {letters : List Char} {v : Json} (h : IsWord letters v) :
    Mirrors v (.scalar none .plain (String.ofList letters)) := by
  cases h with
  | null => exact .null
  | true => exact .true
  | false => exact .false
  | natural h =>
    have hnumeral := (h.isNumeral (List.forall_mem_nil _)).1
    rw [List.append_nil] at hnumeral
    exact mirrors_int hnumeral (integer?_natural h)
  | negative h =>
    have hnumeral := (h.isNumeral (List.forall_mem_nil _)).2
    rw [List.append_nil] at hnumeral
    exact mirrors_int hnumeral (integer?_negative h)
  | real h =>
    obtain ⟨hempty, hnull, -⟩ := ne_word_of_isNumeral h
    exact .real hempty hnull

/-! ## Values -/

/-- Members whose keys can be read. -/
theorem ofMembers_eq {members : List (Option String × Json)} {members' : List (String × Json)}
    (h : members = members'.map fun m => (some m.1, m.2)) :
    Json.ofMembers members = .object members' := by
  rw [h, Json.ofMembers_map]

mutual

/-- **The node of a value stands for it**, unless one of its texts names half of a pair. -/
theorem mirrors_script : ∀ t : Json.Script, t.Unpaired → Mirrors t.value t.node
  | .word _ _ h, _ => mirrors_word h
  | .text inner units h, hunpaired => by
    rw [Json.Script.value, Json.textOf?_of_unpaired hunpaired]
    exact .text _
  | .emptyArray _, _ => .array .nil
  | .array _ items, hunpaired => .array (mirrors_items items hunpaired)
  | .emptyObject _, _ => .object rfl .nil
  | .object _ members, hunpaired => by
    obtain ⟨members', hvalues, hkeys, hmirrors⟩ := mirrors_members members hunpaired
    rw [Json.Script.value, ofMembers_eq hvalues]
    exact .object hkeys hmirrors

/-- So do the nodes of items. -/
theorem mirrors_items : ∀ items : Json.ItemScript, items.Unpaired →
    List.Forall₂ Mirrors items.values items.nodes
  | .last v _, hunpaired => .cons (mirrors_script v hunpaired) .nil
  | .more v _ _ items, hunpaired =>
    .cons (mirrors_script v hunpaired.1) (mirrors_items items hunpaired.2)

/-- So do those of members, the keys of which can be read. -/
theorem mirrors_members : ∀ members : Json.MemberScript, members.Unpaired →
    ∃ members' : List (String × Json), members.values = members'.map (fun m => (some m.1, m.2))
      ∧ members.entries.map (·.1) = members'.map (fun m => .scalar none .quoted m.1)
      ∧ List.Forall₂ Mirrors (members'.map (·.2)) (members.entries.map (·.2))
  | .last key v _, hunpaired => by
    have hkey := Json.textOf?_of_unpaired hunpaired.1
    refine ⟨[(Json.plainText key.units, v.value)], ?_, rfl, ?_⟩
    · simp [Json.MemberScript.values, Json.KeyScript.value, hkey, Json.plainText]
    · exact .cons (mirrors_script v hunpaired.2) .nil
  | .more key v _ _ members, hunpaired => by
    have hkey := Json.textOf?_of_unpaired hunpaired.1
    obtain ⟨members', hvalues, hkeys, hmirrors⟩ := mirrors_members members hunpaired.2.2
    refine ⟨(Json.plainText key.units, v.value) :: members', ?_, ?_, ?_⟩
    · simp [Json.MemberScript.values, Json.KeyScript.value, hkey, Json.plainText, hvalues]
    · simp [Json.MemberScript.entries, Json.KeyScript.node, hkeys]
    · exact .cons (mirrors_script v hunpaired.2.1) hmirrors

end

end PodCheck.Yaml
