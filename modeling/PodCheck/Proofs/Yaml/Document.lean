import PodCheck.Proofs.Yaml.Script
import PodCheck.Yaml.Document

/-! # JSON texts as documents of YAML

The tokens of a JSON value are read as its node, if every key has been announced, and cannot be read
otherwise (`reads_node`). With the tokens of its text this tells which lists and objects of JSON are
documents of YAML (`Document.IsShared`): those are the nodes of their scripts
(`Document.read?_of_isShared`), and any other one is no document
(`Document.read?_of_not_isShared`). -/

namespace PodCheck.Json

/-! ## Nodes of a script -/

/-- The node of a key. -/
def KeyScript.node (k : KeyScript) : Yaml.Node := .scalar none .quoted (plainText k.units)

mutual

/-- The node of a value. -/
def Script.node : Script → Yaml.Node
  | .word letters _ _ => .scalar none .plain (String.ofList letters)
  | .text _ units _ => .scalar none .quoted (plainText units)
  | .emptyArray _ => .sequence []
  | .array _ items => .sequence items.nodes
  | .emptyObject _ => .mapping []
  | .object _ members => .mapping members.entries

/-- The nodes of items. -/
def ItemScript.nodes : ItemScript → List Yaml.Node
  | .last v _ => [v.node]
  | .more v _ _ items => v.node :: items.nodes

/-- The nodes of members. -/
def MemberScript.entries : MemberScript → List (Yaml.Node × Yaml.Node)
  | .last key v _ => [(key.node, v.node)]
  | .more key v _ _ members => (key.node, v.node) :: members.entries

end

mutual

/-- The size of a value as a document. -/
def Script.size : Script → Nat
  | .word .. | .text .. => 1
  | .emptyArray _ | .emptyObject _ => 2
  | .array _ items => items.size
  | .object _ members => members.size

/-- The size of items with the end of their list. -/
def ItemScript.size : ItemScript → Nat
  | .last v _ => v.size + 2
  | .more v _ _ items => v.size + items.size

/-- The size of members with the end of their object. -/
def MemberScript.size : MemberScript → Nat
  | .last _ v _ => 1 + (v.size + 2)
  | .more _ v _ _ members => 1 + (v.size + members.size)

end

end PodCheck.Json

namespace PodCheck.Yaml.Reader

variable {handles : List (String × Tag)} {fuel : Nat} {block bare first : Bool} {ts : List Token}
  {names : List (String × Nat)} {begun : Nat} {targets : List Target} {size : Nat}

theorem node_sequence :
    node handles (fuel + 1) block bare ⟨.flowSequenceStart :: ts, names, begun, targets, size⟩
      = (flowItems handles fuel true [] ⟨ts, names, begun, targets, size⟩).bind
        fun r => some (.sequence r.1, r.2) := rfl

theorem node_mapping :
    node handles (fuel + 1) block bare ⟨.flowMappingStart :: ts, names, begun, targets, size⟩
      = (flowPairs handles fuel true [] ⟨ts, names, begun, targets, size⟩).bind
        fun r => some (.mapping r.1, r.2) := rfl

theorem flowItems_end (done : List Node) :
    flowItems handles (fuel + 1) first done
        ⟨.flowSequenceEnd :: ts, names, begun, targets, size⟩
      = some (done.reverse, ⟨ts, names, begun, targets, size + 2⟩) := rfl

theorem flowPairs_end (done : List (Node × Node)) :
    flowPairs handles (fuel + 1) first done
        ⟨.flowMappingEnd :: ts, names, begun, targets, size⟩
      = some (done.reverse, ⟨ts, names, begun, targets, size + 2⟩) := rfl

/-- The token before an item or a pair. -/
def separator (first : Bool) : List Token := if first then [] else [.flowEntry]

/-- Whether a token is the first one of a value. -/
def beginsValue : Token → Bool
  | .scalar .. | .flowSequenceStart | .flowMappingStart => true
  | _ => false

theorem flowItems_item {t : Token} (ht : beginsValue t = true) (done : List Node) :
    flowItems handles (fuel + 1) first done
        ⟨separator first ++ t :: ts, names, begun, targets, size⟩
      = (node handles fuel false false ⟨t :: ts, names, begun, targets, size⟩).bind
        fun r => flowItems handles fuel false (r.1 :: done) r.2 := by
  cases first <;> cases t <;> first | rfl | cases ht

theorem flowPairs_key {text : String} {t : Token} (ht : beginsValue t = true)
    (done : List (Node × Node)) :
    flowPairs handles (fuel + 2) first done
        ⟨separator first ++ .key :: .scalar .quoted text :: .value :: t :: ts, names, begun,
          targets, size⟩
      = (node handles (fuel + 1) false false ⟨t :: ts, names, begun, targets, size + 1⟩).bind
        fun r =>
          flowPairs handles (fuel + 1) false ((.scalar none .quoted text, r.1) :: done) r.2 := by
  cases first <;> cases t <;> first | rfl | cases ht

theorem flowPairs_unannounced {style : ScalarStyle} {text : String} (done : List (Node × Node)) :
    flowPairs handles fuel first done
        ⟨separator first ++ .scalar style text :: .value :: ts, names, begun, targets, size⟩
      = none := by
  obtain _ | _ | _ | fuel := fuel
  · rfl
  · cases first <;> rfl
  · cases first <;> rfl
  · cases first <;> rfl

/-- Some tokens are read as something of some size, if some condition holds; otherwise they cannot
be read. -/
structure Reads {α : Type} (read : Reader α) (ts : List Token) (ok : Prop) (a : α) (n : Nat) :
    Prop where
  /-- They are read. -/
  some_of : ok → ∀ rest names begun targets size,
    read ⟨ts ++ rest, names, begun, targets, size⟩
      = some (a, ⟨rest, names, begun, targets, size + n⟩)
  /-- They cannot be read. -/
  none_of : ¬ ok → ∀ rest names begun targets size,
    read ⟨ts ++ rest, names, begun, targets, size⟩ = none

theorem Reads.of_forall {α : Type} {read : Reader α} {a : α} {n : Nat}
    (h : ∀ rest names begun targets size, read ⟨ts ++ rest, names, begun, targets, size⟩
      = some (a, ⟨rest, names, begun, targets, size + n⟩)) : Reads read ts True a n :=
  ⟨fun _ => h, fun hnot => absurd trivial hnot⟩

/-- A part is read, and then another one. -/
theorem Reads.bind {α β : Type} {read : Reader β} {read₁ : Reader α} (read₂ : α → Reader β)
    {front ts₁ ts₂ : List Token} {ok₁ ok₂ : Prop} {a₁ : α} {a₂ : β} {n n₁ n₂ : Nat}
    (h : ∀ rest names begun targets size,
      read ⟨front ++ (ts₁ ++ rest), names, begun, targets, size⟩
        = (read₁ ⟨ts₁ ++ rest, names, begun, targets, size + n⟩).bind fun r => read₂ r.1 r.2)
    (h₁ : Reads read₁ ts₁ ok₁ a₁ n₁) (h₂ : Reads (read₂ a₁) ts₂ ok₂ a₂ n₂) :
    Reads read (front ++ (ts₁ ++ ts₂)) (ok₁ ∧ ok₂) a₂ (n + (n₁ + n₂)) where
  some_of := by
    rintro ⟨hok₁, hok₂⟩ rest names begun targets size
    rw [List.append_assoc, List.append_assoc, h, h₁.some_of hok₁, Option.bind_some,
      h₂.some_of hok₂]
    simp only [Nat.add_assoc]
  none_of := by
    intro hnot rest names begun targets size
    rw [List.append_assoc, List.append_assoc, h]
    by_cases hok₁ : ok₁
    · rw [h₁.some_of hok₁, Option.bind_some, h₂.none_of fun hok₂ => hnot ⟨hok₁, hok₂⟩]
    · rw [h₁.none_of hok₁, Option.bind_none]

/-- The tokens of a value begin with one of its own. -/
theorem exists_cons_tokens (t : Json.Script) :
    ∃ tok ts, t.tokens = tok :: ts ∧ beginsValue tok = true := by
  cases t <;> exact ⟨_, _, by rw [Json.Script.tokens], rfl⟩

/-- An item is read, and then what comes behind it. -/
theorem Reads.item {v : Json.Script} {ts : List Token} {ok : Prop} {items : List Node} {n : Nat}
    {done : List Node} (hv : Reads (node handles fuel false false) v.tokens v.Near v.node v.size)
    (hitems : Reads (flowItems handles fuel false (v.node :: done)) ts ok items n) :
    Reads (flowItems handles (fuel + 1) first done) (separator first ++ (v.tokens ++ ts))
      (v.Near ∧ ok) items (v.size + n) := by
  obtain ⟨t, ts', htokens, ht⟩ := exists_cons_tokens v
  have h : Reads (flowItems handles (fuel + 1) first done) (separator first ++ (v.tokens ++ ts))
      (v.Near ∧ ok) items (0 + (v.size + n)) := by
    refine .bind (fun node => flowItems handles fuel false (node :: done))
      (fun rest names begun targets size => ?_) hv hitems
    rw [htokens]
    exact flowItems_item ht done
  rwa [Nat.zero_add] at h

/-- A member is read, and then what comes behind it. Its key must have been announced. -/
theorem Reads.member {key : Json.KeyScript} {v : Json.Script} {ts : List Token} {ok : Prop}
    {entries done : List (Node × Node)} {n : Nat}
    (hv : Reads (node handles (fuel + 1) false false) v.tokens v.Near v.node v.size)
    (hentries : Reads (flowPairs handles (fuel + 1) false ((key.node, v.node) :: done)) ts ok
      entries n) :
    Reads (flowPairs handles (fuel + 2) first done)
      (separator first ++ (key.tokens ++ (v.tokens ++ ts))) (key.isNear ∧ v.Near ∧ ok) entries
      (1 + (v.size + n)) := by
  obtain ⟨t, ts', htokens, ht⟩ := exists_cons_tokens v
  cases hnear : key.isNear with
  | true =>
    have hkey : key.tokens = [.key, .scalar .quoted (Json.plainText key.units), .value] := by
      simp [Json.KeyScript.tokens, hnear]
    have h : Reads (flowPairs handles (fuel + 2) first done)
        ((separator first ++ key.tokens) ++ (v.tokens ++ ts)) (v.Near ∧ ok) entries
        (1 + (v.size + n)) := by
      refine .bind (fun node => flowPairs handles (fuel + 1) false ((key.node, node) :: done))
        (fun rest names begun targets size => ?_) hv hentries
      rw [htokens, hkey, List.append_assoc]
      exact flowPairs_key ht done
    simpa using h
  | false =>
    refine ⟨fun hok => absurd hok.1 (by simp), fun _ rest names begun targets size => ?_⟩
    simp only [Json.KeyScript.tokens, hnear, Bool.false_eq_true, if_false, List.nil_append,
      List.append_assoc, List.cons_append]
    exact flowPairs_unannounced done

theorem reads_itemsEnd (done : List Node) :
    Reads (flowItems handles (fuel + 1) first done) [.flowSequenceEnd] True done.reverse 2 :=
  .of_forall fun _ _ _ _ _ => flowItems_end done

theorem reads_pairsEnd (done : List (Node × Node)) :
    Reads (flowPairs handles (fuel + 1) first done) [.flowMappingEnd] True done.reverse 2 :=
  .of_forall fun _ _ _ _ _ => flowPairs_end done

/-- The items of a list make up its node. -/
theorem Reads.sequence {items : List Node} {ok : Prop} {n : Nat}
    (h : Reads (flowItems handles fuel true []) ts ok items n) :
    Reads (node handles (fuel + 1) block bare) (.flowSequenceStart :: ts) ok (.sequence items)
      n := by
  have hnode : Reads (node handles (fuel + 1) block bare) ([.flowSequenceStart] ++ (ts ++ []))
      (ok ∧ True) (.sequence items) (0 + (n + 0)) :=
    .bind (fun items => pure (.sequence items)) (fun _ _ _ _ _ => node_sequence) h
      (.of_forall fun _ _ _ _ _ => rfl)
  simpa using hnode

/-- The members of an object make up its node. -/
theorem Reads.mapping {entries : List (Node × Node)} {ok : Prop} {n : Nat}
    (h : Reads (flowPairs handles fuel true []) ts ok entries n) :
    Reads (node handles (fuel + 1) block bare) (.flowMappingStart :: ts) ok (.mapping entries)
      n := by
  have hnode : Reads (node handles (fuel + 1) block bare) ([.flowMappingStart] ++ (ts ++ []))
      (ok ∧ True) (.mapping entries) (0 + (n + 0)) :=
    .bind (fun entries => pure (.mapping entries)) (fun _ _ _ _ _ => node_mapping) h
      (.of_forall fun _ _ _ _ _ => rfl)
  simpa using hnode

theorem length_tokens_pos (t : Json.Script) : 0 < t.tokens.length := by
  obtain ⟨tok, ts, htokens, -⟩ := exists_cons_tokens t
  simp [htokens]

theorem le_length_tokens (k : Json.KeyScript) : 2 ≤ k.tokens.length := by
  simp [Json.KeyScript.tokens]

mutual

/-- **The tokens of a value are read as its node**, if every key is near its colon; otherwise they
cannot be read. -/
theorem reads_node : ∀ (t : Json.Script) (block bare : Bool) (fuel : Nat), t.tokens.length ≤ fuel →
    Reads (node handles fuel block bare) t.tokens t.Near t.node t.size
  | .word .., _, _, _ + 1, _ | .text .., _, _, _ + 1, _ => .of_forall fun _ _ _ _ _ => rfl
  | .emptyArray _, _, _, _ + 2, _ | .emptyObject _, _, _, _ + 2, _ =>
    .of_forall fun _ _ _ _ _ => rfl
  | .array _ items, _, _, fuel + 1, hfuel => by
    have hitems := reads_items items true [] fuel
      (by simpa [separator, Json.Script.tokens] using hfuel)
    exact hitems.sequence
  | .object _ members, _, _, fuel + 1, hfuel => by
    have hmembers := reads_members members true [] fuel
      (by simpa [separator, Json.Script.tokens] using hfuel)
    exact hmembers.mapping

/-- So are those of items. -/
theorem reads_items : ∀ (items : Json.ItemScript) (first : Bool) (done : List Node) (fuel : Nat),
    (separator first ++ items.tokens).length ≤ fuel →
    Reads (flowItems handles fuel first done) (separator first ++ items.tokens)
      items.Near (done.reverse ++ items.nodes) items.size
  | .last v _, first, done, fuel, hfuel => by
    simp only [Json.ItemScript.tokens, List.length_append, List.length_singleton] at hfuel
    have := length_tokens_pos v
    obtain ⟨fuel, rfl⟩ : ∃ k, fuel = k + 2 := ⟨fuel - 2, by omega⟩
    have hv := reads_node v false false (fuel + 1) (by omega)
    have h : Reads (flowItems handles (fuel + 2) first done) _ _ _ _ :=
      hv.item (reads_itemsEnd (v.node :: done))
    simpa [Json.ItemScript.tokens, Json.ItemScript.nodes, Json.ItemScript.Near,
      Json.ItemScript.size] using h
  | .more v _ _ items, first, done, fuel, hfuel => by
    simp only [Json.ItemScript.tokens, List.length_append, List.length_cons] at hfuel
    have := length_tokens_pos v
    obtain ⟨fuel, rfl⟩ : ∃ k, fuel = k + 1 := ⟨fuel - 1, by omega⟩
    have hv := reads_node v false false fuel (by omega)
    have hitems := reads_items items false (v.node :: done) fuel
      (by simp [separator]; omega)
    have h : Reads (flowItems handles (fuel + 1) first done) _ _ _ _ := hv.item hitems
    simpa [Json.ItemScript.tokens, Json.ItemScript.nodes, Json.ItemScript.Near,
      Json.ItemScript.size, separator] using h

/-- So are those of members. -/
theorem reads_members : ∀ (members : Json.MemberScript) (first : Bool) (done : List (Node × Node))
    (fuel : Nat), (separator first ++ members.tokens).length ≤ fuel →
    Reads (flowPairs handles fuel first done) (separator first ++ members.tokens)
      members.Near (done.reverse ++ members.entries) members.size
  | .last key v _, first, done, fuel, hfuel => by
    simp only [Json.MemberScript.tokens, List.length_append, List.length_singleton] at hfuel
    have := length_tokens_pos v
    have := le_length_tokens key
    obtain ⟨fuel, rfl⟩ : ∃ k, fuel = k + 2 := ⟨fuel - 2, by omega⟩
    have hv := reads_node v false false (fuel + 1) (by omega)
    have h : Reads (flowPairs handles (fuel + 2) first done) _ _ _ _ :=
      hv.member (reads_pairsEnd ((key.node, v.node) :: done))
    simpa [Json.MemberScript.tokens, Json.MemberScript.entries, Json.MemberScript.Near,
      Json.MemberScript.size] using h
  | .more key v _ _ members, first, done, fuel, hfuel => by
    -- an entry takes a unit of fuel for itself and one for its value, and has a token for each
    simp only [Json.MemberScript.tokens, List.length_append, List.length_cons] at hfuel
    have := length_tokens_pos v
    have := le_length_tokens key
    obtain ⟨fuel, rfl⟩ : ∃ k, fuel = k + 2 := ⟨fuel - 2, by omega⟩
    have hv := reads_node v false false (fuel + 1) (by omega)
    have hmembers := reads_members members false ((key.node, v.node) :: done)
      (fuel + 1) (by simp [separator]; omega)
    have h : Reads (flowPairs handles (fuel + 2) first done) _ _ _ _ := hv.member hmembers
    simpa [Json.MemberScript.tokens, Json.MemberScript.entries, Json.MemberScript.Near,
      Json.MemberScript.size, separator] using h

end

/-- The tokens of a list or an object are read as the one document of a text. -/
theorem reads_root {t : Json.Script} (hnested : t.isNested = true) {fuel : Nat}
    (hfuel : t.tokens.length ≤ fuel) : Reads (root fuel) t.tokens t.Near t.node t.size := by
  have hnode : Reads (node defaultHandles fuel true false) t.tokens t.Near t.node t.size :=
    reads_node t true false fuel hfuel
  have hroot : ∀ rest names begun targets size,
      root fuel ⟨t.tokens ++ rest, names, begun, targets, size⟩
        = node defaultHandles fuel true false ⟨t.tokens ++ rest, names, begun, targets, size⟩ := by
    cases t with
    | word | text => cases hnested
    | emptyArray | array | emptyObject | object => exact fun _ _ _ _ _ => rfl
  constructor
  · intro hnear rest names begun targets size
    rw [hroot, hnode.some_of hnear]
  · intro hfar rest names begun targets size
    rw [hroot, hnode.none_of hfar]

end PodCheck.Yaml.Reader

namespace PodCheck.Yaml.Document

variable {before after : Json.Blanks} {t : Json.Script}

/-- What a JSON text that is a list or an object must be like to be a document of YAML. -/
structure IsShared (before : Json.Blanks) (t : Json.Script) (after : Json.Blanks) : Prop where
  /-- All characters are allowed. -/
  isAllowed : ∀ c ∈ before.chars ++ (t.chars ++ after.chars), Yaml.isAllowed c = true
  /-- There is no tab before it. -/
  before : '\t' ∉ before.chars
  /-- Behind it there is no tab in another line. -/
  after : '\t' ∉ indentation false after.chars
  /-- No text names half of a pair. -/
  unpaired : t.Unpaired
  /-- Every key is near its colon. -/
  near : t.Near

section

variable {s : String} (hs : s.toList = before.chars ++ (t.chars ++ after.chars))
  (hnested : t.isNested = true) (hnative : Lexer.IsNative t.chars)

include hs hnested hnative

/-- **Such a text is the document of its script.** -/
theorem read?_of_isShared (h : IsShared before t after) : read? s = some ⟨t.node, [], t.size⟩ := by
  have htokens : tokens? s.toList = some t.tokens := by
    rw [hs]
    exact tokens?_eq_some hnested h.isAllowed hnative h.before h.after h.unpaired
  have hlength : t.tokens.length ≤ 4 * t.tokens.length + 4 := by omega
  have hroot := (Reader.reads_root hnested hlength).some_of h.near [] [] 0 [] 0
  rw [List.append_nil, Nat.zero_add] at hroot
  simp [read?, htokens, hroot]

/-- **Any other one is no document.** -/
theorem read?_of_not_isShared (h : ¬ IsShared before t after) : read? s = none := by
  by_cases htokens : (∀ c ∈ before.chars ++ (t.chars ++ after.chars), isAllowed c = true)
      ∧ '\t' ∉ before.chars ∧ '\t' ∉ indentation false after.chars ∧ t.Unpaired
  · obtain ⟨hallowed, hbefore, hafter, hunpaired⟩ := htokens
    have hfar : ¬ t.Near := fun hnear => h ⟨hallowed, hbefore, hafter, hunpaired, hnear⟩
    have htokens := tokens?_eq_some hnested hallowed hnative hbefore hafter hunpaired
    have hlength : t.tokens.length ≤ 4 * t.tokens.length + 4 := by omega
    have hroot := (Reader.reads_root hnested hlength).none_of hfar [] [] 0 [] 0
    rw [List.append_nil] at hroot
    simp [read?, hs, htokens, hroot]
  · simp [read?, hs, tokens?_eq_none hnested hnative htokens]

end

end PodCheck.Yaml.Document
