import PodCheck.Form.Fields
import PodCheck.Proofs.Json.Printing

/-! # Forms that keep what they write

A form is exact if every value that it writes is read back from what it wrote, and never written as
if it were missing. Records are exact if their fields are (`Form.Exact.object`,
`Form.Exact.record`), because a field looks at the members with its own key only (`Fields.Local`).
So what is to be shown of a record is what its description says already, and instances put it
together. -/

namespace PodCheck

namespace SortedMap

variable {α β : Type} [Ord α] [Std.TransOrd α] [Std.LawfulEqOrd α]

/-- Looking up after inserting entries by rising key. -/
theorem get?_foldl_insert {l : List (α × β)} (h : l.Pairwise fun a b => compare a.1 b.1 = .lt)
    (m : SortedMap α β) (k : α) :
    (l.foldl (fun m e => m.insert e.1 e.2) m).get? k = (find k l).or (m.get? k) := by
  induction l generalizing m with
  | nil => rfl
  | cons e l ih =>
    obtain ⟨hfirst, hrest⟩ := List.pairwise_cons.1 h
    rw [List.foldl_cons, ih hrest, get?_insert]
    by_cases hk : compare k e.1 = .eq
    · obtain rfl := Std.LawfulEqCmp.eq_of_compare hk
      rw [find_eq_none hfirst]
      simp [find]
    · simp [find, hk]

/-- A map is the map of its entries. -/
theorem ofList_entries (m : SortedMap α β) : ofList m.entries = m := by
  apply ext_get?
  intro k
  rw [ofList, get?_foldl_insert m.sorted, get?_empty, Option.or_none]
  rfl

end SortedMap

namespace Source

/-- What is not `null` is there. -/
theorem present?_json {v : Json} (h : v ≠ .null) : (json v).present? = pure (some (json v)) := by
  cases v with
  | null => exact absurd rfl h
  | _ => rfl

/-- The items of a list are its items. -/
theorem items_array (items : List Json) :
    (json (.array items)).items = pure ⟨items.map json, true⟩ := rfl

/-- The members of a whole object. -/
def ofMembers (members : List (String × Json)) : Members :=
  ⟨members.map fun m => (m.1, json m.2), true⟩

/-- The members with one key. -/
theorem found_ofMembers (members : List (String × Json)) (key : String) :
    (ofMembers members).come.filter (·.1 = key)
      = (members.filter (·.1 = key)).map fun m => (m.1, json m.2) := by
  rw [ofMembers, List.filter_map]
  rfl

/-- The members of an object are its members. -/
theorem members_object (members : List (String × Json)) :
    (json (.object members)).members = pure (ofMembers members) := rfl

end Source

namespace Reading

variable {α β γ : Type} {b : β} {budget left : Nat}

/-- How a value that is made of another one is read. -/
theorem map_eq_ok {g : α → β} {x : Reading α} :
    (g <$> x) budget = .ok (b, left) ↔ ∃ a, x budget = .ok (a, left) ∧ g a = b := by
  change (x budget).map (fun p => (g p.1, p.2)) = _ ↔ _
  cases x budget with
  | error e => simp [Except.map]
  | ok p =>
    simp only [Except.map, Except.ok.injEq, Prod.ext_iff]
    constructor
    · rintro ⟨hg, hleft⟩
      exact ⟨p.1, ⟨rfl, hleft⟩, hg⟩
    · rintro ⟨a, ⟨rfl, hleft⟩, hg⟩
      exact ⟨hg, hleft⟩

/-- How two parts are read. -/
theorem both_eq_ok {f : Reading (α → β)} {x : Reading α} :
    both f x budget = .ok (b, left)
      ↔ ∃ g after a, f budget = .ok (g, after) ∧ x after = .ok (a, left) ∧ g a = b := by
  cases hf : f budget with
  | ok p =>
    obtain ⟨g, after⟩ := p
    have hboth : both f x budget = (g <$> x) after := by
      simp only [both, hf]
      rfl
    rw [hboth, map_eq_ok]
    simp only [Except.ok.injEq, Prod.mk.injEq]
    constructor
    · rintro ⟨a, hx, hg⟩
      exact ⟨g, after, a, ⟨rfl, rfl⟩, hx, hg⟩
    · rintro ⟨_, _, a, ⟨rfl, rfl⟩, hx, hg⟩
      exact ⟨a, hx, hg⟩
  | error fault =>
    -- the second part only decides which of the faults it is
    have hboth : ∃ e, both f x budget = .error e := by
      cases fault with
      | misfit => exact ⟨.misfit, by simp only [both, hf]⟩
      | unfinished =>
        simp only [both, hf]
        split
        · exact ⟨_, rfl⟩
        · exact ⟨_, rfl⟩
    obtain ⟨e, he⟩ := hboth
    simp [he]

/-- Values that are read from their own images are read one after the other. -/
theorem mapM_map_eq_pure {f : β → Reading γ} {g : α → β} {h : α → γ} {l : List α}
    (hread : ∀ a ∈ l, f (g a) = pure (h a)) : (l.map g).mapM f = pure (l.map h) := by
  induction l with
  | nil => rfl
  | cons a l ih =>
    rw [List.map_cons, List.mapM_cons, hread a (List.mem_cons_self ..), pure_bind,
      ih fun b hb => hread b (List.mem_cons_of_mem _ hb), pure_bind, List.map_cons]

end Reading

/-! ## Forms of single values -/

namespace Form

variable {α : Type} {f : Form α}

/-- **A form keeps a value**: what it writes is read back and does not stand for a missing value. -/
structure Keeps (f : Form α) (a : α) : Prop where
  /-- What is written is read back. -/
  read_write : f.read (.json (f.write a)) = pure a
  /-- What is written is there. -/
  present : f.write a ≠ .null
  /-- What is written can be printed. -/
  plain : (f.write a).Plain

/-- A form keeps every value. -/
class Exact (f : Form α) : Prop where
  /-- It keeps each of them. -/
  keeps : ∀ a, f.Keeps a

instance exact_text : text.Exact := ⟨fun a => ⟨faithful_text a, by simp [text], .text _⟩⟩

instance exact_bool : bool.Exact := ⟨fun a => ⟨faithful_bool a, by simp [bool], .bool _⟩⟩

instance exact_int32 : int32.Exact := ⟨fun a => ⟨faithful_int32 a, by simp [int32], .int _⟩⟩

instance exact_int64 : int64.Exact := ⟨fun a => ⟨faithful_int64 a, by simp [int64], .int _⟩⟩

/-- A list is read back item by item. -/
instance exact_list [f.Exact] : (list f).Exact where
  keeps l := by
    have hitems : ((l.map f.write).map Source.json).mapM f.read = pure (l.map id) := by
      rw [List.map_map]
      exact Reading.mapM_map_eq_pure fun a _ => (Exact.keeps a).read_write
    refine ⟨?_, by simp [list], .array ?_⟩
    · simp only [list, Source.items_array, pure_bind, hitems, List.map_id, Parts.close, if_true]
    · intro v hv
      obtain ⟨a, -, rfl⟩ := List.mem_map.1 hv
      exact (Exact.keeps a).plain

/-- A map is read back entry by entry. -/
instance exact_map [f.Exact] : (map f).Exact where
  keeps m := by
    have hentries : (m.entries.map fun e => (e.1, Source.json (f.write e.2))).mapM
        (fun e => do pure (e.1, ← f.read e.2)) = pure (m.entries.map id) := by
      refine Reading.mapM_map_eq_pure fun e _ => ?_
      rw [(Exact.keeps e.2).read_write, pure_bind]
      rfl
    refine ⟨?_, by simp [map], .object ?_⟩
    · simp only [map, Source.members_object, Source.ofMembers, List.map_map, Function.comp_def,
        pure_bind, hentries, List.map_id, SortedMap.ofList_entries, Parts.close, if_true]
    · intro member hmember
      obtain ⟨e, -, rfl⟩ := List.mem_map.1 hmember
      exact (Exact.keeps e.2).plain

instance exact_textMap : textMap.Exact := inferInstanceAs (map text).Exact

/-- A value that is there is read through a form of values that may be missing. -/
theorem Keeps.read_nullable {a : α} (h : f.Keeps a) :
    f.nullable.read (.json (f.write a)) = pure (some a) := by
  simp only [nullable, Source.present?_json h.present, pure_bind, h.read_write]

end Form

/-! ## Fields -/

namespace Fields

variable {ρ α β : Type}

/-- **Fields look at the members with their own keys only.** -/
class Local (fs : Fields ρ α) : Prop where
  /-- Objects with the same members at these keys are read alike. -/
  read_congr : ∀ (strict : Bool) {ms ms' : Members}, ms.whole = ms'.whole →
    (∀ key ∈ fs.keys, ms.come.filter (·.1 = key) = ms'.come.filter (·.1 = key)) →
    fs.read strict ms = fs.read strict ms'

instance local_map {f : α → β} {fs : Fields ρ α} [fs.Local] : (f <$> fs).Local where
  read_congr strict ms ms' hwhole hfound := by
    have h : fs.read strict ms = fs.read strict ms' := Local.read_congr strict hwhole hfound
    simp only [Functor.map, h]

instance local_seq {f : Fields ρ (α → β)} {fs : Fields ρ α} [f.Local] [fs.Local] :
    (f <*> fs).Local where
  read_congr strict ms ms' hwhole hfound := by
    have hf : f.read strict ms = f.read strict ms' :=
      Local.read_congr strict hwhole fun key hkey => hfound key (List.mem_append_left _ hkey)
    have hfs : fs.read strict ms = fs.read strict ms' :=
      Local.read_congr strict hwhole fun key hkey => hfound key (List.mem_append_right _ hkey)
    simp only [Seq.seq, hf, hfs]

instance local_field (key : String) (read : Source → Reading α) (absent short : Option α)
    (write : ρ → List (String × Json)) : (field key read absent short write).Local where
  read_congr strict ms ms' hwhole hfound := by
    have h := hfound key (List.mem_singleton.2 rfl)
    simp only [field, h, Parts.absent, hwhole]

section Members

variable (key : String) (f : Form α) (default : α)

instance local_required (get : ρ → α) : (required key f get).Local :=
  inferInstanceAs (field ..).Local

instance local_withDefault (get : ρ → α) : (withDefault key f default get).Local :=
  inferInstanceAs (field ..).Local

instance local_orDefault (get : ρ → α) : (orDefault key f default get).Local :=
  inferInstanceAs (field ..).Local

instance local_optional (get : ρ → Option α) : (optional key f get).Local :=
  inferInstanceAs (field ..).Local

instance local_nullable (get : ρ → Option α) : (nullable key f get).Local :=
  inferInstanceAs (field ..).Local

instance local_constant (value : String) : (constant key value : Fields ρ Unit).Local :=
  inferInstanceAs (field ..).Local

end Members

/-- Members with other keys are not looked at. -/
theorem read_among {fs : Fields ρ α} [fs.Local] (before members after : List (String × Json))
    (hbefore : ∀ m ∈ before, m.1 ∉ fs.keys) (hafter : ∀ m ∈ after, m.1 ∉ fs.keys)
    (strict : Bool) :
    fs.read strict (Source.ofMembers (before ++ members ++ after))
      = fs.read strict (Source.ofMembers members) := by
  have hnone : ∀ others : List (String × Json), (∀ m ∈ others, m.1 ∉ fs.keys) →
      ∀ key ∈ fs.keys, others.filter (·.1 = key) = [] := by
    intro others hothers key hkey
    rw [List.filter_eq_nil_iff]
    intro m hm heq
    exact hothers m hm (of_decide_eq_true heq ▸ hkey)
  refine Local.read_congr strict rfl fun key hkey => ?_
  rw [Source.found_ofMembers, Source.found_ofMembers, List.filter_append, List.filter_append,
    hnone before hbefore key hkey, hnone after hafter key hkey, List.nil_append, List.append_nil]

/-- **Fields keep a part of a record**: what is written of the record has their keys only, and the
part is read back from it. -/
structure Keeps (fs : Fields ρ α) (r : ρ) (a : α) : Prop where
  /-- What is written has their keys. -/
  mem_keys : ∀ m ∈ fs.write r, m.1 ∈ fs.keys
  /-- What is written can be printed. -/
  plain : ∀ m ∈ fs.write r, m.2.Plain
  /-- What is written is read back, if no two of them have one key. -/
  read_write : fs.keys.Nodup → ∀ strict, fs.read strict (Source.ofMembers (fs.write r)) = pure a

/-- A part that is made of another one is kept with it. -/
theorem Keeps.map {fs : Fields ρ α} {r : ρ} {a : α} (h : fs.Keeps r a) (f : α → β) :
    (f <$> fs).Keeps r (f a) where
  mem_keys := h.mem_keys
  plain := h.plain
  read_write hkeys strict := by
    have hread := h.read_write hkeys strict
    simp only [Functor.map, hread, pure_bind]

/-- Two parts are kept together. -/
theorem Keeps.seq {f : Fields ρ (α → β)} {fs : Fields ρ α} [f.Local] [fs.Local] {r : ρ}
    {g : α → β} {a : α} (hf : f.Keeps r g) (hfs : fs.Keeps r a) : (f <*> fs).Keeps r (g a) where
  mem_keys m hm := by
    rcases List.mem_append.1 hm with hm | hm
    · exact List.mem_append_left _ (hf.mem_keys m hm)
    · exact List.mem_append_right _ (hfs.mem_keys m hm)
  plain m hm := by
    rcases List.mem_append.1 hm with hm | hm
    · exact hf.plain m hm
    · exact hfs.plain m hm
  read_write hkeys strict := by
    obtain ⟨hkeysf, hkeysfs, hapart⟩ := List.nodup_append.1 hkeys
    -- neither part looks at what is written for the other one
    have hreadf : f.read strict (Source.ofMembers (f.write r ++ fs.write r)) = pure g := by
      have hothers : ∀ m ∈ fs.write r, m.1 ∉ f.keys := fun m hm hkey =>
        hapart m.1 hkey m.1 (hfs.mem_keys m hm) rfl
      rw [← hf.read_write hkeysf strict]
      exact read_among [] (f.write r) (fs.write r) (by simp) hothers strict
    have hreadfs : fs.read strict (Source.ofMembers (f.write r ++ fs.write r)) = pure a := by
      have hothers : ∀ m ∈ f.write r, m.1 ∉ fs.keys := fun m hm hkey =>
        hapart m.1 (hf.mem_keys m hm) m.1 hkey rfl
      rw [← hfs.read_write hkeysfs strict, ← List.append_nil (f.write r ++ fs.write r)]
      exact read_among (f.write r) (fs.write r) [] hothers (by simp) strict
    simp only [Seq.seq, hreadf, hreadfs, Reading.both_pure, map_pure]

section Single

variable {key : String} {read : Source → Reading α} {absent short : Option α}
  {write : ρ → List (String × Json)} {r : ρ} {a : α}

/-- A field keeps what it writes if it reads it back. -/
theorem Keeps.of_written {v : Json} (hwrite : write r = [(key, v)]) (hplain : v.Plain)
    (hread : read (.json v) = pure a) : (field key read absent short write).Keeps r a := by
  have hwritten : ∀ m ∈ write r, m = (key, v) := by simp [hwrite]
  refine ⟨fun m hm => ?_, fun m hm => ?_, fun _ strict => ?_⟩
  · rw [hwritten m hm]
    exact List.mem_singleton.2 rfl
  · rw [hwritten m hm]
    exact hplain
  · simp [field, hwrite, Source.ofMembers, hread]

/-- A field keeps what it does not write if that is what stands for a missing member. -/
theorem Keeps.of_omitted (hwrite : write r = []) (habsent : absent = some a) :
    (field key read absent short write).Keeps r a := by
  have hnothing : ∀ m, m ∉ write r := by simp [hwrite]
  refine ⟨fun m hm => ?_, fun m hm => ?_, fun _ strict => ?_⟩
  · exact absurd hm (hnothing m)
  · exact absurd hm (hnothing m)
  · simp [field, hwrite, Source.ofMembers, Parts.absent, habsent, Reading.ofOption]

variable {f : Form α}

/-- A field that may be missing is kept if its value is. -/
theorem Keeps.optional {get : ρ → Option α} (h : ∀ a, get r = some a → f.Keeps a) :
    (Fields.optional key f get).Keeps r (get r) := by
  cases hget : get r with
  | none =>
    refine .of_omitted ?_ rfl
    rw [hget]
    rfl
  | some a =>
    refine .of_written ?_ (h a hget).plain (h a hget).read_nullable
    rw [hget]
    rfl

/-- A field that must be there is kept if its value is. -/
theorem Keeps.required {get : ρ → α} (h : f.Keeps (get r)) :
    (Fields.required key f get).Keeps r (get r) := .of_written rfl h.plain h.read_write

/-- So is a field that may be missing and is always written. -/
theorem Keeps.orDefault {get : ρ → α} {default : α} (h : f.Keeps (get r)) :
    (Fields.orDefault key f default get).Keeps r (get r) := by
  refine .of_written rfl h.plain ?_
  rw [h.read_nullable, pure_bind]
  rfl

/-- A field that always has the same text is kept. -/
theorem Keeps.constant (value : String) : (Fields.constant key value).Keeps r () := by
  refine .of_written rfl (.text value) ?_
  simp only [Source.text_json, pure_bind, if_true]

end Single

/-- **Fields keep every record**, of which they are the given part. -/
class Exact (fs : Fields ρ α) (part : outParam (ρ → α)) : Prop extends fs.Local where
  /-- They keep each of them. -/
  keeps : ∀ r, fs.Keeps r (part r)

instance exact_map {f : α → β} {fs : Fields ρ α} {part : ρ → α} [fs.Exact part] :
    (f <$> fs).Exact fun r => f (part r) where
  keeps r := (Exact.keeps r).map f

instance exact_seq {f : Fields ρ (α → β)} {fs : Fields ρ α} {make : ρ → α → β} {part : ρ → α}
    [f.Exact make] [fs.Exact part] : (f <*> fs).Exact fun r => make r (part r) where
  keeps r := (Exact.keeps r).seq (Exact.keeps r)

section Instances

variable {key : String} {f : Form α} [f.Exact] {default : α}

instance exact_withDefault {get : ρ → α} : (withDefault key f default get).Exact get where
  keeps _ := .of_written rfl (Form.Exact.keeps _).plain (Form.Exact.keeps _).read_write

instance exact_orDefault {get : ρ → α} : (orDefault key f default get).Exact get where
  keeps _ := .orDefault (Form.Exact.keeps _)

instance exact_optional {get : ρ → Option α} : (optional key f get).Exact get where
  keeps _ := .optional fun a _ => Form.Exact.keeps a

/-- A field that is written as `null` is read back as missing. -/
instance exact_nullable {get : ρ → Option α} : (nullable key f get).Exact get where
  keeps r := by
    cases hget : get r with
    | none => exact .of_written rfl (by rw [hget]; exact .null) (by rw [hget]; rfl)
    | some a =>
      refine .of_written rfl ?_ ?_
      · rw [hget]
        exact (Form.Exact.keeps a).plain
      · rw [hget]
        exact (Form.Exact.keeps a).read_nullable

end Instances

/-! ## Records -/

/-- Nothing in JSON is broken. -/
theorem readMembers_ofMembers (strict : Bool) (fs : Fields ρ α) (members : List (String × Json)) :
    fs.readMembers strict (Source.ofMembers members)
      = fs.read strict (Source.ofMembers members) := by
  have hnone : ((Source.ofMembers members).come.any fun m =>
      !fs.keys.contains m.1 && m.2.isBroken) = false := by
    rw [List.any_eq_false]
    intro m hm
    obtain ⟨member, -, rfl⟩ := List.mem_map.1 hm
    simp [Source.isBroken]
  rw [readMembers, hnone]
  simp [Parts.close, Source.ofMembers]

/-- An object is read by its fields. -/
theorem read_object (fs : Fields ρ ρ) (members : List (String × Json)) :
    (object fs).read (.json (.object members)) = fs.read false (Source.ofMembers members) := by
  rw [← readMembers_ofMembers]
  simp only [object, Source.members_object, pure_bind]

/-- A record is read from an object by its fields. -/
theorem read_record (fs : Fields ρ ρ) (members : List (String × Json)) :
    (record fs).read (.json (.object members)) = fs.read true (Source.ofMembers members) := by
  rw [← readMembers_ofMembers]
  simp only [record, Source.row?, Source.members_object, pure_bind]

/-- An object keeps a record that its fields keep. -/
theorem Keeps.object {fs : Fields ρ ρ} {r : ρ} (h : fs.Keeps r r) (hkeys : fs.keys.Nodup) :
    (Fields.object fs).Keeps r where
  read_write := (read_object fs (fs.write r)).trans (h.read_write hkeys false)
  present := by simp [Fields.object]
  plain := .object h.plain

end Fields

/-- **A form of objects is exact if its fields are**, have different keys and make up the record. -/
theorem Form.Exact.object {ρ : Type} {fs : Fields ρ ρ} {part : ρ → ρ} [fs.Exact part]
    (hkeys : fs.keys.Nodup) (hpart : ∀ r, part r = r) : (Fields.object fs).Exact where
  keeps r := by
    have h : fs.Keeps r (part r) := Fields.Exact.keeps r
    rw [hpart] at h
    exact h.object hkeys

/-- A form of records is, too. -/
theorem Form.Exact.record {ρ : Type} {fs : Fields ρ ρ} {part : ρ → ρ} [fs.Exact part]
    (hkeys : fs.keys.Nodup) (hpart : ∀ r, part r = r) : (Fields.record fs).Exact where
  keeps r := by
    have h : fs.Keeps r (part r) := Fields.Exact.keeps r
    rw [hpart] at h
    exact ⟨(Fields.read_record fs (fs.write r)).trans (h.read_write hkeys true),
      by simp [Fields.record], .object h.plain⟩

end PodCheck
