import Mathlib.Data.List.Forall2
import PodCheck.Check
import PodCheck.Proofs.Form.Exact

/-! # Typed data from JSON and from YAML

A JSON value has a mirror in YAML: words stay words, texts are quoted, lists are sequences and
objects are mappings (`Yaml.Mirrors`). Whatever typed data a form takes from the value it takes from
the mirror, too (`Form.Carried`), and follows no alias for it. A record that could also be read from
a row of values is the exception: it is carried over from objects (`Fields.refines_record`), and
from nothing else (`Fields.eq_object_of_read_record`). -/

namespace PodCheck

/-! ## Mirrors -/

namespace Yaml

/-- A node of YAML that stands for a JSON value. -/
inductive Mirrors : Json → Node → Prop
  /-- Nothing. -/
  | null : Mirrors .null (.scalar none .plain "null")
  /-- The true value. -/
  | true : Mirrors (.bool true) (.scalar none .plain "true")
  /-- The false value. -/
  | false : Mirrors (.bool false) (.scalar none .plain "false")
  /-- A whole number is a word for it and for nothing else. -/
  | int {n : Int} {t : String} (h : integer? t.toList = some n) (hempty : t ≠ "")
    (hnull : isNull t = Bool.false) (hbool : bool? t = none) :
    Mirrors (.int n) (.scalar none .plain t)
  /-- Any other number is its own word. -/
  | real {t : String} (hempty : t ≠ "") (hnull : isNull t = Bool.false) :
    Mirrors (.real t) (.scalar none .plain t)
  /-- A text is quoted. -/
  | text (t : String) : Mirrors (.text t) (.scalar none .quoted t)
  /-- A list is a sequence. -/
  | array {items : List Json} {nodes : List Node} (h : List.Forall₂ Mirrors items nodes) :
    Mirrors (.array items) (.sequence nodes)
  /-- An object is a mapping, the keys of which are quoted. -/
  | object {members : List (String × Json)} {entries : List (Node × Node)}
    (hkeys : entries.map (·.1) = members.map fun m => .scalar none .quoted m.1)
    (h : List.Forall₂ Mirrors (members.map (·.2)) (entries.map (·.2))) :
    Mirrors (.object members) (.mapping entries)

end Yaml

/-- The source of a mirror, given that of a value. -/
inductive Source.Mirrors : Source → Source → Prop
  /-- No node has an anchor. -/
  | intro {v : Json} {node : Yaml.Node} (h : Yaml.Mirrors v node) :
    Mirrors (.json v) (.yaml [] node)

/-! ## Refinement -/

/-- Whatever one reading gives, another one gives something that is related to it, and neither of
them follows an alias. -/
def Reading.Refines {α β : Type} (R : α → β → Prop) (r : Reading α) (r' : Reading β) : Prop :=
  ∀ budget a budget', r budget = .ok (a, budget') → budget' = budget ∧ ∃ b, r' = pure b ∧ R a b

namespace Reading.Refines

variable {α β γ δ : Type} {R : α → β → Prop} {S : γ → δ → Prop} {r : Reading α} {r' : Reading β}

theorem pure {a : α} {b : β} (h : R a b) : Refines R (pure a) (pure b) := by
  intro budget a' budget' heq
  obtain ⟨rfl, rfl⟩ := Prod.mk.inj (Except.ok.inj heq)
  exact ⟨rfl, b, rfl, h⟩

/-- What gives nothing is refined by anything. -/
theorem fail : Refines R (fail : Reading α) r' := nofun

theorem bind {f : α → Reading γ} {f' : β → Reading δ} (h : Refines R r r')
    (hf : ∀ a b, R a b → Refines S (f a) (f' b)) : Refines S (r >>= f) (r' >>= f') := by
  intro budget c budget' heq
  change (r budget).bind (fun p => f p.1 p.2) = .ok (c, budget') at heq
  cases hr : r budget with
  | error e =>
    rw [hr] at heq
    cases heq
  | ok p =>
    rw [hr] at heq
    obtain ⟨hbudget, b, rfl, hab⟩ := h budget p.1 p.2 hr
    obtain ⟨hbudget', d, hd, hcd⟩ := hf p.1 b hab p.2 c budget' heq
    exact ⟨hbudget'.trans hbudget, d, by rw [pure_bind, hd], hcd⟩

theorem ofOption (o : Option α) : Refines Eq (Reading.ofOption o) (Reading.ofOption o) := by
  cases o with
  | none => exact fail
  | some a => exact pure rfl

/-- Two parts of the same data are read together. -/
theorem both {f f' : Reading (α → γ)} {x x' : Reading α} (hf : Refines Eq f f')
    (hx : Refines Eq x x') : Refines Eq (Reading.both f x) (Reading.both f' x') := by
  intro budget c budget' heq
  rw [Reading.both] at heq
  split at heq
  · next g budget₁ hg =>
    obtain ⟨rfl, _, rfl, rfl⟩ := hf _ _ _ hg
    cases hr : x budget₁ with
    | error e =>
      rw [hr] at heq
      cases heq
    | ok p =>
      rw [hr] at heq
      obtain ⟨hbudget, _, rfl, rfl⟩ := hx _ p.1 p.2 hr
      obtain ⟨rfl, rfl⟩ := Prod.mk.inj (Except.ok.inj heq)
      exact ⟨hbudget, _, by rw [both_pure, map_pure], rfl⟩
  · cases heq
  · split at heq <;> cases heq

/-- Values are read one after the other. -/
theorem mapM {f : α → Reading γ} {f' : β → Reading δ}
    (hf : ∀ a b, R a b → Refines S (f a) (f' b)) {as : List α} {bs : List β}
    (h : List.Forall₂ R as bs) : Refines (List.Forall₂ S) (as.mapM f) (bs.mapM f') := by
  induction h with
  | nil => exact pure .nil
  | cons hab _ ih =>
    rw [List.mapM_cons, List.mapM_cons]
    exact (hf _ _ hab).bind fun c d hcd => ih.bind fun cs ds hcds => pure (.cons hcd hcds)

theorem mono {R' : α → β → Prop} (h : Refines R r r') (hR : ∀ a b, R a b → R' a b) :
    Refines R' r r' := by
  intro budget a budget' heq
  obtain ⟨hbudget, b, hb, hab⟩ := h budget a budget' heq
  exact ⟨hbudget, b, hb, hR a b hab⟩

/-- What is read one after the other is the same if each part of it is. -/
theorem mapM_eq {f : α → Reading γ} {f' : β → Reading γ}
    (hf : ∀ a b, R a b → Refines Eq (f a) (f' b)) {as : List α} {bs : List β}
    (h : List.Forall₂ R as bs) : Refines Eq (as.mapM f) (bs.mapM f') :=
  (mapM hf h).mono fun _ _ hcs => by rwa [List.forall₂_eq_eq_eq] at hcs

end Reading.Refines

namespace Source.Mirrors

open Reading (Refines)

variable {s s' : Source}

/-- Texts are read alike. -/
theorem text (h : Mirrors s s') : Refines Eq s.text s'.text := by
  cases h with
  | intro h =>
    cases h with
    | text t => exact .pure rfl
    | _ => exact .fail

/-- Truth values are. -/
theorem bool (h : Mirrors s s') : Refines Eq s.bool s'.bool := by
  cases h with
  | intro h =>
    cases h with
    | true | false => exact .pure rfl
    | _ => exact .fail

/-- So are whole numbers. -/
theorem int (h : Mirrors s s') : Refines Eq s.int s'.int := by
  cases h with
  | intro h =>
    cases h with
    | @int n t h _ _ _ =>
      have hint : (Source.yaml [] (.scalar none .plain t)).int = pure n := by
        change Reading.ofOption (Yaml.integer? t.toList) = pure n
        rw [h]
        rfl
      rw [hint]
      exact .pure rfl
    | _ => exact .fail

/-- What is missing in a value is missing in its mirror. -/
theorem present? (h : Mirrors s s') : Refines (Option.Rel Mirrors) s.present? s'.present? := by
  have hword : ∀ {v : Json} {t : String}, Yaml.Mirrors v (.scalar none .plain t) → v ≠ .null →
      t ≠ "" → Yaml.isNull t = false →
      Refines (Option.Rel Mirrors) (json v).present?
        (yaml [] (.scalar none .plain t)).present? := by
    intro v t h hv hempty hnull
    have hpresent : (yaml [] (.scalar none .plain t)).present?
        = pure (some (yaml [] (.scalar none .plain t))) := by
      change (pure (if t = "" || Yaml.isNull t then none
        else some (yaml [] (.scalar none .plain t))) : Reading (Option Source)) = _
      simp [hempty, hnull]
    have hpresent' : (json v).present? = pure (some (json v)) := by
      cases v with
      | null => exact absurd rfl hv
      | _ => rfl
    rw [hpresent, hpresent']
    exact .pure (.some (.intro h))
  cases h with
  | intro h =>
    cases h with
    | null => exact .pure .none
    | true | false => exact hword (by constructor) (by simp) (by decide) (by decide)
    | int h hempty hnull hbool => exact hword (.int h hempty hnull hbool) (by simp) hempty hnull
    | real hempty hnull => exact hword (.real hempty hnull) (by simp) hempty hnull
    | text t => exact .pure (.some (.intro (.text t)))
    | array h => exact .pure (.some (.intro (.array h)))
    | object hkeys h => exact .pure (.some (.intro (.object hkeys h)))

end Source.Mirrors

/-! ## Parts -/

/-- The parts of a value and those of its mirror. -/
structure Parts.Mirrors {α β : Type} (R : α → β → Prop) (p : Parts α) (p' : Parts β) : Prop where
  /-- There are as many of them. -/
  come : List.Forall₂ R p.come p'.come
  /-- No more are to come of the value. -/
  whole : p.whole = true
  /-- No more are to come of the mirror. -/
  whole' : p'.whole = true

/-- The members of an object and those of its mirror have the same keys. -/
abbrev Members.Mirrors : Members → Members → Prop :=
  Parts.Mirrors fun m m' => m.1 = m'.1 ∧ Source.Mirrors m.2 m'.2

namespace Source.Mirrors

open Reading (Refines)

variable {s s' : Source}

theorem close {α β γ : Type} {R : α → β → Prop} {p : Parts α} {p' : Parts β}
    (h : Parts.Mirrors R p p') (c : γ) : Refines Eq (p.close c) (p'.close c) := by
  rw [Parts.close, Parts.close, h.whole, h.whole']
  exact .pure rfl

theorem forall₂_map {items : List Json} {nodes : List Yaml.Node}
    (h : List.Forall₂ Yaml.Mirrors items nodes) :
    List.Forall₂ Mirrors (items.map json) (nodes.map (yaml [])) := by
  induction h with
  | nil => exact .nil
  | cons h _ ih => exact .cons (.intro h) ih

/-- The items of a list are the mirrors of the items. -/
theorem items (h : Mirrors s s') : Refines (Parts.Mirrors Mirrors) s.items s'.items := by
  cases h with
  | intro h =>
    cases h with
    | array h => exact .pure ⟨forall₂_map h, rfl, rfl⟩
    | _ => exact .fail

/-- A member with the mirror of its value. -/
theorem forall₂_members {members : List (String × Json)} {entries : List (Yaml.Node × Yaml.Node)}
    (hkeys : entries.map (·.1) = members.map fun m => .scalar none .quoted m.1)
    (h : List.Forall₂ Yaml.Mirrors (members.map (·.2)) (entries.map (·.2))) :
    List.Forall₂ (fun m e => e.1 = .scalar none .quoted m.1 ∧ Yaml.Mirrors m.2 e.2) members
      entries := by
  induction members generalizing entries with
  | nil =>
    obtain rfl := List.map_eq_nil_iff.1 hkeys
    exact .nil
  | cons m members ih =>
    obtain ⟨e, entries, rfl, hkey, hkeys⟩ := List.map_eq_cons_iff.1 hkeys
    obtain ⟨hvalue, hvalues⟩ := List.forall₂_cons.1 h
    exact .cons ⟨hkey, hvalue⟩ (ih hkeys hvalues)

/-- The members of an object are the mirrors of the members. -/
theorem members (h : Mirrors s s') : Refines Members.Mirrors s.members s'.members := by
  cases h with
  | intro h =>
    cases h with
    | @object members entries hkeys h =>
      have hmembers : (json (.object members)).members
          = (members.mapM fun m => pure (m.1, json m.2)) >>= fun come =>
            pure (⟨come, Bool.true⟩ : Members) := by
        rw [List.mapM_pure, pure_bind]
        rfl
      have hentries : (yaml [] (.mapping entries)).members
          = (entries.mapM fun e => do pure (← (yaml [] e.1).text, yaml [] e.2)) >>= fun come =>
            pure (⟨come, Bool.true⟩ : Members) := rfl
      rw [hmembers, hentries]
      have hmember : ∀ (m : String × Json) (e : Yaml.Node × Yaml.Node),
          e.1 = .scalar none .quoted m.1 ∧ Yaml.Mirrors m.2 e.2 →
          Refines (fun m m' : String × Source => m.1 = m'.1 ∧ Mirrors m.2 m'.2)
            (pure (m.1, json m.2))
            (do pure (← (yaml [] e.1).text, yaml [] e.2)) := by
        rintro m ⟨_, node⟩ ⟨rfl, hvalue⟩
        exact .pure ⟨rfl, .intro hvalue⟩
      refine (Refines.mapM hmember (forall₂_members hkeys h)).bind fun come come' hcome => .pure ?_
      exact ⟨hcome, rfl, rfl⟩
    | _ => exact .fail

/-- The mirror of an object has members and is no row of values. -/
theorem exists_members {members : List (String × Json)} (h : Mirrors (json (.object members)) s') :
    ∃ ms', s'.members = pure ms' ∧ s'.row? = none ∧ Members.Mirrors (ofMembers members) ms' := by
  obtain ⟨-, ms', hms', hmirrors⟩ := h.members 0 (ofMembers members) 0 rfl
  cases h with
  | intro h => exact ⟨ms', hms', rfl, hmirrors⟩

end Source.Mirrors

/-! ## Forms -/

open Reading (Refines)

/-- **A form is carried over** if whatever it takes from a value it takes from the mirror, too. -/
class Form.Carried {α : Type} (f : Form α) : Prop where
  /-- It takes the same from both. -/
  refines : ∀ {s s' : Source}, s.Mirrors s' → Refines Eq (f.read s) (f.read s')

namespace Form

variable {α : Type} {f : Form α}

instance carried_text : text.Carried := ⟨Source.Mirrors.text⟩

instance carried_bool : bool.Carried := ⟨Source.Mirrors.bool⟩

instance carried_int32 : int32.Carried where
  refines h := h.int.bind fun n _ hn => by
    subst hn
    split
    · exact .pure rfl
    · exact .fail

instance carried_int64 : int64.Carried where
  refines h := h.int.bind fun n _ hn => by
    subst hn
    split
    · exact .pure rfl
    · exact .fail

instance carried_timestamp : timestamp.Carried where
  refines h := h.text.bind fun t _ ht => by
    subst ht
    exact .ofOption _

instance carried_list [f.Carried] : (list f).Carried where
  refines h := h.items.bind fun p p' hitems => by
    have hread : ∀ s s', Source.Mirrors s s' → Refines Eq (f.read s) (f.read s') :=
      fun _ _ => Carried.refines
    refine (Refines.mapM_eq hread hitems.come).bind fun as bs has => ?_
    subst has
    exact Source.Mirrors.close hitems as

instance carried_map [f.Carried] : (map f).Carried where
  refines h := h.members.bind fun ms ms' hmembers => by
    have hread : ∀ m m' : String × Source, m.1 = m'.1 ∧ Source.Mirrors m.2 m'.2 →
        Refines Eq (do pure (m.1, ← f.read m.2)) (do pure (m'.1, ← f.read m'.2)) := by
      rintro ⟨_, s⟩ ⟨_, s'⟩ ⟨rfl, hs⟩
      exact (Carried.refines hs).bind fun a b hab => .pure (congrArg _ hab)
    refine (Refines.mapM_eq hread hmembers.come).bind fun as bs has => ?_
    subst has
    exact Source.Mirrors.close hmembers _

instance carried_textMap : textMap.Carried := inferInstanceAs (map text).Carried

/-- So is a form of values that may be missing. -/
instance carried_nullable [f.Carried] : f.nullable.Carried where
  refines h := h.present?.bind fun s s' hs => by
    cases hs with
    | none => exact .pure rfl
    | some hs => exact (Carried.refines hs).bind fun a b hab => .pure (congrArg some hab)

end Form

/-! ## Fields -/

namespace Fields

variable {ρ α β : Type}

/-- **Fields are carried over** if they take the same from an object and from its mirror. -/
class Carried (fs : Fields ρ α) : Prop where
  /-- They take the same from both. -/
  refines : ∀ (strict : Bool) {ms ms' : Members}, Members.Mirrors ms ms' →
    Refines Eq (fs.read strict ms) (fs.read strict ms')

instance carried_map {f : α → β} {fs : Fields ρ α} [fs.Carried] : (f <$> fs).Carried where
  refines strict _ _ h := (Carried.refines strict h).bind fun _ _ ha => .pure (congrArg f ha)

instance carried_seq {f : Fields ρ (α → β)} {fs : Fields ρ α} [f.Carried] [fs.Carried] :
    (f <*> fs).Carried where
  refines strict _ _ h := (Carried.refines strict h).both (Carried.refines strict h)

section

variable {key : String} {read : Source → Reading α} {absent short : Option α}
  {write : ρ → List (String × Json)} {ms ms' : Members}

/-- The members with one key are the mirrors of those with that key. -/
theorem forall₂_found (h : Members.Mirrors ms ms') (key : String) :
    List.Forall₂ (fun m m' => m.1 = m'.1 ∧ Source.Mirrors m.2 m'.2)
      (ms.come.filter (·.1 = key)) (ms'.come.filter (·.1 = key)) := by
  refine List.rel_filter (fun m m' hm => ?_) h.come
  simp [hm.1]

/-- A field takes the same from an object and its mirror if it takes the same from the members with
its key, of which there is at most one where keys must not occur twice. -/
theorem refines_field (h : Members.Mirrors ms ms') (strict : Bool)
    (hfound : ¬ (strict = true ∧ 1 < (ms.come.filter (·.1 = key)).length) →
      List.Forall₂ (fun m m' => Refines Eq (read m.2) (read m'.2))
        (ms.come.filter (·.1 = key)) (ms'.come.filter (·.1 = key))) :
    Refines Eq ((field key read absent short write).read strict ms)
      ((field key read absent short write).read strict ms') := by
  simp only [field, ← (forall₂_found h key).length_eq]
  split
  · exact .fail
  · next hsingle =>
    rw [Bool.and_eq_true, decide_eq_true_eq] at hsingle
    refine (Refines.mapM_eq (fun _ _ hm => hm) (hfound hsingle)).bind fun as bs has => ?_
    subst has
    split
    · exact .pure rfl
    · rw [Parts.absent, Parts.absent, h.whole, h.whole']
      exact .ofOption absent

/-- A field is carried over if what it reads is. -/
theorem carried_field (hread : ∀ {s s' : Source}, s.Mirrors s' → Refines Eq (read s) (read s')) :
    (field key read absent short write).Carried where
  refines strict _ _ h :=
    refines_field h strict fun _ => (forall₂_found h key).imp fun _ _ hm => hread hm.2

/-- A field that must be there and must not occur twice is read from the one member with its key. -/
theorem read_required_eq_ok {f : Form α} {get : ρ → α} {budget : Nat} {r : α × Nat}
    (h : (required key f get).read true ms budget = .ok r) :
    ∃ m, ms.come.filter (·.1 = key) = [m] ∧ f.read m.2 budget = .ok r := by
  simp only [required, field] at h
  generalize ms.come.filter (·.1 = key) = found at h
  rcases found with _ | ⟨m, _ | ⟨_, _⟩⟩
  · have hnone : (ms.absent none : Reading α) budget = .ok r := by simpa using h
    rw [Parts.absent] at hnone
    split at hnone <;> cases hnone
  · refine ⟨m, rfl, ?_⟩
    simpa using h
  · simp [Reading.fail] at h

end

section Instances

variable {key : String} {f : Form α} [f.Carried] {default : α}

instance carried_required {get : ρ → α} : (required key f get).Carried :=
  carried_field Form.Carried.refines

instance carried_withDefault {get : ρ → α} : (withDefault key f default get).Carried :=
  carried_field Form.Carried.refines

instance carried_orDefault {get : ρ → α} : (orDefault key f default get).Carried :=
  carried_field fun h => (Form.Carried.refines h).bind fun _ _ ha =>
    .pure (congrArg (·.getD default) ha)

instance carried_optional {get : ρ → Option α} : (optional key f get).Carried :=
  carried_field Form.Carried.refines

instance carried_nullable {get : ρ → Option α} : (nullable key f get).Carried :=
  carried_field Form.Carried.refines

end Instances

/-! ## Records -/

/-- Nothing is broken in an object or in its mirror. -/
theorem any_isBroken {come come' : List (String × Source)}
    (h : List.Forall₂ (fun m m' => m.1 = m'.1 ∧ Source.Mirrors m.2 m'.2) come come')
    (p : String → Bool) : (come.any fun m => p m.1 && m.2.isBroken) = false
      ∧ (come'.any fun m => p m.1 && m.2.isBroken) = false := by
  induction h with
  | nil => exact ⟨rfl, rfl⟩
  | cons hm _ ih =>
    have hbroken : ∀ {s s' : Source}, s.Mirrors s' → s.isBroken = false ∧ s'.isBroken = false := by
      rintro _ _ ⟨-⟩
      exact ⟨rfl, rfl⟩
    simp [hbroken hm.2, ih]

/-- Members are taken alike if their fields are. -/
theorem refines_readMembers {fs : Fields ρ α} {strict : Bool} {ms ms' : Members}
    (h : Members.Mirrors ms ms') (hfs : Refines Eq (fs.read strict ms) (fs.read strict ms')) :
    Refines Eq (fs.readMembers strict ms) (fs.readMembers strict ms') := by
  obtain ⟨hnone, hnone'⟩ := any_isBroken h.come fun key => !fs.keys.contains key
  rw [readMembers, readMembers, hnone, hnone']
  refine hfs.bind fun a _ ha => ?_
  subst ha
  exact Source.Mirrors.close h a

/-- Members that are taken have fields that are. -/
theorem exists_read_of_readMembers {fs : Fields ρ α} {strict : Bool} {ms : Members} {budget : Nat}
    {r : α × Nat} (h : fs.readMembers strict ms budget = .ok r) :
    ∃ r', fs.read strict ms budget = .ok r' := by
  rw [readMembers] at h
  split at h
  · cases h
  · cases hread : fs.read strict ms budget with
    | ok r' => exact ⟨r', rfl⟩
    | error e =>
      change (fs.read strict ms budget).bind _ = .ok r at h
      rw [hread] at h
      cases h

/-- A record is taken from an object as from its mirror if its fields are. -/
theorem refines_record (fs : Fields ρ ρ) {members : List (String × Json)} {s' : Source}
    (h : (Source.json (.object members)).Mirrors s')
    (hfs : ∀ ms', Members.Mirrors (Source.ofMembers members) ms' →
      Refines Eq (fs.read true (Source.ofMembers members)) (fs.read true ms')) :
    Refines Eq ((record fs).read (.json (.object members))) ((record fs).read s') := by
  obtain ⟨ms', hmembers, hrow, hms⟩ := h.exists_members
  have hread : (record fs).read (.json (.object members))
      = fs.readMembers true (Source.ofMembers members) := by
    simp only [record, Source.row?, Source.members_object, pure_bind]
  have hread' : (record fs).read s' = fs.readMembers true ms' := by
    simp only [record, hrow, hmembers, pure_bind]
  rw [hread, hread']
  exact refines_readMembers hms (hfs ms' hms)

/-- Only an object and its mirror are both records. -/
theorem eq_object_of_read_record (fs : Fields ρ ρ) {v : Json} {s' : Source}
    (h : (Source.json v).Mirrors s') {budget budget' : Nat} {r r' : ρ × Nat}
    (hread : (record fs).read (.json v) budget = .ok r)
    (hread' : (record fs).read s' budget' = .ok r') : ∃ members, v = .object members := by
  cases h with
  | intro h =>
    cases h with
    | object => exact ⟨_, rfl⟩
    | array => cases hread'
    | _ => cases hread

end Fields

/-- **A form of objects is carried over if its fields are.** -/
theorem Form.Carried.object {ρ : Type} {fs : Fields ρ ρ} [fs.Carried] :
    (Fields.object fs).Carried where
  refines h := h.members.bind fun _ _ hms =>
    Fields.refines_readMembers hms (Fields.Carried.refines false hms)

end PodCheck
