/-! # Sorted maps

Labels, annotations and the objects of a cluster are looked up by key and listed in the order of
their keys. A sorted map is its list of entries, in strictly rising order of the keys; the order is
part of the type, so two maps with the same entries are the same map. Main statements: looking up
after an insertion (`get?_insert`) and after an erasure (`get?_erase`), and that a map is known by
its look-ups (`ext_get?`). -/

namespace PodCheck

variable {α β : Type}

/-- A finite map whose entries are listed by rising key. -/
structure SortedMap (α β : Type) [Ord α] where
  /-- The keys with their values. -/
  entries : List (α × β)
  /-- Every key is smaller than all keys after it. -/
  sorted : entries.Pairwise fun a b => compare a.1 b.1 = .lt

namespace SortedMap

/-! ## Lists of entries -/

/-- The value beside the first entry with the given key. -/
def find [Ord α] (k : α) : List (α × β) → Option β
  | [] => none
  | (k', v) :: r => if compare k k' = .eq then some v else find k r

/-- Puts an entry in front of the first larger key, in place of one with the same key. -/
def place [Ord α] (k : α) (v : β) : List (α × β) → List (α × β)
  | [] => [(k, v)]
  | (k', v') :: r =>
    match compare k k' with
    | .lt => (k, v) :: (k', v') :: r
    | .eq => (k, v) :: r
    | .gt => (k', v') :: place k v r

section Order

variable [Ord α]

/-- Every entry after a placement was there before or is the placed one. -/
theorem mem_place {k : α} {v : β} {l : List (α × β)} {e : α × β} (h : e ∈ place k v l) :
    e = (k, v) ∨ e ∈ l := by
  induction l with
  | nil => simpa [place] using h
  | cons x r ih =>
    obtain ⟨k', v'⟩ := x
    simp only [place] at h
    split at h
    · simpa using h
    · rcases List.mem_cons.1 h with h | h
      · exact .inl h
      · exact .inr (List.mem_cons_of_mem _ h)
    · rcases List.mem_cons.1 h with h | h
      · exact .inr (h ▸ List.mem_cons_self ..)
      · exact (ih h).imp_right (List.mem_cons_of_mem _)

/-- A key smaller than all others is not found among them. -/
theorem find_eq_none {k : α} {l : List (α × β)} (h : ∀ e ∈ l, compare k e.1 = .lt) :
    find k l = none := by
  induction l with
  | nil => rfl
  | cons x r ih =>
    have hx : compare k x.1 = .lt := h x (List.mem_cons_self ..)
    simp [find, hx, ih fun e he => h e (List.mem_cons_of_mem _ he)]

variable [Std.LawfulEqOrd α]

/-- What is found stands beside its key. -/
theorem mem_of_find {k : α} {v : β} {l : List (α × β)} (h : find k l = some v) : (k, v) ∈ l := by
  induction l with
  | nil => simp [find] at h
  | cons x r ih =>
    obtain ⟨k', v'⟩ := x
    simp only [find] at h
    split at h
    · rename_i heq
      obtain rfl := Option.some.inj h
      obtain rfl : k = k' := Std.LawfulEqCmp.eq_of_compare heq
      exact List.mem_cons_self ..
    · exact List.mem_cons_of_mem _ (ih h)

/-- What stands in order is found. -/
theorem find_of_mem {l : List (α × β)} (hl : l.Pairwise fun a b => compare a.1 b.1 = .lt)
    {e : α × β} (h : e ∈ l) : find e.1 l = some e.2 := by
  induction l with
  | nil => simp at h
  | cons x r ih =>
    have hr := List.pairwise_cons.1 hl
    rcases List.mem_cons.1 h with rfl | h
    · simp [find]
    · have hne : compare e.1 x.1 ≠ .eq := by
        intro heq
        have hlt := hr.1 e h
        rw [Std.LawfulEqCmp.eq_of_compare heq] at hlt
        simp at hlt
      rw [find, if_neg hne, ih hr.2 h]

/-- Looking up after placing an entry. -/
theorem find_place {k j : α} {v : β} {l : List (α × β)} :
    find j (place k v l) = if compare j k = .eq then some v else find j l := by
  induction l with
  | nil => simp [place, find]
  | cons x r ih =>
    obtain ⟨k', v'⟩ := x
    simp only [place]
    split
    · simp [find]
    · rename_i heq
      have hk : k = k' := Std.LawfulEqCmp.eq_of_compare heq
      subst hk
      by_cases h : compare j k = .eq <;> simp [find, h]
    · rename_i hgt
      simp only [find, ih]
      by_cases h : compare j k' = .eq
      · have hj : j = k' := Std.LawfulEqCmp.eq_of_compare h
        subst hj
        have hne : compare j k ≠ .eq := fun e => by
          have : j = k := Std.LawfulEqCmp.eq_of_compare e
          subst this
          simp [Std.ReflCmp.compare_self] at hgt
        simp [hne]
      · simp [h]

/-- Looking up after dropping the entries of one key. -/
theorem find_filter {k j : α} {l : List (α × β)} :
    find j (l.filter fun e => compare k e.1 != .eq)
      = if compare j k = .eq then none else find j l := by
  induction l with
  | nil => simp [find]
  | cons x r ih =>
    obtain ⟨k', v'⟩ := x
    by_cases hk : compare k k' = .eq
    · have : k = k' := Std.LawfulEqCmp.eq_of_compare hk
      subst this
      by_cases hj : compare j k = .eq <;> simp [ih, find, hj]
    · by_cases hj : compare j k' = .eq
      · have : j = k' := Std.LawfulEqCmp.eq_of_compare hj
        subst this
        have hne : compare j k ≠ .eq := fun e =>
          hk (by rw [Std.LawfulEqCmp.eq_of_compare e]; exact Std.ReflCmp.compare_self)
        simp [hk, find, hne]
      · simp [hk, find, hj, ih]

variable [Std.TransOrd α]

/-- Placing an entry keeps the order. -/
theorem sorted_place {k : α} {v : β} {l : List (α × β)}
    (h : l.Pairwise fun a b => compare a.1 b.1 = .lt) :
    (place k v l).Pairwise fun a b => compare a.1 b.1 = .lt := by
  induction l with
  | nil => simp [place]
  | cons x r ih =>
    obtain ⟨k', v'⟩ := x
    have hr := List.pairwise_cons.1 h
    simp only [place]
    split
    · rename_i hlt
      refine List.pairwise_cons.2 ⟨fun e he => ?_, h⟩
      rcases List.mem_cons.1 he with he | he
      · exact he ▸ hlt
      · exact Std.TransCmp.lt_trans hlt (hr.1 e he)
    · rename_i heq
      have hk : k = k' := Std.LawfulEqCmp.eq_of_compare heq
      exact List.pairwise_cons.2 ⟨fun e he => hk ▸ hr.1 e he, hr.2⟩
    · rename_i hgt
      refine List.pairwise_cons.2 ⟨fun e he => ?_, ih hr.2⟩
      rcases mem_place he with he | he
      · exact he ▸ Std.OrientedCmp.lt_of_gt hgt
      · exact hr.1 e he

/-- Two sorted lists of entries with the same look-ups are equal. -/
theorem eq_of_find_eq {l m : List (α × β)} (hl : l.Pairwise fun a b => compare a.1 b.1 = .lt)
    (hm : m.Pairwise fun a b => compare a.1 b.1 = .lt) (h : ∀ k, find k l = find k m) : l = m := by
  induction l generalizing m with
  | nil =>
    cases m with
    | nil => rfl
    | cons y s => simpa [find] using h y.1
  | cons x r ih =>
    cases m with
    | nil => simpa [find] using h x.1
    | cons y s =>
      obtain ⟨k, v⟩ := x
      obtain ⟨k', v'⟩ := y
      have hr := List.pairwise_cons.1 hl
      have hs := List.pairwise_cons.1 hm
      have hkk : compare k k' = .eq := by
        cases hc : compare k k' with
        | eq => rfl
        | lt =>
          have := h k
          have hn : find k s = none :=
            find_eq_none fun e he => Std.TransCmp.lt_trans hc (hs.1 e he)
          simp [find, hc, hn] at this
        | gt =>
          have hc' := Std.OrientedCmp.lt_of_gt hc
          have := h k'
          have hn : find k' r = none :=
            find_eq_none fun e he => Std.TransCmp.lt_trans hc' (hr.1 e he)
          simp [find, hc', hn] at this
      have hkeq : k = k' := Std.LawfulEqCmp.eq_of_compare hkk
      subst hkeq
      have hv : v = v' := by simpa [find] using h k
      subst hv
      congr 1
      refine ih hr.2 hs.2 fun j => ?_
      by_cases hj : compare j k = .eq
      · have : j = k := Std.LawfulEqCmp.eq_of_compare hj
        subst this
        rw [find_eq_none hr.1, find_eq_none hs.1]
      · simpa [find, hj] using h j

end Order

/-! ## Maps -/

variable [Ord α]

/-- The map without entries. -/
def empty : SortedMap α β := ⟨[], List.Pairwise.nil⟩

instance : Inhabited (SortedMap α β) := ⟨empty⟩

/-- The value of a key. -/
def get? (m : SortedMap α β) (k : α) : Option β := find k m.entries

/-- Nothing is found in the empty map. -/
@[simp] theorem get?_empty (k : α) : (empty : SortedMap α β).get? k = none := rfl

/-- Whether a key has a value. -/
def contains (m : SortedMap α β) (k : α) : Bool := (m.get? k).isSome

instance [BEq α] [BEq β] : BEq (SortedMap α β) := ⟨fun m n => m.entries == n.entries⟩

instance [DecidableEq α] [DecidableEq β] : DecidableEq (SortedMap α β) := fun m n =>
  if h : m.entries = n.entries then
    isTrue (by cases m; cases n; cases h; rfl)
  else isFalse fun e => h (e ▸ rfl)

/-- The map without a key. -/
def erase (m : SortedMap α β) (k : α) : SortedMap α β :=
  ⟨m.entries.filter fun e => compare k e.1 != .eq, m.sorted.filter _⟩

variable [Std.LawfulEqOrd α]

/-- A key that has a value stands in the map with it. -/
theorem mem_entries_of_get? {m : SortedMap α β} {k : α} {v : β} (h : m.get? k = some v) :
    (k, v) ∈ m.entries := mem_of_find h

/-- What stands in the map is the value of its key. -/
theorem get?_of_mem_entries {m : SortedMap α β} {e : α × β} (h : e ∈ m.entries) :
    m.get? e.1 = some e.2 := find_of_mem m.sorted h

/-- An erased key is not found, the others stay. -/
@[simp] theorem get?_erase (m : SortedMap α β) (k j : α) :
    (m.erase k).get? j = if compare j k = .eq then none else m.get? j := find_filter

/-- An erased key is not found. -/
theorem get?_erase_self (m : SortedMap α β) (k : α) : (m.erase k).get? k = none := by simp

/-- Erasing a key leaves the others. -/
theorem get?_erase_of_ne (m : SortedMap α β) {k j : α} (h : j ≠ k) :
    (m.erase k).get? j = m.get? j := by
  simp [h]

variable [Std.TransOrd α]

/-- The map with a value put in for a key, in place of the one it had. -/
def insert (m : SortedMap α β) (k : α) (v : β) : SortedMap α β :=
  ⟨place k v m.entries, sorted_place m.sorted⟩

/-- The map of a list of entries; of several entries with one key the last one counts. -/
def ofList (l : List (α × β)) : SortedMap α β := l.foldl (fun m e => m.insert e.1 e.2) empty

/-- An inserted value is found, the others stay. -/
@[simp] theorem get?_insert (m : SortedMap α β) (k j : α) (v : β) :
    (m.insert k v).get? j = if compare j k = .eq then some v else m.get? j := find_place

/-- An inserted value is found. -/
theorem get?_insert_self (m : SortedMap α β) (k : α) (v : β) : (m.insert k v).get? k = some v := by
  simp

/-- Inserting a value leaves those of other keys. -/
theorem get?_insert_of_ne (m : SortedMap α β) {k j : α} (v : β) (h : j ≠ k) :
    (m.insert k v).get? j = m.get? j := by
  simp [h]

/-- A map is known by its look-ups. -/
theorem ext_get? {m n : SortedMap α β} (h : ∀ k, m.get? k = n.get? k) : m = n := by
  have he : m.entries = n.entries := eq_of_find_eq m.sorted n.sorted h
  cases m; cases n; cases he; rfl

end SortedMap

/-- A map from text to text, such as the labels of an object. -/
abbrev TextMap := SortedMap String String

end PodCheck
