import PodCheck.Object.Pod
import PodCheck.Proofs.Form.Exact

/-! # Forms that write their members in order

Requests carry the members of every object by rising key (`Json.sorted`). A form is ordered if it
writes them like that to begin with, so that nothing is moved and nothing is lost. An object is
ordered if its keys rise and the forms of its fields are ordered (`Form.Ordered.object`); instances
put that together. Main statement: pods are ordered (`Pod.ordered_form`). -/

namespace PodCheck

/-! ## Values -/

namespace Json

variable {k : String} {v : Json} {done members : List (String × Json)}

/-- A member is placed behind those with smaller keys. -/
theorem placeMember_of_forall_lt (h : ∀ m ∈ done, m.1 < k) :
    placeMember k v done = done ++ [(k, v)] := by
  induction done with
  | nil => rfl
  | cons m rest ih =>
    have hlt : m.1 < k := h m (List.mem_cons_self ..)
    have hne : k ≠ m.1 := fun heq => String.lt_irrefl k (by rwa [← heq] at hlt)
    rw [placeMember, if_neg (String.lt_asymm hlt), if_neg hne,
      ih fun m' hm' => h m' (List.mem_cons_of_mem _ hm'), List.cons_append]

/-- Members whose keys rise stay behind those before them. -/
theorem sortedMembers_of_pairwise (hkeys : ((done ++ members).map (·.1)).Pairwise (· < ·))
    (hvalues : ∀ m ∈ members, m.2.sorted = m.2) :
    sorted.sortedMembers done members = done ++ members := by
  -- on the members that are left: each is placed behind those that are done
  induction members generalizing done with
  | nil => rw [sorted.sortedMembers, List.append_nil]
  | cons m rest ih =>
    obtain ⟨key, value⟩ := m
    have hvalue : value.sorted = value := hvalues (key, value) (List.mem_cons_self ..)
    have hlt : ∀ m ∈ done, m.1 < key := by
      rw [List.map_append, List.pairwise_append] at hkeys
      exact fun m hm => hkeys.2.2 m.1 (List.mem_map_of_mem hm) key (List.mem_cons_self ..)
    rw [sorted.sortedMembers, hvalue, placeMember_of_forall_lt hlt]
    have hmoved : done ++ (key, value) :: rest = done ++ [(key, value)] ++ rest := by simp
    rw [hmoved] at hkeys ⊢
    exact ih hkeys fun m hm => hvalues m (List.mem_cons_of_mem _ hm)

/-- An object whose keys rise is sorted if the values of its members are. -/
theorem sorted_object (hkeys : (members.map (·.1)).Pairwise (· < ·))
    (hvalues : ∀ m ∈ members, m.2.sorted = m.2) : (object members).sorted = object members := by
  rw [sorted, sortedMembers_of_pairwise (by simpa using hkeys) hvalues, List.nil_append]

/-- A list is sorted if its items are. -/
theorem sorted_array {items : List Json} (h : ∀ item ∈ items, item.sorted = item) :
    (array items).sorted = array items := by
  rw [sorted]
  congr 1
  induction items with
  | nil => rfl
  | cons item rest ih =>
    rw [sorted.sortedItems, h item (List.mem_cons_self ..),
      ih fun other hother => h other (List.mem_cons_of_mem _ hother)]

end Json

/-! ## Forms of single values -/

namespace Form

variable {α : Type} {f : Form α}

/-- **A form is ordered** if sorting what it writes changes nothing. -/
class Ordered (f : Form α) : Prop where
  /-- What it writes is sorted. -/
  sorted_write : ∀ a, (f.write a).sorted = f.write a

instance ordered_text : text.Ordered := ⟨fun _ => rfl⟩

instance ordered_bool : bool.Ordered := ⟨fun _ => rfl⟩

instance ordered_int32 : int32.Ordered := ⟨fun _ => rfl⟩

instance ordered_int64 : int64.Ordered := ⟨fun _ => rfl⟩

instance ordered_timestamp : timestamp.Ordered := ⟨fun _ => rfl⟩

instance ordered_list [f.Ordered] : (list f).Ordered where
  sorted_write l := by
    refine Json.sorted_array fun item hitem => ?_
    obtain ⟨a, -, rfl⟩ := List.mem_map.1 hitem
    exact Ordered.sorted_write a

/-- A map has its entries by rising key. -/
instance ordered_map [f.Ordered] : (map f).Ordered where
  sorted_write m := by
    refine Json.sorted_object ?_ fun member hmember => ?_
    · rw [List.map_map, List.pairwise_map]
      exact m.sorted.imp compareOfLessAndEq_eq_lt.1
    · obtain ⟨e, -, rfl⟩ := List.mem_map.1 hmember
      exact Ordered.sorted_write e.2

instance ordered_textMap : textMap.Ordered := inferInstanceAs (map text).Ordered

end Form

/-! ## Fields -/

namespace Fields

variable {ρ α β : Type}

/-- **Fields are ordered** if the members that they write come in the order of their keys and are
sorted. -/
class Ordered (fs : Fields ρ α) : Prop where
  /-- The members come in the order of the keys. -/
  keys_sublist : ∀ r, ((fs.write r).map (·.1)).Sublist fs.keys
  /-- Their values are sorted. -/
  sorted_write : ∀ r, ∀ m ∈ fs.write r, m.2.sorted = m.2

instance ordered_map {f : α → β} {fs : Fields ρ α} [h : fs.Ordered] : (f <$> fs).Ordered :=
  ⟨h.keys_sublist, h.sorted_write⟩

instance ordered_seq {f : Fields ρ (α → β)} {fs : Fields ρ α} [f.Ordered] [fs.Ordered] :
    (f <*> fs).Ordered where
  keys_sublist r := by
    have happend : ((f <*> fs).write r).map (·.1)
        = (f.write r).map (·.1) ++ (fs.write r).map (·.1) := List.map_append
    rw [happend]
    exact (Ordered.keys_sublist r).append (Ordered.keys_sublist r)
  sorted_write r m hm := by
    rcases List.mem_append.1 hm with hm | hm
    · exact Ordered.sorted_write r m hm
    · exact Ordered.sorted_write r m hm

section Single

variable {key : String} {f : Form α} [f.Ordered] {default : α}

instance ordered_constant {value : String} : (constant key value : Fields ρ Unit).Ordered where
  keys_sublist _ := List.Sublist.refl _
  sorted_write _ m hm := by
    obtain rfl := List.mem_singleton.1 hm
    rfl

instance ordered_orDefault {get : ρ → α} : (orDefault key f default get).Ordered where
  keys_sublist _ := List.Sublist.refl _
  sorted_write _ m hm := by
    obtain rfl := List.mem_singleton.1 hm
    exact Form.Ordered.sorted_write _

instance ordered_optional {get : ρ → Option α} : (optional key f get).Ordered where
  keys_sublist r := by
    show (((get r).map fun a => (key, f.write a)).toList.map (·.1)).Sublist [key]
    cases get r with
    | none => exact List.nil_sublist _
    | some a => exact List.Sublist.refl _
  sorted_write r m hm := by
    obtain ⟨a, -, rfl⟩ := Option.map_eq_some_iff.1 (Option.mem_toList.1 hm)
    exact Form.Ordered.sorted_write a

end Single

end Fields

/-- **A form of objects is ordered if its fields are** and their keys rise. -/
theorem Form.Ordered.object {ρ : Type} {fs : Fields ρ ρ} [fs.Ordered]
    (hkeys : fs.keys.Pairwise (· < ·)) : (Fields.object fs).Ordered where
  sorted_write r :=
    Json.sorted_object (hkeys.sublist (Fields.Ordered.keys_sublist r))
      (Fields.Ordered.sorted_write r)

/-! ## Pods -/

instance Metadata.ordered_form : Metadata.form.Ordered := .object (by decide)

instance EmptyDir.ordered_form : EmptyDir.form.Ordered := .object (by decide)

instance KeyFile.ordered_form : KeyFile.form.Ordered := .object (by decide)

instance ConfigMapVolume.ordered_form : ConfigMapVolume.form.Ordered := .object (by decide)

instance SecretVolume.ordered_form : SecretVolume.form.Ordered := .object (by decide)

instance HostPath.ordered_form : HostPath.form.Ordered := .object (by decide)

instance Volume.ordered_form : Volume.form.Ordered := .object (by decide)

instance FieldSelector.ordered_form : FieldSelector.form.Ordered := .object (by decide)

instance KeySelector.ordered_form : KeySelector.form.Ordered := .object (by decide)

instance EnvSource.ordered_form : EnvSource.form.Ordered := .object (by decide)

instance EnvVar.ordered_form : EnvVar.form.Ordered := .object (by decide)

instance IntOrText.ordered_form : IntOrText.form.Ordered where
  sorted_write a := by cases a <;> rfl

instance ExecAction.ordered_form : ExecAction.form.Ordered := .object (by decide)

instance HttpGetAction.ordered_form : HttpGetAction.form.Ordered := .object (by decide)

instance Probe.ordered_form : Probe.form.Ordered := .object (by decide)

instance ContainerPort.ordered_form : ContainerPort.form.Ordered := .object (by decide)

instance Resources.ordered_form : Resources.form.Ordered := .object (by decide)

instance VolumeMount.ordered_form : VolumeMount.form.Ordered := .object (by decide)

instance ContainerSecurity.ordered_form : ContainerSecurity.form.Ordered := .object (by decide)

instance Container.ordered_form : Container.form.Ordered := .object (by decide)

instance SecretName.ordered_form : SecretName.form.Ordered := .object (by decide)

instance PodSecurity.ordered_form : PodSecurity.form.Ordered := .object (by decide)

instance Toleration.ordered_form : Toleration.form.Ordered := .object (by decide)

instance PodSpec.ordered_form : PodSpec.form.Ordered := .object (by decide)

/-- **A pod is written as it is sent.** -/
instance Pod.ordered_form : Pod.form.Ordered := .object (by decide)

end PodCheck
