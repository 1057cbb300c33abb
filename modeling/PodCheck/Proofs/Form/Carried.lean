import PodCheck.Proofs.Form.Mirror
import PodCheck.Proofs.Form.Objects

/-! # Objects that are carried over

The objects of a cluster are carried over from JSON to its mirror, each one because its members are.
A check and its configuration are records, and could be rows in JSON: a check is carried over if it
and its configuration are objects (`Check.refines_form`), and only then
(`Check.exists_spec_of_read`). -/

namespace PodCheck

open Reading (Refines)

/-! ## Volumes -/

instance EmptyDir.carried_form : EmptyDir.form.Carried := .object

instance KeyFile.carried_form : KeyFile.form.Carried := .object

instance ConfigMapVolume.carried_form : ConfigMapVolume.form.Carried := .object

instance SecretVolume.carried_form : SecretVolume.form.Carried := .object

instance HostPath.carried_form : HostPath.form.Carried := .object

instance Volume.carried_form : Volume.form.Carried := .object

/-! ## Containers -/

instance FieldSelector.carried_form : FieldSelector.form.Carried := .object

instance KeySelector.carried_form : KeySelector.form.Carried := .object

instance EnvSource.carried_form : EnvSource.form.Carried := .object

instance EnvVar.carried_form : EnvVar.form.Carried := .object

/-- A number that fits 32 bits fits the numbers that are told from texts. -/
theorem wordOrText_int {n : Int} {t : String} (h : Yaml.integer? t.toList = some n)
    (hempty : t ≠ "") (hnull : Yaml.isNull t = false) (hbool : Yaml.bool? t = none)
    (hn : Int32.minValue.toInt ≤ n ∧ n ≤ Int32.maxValue.toInt) :
    Source.wordOrText t = some (.inl n) := by
  have hmin : Int32.minValue.toInt = -2 ^ 31 := rfl
  have hmax : Int32.maxValue.toInt = 2 ^ 31 - 1 := rfl
  have hwide : Yaml.wideInteger? t.toList = some n := by
    simp [Yaml.wideInteger?, h]
    omega
  simp [Source.wordOrText, hempty, hnull, hbool, hwide]

instance IntOrText.carried_form : IntOrText.form.Carried where
  refines {s s'} h := by
    cases h with
    | intro h =>
      cases h with
      | @int n t h hempty hnull hbool =>
        have hjson : (Source.json (.int n)).intOrText = pure (.inl n) := rfl
        by_cases hn : Int32.minValue.toInt ≤ n ∧ n ≤ Int32.maxValue.toInt
        · have hyaml : (Source.yaml [] (.scalar none .plain t)).intOrText = pure (.inl n) := by
            change Reading.ofOption (Source.wordOrText t) = pure (.inl n)
            rw [wordOrText_int h hempty hnull hbool hn]
            rfl
          simp only [form, hjson, hyaml, pure_bind, if_pos hn]
          exact .pure rfl
        · simp only [form, hjson, pure_bind, if_neg hn]
          exact .fail
      | text t => exact .pure rfl
      | _ => exact .fail

instance ExecAction.carried_form : ExecAction.form.Carried := .object

instance HttpGetAction.carried_form : HttpGetAction.form.Carried := .object

instance Probe.carried_form : Probe.form.Carried := .object

instance ContainerPort.carried_form : ContainerPort.form.Carried := .object

instance Resources.carried_form : Resources.form.Carried := .object

instance VolumeMount.carried_form : VolumeMount.form.Carried := .object

instance ContainerSecurity.carried_form : ContainerSecurity.form.Carried := .object

instance Container.carried_form : Container.form.Carried := .object

/-! ## Pods -/

instance SecretName.carried_form : SecretName.form.Carried := .object

instance PodSecurity.carried_form : PodSecurity.form.Carried := .object

instance Toleration.carried_form : Toleration.form.Carried := .object

instance PodSpec.carried_form : PodSpec.form.Carried := .object

/-! ## Checks -/

instance Metadata.carried_form : Metadata.form.Carried := .object

/-- A configuration is carried over from an object. -/
theorem CheckConfig.refines_form {members : List (String × Json)} {s' : Source}
    (h : (Source.json (.object members)).Mirrors s') :
    Refines Eq (form.read (.json (.object members))) (form.read s') :=
  Fields.refines_record _ h fun _ hms => Fields.Carried.refines true hms

namespace Check

variable {v : Json} {s' : Source}

/-- **A check is carried over if it and its configuration are objects.** -/
theorem refines_form (h : (Source.json v).Mirrors s')
    (hspec : ∃ members, v.member? "spec" = some (.object members)) :
    Refines Eq (form.read (.json v)) (form.read s') := by
  obtain ⟨spec, hspec⟩ := hspec
  obtain ⟨members, rfl⟩ : ∃ members, v = .object members := by
    cases v <;> first | exact ⟨_, rfl⟩ | cases hspec
  refine Fields.refines_record fields h fun ms' hms => ?_
  refine (Fields.Carried.refines true hms).both (Fields.refines_field hms true fun hsingle => ?_)
  have hfound := Fields.forall₂_found hms "spec"
  rw [Source.found_ofMembers] at hfound hsingle ⊢
  rw [Json.member?_eq_getLast?] at hspec
  generalize ms'.come.filter (·.1 = "spec") = found' at hfound ⊢
  -- the last one of them is the only one
  generalize members.filter (·.1 = "spec") = found at hfound hsingle hspec ⊢
  match found with
  | [] => cases hspec
  | [(key, w)] =>
    obtain rfl : w = .object spec := Option.some.inj hspec
    obtain ⟨m', found', hm, hnil, rfl⟩ := List.forall₂_cons_left_iff.1 hfound
    obtain rfl := List.forall₂_nil_left_iff.1 hnil
    exact .cons (CheckConfig.refines_form hm.2) .nil
  | _ :: _ :: _ => simp at hsingle

/-- Only a check that is an object, with a configuration that is one, is read from both. -/
theorem exists_spec_of_read (h : (Source.json v).Mirrors s') {budget budget' : Nat}
    {r r' : Check × Nat} (hread : form.read (.json v) budget = .ok r)
    (hread' : form.read s' budget' = .ok r') :
    ∃ members, v.member? "spec" = some (.object members) := by
  obtain ⟨members, rfl⟩ := Fields.eq_object_of_read_record fields h hread hread'
  obtain ⟨ms', hmembers, hrow, hms⟩ := h.exists_members
  have hrecord : form.read s' = fields.readMembers true ms' := by
    change (Fields.record fields).read s' = _
    simp only [Fields.record, hrow, hmembers, pure_bind]
  rw [hrecord] at hread'
  obtain ⟨a, ha⟩ := Fields.exists_read_of_readMembers hread'
  rw [read_form] at hread
  obtain ⟨_, _, _, -, hspec, -⟩ := Reading.both_eq_ok.1 hread
  obtain ⟨_, _, _, -, hspec', -⟩ := Reading.both_eq_ok.1 ha
  obtain ⟨m, hm, hread⟩ := Fields.read_required_eq_ok hspec
  obtain ⟨m', hm', hread'⟩ := Fields.read_required_eq_ok hspec'
  have hfound := Fields.forall₂_found hms "spec"
  rw [hm, hm'] at hfound
  obtain ⟨⟨-, hmirrors⟩, -⟩ := List.forall₂_cons.1 hfound
  rw [Source.found_ofMembers] at hm
  obtain ⟨found, hfilter, rfl⟩ : ∃ w, members.filter (·.1 = "spec") = [w]
      ∧ m = (w.1, Source.json w.2) := by
    obtain ⟨w, hw, heq⟩ := List.map_eq_singleton_iff.1 hm
    exact ⟨w, hw, heq.symm⟩
  obtain ⟨spec, hobject⟩ := Fields.eq_object_of_read_record _ hmirrors hread hread'
  refine ⟨spec, ?_⟩
  rw [Json.member?_eq_getLast?, hfilter, ← hobject]
  rfl

end Check

end PodCheck
