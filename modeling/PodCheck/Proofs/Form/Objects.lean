import PodCheck.Check
import PodCheck.Proofs.Form.Exact
import PodCheck.Proofs.Timestamp

/-! # Objects that are kept when they are written

Every object of a check is read back from what is written of it, whatever is missing in it or empty
(`PodSpec.exact_form`, `CheckConfig.exact_form`). Only the moment at which an object was created
loses its parts of a second; a check or a pod that was created on a whole second is kept
(`Check.keeps_form`, `Pod.keeps_form`). -/

namespace PodCheck

/-! ## Volumes -/

instance EmptyDir.exact_form : EmptyDir.form.Exact := .object (by decide) fun _ => rfl

instance KeyFile.exact_form : KeyFile.form.Exact := .object (by decide) fun _ => rfl

instance ConfigMapVolume.exact_form : ConfigMapVolume.form.Exact :=
  .object (by decide) fun _ => rfl

instance SecretVolume.exact_form : SecretVolume.form.Exact := .object (by decide) fun _ => rfl

instance HostPath.exact_form : HostPath.form.Exact := .object (by decide) fun _ => rfl

instance Volume.exact_form : Volume.form.Exact := .object (by decide) fun _ => rfl

/-! ## Containers -/

instance FieldSelector.exact_form : FieldSelector.form.Exact := .object (by decide) fun _ => rfl

instance KeySelector.exact_form : KeySelector.form.Exact := .object (by decide) fun _ => rfl

instance EnvSource.exact_form : EnvSource.form.Exact := .object (by decide) fun _ => rfl

instance EnvVar.exact_form : EnvVar.form.Exact := .object (by decide) fun _ => rfl

/-- Numbers and texts are told apart when they are read back. -/
instance IntOrText.exact_form : IntOrText.form.Exact where
  keeps a := by
    cases a with
    | int n =>
      refine ⟨?_, by simp [form], .int _⟩
      have hread : (Source.json (.int n.toInt)).intOrText = pure (.inl n.toInt) := rfl
      simp only [form, hread, pure_bind, if_pos (And.intro n.minValue_le_toInt n.toInt_le),
        Int32.ofInt_toInt]
    | text t => exact ⟨rfl, by simp [form], .text t⟩

instance ExecAction.exact_form : ExecAction.form.Exact := .object (by decide) fun _ => rfl

instance HttpGetAction.exact_form : HttpGetAction.form.Exact := .object (by decide) fun _ => rfl

instance Probe.exact_form : Probe.form.Exact := .object (by decide) fun _ => rfl

instance ContainerPort.exact_form : ContainerPort.form.Exact := .object (by decide) fun _ => rfl

instance Resources.exact_form : Resources.form.Exact := .object (by decide) fun _ => rfl

instance VolumeMount.exact_form : VolumeMount.form.Exact := .object (by decide) fun _ => rfl

instance ContainerSecurity.exact_form : ContainerSecurity.form.Exact :=
  .object (by decide) fun _ => rfl

instance Container.exact_form : Container.form.Exact := .object (by decide) fun _ => rfl

/-! ## Pods -/

instance SecretName.exact_form : SecretName.form.Exact := .object (by decide) fun _ => rfl

instance PodSecurity.exact_form : PodSecurity.form.Exact := .object (by decide) fun _ => rfl

instance Toleration.exact_form : Toleration.form.Exact := .object (by decide) fun _ => rfl

instance PodSpec.exact_form : PodSpec.form.Exact := .object (by decide) fun _ => rfl

/-! ## Checks -/

instance CheckConfig.exact_form : CheckConfig.form.Exact := .record (by decide) fun _ => rfl

/-- A moment on a whole second is kept. -/
theorem Timestamp.keeps_form {t : Timestamp} (h : t.nanos = 0) : Form.timestamp.Keeps t where
  read_write := by
    simp only [Form.timestamp, Source.text_json, pure_bind, read?_text h, Reading.ofOption]
  present := by simp [Form.timestamp]
  plain := .text _

open Fields in
/-- Metadata are kept if the moment in them is. -/
theorem Metadata.keeps_form {m : Metadata} (h : ∀ t, m.creationTimestamp = some t → t.nanos = 0) :
    Metadata.form.Keeps m := by
  have hstamp : (optional "creationTimestamp" .timestamp (·.creationTimestamp)).Keeps m
      m.creationTimestamp := .optional fun t ht => Timestamp.keeps_form (h t ht)
  refine Keeps.object ?_ (by decide)
  -- the fields behind the moment keep every record, and so does the one before it
  show Keeps _ m (Metadata.mk m.annotations m.creationTimestamp m.finalizers m.generateName
    m.generation m.labels m.name m.ns m.resourceVersion m.uid)
  iterate 8 refine Keeps.seq ?_ (Exact.keeps m)
  refine Keeps.seq (.map (.optional fun l _ => Form.Exact.keeps l) _) hstamp

open Fields in
/-- **A pod that was created on a whole second is kept**; so is one that is still to be created. -/
theorem Pod.keeps_form {pod : Pod}
    (h : ∀ t, pod.metadata.creationTimestamp = some t → t.nanos = 0) : Pod.form.Keeps pod := by
  have hmetadata : (orDefault "metadata" Metadata.form {} (·.metadata)).Keeps pod pod.metadata :=
    .orDefault (Metadata.keeps_form h)
  refine Keeps.object ?_ (by decide)
  exact Keeps.seq (((Keeps.constant "v1").map _ |>.seq (.constant "Pod")).seq hmetadata)
    (Exact.keeps pod)

namespace Check

/-- The fields of a check look at its metadata and its configuration only. -/
instance local_fields : fields.Local :=
  inferInstanceAs (Seq.seq (Functor.map _ (Fields.required _ _ _)) fun _ =>
    Fields.required _ _ _).Local

/-- The fields of a check keep it if its metadata are kept. -/
theorem keeps_fields {c : Check} (h : Metadata.form.Keeps c.metadata) : fields.Keeps c c :=
  ((Fields.Keeps.required h).map Check.mk).seq (.required (Form.Exact.keeps c.spec))

/-- A check is read from an object by its fields. -/
theorem read_form (members : List (String × Json)) :
    form.read (.json (.object members)) = fields.read true (Source.ofMembers members) :=
  Fields.read_record fields members

/-- How a check is read from JSON. -/
theorem ofJson?_eq_some_iff {v : Json} {c : Check} :
    ofJson? v = some c ↔ ∃ left, form.read (.json v) 0 = .ok (c, left) := by
  rw [ofJson?, Form.ofJson?, Reading.result, StateT.run]
  cases form.read (.json v) 0 with
  | error e => exact ⟨nofun, nofun⟩
  | ok p =>
    obtain ⟨d, left⟩ := p
    constructor
    · rintro ⟨⟩
      exact ⟨left, rfl⟩
    · rintro ⟨_, ⟨⟩⟩
      rfl

/-- **A check that was created on a whole second is kept.** -/
theorem keeps_form {c : Check}
    (h : ∀ t, c.metadata.creationTimestamp = some t → t.nanos = 0) : form.Keeps c where
  read_write := by
    have hfields := keeps_fields (Metadata.keeps_form h)
    -- the type of the object is none of the fields
    have htype : ∀ m ∈ [("apiVersion", Json.text (group ++ "/" ++ version)),
        ("kind", Json.text kind)], m.1 ∉ fields.keys := by decide
    refine (read_form _).trans ?_
    rw [← hfields.read_write (by decide) true]
    have hread := Fields.read_among _ (fields.write c) [] htype (by simp) true
    rw [List.append_nil] at hread
    exact hread
  present := by simp [form]
  plain := by
    have hfields := keeps_fields (Metadata.keeps_form h)
    refine .object fun m hm => ?_
    rcases List.mem_cons.1 hm with rfl | hm
    · exact .text _
    rcases List.mem_cons.1 hm with rfl | hm
    · exact .text _
    · exact hfields.plain m hm

end Check

end PodCheck
