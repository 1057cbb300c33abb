import PodCheck.Manifest
import PodCheck.Proofs.Checker.Durations
import PodCheck.Proofs.Coordinator.Results

/-! # Manifests that are accepted

A template can be launched if it has containers, each with a name and an image
(`PodSpec.Launchable`). The loader accepts just these and leaves them as they are; of another one it
reports the fault of the foremost container that has one (`TemplateFault.find?_eq_some_iff`). What
was accepted stays fit to run: with a namespace and a name, a check gets a checker that is ready,
and every pod that a run of it creates can be launched (`Manifest.accepts_launchable`). -/

namespace PodCheck

/-! ## Templates that can be launched -/

/-- A container that can be started: it has a name and an image. -/
def Container.Startable (c : Container) : Prop :=
  c.name ≠ "" ∧ ∃ image, c.image = some image ∧ image ≠ ""

/-- A template that can be launched. -/
def PodSpec.Launchable (spec : PodSpec) : Prop :=
  spec.containers ≠ [] ∧ ∀ c ∈ spec.containers, c.Startable

/-- An image that is missing and an empty one are the same. -/
theorem Container.startable_iff {c : Container} :
    c.Startable ↔ c.name ≠ "" ∧ c.image.getD "" ≠ "" := by
  unfold Startable
  cases c.image <;> simp

namespace TemplateFault

/-- A fault of a template before which there is no other: it has no containers, or all containers in
front of the faulty one can be started. -/
inductive Foremost (spec : PodSpec) : TemplateFault → Prop
  /-- It has no containers. -/
  | noContainers (h : spec.containers = []) : Foremost spec .noContainers
  /-- A container has no name. -/
  | noName {before after : List Container} {c : Container}
    (h : spec.containers = before ++ c :: after) (hbefore : ∀ b ∈ before, b.Startable)
    (hname : c.name = "") : Foremost spec (.noName before.length)
  /-- A container has a name and no image. -/
  | noImage {before after : List Container} {c : Container}
    (h : spec.containers = before ++ c :: after) (hbefore : ∀ b ∈ before, b.Startable)
    (hname : c.name ≠ "") (himage : ¬ ∃ image, c.image = some image ∧ image ≠ "") :
    Foremost spec (.noImage c.name)

/-- A container that can be started has no fault. -/
theorem ofContainer?_eq_none_iff {index : Nat} {c : Container} :
    ofContainer? index c = none ↔ c.Startable :=
  ofContainer?_eq_none.trans Container.startable_iff.symm

/-- The fault of a container is that it has no name, or else no image. -/
theorem ofContainer?_eq_some_iff {index : Nat} {c : Container} {fault : TemplateFault} :
    ofContainer? index c = some fault
      ↔ (c.name = "" ∧ fault = .noName index)
        ∨ (c.name ≠ "" ∧ (¬ ∃ image, c.image = some image ∧ image ≠ "")
          ∧ fault = .noImage c.name) := by
  have himage : (¬ ∃ image, c.image = some image ∧ image ≠ "") ↔ c.image.getD "" = "" := by
    cases c.image <;> simp
  rw [himage, ofContainer?]
  by_cases hname : c.name = ""
  · simp [hname, eq_comm (b := fault)]
  · by_cases hempty : c.image.getD "" = "" <;> simp [hname, hempty, eq_comm (b := fault)]

/-- The first fault of containers is that of one behind containers that can be started. -/
theorem ofContainers?_eq_some_iff {index : Nat} {cs : List Container} {fault : TemplateFault} :
    ofContainers? index cs = some fault
      ↔ ∃ before c after, cs = before ++ c :: after ∧ (∀ b ∈ before, b.Startable)
        ∧ ofContainer? (index + before.length) c = some fault := by
  induction cs generalizing index with
  | nil => simp [ofContainers?]
  | cons c cs ih =>
    -- the faulty container is the first one, or that can be started and it is among the rest
    rw [ofContainers?, Option.or_eq_some_iff, ih]
    constructor
    · rintro (hfault | ⟨hnone, before, d, after, rfl, hbefore, hfault⟩)
      · exact ⟨[], c, cs, rfl, by simp, hfault⟩
      · refine ⟨c :: before, d, after, rfl, ?_, ?_⟩
        · exact List.forall_mem_cons.2 ⟨ofContainer?_eq_none_iff.1 hnone, hbefore⟩
        · rwa [List.length_cons, Nat.add_comm before.length, ← Nat.add_assoc]
    · rintro ⟨before, d, after, hsplit, hbefore, hfault⟩
      rcases List.cons_eq_append_iff.1 hsplit with ⟨rfl, htail⟩ | ⟨before, rfl, rfl⟩
      · obtain ⟨rfl, rfl⟩ := List.cons.inj htail
        exact .inl hfault
      · obtain ⟨hc, hbefore⟩ := List.forall_mem_cons.1 hbefore
        refine .inr ⟨ofContainer?_eq_none_iff.2 hc, before, d, after, rfl, hbefore, ?_⟩
        rwa [List.length_cons, Nat.add_comm before.length, ← Nat.add_assoc] at hfault

/-- **The fault that is reported is the foremost one.** -/
theorem find?_eq_some_iff {spec : PodSpec} {fault : TemplateFault} :
    find? spec = some fault ↔ Foremost spec fault := by
  unfold find?
  split
  · next hempty =>
    constructor
    · intro h
      obtain rfl := Option.some.inj h
      exact .noContainers hempty
    · intro h
      cases h with
      | noContainers => rfl
      | noName h | noImage h => simp [hempty] at h
  · next hcontainers =>
    rw [ofContainers?_eq_some_iff]
    constructor
    · rintro ⟨before, c, after, hsplit, hbefore, hfault⟩
      rw [Nat.zero_add] at hfault
      rcases ofContainer?_eq_some_iff.1 hfault with ⟨hname, rfl⟩ | ⟨hname, himage, rfl⟩
      · exact .noName hsplit hbefore hname
      · exact .noImage hsplit hbefore hname himage
    · intro h
      cases h with
      | noContainers h => exact absurd h hcontainers
      | @noName before after c h hbefore hname =>
        refine ⟨before, c, after, h, hbefore, ofContainer?_eq_some_iff.2 (.inl ⟨hname, ?_⟩)⟩
        rw [Nat.zero_add]
      | @noImage before after c h hbefore hname himage =>
        exact ⟨before, c, after, h, hbefore,
          ofContainer?_eq_some_iff.2 (.inr ⟨hname, himage, rfl⟩)⟩

/-- A template without a fault can be launched. -/
theorem find?_eq_none_iff {spec : PodSpec} : find? spec = none ↔ spec.Launchable := by
  simp only [find?_eq_none, PodSpec.Launchable, Container.startable_iff]

end TemplateFault

namespace Manifest

variable {α : Type} {spec : PodSpec} {a : α}

/-- What comes with a template that can be launched is accepted as it is. -/
theorem map_validate_eq_ok_iff {b : α} :
    (validate spec).map (fun _ => a) = .ok b ↔ spec.Launchable ∧ b = a := by
  rw [← TemplateFault.find?_eq_none_iff]
  unfold validate
  cases TemplateFault.find? spec <;> simp [Except.map, eq_comm]

/-- What comes with another template has the error of the foremost fault. -/
theorem map_validate_eq_error_iff {e : CheckError} :
    (validate spec).map (fun _ => a) = .error e
      ↔ ∃ fault, TemplateFault.Foremost spec fault ∧ e = .malformedSpec fault.message := by
  simp only [← TemplateFault.find?_eq_some_iff]
  unfold validate
  cases TemplateFault.find? spec <;> simp [Except.map, eq_comm]

theorem readCheck_of_read? {raw : ByteArray} {check : Check}
    (h : read? Check.form raw = some check) :
    readCheck raw = (validate check.spec.podSpec).map fun _ => check := by
  rw [readCheck, h]

theorem readPodSpec_of_read? {raw : ByteArray} (h : read? PodSpec.form raw = some spec) :
    readPodSpec raw = (validate spec).map fun _ => spec := by
  rw [readPodSpec, h]

/-- A check that is accepted has a template that can be launched. -/
theorem launchable_of_readCheck {raw : ByteArray} {check : Check}
    (h : readCheck raw = .ok check) : check.spec.podSpec.Launchable := by
  cases hread : read? Check.form raw with
  | none =>
    rw [readCheck, hread] at h
    cases h
  | some check' =>
    rw [readCheck_of_read? hread] at h
    obtain ⟨hlaunchable, rfl⟩ := map_validate_eq_ok_iff.1 h
    exact hlaunchable

end Manifest

/-! ## Pods of accepted templates -/

/-- A run changes neither the name nor the image of a container. -/
theorem RunPod.startable_withVariables {vars : List (String × String)} {c : Container}
    (h : c.Startable) : (withVariables vars c).Startable := h

/-- **The pod of a run can be launched if its template can.** -/
theorem RunPod.launchable_spec {template : PodSpec} (h : template.Launchable) (p : RunParams)
    (now : Instant) : (spec template p now).Launchable := by
  refine ⟨fun hnil => h.1 (List.map_eq_nil_iff.1 hnil), ?_⟩
  intro c hc
  obtain ⟨d, hd, rfl⟩ := List.mem_map.1 hc
  exact startable_withVariables (h.2 d hd)

namespace Coordinator

variable {s : Coordinator} {a : Action} {id token ns : String} {c : Checker}
  {lease? : Option Lease} {events : List Event} {notes : List Note} {pod : Pod}
  {results : List (Except CheckError Unit)} {slot : Slot}

/-- Whatever has become of a run, it has called its operations in their order. -/
theorem Course.calls (h : Course c lease? token notes results slot) :
    ∃ now, notes.filterMap Note.call? <+: c.config.runCalls token now := by
  cases h with
  | waiting h htoken | expired h htoken | dropped h htoken => exact htoken ▸ h.calls
  | ended h =>
    cases h with
    | refused => exact ⟨.ofNanos 0, List.nil_prefix⟩
    | unstored | unremoved =>
      exact ⟨.ofNanos 0, by simp [List.filterMap_cons, CheckerConfig.runCalls]⟩
    | uncreated stored removed now | submitted stored removed created now =>
      exact ⟨now, by simp [List.filterMap_cons, CheckerConfig.runCalls]⟩

/-- **Every pod that a run creates is built for it from the template of its checker.** -/
theorem Course.eq_pod (h : Course c lease? token notes results slot)
    (hcalled : .called (.createPod ns pod) ∈ notes) : ∃ now, pod = c.config.pod token now := by
  obtain ⟨now, hcalls⟩ := h.calls
  have hmem : .createPod ns pod ∈ c.config.runCalls token now :=
    hcalls.subset (List.mem_filterMap.2 ⟨_, hcalled, rfl⟩)
  have hpod : ns = c.config.ns ∧ pod = c.config.pod token now := by
    simpa [CheckerConfig.runCalls] using hmem
  exact ⟨now, hpod.2⟩

/-- **Every pod of a run can be launched if the template of its checker can.** -/
theorem launchable_of_dialogue (ho : s.Opens a id c lease? events) {actions : List Action}
    (ha : ∀ b ∈ actions, b.asksNothingOf id = true) (hlaunchable : c.config.template.Launchable)
    (hcalled : .called (.createPod ns pod) ∈ s.dialogue id (a :: actions)) :
    ∃ spec, pod.spec = some spec ∧ spec.Launchable := by
  obtain ⟨slot₀, hslot₀, hcourse₀⟩ := course_of_opens ho
  obtain ⟨slot, -, hcourse⟩ := hcourse₀.run hslot₀ ha
  obtain ⟨now, rfl⟩ := hcourse.eq_pod hcalled
  exact ⟨_, rfl, RunPod.launchable_spec hlaunchable _ now⟩

end Coordinator

namespace Checker

/-- **The checker of a check that has a namespace, a name and containers is ready.** -/
theorem check_of_ofCheck {check : Check} {checker : Checker} {events : List Event}
    (h : ofCheck check = .ok (checker, events)) (hns : check.metadata.ns.getD "" ≠ "")
    (hname : check.metadata.name.getD "" ≠ "") (hcontainers : check.spec.podSpec.containers ≠ []) :
    checker.config.check = .ok () := by
  obtain ⟨first, second, -, -, rfl, -⟩ := ofCheck_eq_ok_iff.1 h
  have hfault : (ofSpans check first.1 second.1).config.fault? = none := by
    simp [CheckerConfig.fault?, CheckerConfig.tokenFault?, ofSpans, hns, hname, hcontainers]
  rw [CheckerConfig.check, hfault]

end Checker

namespace Manifest

/-- **The loader accepts the templates that can be launched, and what it accepts is fit to run.**
Whatever is read from a document, as a check or as a bare template, is accepted just if its template
can be launched, and then comes out as it was read; otherwise the error is the foremost fault of the
template. So both loaders agree about one template: on the verdict and on the text of the error. A
check that was accepted, and has a namespace, a name and durations that can be computed, has a
checker that is ready, and whatever the cluster and other checkers do, every pod that a run with its
template creates can be launched. -/
theorem accepts_launchable :
    (∀ raw spec, read? PodSpec.form raw = some spec →
      (∀ accepted, readPodSpec raw = .ok accepted ↔ spec.Launchable ∧ accepted = spec)
      ∧ ∀ e, readPodSpec raw = .error e
        ↔ ∃ fault, TemplateFault.Foremost spec fault ∧ e = .malformedSpec fault.message)
    ∧ (∀ raw check, read? Check.form raw = some check →
      (∀ accepted, readCheck raw = .ok accepted
        ↔ check.spec.podSpec.Launchable ∧ accepted = check)
      ∧ ∀ e, readCheck raw = .error e
        ↔ ∃ fault, TemplateFault.Foremost check.spec.podSpec fault
          ∧ e = .malformedSpec fault.message)
    ∧ (∀ raw raw' check, read? Check.form raw = some check →
      read? PodSpec.form raw' = some check.spec.podSpec →
      (readCheck raw).map (·.spec.podSpec) = readPodSpec raw')
    ∧ ∀ raw check checker events, readCheck raw = .ok check →
      check.metadata.ns.getD "" ≠ "" → check.metadata.name.getD "" ≠ "" →
      Checker.ofCheck check = .ok (checker, events) →
      checker.config.check = .ok ()
      ∧ ∀ (s : Coordinator) (a : Action) (id : String) (c : Checker) (lease? : Option Lease)
        (more : List Event) (actions : List Action),
        c.config.template = checker.config.template → s.Opens a id c lease? more →
        (∀ b ∈ actions, b.asksNothingOf id = true) →
        ∀ ns pod, .called (.createPod ns pod) ∈ s.dialogue id (a :: actions) →
          ∃ spec, pod.spec = some spec ∧ spec.Launchable := by
  refine ⟨?_, ?_, ?_, ?_⟩
  · intro raw spec h
    rw [readPodSpec_of_read? h]
    exact ⟨fun _ => map_validate_eq_ok_iff, fun _ => map_validate_eq_error_iff⟩
  · intro raw check h
    rw [readCheck_of_read? h]
    exact ⟨fun _ => map_validate_eq_ok_iff, fun _ => map_validate_eq_error_iff⟩
  · intro raw raw' check h h'
    rw [readCheck_of_read? h, readPodSpec_of_read? h']
    cases validate check.spec.podSpec <;> rfl
  · intro raw check checker events h hns hname hchecker
    have hlaunchable := launchable_of_readCheck h
    refine ⟨Checker.check_of_ofCheck hchecker hns hname hlaunchable.1, ?_⟩
    intro s a id c lease? more actions htemplate hopens hquiet ns pod hcalled
    obtain ⟨first, second, -, -, rfl, -⟩ := Checker.ofCheck_eq_ok_iff.1 hchecker
    exact Coordinator.launchable_of_dialogue hopens hquiet (htemplate ▸ hlaunchable) hcalled

/-- A document is read from the bytes of its text. -/
theorem read?_toUTF8 (form : Form α) (s : String) : read? form s.toUTF8 = readText? form s := by
  have htext : String.fromUTF8? s.toUTF8 = some s := dif_pos s.isValidUTF8
  rw [read?, htext, Option.bind_some]

/-- A check with one container, and a template whose second container has no name and whose third
one has neither: the check is accepted, and the pod of its run can be launched; of the template the
name is reported. -/
theorem accepts_launchable_of_manifests :
    let manifest := "metadata: \x7bname: web, namespace: prod\x7d\n"
      ++ "spec: \x7bpodSpec: \x7bcontainers: [\x7bname: main, image: probe\x7d]\x7d\x7d"
    let template := "containers: [\x7bname: main, image: probe\x7d, \x7bimage: probe\x7d, \x7b\x7d]"
    let check : Check :=
      { metadata := { name := some "web", ns := some "prod" }
        spec := { podSpec := { containers := [{ name := "main", image := some "probe" }] } } }
    readCheck manifest.toUTF8 = .ok check
    ∧ readPodSpec template.toUTF8 = .error (.malformedSpec "container #1 has no name")
    ∧ ∃ checker events, Checker.ofCheck check = .ok (checker, events)
      ∧ checker.config.check = .ok ()
      ∧ ∃ pod, .called (.createPod "prod" pod)
          ∈ (({ epoch := .ofNanos 0 } : Coordinator).act (.place "a" checker)).dialogue "a"
            [.runOnce "a", .answer "a" (.ok .done), .answer "a" (.ok .done)]
        ∧ ∃ spec, pod.spec = some spec ∧ spec.Launchable := by
  intro manifest template check
  let checker : Checker :=
    { config :=
        { ns := "prod", checkName := "web", podName := "web", template := check.spec.podSpec
          interval := .ofSecs 600, timeout := .ofSecs 300 }
      token := "" }
  let s := ({ epoch := .ofNanos 0 } : Coordinator).act (.place "a" checker)
  let pod := checker.config.pod s.tokens.draw.1 s.now
  let faulty : PodSpec :=
    { containers :=
        [{ name := "main", image := some "probe" }, { name := "", image := some "probe" },
          { name := "" }] }
  obtain ⟨htemplates, hchecks, -, hfit⟩ := accepts_launchable
  have hcheck : read? Check.form manifest.toUTF8 = some check := by
    rw [read?_toUTF8]
    decide +kernel
  have hfaulty : read? PodSpec.form template.toUTF8 = some faulty := by
    rw [read?_toUTF8]
    decide +kernel
  have hstartable : Container.Startable { name := "main", image := some "probe" } :=
    ⟨by decide, "probe", rfl, by decide⟩
  have hlaunchable : check.spec.podSpec.Launchable :=
    ⟨List.cons_ne_nil _ _, by simpa [check] using hstartable⟩
  have haccepted : readCheck manifest.toUTF8 = .ok check :=
    ((hchecks _ _ hcheck).1 check).2 ⟨hlaunchable, rfl⟩
  have hsplit : faulty.containers
      = [{ name := "main", image := some "probe" }]
        ++ { name := "", image := some "probe" } :: [{ name := "" }] := rfl
  have hfault : TemplateFault.Foremost faulty (.noName 1) :=
    .noName hsplit (by simpa using hstartable) rfl
  have hchecker : Checker.ofCheck check = .ok (checker, []) := rfl
  have hopens : s.Opens (.runOnce "a") "a" checker none [] := .runOnce (by decide +kernel)
  have hquiet : ∀ b ∈ [Action.answer "a" (.ok .done), .answer "a" (.ok .done)],
      b.asksNothingOf "a" = true := by decide
  have hnotes : s.dialogue "a" [.runOnce "a", .answer "a" (.ok .done), .answer "a" (.ok .done)]
      = [.called (.setToken "prod" "web" s.tokens.draw.1), .answered (.ok .done),
        .called (.deletePod "prod" "web"), .answered (.ok .done),
        .called (.createPod "prod" pod)] := by rfl
  have hcalled : .called (.createPod "prod" pod) ∈ s.dialogue "a"
      [.runOnce "a", .answer "a" (.ok .done), .answer "a" (.ok .done)] := by simp [hnotes]
  obtain ⟨hready, hpods⟩ := hfit _ _ checker [] haccepted (by decide) (by decide) hchecker
  exact ⟨haccepted, ((htemplates _ _ hfaulty).2 _).2 ⟨.noName 1, hfault, rfl⟩, checker, [],
    hchecker, hready, pod, hcalled,
    hpods s (.runOnce "a") "a" checker none [] _ rfl hopens hquiet _ _ hcalled⟩

end Manifest

end PodCheck
