import PodCheck.Cluster.Memory
import PodCheck.Proofs.RunPod.Identity

/-! # What an operation can do to a cluster

Every operation of a cluster in memory fails and leaves all as it was, reads a token, or makes the
one change listed here (`MemoryCluster.change_of_perform`). It leaves the tokens and the pods at all
places but its own and records only creations of its own pod (`MemoryCluster.Change.changedOnly`).
What a cluster changes only at some places it changes there in the long run
(`MemoryCluster.ChangedOnly.trans`). -/

namespace PodCheck

namespace Call

/-- The check whose token an operation stores. -/
def check? : Call → Option ObjectKey
  | .setToken ns check _ => some ⟨ns, check⟩
  | _ => none

/-- The place whose pod an operation deletes or creates. -/
def place? : Call → Option ObjectKey
  | .deletePod ns name => some ⟨ns, name⟩
  | .createPod ns pod => some ⟨ns, MemoryCluster.podName pod⟩
  | _ => none

/-- The checks whose tokens some operations store. -/
def checks (calls : List Call) (key : ObjectKey) : Prop := ∃ call ∈ calls, call.check? = some key

/-- The places whose pods some operations delete or create. -/
def places (calls : List Call) (key : ObjectKey) : Prop := ∃ call ∈ calls, call.place? = some key

end Call

namespace MemoryCluster

/-- A change of a cluster by an operation, with its outcome. -/
inductive Change (m : MemoryCluster) : Call → Outcome → MemoryCluster → Prop
  /-- The operation fails. -/
  | failed {call : Call} {e : ClientError} : Change m call (.error e) m
  /-- The token of a check that exists is stored. -/
  | stored {ns check token : String} (h : m.tokens.contains ⟨ns, check⟩ = true) :
      Change m (.setToken ns check token) (.ok .done)
        { m with tokens := m.tokens.insert ⟨ns, check⟩ token }
  /-- The token of a check is read. -/
  | read {ns check : String} :
      Change m (.getToken ns check) (.ok (.token (m.tokens.get? ⟨ns, check⟩))) m
  /-- There is no pod of a name any more. -/
  | deleted {ns name : String} :
      Change m (.deletePod ns name) (.ok .done) { m with pods := m.pods.erase ⟨ns, name⟩ }
  /-- A pod is created under a name that was free. -/
  | created {ns : String} {pod : Pod} (h : m.pods.contains ⟨ns, podName pod⟩ = false) :
      Change m (.createPod ns pod) (.ok (.pod (storedPod ns pod)))
        { m with
          pods := m.pods.insert ⟨ns, podName pod⟩ (storedPod ns pod)
          creations := m.creations ++ [⟨ns, podName pod, m.tokenFor ns pod⟩] }

variable {m m' : MemoryCluster}

/-- **Every operation makes one of the changes.** -/
theorem change_of_perform {call : Call} {outcome : Outcome}
    (h : m.perform call = (outcome, m')) : Change m call outcome m' := by
  cases call with
  | setToken ns check token =>
    simp only [perform, setToken] at h
    split at h
    · obtain ⟨rfl, rfl⟩ := Prod.mk.inj h
      exact .failed
    · split at h
      · rename_i hthere
        obtain ⟨rfl, rfl⟩ := Prod.mk.inj h
        exact .stored hthere
      · obtain ⟨rfl, rfl⟩ := Prod.mk.inj h
        exact .failed
  | getToken ns check =>
    obtain ⟨rfl, rfl⟩ := Prod.mk.inj h
    exact .read
  | deletePod ns name =>
    simp only [perform, deletePod] at h
    split at h
    · obtain ⟨rfl, rfl⟩ := Prod.mk.inj h
      exact .failed
    · obtain ⟨rfl, rfl⟩ := Prod.mk.inj h
      exact .deleted
  | createPod ns pod =>
    simp only [perform, createPod] at h
    split at h
    · obtain ⟨rfl, rfl⟩ := Prod.mk.inj h
      exact .failed
    · split at h
      · obtain ⟨rfl, rfl⟩ := Prod.mk.inj h
        exact .failed
      · rename_i hfree
        obtain ⟨rfl, rfl⟩ := Prod.mk.inj h
        exact .created (Bool.eq_false_iff.2 hfree)

/-- The token that is recorded with the creation of a run's pod is that of the run's check. -/
theorem tokenFor_build (m : MemoryCluster) (template : PodSpec) (p : RunParams) (now : Instant) :
    m.tokenFor p.ns (RunPod.build template p now) = m.tokens.get? ⟨p.ns, p.checkName⟩ := by
  have hlabel := RunPod.label?_build_checkName template p now
  rw [Pod.label?] at hlabel
  rw [tokenFor, hlabel, Option.bind_some]

/-! ## What an operation leaves -/

/-- An operation that fails leaves everything. -/
theorem Change.eq_of_error {call : Call} {e : ClientError} (h : m.Change call (.error e) m') :
    m' = m := by
  cases h with
  | failed => rfl

/-- A cluster has changed in nothing but the tokens of some checks and the pods at some places. -/
structure ChangedOnly (checks places : ObjectKey → Prop) (m m' : MemoryCluster) : Prop where
  /-- Other checks have the tokens that they had. -/
  tokens : ∀ key, ¬ checks key → m'.tokens.get? key = m.tokens.get? key
  /-- At other places there is what there was. -/
  pods : ∀ key, ¬ places key → m'.pods.get? key = m.pods.get? key
  /-- The creations of before are still there, and others are of pods at these places. -/
  creations : ∃ more, m'.creations = m.creations ++ more ∧ ∀ e ∈ more, places ⟨e.ns, e.pod⟩

namespace ChangedOnly

variable {checks checks' places places' : ObjectKey → Prop} {m'' : MemoryCluster}

/-- A cluster that stays as it is has changed nowhere. -/
theorem refl (m : MemoryCluster) : ChangedOnly checks places m m :=
  ⟨fun _ _ => rfl, fun _ _ => rfl, [], (List.append_nil _).symm, by simp⟩

/-- Changes one after the other. -/
theorem trans (h : ChangedOnly checks places m m') (h' : ChangedOnly checks places m' m'') :
    ChangedOnly checks places m m'' := by
  obtain ⟨more, hmore, hplaces⟩ := h.creations
  obtain ⟨more', hmore', hplaces'⟩ := h'.creations
  refine ⟨?_, ?_, more ++ more', ?_, ?_⟩
  · exact fun key hkey => (h'.tokens key hkey).trans (h.tokens key hkey)
  · exact fun key hkey => (h'.pods key hkey).trans (h.pods key hkey)
  · rw [hmore', hmore, List.append_assoc]
  · intro e he
    rcases List.mem_append.1 he with he | he
    · exact hplaces e he
    · exact hplaces' e he

/-- More may have changed. -/
theorem mono (h : ChangedOnly checks places m m') (hchecks : ∀ key, checks key → checks' key)
    (hplaces : ∀ key, places key → places' key) : ChangedOnly checks' places' m m' := by
  obtain ⟨more, hmore, hmem⟩ := h.creations
  exact ⟨fun key hkey => h.tokens key (mt (hchecks key) hkey),
    fun key hkey => h.pods key (mt (hplaces key) hkey),
    more, hmore, fun e he => hplaces _ (hmem e he)⟩

end ChangedOnly

/-- **An operation changes nothing but the token of its check and the pod at its place.** -/
theorem Change.changedOnly {call : Call} {outcome : Outcome} (h : m.Change call outcome m') :
    ChangedOnly (call.check? = some ·) (call.place? = some ·) m m' := by
  cases h with
  | failed => exact .refl m
  | read => exact .refl m
  | stored =>
    refine ⟨?_, fun _ _ => rfl, [], (List.append_nil _).symm, by simp⟩
    intro key hkey
    apply SortedMap.get?_insert_of_ne
    rintro rfl
    exact hkey rfl
  | deleted =>
    refine ⟨fun _ _ => rfl, ?_, [], (List.append_nil _).symm, by simp⟩
    intro key hkey
    apply SortedMap.get?_erase_of_ne
    rintro rfl
    exact hkey rfl
  | created =>
    refine ⟨fun _ _ => rfl, ?_, _, rfl, ?_⟩
    · intro key hkey
      apply SortedMap.get?_insert_of_ne
      rintro rfl
      exact hkey rfl
    · intro e he
      rw [List.mem_singleton.1 he]
      rfl

end MemoryCluster

end PodCheck
