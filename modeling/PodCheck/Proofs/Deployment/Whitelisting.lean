import PodCheck.Proofs.Deployment.Custody

/-! # Authorization follows the last write

Runs, checkers that store a token for its own sake, and anybody else with access to the cluster may
store tokens for any checks, with faults coming and going. Whatever has happened, the whitelist
answers with the token that was stored last for the check it is asked about
(`Deployment.authorization_follows_last_write`). The invariant reads the tokens of a cluster off the
operations that it performed (`Deployment.Recorded`). -/

namespace PodCheck

namespace MemoryCluster

variable {m m' : MemoryCluster} {ns check : String}

/-- The token of a check, as the whitelist reads it. -/
def fetch (m : MemoryCluster) (ns check : String) : Except CheckError String :=
  Whitelist.fetched ns check (m.perform (.getToken ns check)).1

/-- The whitelist reads the token of a check that exists. -/
theorem fetch_of_some {token : String} (h : m.tokens.get? ⟨ns, check⟩ = some token) :
    m.fetch ns check = .ok token := by
  simp only [fetch, perform, getToken, h]
  rfl

/-- The whitelist reads no token of a check that does not exist. -/
theorem fetch_of_none (h : m.tokens.get? ⟨ns, check⟩ = none) :
    m.fetch ns check = .error (.notFound ns check) := by
  simp only [fetch, perform, getToken, h]
  rfl

/-- A report without a token is refused, whatever the cluster holds. -/
theorem judge_empty (m : MemoryCluster) (ns check : String) : m.judge ns check "" = .ok false := rfl

/-- A report with a token is compared with what the whitelist reads. -/
theorem judge_of_ne (m : MemoryCluster) {ns check reported : String} (h : reported ≠ "") :
    m.judge ns check reported = (m.fetch ns check).map fun token => decide (token = reported) := by
  rw [judge_eq_authorized m h]
  cases hread : m.tokens.get? ⟨ns, check⟩ with
  | none =>
    rw [fetch_of_none hread]
    rfl
  | some token =>
    rw [fetch_of_some hread, Whitelist.authorized_of_token]
    rfl

/-- What becomes of a report depends on the token of its check alone. -/
theorem judge_congr (h : m'.fetch ns check = m.fetch ns check) (reported : String) :
    m'.judge ns check reported = m.judge ns check reported := by
  by_cases hempty : reported = ""
  · rw [hempty, judge_empty, judge_empty]
  · rw [judge_of_ne m' hempty, judge_of_ne m hempty, h]

/-- The checks of a new cluster have the empty token. -/
theorem get?_tokens_ofChecks (checks : List (String × String)) (ns check : String) :
    (ofChecks checks).tokens.get? ⟨ns, check⟩ = if (ns, check) ∈ checks then some "" else none := by
  -- the induction is on the checks, for any cluster to begin with
  have hfold : ∀ m : MemoryCluster,
      (checks.foldl (fun m check => m.withCheck check.1 check.2) m).tokens.get? ⟨ns, check⟩
        = if (ns, check) ∈ checks then some "" else m.tokens.get? ⟨ns, check⟩ := by
    induction checks with
    | nil => simp
    | cons first checks ih =>
      intro m
      rw [List.foldl_cons, ih, withCheck]
      by_cases hfirst : (⟨ns, check⟩ : ObjectKey) = ⟨first.1, first.2⟩
      · obtain ⟨rfl, rfl⟩ := ObjectKey.mk.inj hfirst
        simp
      · have hne : (ns, check) ≠ first := by
          rintro rfl
          exact hfirst rfl
        simp [SortedMap.get?_insert_of_ne _ _ hfirst, hne]
  rw [ofChecks, hfold]
  simp

end MemoryCluster

namespace Deployment

/-- The token that an operation stored for a check. -/
def storedToken? (ns check : String) : Call × Outcome → Option String
  | (.setToken ns' check' token, .ok _) =>
    if (ns', check') = (ns, check) then some token else none
  | _ => none

/-- The tokens that were stored for a check, first one first. -/
def writes (d : Deployment) (ns check : String) : List String :=
  d.performed.filterMap (storedToken? ns check)

/-- The token that was stored last for a check; the empty one if none was. -/
def lastWrite (d : Deployment) (ns check : String) : String :=
  ((d.writes ns check).getLast?).getD ""

/-- Stores a token for a check by way of the whitelist, without a checker. -/
def store (d : Deployment) (ns check token : String) : Deployment :=
  let (outcome, cluster) := d.cluster.perform (.setToken ns check token)
  { d with cluster, performed := d.performed ++ [(.setToken ns check token, outcome)] }

/-- Something that happens to a deployment and to those who store tokens besides it. -/
inductive Occurrence
  /-- Something happens in the deployment. -/
  | move (m : Move)
  /-- Somebody stores a token. -/
  | store (ns check token : String)

/-- What follows from an occurrence. -/
def occur (d : Deployment) : Occurrence → Deployment
  | .move m => d.move m
  | .store ns check token => d.store ns check token

/-- Lets occurrences happen one after the other. -/
def live (d : Deployment) (history : List Occurrence) : Deployment := history.foldl occur d

/-- An occurrence makes a check's token be stored: somebody stores it, or the operation of a checker
of that check has its effect. -/
inductive Stores (d : Deployment) (ns check token : String) : Occurrence → Prop
  /-- Somebody stores it. -/
  | direct : Stores d ns check token (.store ns check token)
  /-- A checker of the check stores it. -/
  | checker {id : String} {slot : Slot} (hslot : d.chronicle.coordinator.slots.get? id = some slot)
      (hns : slot.checker.config.ns = ns) (hcheck : slot.checker.config.checkName = check)
      (hcall : slot.call? = some (.setToken ns check token)) :
      Stores d ns check token (.move (.perform id))

variable {d : Deployment}

/-- A checker stores tokens for its own check only. -/
theorem identity_of_call_setToken {slot : Slot} {ns check token : String}
    (h : slot.call? = some (.setToken ns check token)) :
    slot.checker.config.ns = ns ∧ slot.checker.config.checkName = check := by
  obtain ⟨c, activity⟩ := slot
  cases activity with
  | idle => simp [Slot.call?] at h
  | assigning t =>
    obtain ⟨rfl, rfl, -⟩ := Call.setToken.inj (Option.some.inj h)
    exact ⟨rfl, rfl⟩
  | queued key lock => simp [Slot.call?] at h
  | running lease? p =>
    obtain ⟨hns, hcheck, -⟩ := Pending.eq_of_call_setToken (Option.some.inj h).symm
    exact ⟨hns, hcheck⟩

/-- What an occurrence does to the cluster and its record: nothing but switch faults, or one
operation. -/
theorem cluster_of_occur (d : Deployment) (o : Occurrence) :
    ((d.occur o).cluster.tokens = d.cluster.tokens ∧ (d.occur o).performed = d.performed)
    ∨ ∃ call outcome, d.cluster.Change call outcome (d.occur o).cluster
        ∧ (d.occur o).performed = d.performed ++ [(call, outcome)]
        ∧ ∀ ns check token, call = .setToken ns check token → d.Stores ns check token o := by
  cases o with
  | store ns check token =>
    refine .inr ⟨_, _, MemoryCluster.change_of_perform rfl, rfl, ?_⟩
    intro ns' check' token' heq
    obtain ⟨rfl, rfl, rfl⟩ := Call.setToken.inj heq
    exact .direct
  | move m =>
    have hchange := change_of_move d m
    rw [occur]
    generalize d.move m = d' at hchange ⊢
    cases hchange with
    | none => exact .inl ⟨rfl, rfl⟩
    | acted => exact .inl ⟨rfl, rfl⟩
    | refused => exact .inl ⟨rfl, rfl⟩
    | faults => exact .inl ⟨rfl, rfl⟩
    | performed hcall _ hcluster =>
      refine .inr ⟨_, _, hcluster, rfl, ?_⟩
      rintro ns check token rfl
      obtain ⟨slot, hslot, hslotCall⟩ := Option.bind_eq_some_iff.1 hcall
      obtain ⟨hns, hcheck⟩ := identity_of_call_setToken hslotCall
      exact .checker hslot hns hcheck hslotCall

/-- **The tokens of a cluster are those that were stored last** for the checks that there are. -/
def Recorded (checks : List (String × String)) (d : Deployment) : Prop :=
  ∀ ns check, d.cluster.tokens.get? ⟨ns, check⟩
    = if (ns, check) ∈ checks then some (d.lastWrite ns check) else none

/-- A new cluster has stored no tokens. -/
theorem recorded_fresh (tokens : TokenSource) (epoch : Instant) (rest : MemoryCluster)
    (checks : List (String × String)) :
    Recorded checks
      (fresh tokens epoch { rest with tokens := (MemoryCluster.ofChecks checks).tokens }) :=
  fun ns check => MemoryCluster.get?_tokens_ofChecks checks ns check

/-- An operation that stores no token for a check leaves its last one. -/
theorem lastWrite_append_of_none {d' : Deployment} {e : Call × Outcome} {ns check : String}
    (hperformed : d'.performed = d.performed ++ [e]) (he : storedToken? ns check e = none) :
    d'.lastWrite ns check = d.lastWrite ns check := by
  rw [lastWrite, writes, hperformed, List.filterMap_append]
  simp [he, lastWrite, writes]

/-- An operation that stores a token for a check makes it the last one. -/
theorem lastWrite_append_of_some {d' : Deployment} {e : Call × Outcome} {ns check token : String}
    (hperformed : d'.performed = d.performed ++ [e]) (he : storedToken? ns check e = some token) :
    d'.lastWrite ns check = token := by
  rw [lastWrite, writes, hperformed, List.filterMap_append]
  simp [he]

/-- **An occurrence either leaves the token of a check or stores it**, and the record of the cluster
has it. -/
theorem token_of_occur (d : Deployment) (o : Occurrence) (ns check : String) :
    ((d.occur o).cluster.tokens.get? ⟨ns, check⟩ = d.cluster.tokens.get? ⟨ns, check⟩
      ∧ (d.occur o).lastWrite ns check = d.lastWrite ns check)
    ∨ ∃ token, d.Stores ns check token o
      ∧ (d.occur o).performed = d.performed ++ [(.setToken ns check token, .ok .done)]
      ∧ d.cluster.tokens.contains ⟨ns, check⟩ = true
      ∧ (d.occur o).cluster.tokens.get? ⟨ns, check⟩ = some token
      ∧ (d.occur o).lastWrite ns check = token := by
  rcases d.cluster_of_occur o with
    ⟨htokens, hperformed⟩ | ⟨call, outcome, hcluster, hperformed, hwho⟩
  · left
    rw [htokens, lastWrite, lastWrite, writes, writes, hperformed]
    exact ⟨rfl, rfl⟩
  -- an operation that stores no token of this check leaves both
  have hkept : call.check? ≠ some ⟨ns, check⟩ → storedToken? ns check (call, outcome) = none →
      (d.occur o).cluster.tokens.get? ⟨ns, check⟩ = d.cluster.tokens.get? ⟨ns, check⟩
        ∧ (d.occur o).lastWrite ns check = d.lastWrite ns check := fun hkey hnone =>
    ⟨hcluster.changedOnly.tokens _ hkey, lastWrite_append_of_none hperformed hnone⟩
  generalize (d.occur o).cluster = m' at hcluster hkept ⊢
  cases hcluster with
  | failed =>
    exact .inl ⟨rfl, lastWrite_append_of_none hperformed (by cases call <;> rfl)⟩
  | @stored ns' check' token hthere =>
    by_cases hkey : (⟨ns', check'⟩ : ObjectKey) = ⟨ns, check⟩
    · obtain ⟨rfl, rfl⟩ := ObjectKey.mk.inj hkey
      exact .inr ⟨token, hwho _ _ _ rfl, hperformed, hthere, SortedMap.get?_insert_self ..,
        lastWrite_append_of_some hperformed (if_pos rfl)⟩
    · refine .inl (hkept (by simpa [Call.check?] using hkey) (if_neg ?_))
      simpa using hkey
  | read => exact .inl (hkept (by simp [Call.check?]) rfl)
  | deleted => exact .inl (hkept (by simp [Call.check?]) rfl)
  | created => exact .inl (hkept (by simp [Call.check?]) rfl)

/-- Every occurrence keeps the record. -/
theorem Recorded.occur {checks : List (String × String)} (hd : Recorded checks d)
    (o : Occurrence) : Recorded checks (d.occur o) := by
  intro ns check
  rcases d.token_of_occur o ns check with ⟨htoken, hlast⟩ | ⟨token, -, -, hthere, htoken, hlast⟩
  · rw [htoken, hlast]
    exact hd ns check
  · have hregistered : (ns, check) ∈ checks := by
      by_contra hnot
      rw [SortedMap.contains, hd ns check, if_neg hnot] at hthere
      simp at hthere
    rw [htoken, hlast, if_pos hregistered]

/-- Whatever has happened, the tokens of the cluster are on record. -/
theorem recorded_live {checks : List (String × String)} (hd : Recorded checks d)
    (history : List Occurrence) : Recorded checks (d.live history) := by
  induction history generalizing d with
  | nil => exact hd
  | cons o history ih => exact ih (hd.occur o)

/-! ## What the whitelist answers -/

/-- **Authorization follows the last write.** Whatever runs, checkers and others have stored and
tried to store, with faults coming and going: the whitelist reads the token that was stored last for
a check, the empty one if none was, and knows no check that was not there from the beginning; an
empty report is refused, and another one is authorized exactly if it has the token that was stored
last. Whatever happens next, the answers for a check stay the same unless a token is stored for that
very check. -/
theorem authorization_follows_last_write (tokens : TokenSource) (epoch : Instant)
    (rest : MemoryCluster) (checks : List (String × String)) (history : List Occurrence)
    (ns check : String) :
    let d := (fresh tokens epoch
      { rest with tokens := (MemoryCluster.ofChecks checks).tokens }).live history
    let registered := (ns, check) ∈ checks
    (d.cluster.fetch ns check = .ok (d.lastWrite ns check) ↔ registered)
    ∧ (d.cluster.fetch ns check = .error (.notFound ns check) ↔ ¬ registered)
    ∧ d.cluster.judge ns check "" = .ok false
    ∧ (∀ reported, reported ≠ "" →
        (d.cluster.judge ns check reported = .error (.notFound ns check) ↔ ¬ registered)
        ∧ (d.cluster.judge ns check reported = .ok true
            ↔ registered ∧ reported = d.lastWrite ns check)
        ∧ (d.cluster.judge ns check reported = .ok false
            ↔ registered ∧ reported ≠ d.lastWrite ns check))
    ∧ ∀ o, ((d.occur o).cluster.fetch ns check = d.cluster.fetch ns check
          ∧ ∀ reported, (d.occur o).cluster.judge ns check reported
              = d.cluster.judge ns check reported)
        ∨ ∃ token, d.Stores ns check token o
          ∧ (d.occur o).performed = d.performed ++ [(.setToken ns check token, .ok .done)] := by
  intro d registered
  have hd : Recorded checks d := recorded_live (recorded_fresh tokens epoch rest checks) history
  have hfetch : d.cluster.fetch ns check
      = if registered then .ok (d.lastWrite ns check) else .error (.notFound ns check) := by
    have htoken := hd ns check
    split at htoken
    · rename_i hthere
      rw [if_pos hthere, MemoryCluster.fetch_of_some htoken]
    · rename_i hthere
      rw [if_neg hthere, MemoryCluster.fetch_of_none htoken]
  refine ⟨?_, ?_, rfl, ?_, ?_⟩
  · rw [hfetch]
    by_cases hthere : registered <;> simp [hthere]
  · rw [hfetch]
    by_cases hthere : registered <;> simp [hthere]
  · intro reported hne
    rw [MemoryCluster.judge_of_ne _ hne, hfetch]
    by_cases hthere : registered <;> simp [hthere, Except.map, eq_comm]
  · intro o
    rcases d.token_of_occur o ns check with ⟨htoken, -⟩ | ⟨token, hstores, hperformed, -⟩
    · left
      have hsame : (d.occur o).cluster.fetch ns check = d.cluster.fetch ns check := by
        simp only [MemoryCluster.fetch, MemoryCluster.perform, MemoryCluster.getToken, htoken]
      exact ⟨hsame, MemoryCluster.judge_congr hsame⟩
    · exact .inr ⟨token, hstores, hperformed⟩

/-- A run stores a token, somebody revokes it, and a second run cannot store its own: the first
token is not authorized any more, and the check still has the empty one. -/
theorem authorization_follows_last_write_after_revocation :
    let history : List Occurrence :=
      [.move (.act (.place "a" (.plain "prod" "web" "probe"))), .move (.act (.runOnce "a")),
        .move (.perform "a"), .move (.deliver "a"), .move (.act (.drop "a")),
        .store "prod" "web" "", .store "prod" "unknown" "x",
        .move (.setFaults none none (some "down")), .move (.act (.runOnce "a")),
        .move (.perform "a"), .move (.deliver "a")]
    let d := (fresh {} (.ofNanos 0)
      { (default : MemoryCluster) with
        tokens := (MemoryCluster.ofChecks [("prod", "web")]).tokens }).live history
    d.writes "prod" "web" = [tokenText 1, ""] ∧ d.cluster.fetch "prod" "web" = .ok ""
    ∧ tokenText 1 ≠ "" ∧ d.cluster.judge "prod" "web" (tokenText 1) = .ok false := by
  intro history d
  have hwrites : d.writes "prod" "web" = [tokenText 1, ""] := by decide +kernel
  have hlast : d.lastWrite "prod" "web" = "" := by rw [lastWrite, hwrites]; rfl
  have hne : tokenText 1 ≠ "" := by decide +kernel
  obtain ⟨hfetch, -, -, hjudge, -⟩ := authorization_follows_last_write {} (.ofNanos 0) default
    [("prod", "web")] history "prod" "web"
  refine ⟨hwrites, ?_, hne, ?_⟩
  · exact (hfetch.2 (by decide)).trans (congrArg _ hlast)
  · refine (hjudge _ hne).2.2.2 ⟨by decide, ?_⟩
    exact fun heq => hne (heq.trans hlast)

end Deployment

end PodCheck
