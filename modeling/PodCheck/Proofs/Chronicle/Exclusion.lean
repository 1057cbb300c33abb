import PodCheck.Proofs.Chronicle.CallOrder
import PodCheck.Proofs.Coordinator.Lock

/-! # Runs of one check follow each other

Between two calls of a coordinated run there is no call of another coordinated run of the same
check, whichever way runs end, and a lock that nobody uses is there at once
(`Chronicle.runs_of_one_check_follow`). The invariant says that a run whose call came before one of
another run of the same check is over (`Chronicle.Serialized`). It rests on two facts: two such runs
are never under way together (`Chronicle.Orderly.not_live_of_twins`), and a run that calls is under
way (`Chronicle.Orderly.progress`). -/

namespace PodCheck

namespace Chronicle

variable {h h' : Chronicle}

/-! ## Calls and runs that are under way -/

/-- A run is under way. -/
def Live (h : Chronicle) (n : Nat) : Prop := ∃ id u, h.Rides id n u

/-- A run that called something began. -/
theorem Orderly.lt_of_mem_callers (ho : h.Orderly) {n : Nat} (hn : n ∈ h.callers) :
    n < h.runs.length := by
  obtain ⟨e, he, hcall⟩ := List.mem_filterMap.1 hn
  obtain ⟨call, -, rfl⟩ := Option.map_eq_some_iff.1 hcall
  exact ho.inRange e he

/-- The calls of a chronicle with more notes. -/
theorem callers_of_notes {l : List (Nat × Note)} (hnotes : h'.notes = h.notes ++ l) :
    h'.callers = h.callers ++ l.filterMap fun e => e.2.call?.map fun _ => e.1 := by
  rw [callers, hnotes, List.filterMap_append, callers]

/-- What an action means for the calls, and for the runs that are under way. -/
structure Progress (h h' : Chronicle) : Prop where
  /-- At most one call is added, by a run that is under way then, and was so before or is new. -/
  callers : h'.callers = h.callers
    ∨ ∃ k, h'.callers = h.callers ++ [k] ∧ h'.Live k ∧ (h.Live k ∨ k = h.runs.length)
  /-- A run that is under way then was so before, or is new. -/
  live : ∀ n, h'.Live n → h.Live n ∨ n = h.runs.length

/-- If no call is added, it is enough that no run comes under way. -/
theorem Progress.of_quiet (hcallers : h'.callers = h.callers)
    (hlive : ∀ n, h'.Live n → h.Live n) : Progress h h' where
  callers := .inl hcallers
  live n hn := .inl (hlive n hn)

/-- **An action adds at most one call**, and only of a run that is under way. -/
theorem Orderly.progress (ho : h.Orderly) (a : Action) : Progress h (h.act a) := by
  rcases account_of_act ho.tidy a with heq | hacc
  · rw [heq]
    exact .of_quiet rfl fun _ hn => hn
  generalize h.act a = h' at hacc
  cases hacc with
  | rest hstate hruns hcurrent hnotes =>
    refine .of_quiet (by rw [callers, hnotes, callers]) ?_
    rintro n ⟨id, u, hr⟩
    rw [Rides, hcurrent, hstate] at hr
    exact ⟨id, u, hr⟩
  | @refuse _ _ id c lease? _ _ hstate hruns hcurrent hnotes =>
    constructor
    · left
      rw [callers, hnotes, callers]
    · rintro n ⟨other, u, hr⟩
      rw [Rides, hcurrent, hstate] at hr
      exact .inl ⟨other, u, hr⟩
  | @begin _ _ id c lease? _ token _ _ hstate hruns hcurrent hnotes =>
    constructor
    · right
      refine ⟨h.runs.length, callers_of_notes hnotes,
        ⟨id, ⟨c.config, lease?, .settingToken token⟩, ?_, ?_⟩, .inr rfl⟩
      · rw [hcurrent, Function.update_self]
      · rw [hstate, Function.update_self]
    · rintro n ⟨other, u, hr⟩
      rcases rides_of_update hstate hcurrent hr with ⟨-, hn, -⟩ | ⟨-, hr⟩
      · exact .inr (Option.some.inj hn).symm
      · exact .inl ⟨other, u, hr⟩
  | @proceed _ id n u q answer hn hu _ hstate hruns hcurrent hnotes =>
    constructor
    · right
      refine ⟨n, callers_of_notes hnotes, ⟨id, { u with pending := q }, ?_, ?_⟩,
        .inl ⟨id, u, hn, hu⟩⟩
      · rw [hcurrent, hn]
      · rw [hstate, Function.update_self]
    · rintro m ⟨other, v, hm, hv⟩
      rw [hcurrent] at hm
      left
      by_cases hother : other = id
      · subst hother
        exact ⟨other, u, hm, hu⟩
      · rw [hstate, Function.update_of_ne hother] at hv
        exact ⟨other, v, hm, hv⟩
  | @finish _ id n u outcome hn hu hstate hruns hcurrent hnotes =>
    refine .of_quiet ((callers_of_notes hnotes).trans (List.append_nil _)) ?_
    rintro m ⟨other, v, hr⟩
    rcases rides_of_update hstate hcurrent hr with ⟨-, hm, -⟩ | ⟨-, hr⟩
    · simp at hm
    · exact ⟨other, v, hr⟩
  | @cut _ _ id n u _ hn hu hstate hruns hcurrent hnotes =>
    refine .of_quiet (by rw [callers, hnotes, callers]) ?_
    rintro m ⟨other, v, hr⟩
    rcases rides_of_update hstate hcurrent hr with ⟨-, hm, -⟩ | ⟨-, hr⟩
    · simp at hm
    · exact ⟨other, v, hr⟩

/-! ## Runs of one check -/

/-- Two different coordinated runs of one check. -/
def Twins (h : Chronicle) (n m : Nat) : Prop :=
  n ≠ m ∧ ∃ a b, h.runs[n]? = some a ∧ h.runs[m]? = some b ∧ a.coordinated = true
    ∧ b.coordinated = true ∧ a.config.ns = b.config.ns ∧ a.config.checkName = b.config.checkName

/-- Runs that stood on the account before were runs of one check before. -/
theorem Twins.of_append {n m : Nat} {l : List Run} (ht : h'.Twins n m)
    (hruns : h'.runs = h.runs ++ l) (hn : n < h.runs.length) (hm : m < h.runs.length) :
    h.Twins n m := by
  obtain ⟨hne, a, b, ha, hb, hboth⟩ := ht
  rw [hruns, List.getElem?_append_left hn] at ha
  rw [hruns, List.getElem?_append_left hm] at hb
  exact ⟨hne, a, b, ha, hb, hboth⟩

/-- Two runs of one check are not under way together. -/
theorem Orderly.not_live_of_twins (ho : h.Orderly) (hq : h.coordinator.WellQueued) {n m : Nat}
    (ht : h.Twins n m) (hn : h.Live n) : ¬ h.Live m := by
  rintro ⟨id₂, u₂, hr₂⟩
  obtain ⟨id₁, u₁, hr₁⟩ := hn
  obtain ⟨hne, a, b, ha, hb, hca, hcb, hns, hname⟩ := ht
  obtain rfl := Option.some.inj (ha.symm.trans (ho.live id₁ n u₁ hr₁).1)
  obtain rfl := Option.some.inj (hb.symm.trans (ho.live id₂ m u₂ hr₂).1)
  have hid : id₁ = id₂ := hq.eq_of_underway hr₁.2 hr₂.2 hca hcb hns hname
  have hsame : some n = some m := by rw [← hr₁.1, ← hr₂.1, hid]
  exact hne (Option.some.inj hsame)

/-- **Coordinated runs of one check do not interleave.** -/
structure Serialized (h : Chronicle) : Prop where
  /-- The account is in order. -/
  orderly : h.Orderly
  /-- The queues of the locks are in order. -/
  queued : h.coordinator.WellQueued
  /-- A run is over once another one of its check has called something after it. -/
  ended : ∀ n m, h.Twins n m → [n, m].Sublist h.callers → ¬ h.Live n
  /-- A run calls nothing after another one of its check has. -/
  apart : ∀ n m, h.Twins n m → ¬ [n, m, n].Sublist h.callers

/-- A list that ends in `x` and is a part of one that ends in `k` either is a part of the rest of
it, or both ends are the same. -/
theorem concat_sublist_concat {l m : List Nat} {x k : Nat}
    (hsub : (l ++ [x]).Sublist (m ++ [k])) : (l ++ [x]).Sublist m ∨ (x = k ∧ l.Sublist m) := by
  rw [← List.reverse_sublist, List.reverse_append, List.reverse_append] at hsub
  rcases List.cons_sublist_cons'.1 hsub with hrest | ⟨hx, hrest⟩
  · left
    rw [← List.reverse_sublist, List.reverse_append]
    exact hrest
  · right
    exact ⟨hx, List.reverse_sublist.1 hrest⟩

/-- Every action keeps coordinated runs of one check apart. -/
theorem Serialized.act (hs : h.Serialized) (a : Action) : (h.act a).Serialized := by
  have ho := hs.orderly.act a
  have hq : (h.act a).coordinator.WellQueued :=
    act_induction hs.queued fun _ _ hstep => hs.queued.step hstep
  obtain ⟨l, hruns⟩ := h.runs_act a
  obtain ⟨hcallers, hlive⟩ := hs.orderly.progress a
  generalize h.act a = h' at ho hq hruns hcallers hlive
  -- a run that called something before is no new one
  have hold : ∀ n m, h'.Twins n m → n ∈ h.callers → m ∈ h.callers → h.Twins n m := by
    intro n m ht hn hm
    exact ht.of_append hruns (hs.orderly.lt_of_mem_callers hn) (hs.orderly.lt_of_mem_callers hm)
  -- nor does a run come back once another one of its check has called something after it
  have hdead : ∀ n m, h'.Twins n m → [n, m].Sublist h.callers → ¬ h'.Live n := by
    intro n m ht hsub hn
    have hmem : n ∈ h.callers := hsub.subset (by simp)
    rcases hlive n hn with hn | rfl
    · exact hs.ended n m (hold n m ht hmem (hsub.subset (by simp))) hsub hn
    · exact Nat.lt_irrefl _ (hs.orderly.lt_of_mem_callers hmem)
  rcases hcallers with hsame | ⟨k, hmore, hk, -⟩
  · refine ⟨ho, hq, ?_, ?_⟩
    · intro n m ht hsub
      rw [hsame] at hsub
      exact hdead n m ht hsub
    · intro n m ht hsub
      rw [hsame] at hsub
      exact hs.apart n m
        (hold n m ht (hsub.subset (by simp)) (hsub.subset (by simp))) hsub
  · -- a pattern of calls that is new ends with the new call
    refine ⟨ho, hq, ?_, ?_⟩
    · intro n m ht hsub hn
      rw [hmore] at hsub
      rcases concat_sublist_concat (l := [n]) hsub with hpair | ⟨rfl, -⟩
      · exact hdead n m ht hpair hn
      · -- the run that called before would be under way together with the one that calls now
        exact ho.not_live_of_twins hq ht hn hk
    · intro n m ht hsub
      rw [hmore] at hsub
      rcases concat_sublist_concat (l := [n, m]) hsub with htriple | ⟨rfl, hpair⟩
      · exact hs.apart n m
          (hold n m ht (htriple.subset (by simp)) (htriple.subset (by simp))) htriple
      · -- the run that calls now has been over since the call in between
        exact hdead n m ht hpair hk

/-- Whatever has happened, coordinated runs of one check are kept apart. -/
theorem serialized_run (tokens : TokenSource) (epoch : Instant) (actions : List Action) :
    ((fresh tokens epoch).run actions).Serialized := by
  refine run_induction _ ?_ (fun _ a hs => hs.act a) actions
  constructor
  · exact orderly_run tokens epoch []
  · exact .of_empty rfl rfl rfl
  · rintro n m ⟨-, a, b, ha, -⟩
    simp [fresh] at ha
  · rintro n m ⟨-, a, b, ha, -⟩
    simp [fresh] at ha

/-- **Coordinated runs of one check follow each other**: between two calls of one there is no call
of another. A lock that nobody waits for and nobody holds any more, however they left it, is there
at once: whoever asks for it next begins its run before any time can pass, and calls its first
operation if its checker is ready. -/
theorem runs_of_one_check_follow (tokens : TokenSource) (epoch : Instant) (actions : List Action) :
    let h := (fresh tokens epoch).run actions
    (∀ n m, h.Twins n m → ¬ [n, m, n].Sublist h.callers)
    ∧ ∀ id c, h.coordinator.slots.get? id = some ⟨c, .idle⟩ →
        h.coordinator.Unused (lockKey c.config) →
        (∃ token?, ((h.act (.runCheck id)).act (.grant id)).runs
          = h.runs ++ [⟨id, c.config, true, token?⟩])
        ∧ (c.config.fault? = none →
            ((h.act (.runCheck id)).act (.grant id)).callers = h.callers ++ [h.runs.length])
        ∧ ∀ ms, 0 < ms → (h.act (.runCheck id)).coordinator.step (.pass ms) = none := by
  intro h
  have hs : h.Serialized := serialized_run tokens epoch actions
  refine ⟨hs.apart, ?_⟩
  intro id c hslot hunused
  obtain ⟨s₁, lease, hstep, hopens, hpass⟩ := hs.queued.opens_of_unused hslot hunused
  have hasked : (h.act (.runCheck id)).coordinator = s₁ := by rw [act_of_step hstep]
  -- to ask for the lock is no run yet
  have hruns : (h.act (.runCheck id)).runs = h.runs := by
    rw [act_of_step hstep]
    exact runs_after ..
  have hcallers : (h.act (.runCheck id)).callers = h.callers := by
    rw [act_of_step hstep]
    rfl
  rw [← hasked] at hopens hpass
  refine ⟨?_, ?_, hpass⟩
  · obtain ⟨token?, hbegun⟩ := runs_of_opens hopens
    exact ⟨token?, by rw [hbegun, hruns]; rfl⟩
  · intro hready
    rw [callers_of_opens hopens hready, hcallers, hruns]

/-- A run is dropped while it deletes a pod, another one of its check has waited for it, and the
lock is there for a third one. -/
theorem runs_of_one_check_follow_after_drop :
    let checker := Checker.plain "prod" "web" "probe"
    let h := (fresh {} (.ofNanos 0)).run
      [.place "a" checker, .place "b" checker, .runCheck "a", .runCheck "b", .grant "a",
        .answer "a" (.ok .done), .drop "a", .grant "b", .answer "b" (.ok .done),
        .answer "b" (.ok .done), .answer "b" (.ok .done)]
    h.callers = [0, 0, 1, 1, 1] ∧ h.Twins 0 1 ∧ ¬ [0, 1, 0].Sublist h.callers
    ∧ (∃ token?, ((h.act (.runCheck "b")).act (.grant "b")).runs
        = h.runs ++ [⟨"b", checker.config, true, token?⟩])
    ∧ ((h.act (.runCheck "b")).act (.grant "b")).callers = h.callers ++ [h.runs.length] := by
  intro checker h
  have hfollow := runs_of_one_check_follow {} (.ofNanos 0)
    [.place "a" checker, .place "b" checker, .runCheck "a", .runCheck "b", .grant "a",
      .answer "a" (.ok .done), .drop "a", .grant "b", .answer "b" (.ok .done),
      .answer "b" (.ok .done), .answer "b" (.ok .done)]
  have htwins : h.Twins 0 1 :=
    ⟨by decide, ⟨"a", checker.config, true, some (tokenText 1)⟩,
      ⟨"b", checker.config, true, some (tokenText 2)⟩, by decide +kernel, by decide +kernel,
      rfl, rfl, rfl, rfl⟩
  obtain ⟨hbegun, hcalls, -⟩ := hfollow.2 "b"
    { checker with token := tokenText 2, state := .submitted }
    (by decide +kernel) (by decide +kernel)
  exact ⟨by decide +kernel, htwins, hfollow.1 0 1 htwins, hbegun, hcalls (by decide +kernel)⟩

end Chronicle

end PodCheck
