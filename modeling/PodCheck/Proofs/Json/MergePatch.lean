import PodCheck.Json.Pointer

/-! # Merge patches

The server changes a stored object by a merge patch (RFC 7396): an object of the members that are to
be changed, in which `null` stands for a member that is to go. A patch for a single path puts its
value there (`Json.follow_mergePatch_nest`) and leaves the values at all other paths alone, if it
finds objects on its way (`Json.follow_mergePatch_nest_of_apart`). -/

namespace PodCheck.Json

/-- The members of an object; other values have none. -/
def members : Json → List (String × Json)
  | .object members => members
  | _ => []

/-- Members with the given one, which is put at the end, for all others with its key. -/
def put (key : String) (v : Json) (members : List (String × Json)) : List (String × Json) :=
  members.filter (·.1 ≠ key) ++ [(key, v)]

/-- The only member with the key. -/
theorem filter_put_self (key : String) (v : Json) (members : List (String × Json)) :
    (put key v members).filter (·.1 = key) = [(key, v)] := by
  rw [put, List.filter_append, List.filter_filter]
  simp

/-- The members with other keys are the same. -/
theorem filter_put_of_ne {key k : String} (h : k ≠ key) (v : Json)
    (members : List (String × Json)) :
    (put key v members).filter (·.1 = k) = members.filter (·.1 = k) := by
  rw [put, List.filter_append, List.filter_filter]
  have hothers : members.filter (fun m => decide (m.1 = k) && decide (m.1 ≠ key))
      = members.filter (·.1 = k) := by
    refine List.filter_congr fun m _ => ?_
    by_cases hm : m.1 = k
    · simp [hm, h]
    · simp [hm]
  rw [hothers, List.filter_cons_of_neg (by simpa using h.symm), List.filter_nil, List.append_nil]

/-- Changes a value by a merge patch. -/
def mergePatch (target : Json) : Json → Json
  | .object changes => .object (change target.members changes)
  | v => v
where
  /-- Changes members one after the other. -/
  change (members : List (String × Json)) : List (String × Json) → List (String × Json)
    | [] => members
    | (key, .null) :: changes => change (members.filter (·.1 ≠ key)) changes
    | (key, v) :: changes =>
      change (put key (mergePatch (((object members).member? key).getD .null) v) members) changes

example : mergePatch
    (.object [("title", .text "a"), ("author", .object [("name", .text "b"), ("age", .int 1)])])
    (.object [("title", .text "c"), ("author", .object [("age", .null)])])
      = .object [("title", .text "c"), ("author", .object [("name", .text "b")])] := by rfl

variable {target v : Json} {key : String}

/-- A value that is no object has no member. -/
theorem member?_members (target : Json) (key : String) :
    (object target.members).member? key = target.member? key := by
  cases target <;> rfl

/-- A patch of a single member. -/
theorem mergePatch_single (target : Json) (key : String) (h : v ≠ .null) :
    target.mergePatch (.object [(key, v)])
      = .object (put key (((target.member? key).getD .null).mergePatch v) target.members) := by
  rw [← member?_members]
  cases v with
  | null => exact absurd rfl h
  | _ => simp only [mergePatch, mergePatch.change]

/-- The patched member. -/
theorem member?_mergePatch_self (target : Json) (key : String) (h : v ≠ .null) :
    (target.mergePatch (.object [(key, v)])).member? key
      = some (((target.member? key).getD .null).mergePatch v) := by
  rw [mergePatch_single target key h, member?_eq_getLast?, filter_put_self]
  rfl

/-- The other members stay. -/
theorem member?_mergePatch_of_ne (target : Json) (h : v ≠ .null) {k : String} (hk : k ≠ key) :
    (target.mergePatch (.object [(key, v)])).member? k = target.member? k := by
  rw [mergePatch_single target key h, member?_eq_getLast?, filter_put_of_ne hk,
    ← member?_eq_getLast?, member?_members]

/-- A path is followed part by part. -/
theorem follow_append (v : Json) (path rest : List String) :
    v.follow (path ++ rest) = (v.follow path).bind (follow · rest) := by
  induction path generalizing v with
  | nil => rfl
  | cons k ks ih =>
    cases v with
    | object members =>
      simp only [List.cons_append, follow, Option.bind_assoc]
      exact Option.bind_congr fun child _ => ih child
    | array items =>
      simp only [List.cons_append, follow, Option.bind_assoc]
      exact Option.bind_congr fun i _ => Option.bind_congr fun child _ => ih child
    | _ => rfl

/-! ## Patches for a single path -/

/-- The patch that puts a value at a path. -/
def nest : List String → Json → Json
  | [], v => v
  | k :: ks, v => .object [(k, nest ks v)]

/-- The patch is not `null` unless the value is. -/
theorem nest_ne_null (path : List String) (h : v ≠ .null) : nest path v ≠ .null := by
  cases path with
  | nil => exact h
  | cons k ks => exact nofun

/-- **The value is where it was put.** -/
theorem follow_mergePatch_nest (target : Json) (path : List String) (h : v ≠ .null)
    (hself : ∀ t : Json, t.mergePatch v = v) :
    (target.mergePatch (nest path v)).follow path = some v := by
  induction path generalizing target with
  | nil => rw [nest, hself, follow]
  | cons k ks ih =>
    have hmember := member?_mergePatch_self target k (nest_ne_null ks h)
    rw [← ih ((target.member? k).getD .null)]
    simp only [nest, mergePatch, follow] at hmember ⊢
    rw [hmember, Option.bind_some]

/-- **Everything that lies neither on the way nor behind it stays**, if there are objects on the
way. -/
theorem follow_mergePatch_nest_of_apart {path : List String} (h : v ≠ .null)
    (hway : ∀ ps k, ps ++ [k] <+: path → ∃ ms, target.follow ps = some (.object ms))
    {other : List String} (hother : ¬ other <+: path) (hpath : ¬ path <+: other) :
    (target.mergePatch (nest path v)).follow other = target.follow other := by
  induction path generalizing target other with
  | nil => exact absurd (List.nil_prefix ..) hpath
  | cons k ks ih =>
    cases other with
    | nil => exact absurd (List.nil_prefix ..) hother
    | cons j js =>
      obtain ⟨ms, hms⟩ := hway [] k (by simp)
      obtain rfl : target = .object ms := by simpa [follow] using hms
      have hpatched : ((object ms).mergePatch (nest (k :: ks) v)).follow (j :: js)
          = (((object ms).mergePatch (nest (k :: ks) v)).member? j).bind (follow · js) := by
        simp only [nest, mergePatch, follow]
      rw [hpatched]
      by_cases hj : j = k
      · obtain rfl := hj
        rw [nest, member?_mergePatch_self _ _ (nest_ne_null ks h), Option.bind_some]
        -- the other path parts from the patch further down, where the patch goes on
        rw [List.prefix_cons_inj] at hother hpath
        cases ks with
        | nil => exact absurd (List.nil_prefix ..) hpath
        | cons k' ks' =>
          obtain ⟨child, hchild⟩ := hway [j] k' (by simp)
          have hmember : (object ms).member? j = some (.object child) := by
            simpa only [follow, Option.bind_fun_some] using hchild
          have hbelow : ∀ ps k, ps ++ [k] <+: k' :: ks' →
              ∃ ms, (object child).follow ps = some (.object ms) := by
            intro ps k hps
            obtain ⟨below, hfound⟩ := hway (j :: ps) k ((List.prefix_cons_inj j).2 hps)
            rw [follow, hmember, Option.bind_some] at hfound
            exact ⟨below, hfound⟩
          rw [hmember, Option.getD_some, ih hbelow hother hpath, follow, hmember,
            Option.bind_some]
      · rw [nest, member?_mergePatch_of_ne _ (nest_ne_null ks h) hj]
        rfl

end PodCheck.Json
