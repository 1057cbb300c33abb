import PodCheck.Proofs.Api.Wording
import PodCheck.Proofs.Json.MergePatch

/-! # The stored token

A token is stored by a merge patch of the check and read from the check. The patch names the token
by a path and the reader finds it by the fields of a check; that they mean the same member is shown
for every object that a check can be read from (`Check.ofJson?_patched`), whatever else is stored in
it, and no other member changes (`Check.follow_patched`); so what is stored is what is read
(`Api.stored_token_is_read`). -/

namespace PodCheck

/-! ## Objects with another member -/

namespace Fields

variable {ρ α β : Type} {key : String} {read : Source → Reading α} {absent short : Option α}
  {write : ρ → List (String × Json)} {members : List (String × Json)}

/-- A field is read from the member with its key. -/
theorem read_field_put (strict : Bool) (v : Json) (members : List (String × Json)) :
    (field key read absent short write).read strict (Source.ofMembers (Json.put key v members))
      = read (.json v) := by
  simp [field, Source.found_ofMembers, Json.filter_put_self]

/-- Other fields do not see the member. -/
theorem read_put_of_not_mem {fs : Fields ρ α} [fs.Local] (h : key ∉ fs.keys) (strict : Bool)
    (v : Json) (members : List (String × Json)) :
    fs.read strict (Source.ofMembers (Json.put key v members))
      = fs.read strict (Source.ofMembers members) := by
  refine Local.read_congr strict rfl fun k hk => ?_
  have hkey : k ≠ key := by
    rintro rfl
    exact h hk
  rw [Source.found_ofMembers, Source.found_ofMembers, Json.filter_put_of_ne hkey]

/-- If no key may occur twice, a field is read from the member with its key. -/
theorem read_field_of_member {v : Json} {a : α} {budget left : Nat}
    (h : (field key read absent short write).read true (Source.ofMembers members) budget
      = .ok (a, left))
    (hv : (Json.object members).member? key = some v) : read (.json v) budget = .ok (a, left) := by
  rw [Json.member?_eq_getLast?] at hv
  simp only [field, Source.found_ofMembers, List.length_map] at h
  cases hfound : members.filter (·.1 = key) with
  | nil => simp [hfound] at hv
  | cons m more =>
    cases more with
    | nil =>
      obtain rfl : m.2 = v := by simpa [hfound] using hv
      simpa [hfound] using h
    | cons m' more =>
      -- a second member with the key would have been refused
      simp [hfound, Reading.fail] at h

/-- How the fields of two parts are read. -/
theorem read_seq (f : Fields ρ (α → β)) (fs : Fields ρ α) (strict : Bool) (ms : Members) :
    (f <*> fs).read strict ms = Reading.both (f.read strict ms) (fs.read strict ms) := rfl

/-- How fields are read of which something is made. -/
theorem read_map (g : α → β) (fs : Fields ρ α) (strict : Bool) (ms : Members) :
    (g <$> fs).read strict ms = g <$> fs.read strict ms := (map_eq_pure_bind ..).symm

end Fields

/-! ## Checks with another token -/

/-- A check with another token. -/
def Check.withToken (c : Check) (token : String) : Check :=
  { c with spec := { c.spec with currentToken := token } }

open Fields in
/-- The token is one field of a configuration, and the others make of it a configuration that
differs in nothing but the token. -/
theorem CheckConfig.form_eq : ∃ others : Fields CheckConfig (String → CheckConfig),
    form = record (others <*> withDefault "currentUUID" .text "" (·.currentToken))
      ∧ others.Local ∧ "currentUUID" ∉ others.keys
      ∧ ∀ strict ms budget make left, others.read strict ms budget = .ok (make, left) →
          ∀ token other, { make token with currentToken := other } = make other := by
  refine ⟨_, rfl, inferInstance, by decide, fun strict ms budget make left h token other => ?_⟩
  simp only [read_seq, read_map, Reading.both_eq_ok, Reading.map_eq_ok] at h
  obtain ⟨make₄, _, _, h, -, rfl⟩ := h
  obtain ⟨make₃, _, _, h, -, rfl⟩ := h
  obtain ⟨make₂, _, _, h, -, rfl⟩ := h
  obtain ⟨make₁, _, _, h, -, rfl⟩ := h
  obtain ⟨_, -, rfl⟩ := h
  rfl

/-- A configuration is read with the token that is put there. -/
theorem CheckConfig.read_put {members : List (String × Json)} {c : CheckConfig}
    {budget left : Nat} (h : form.read (.json (.object members)) budget = .ok (c, left))
    (token : String) :
    ∃ left, form.read (.json (.object (Json.put "currentUUID" (.text token) members))) budget
      = .ok ({ c with currentToken := token }, left) := by
  obtain ⟨others, hform, hlocal, hkey, hmake⟩ := form_eq
  rw [hform, Fields.read_record, Fields.read_seq, Reading.both_eq_ok] at h
  obtain ⟨make, after, old, hothers, -, rfl⟩ := h
  refine ⟨after, ?_⟩
  rw [hform, Fields.read_record, Fields.read_seq, Reading.both_eq_ok]
  refine ⟨make, after, token, ?_, ?_, (hmake _ _ _ _ _ hothers old token).symm⟩
  · rw [Fields.read_put_of_not_mem hkey, hothers]
  · exact congrFun (Fields.read_field_put true (.text token) members) after

/-- The token that a configuration is read from is a text. -/
theorem CheckConfig.token_of_read {members : List (String × Json)} {c : CheckConfig} {v : Json}
    {budget left : Nat} (h : form.read (.json (.object members)) budget = .ok (c, left))
    (hv : (Json.object members).member? "currentUUID" = some v) : ∃ t, v = .text t := by
  obtain ⟨others, hform, -⟩ := form_eq
  rw [hform, Fields.read_record, Fields.read_seq, Reading.both_eq_ok] at h
  obtain ⟨make, after, old, -, htoken, -⟩ := h
  have htext : (Source.json v).text after = .ok (old, left) :=
    Fields.read_field_of_member htoken hv
  cases v with
  | text t => exact ⟨t, rfl⟩
  | _ => simp [Source.text, Source.resolve, Reading.fail] at htext

/-- What is stored after the patch. -/
theorem Api.mergePatch_tokenPatch {stored : Json} {spec : List (String × Json)}
    (h : stored.member? "spec" = some (.object spec)) (token : String) :
    stored.mergePatch (tokenPatch token)
      = .object (Json.put "spec" (.object (Json.put "currentUUID" (.text token) spec))
          stored.members) := by
  have hpatch : Json.object [("currentUUID", .text token)] ≠ .null := nofun
  have htext : Json.text token ≠ .null := nofun
  rw [tokenPatch, Json.mergePatch_single _ _ hpatch, h, Option.getD_some,
    Json.mergePatch_single _ _ htext]
  rfl

/-- Where the token of a check is stored. -/
def Check.tokenPath : List String := ["spec", "currentUUID"]

/-- The patch puts the token there. -/
theorem Api.tokenPatch_eq_nest (token : String) :
    tokenPatch token = Json.nest Check.tokenPath (.text token) := rfl

/-- The token is where the patch puts it. -/
theorem Api.follow_tokenPatch (stored : Json) (token : String) :
    (stored.mergePatch (tokenPatch token)).follow Check.tokenPath = some (.text token) := by
  rw [tokenPatch_eq_nest]
  exact Json.follow_mergePatch_nest stored Check.tokenPath nofun fun _ => rfl

/-- Values that lie apart from the token stay. -/
theorem Api.follow_tokenPatch_of_apart {stored : Json} {spec : List (String × Json)}
    (h : stored.member? "spec" = some (.object spec)) (token : String) {path : List String}
    (hpath : ¬ path <+: Check.tokenPath) (htoken : ¬ Check.tokenPath <+: path) :
    (stored.mergePatch (tokenPatch token)).follow path = stored.follow path := by
  cases stored with
  | object members =>
    have htext : Json.text token ≠ .null := nofun
    rw [tokenPatch_eq_nest]
    refine Json.follow_mergePatch_nest_of_apart htext (fun way k hway => ?_) hpath htoken
    cases way with
    | nil => exact ⟨members, rfl⟩
    | cons k' way =>
      obtain ⟨rfl, hway⟩ := List.cons_prefix_cons.1 hway
      cases way with
      | nil => exact ⟨spec, by rw [Json.follow, h, Option.bind_some, Json.follow]⟩
      | cons k'' way =>
        -- the way to the token has two keys only
        have hlength := hway.length_le
        simp [Check.tokenPath] at hlength
  | _ => simp [Json.member?] at h

namespace Check

/-- A check is read from its metadata and its configuration. -/
theorem read_of_ofJson? {members spec : List (String × Json)} {c : Check}
    (hspec : (Json.object members).member? "spec" = some (.object spec))
    (hread : ofJson? (.object members) = some c) :
    ∃ after left, (Check.mk <$> Fields.required "metadata" Metadata.form Check.metadata).read true
          (Source.ofMembers members) 0 = .ok (Check.mk c.metadata, after)
      ∧ CheckConfig.form.read (.json (.object spec)) after = .ok (c.spec, left) := by
  obtain ⟨left, hread⟩ := ofJson?_eq_some_iff.1 hread
  rw [read_form, fields, Fields.read_seq, Reading.both_eq_ok] at hread
  obtain ⟨make, after, config, hmetadata, hconfig, rfl⟩ := hread
  obtain ⟨metadata, -, rfl⟩ := Reading.map_eq_ok.1 ((Fields.read_map ..).symm ▸ hmetadata)
  exact ⟨after, left, hmetadata, Fields.read_field_of_member hconfig hspec⟩

/-- **A patched check is read with the token of the patch**, whatever else is stored in it. -/
theorem ofJson?_patched {stored : Json} {spec : List (String × Json)} {c : Check}
    (hspec : stored.member? "spec" = some (.object spec)) (hread : ofJson? stored = some c)
    (token : String) :
    ofJson? (stored.mergePatch (Api.tokenPatch token)) = some (c.withToken token) := by
  rw [Api.mergePatch_tokenPatch hspec, ofJson?_eq_some_iff]
  cases stored with
  | object members =>
    obtain ⟨after, left, hmetadata, hconfig⟩ := read_of_ofJson? hspec hread
    obtain ⟨left', hconfig'⟩ := CheckConfig.read_put hconfig token
    refine ⟨left', ?_⟩
    rw [read_form, fields, Fields.read_seq, Reading.both_eq_ok]
    -- the metadata do not see the new configuration, and the configuration is read from it
    refine ⟨Check.mk c.metadata, after, { c.spec with currentToken := token }, ?_, ?_, rfl⟩
    · rw [← hmetadata]
      exact congrFun (Fields.read_put_of_not_mem (by decide) ..) 0
    · rw [← hconfig']
      exact congrFun (Fields.read_field_put ..) after
  | _ => simp [Json.member?] at hspec

/-- There is nothing behind the token of a check. -/
theorem follow_below_token {stored : Json} {spec : List (String × Json)} {c : Check}
    (hspec : stored.member? "spec" = some (.object spec)) (hread : ofJson? stored = some c)
    (k : String) (ks : List String) : stored.follow (tokenPath ++ k :: ks) = none := by
  cases stored with
  | object members =>
    obtain ⟨after, left, -, hconfig⟩ := read_of_ofJson? hspec hread
    have htoken : (Json.object members).follow tokenPath
        = (Json.object spec).member? "currentUUID" := by
      simp only [tokenPath, Json.follow, hspec, Option.bind_some, Option.bind_fun_some]
    -- a text has nothing behind it, and nothing else is read as a token
    rw [Json.follow_append, htoken]
    cases hv : (Json.object spec).member? "currentUUID" with
    | none => rfl
    | some v =>
      obtain ⟨t, rfl⟩ := CheckConfig.token_of_read hconfig hv
      rfl
  | _ => simp [Json.member?] at hspec

/-- **The patch changes no value but those that the token is in.** -/
theorem follow_patched {stored : Json} {spec : List (String × Json)} {c : Check}
    (hspec : stored.member? "spec" = some (.object spec)) (hread : ofJson? stored = some c)
    (token : String) {path : List String} (hpath : ¬ path <+: tokenPath) :
    (stored.mergePatch (Api.tokenPatch token)).follow path = stored.follow path := by
  by_cases htoken : tokenPath <+: path
  · obtain ⟨rest, rfl⟩ := htoken
    cases rest with
    | nil => exact absurd (by simp) hpath
    | cons k ks =>
      rw [Json.follow_append, Api.follow_tokenPatch, follow_below_token hspec hread]
      rfl
  · exact Api.follow_tokenPatch_of_apart hspec token hpath htoken

/-- What is written of a check that was created on a whole second is the check. -/
theorem ofJson?_toJson {c : Check}
    (h : ∀ t, c.metadata.creationTimestamp = some t → t.nanos = 0) : ofJson? c.toJson = some c :=
  ofJson?_eq_some_iff.2 ⟨0, congrFun (keeps_form h).read_write 0⟩

/-- The text of a check is read back. -/
theorem read?_print_toJson {c : Check}
    (h : ∀ t, c.metadata.creationTimestamp = some t → t.nanos = 0) :
    Json.read? c.toJson.print = some c.toJson := Json.read?_print (keeps_form h).plain

/-- What is written of a check is patched to what is written of the check with the token. -/
theorem mergePatch_toJson (c : Check) (token : String) :
    c.toJson.mergePatch (Api.tokenPatch token) = (c.withToken token).toJson := by
  have hspec : c.toJson.member? "spec" = some (.object _) := rfl
  rw [Api.mergePatch_tokenPatch hspec]
  rfl

end Check

namespace Api

/-! ## Storing and reading -/

/-- A question mark ends the path of a target. -/
theorem takeWhile_question (path query : List Char) :
    ((path ++ '?' :: query).takeWhile (· ≠ '#')).takeWhile (· ≠ '?')
      = (path.takeWhile (· ≠ '#')).takeWhile (· ≠ '?') := by
  induction path with
  | nil => rfl
  | cons c path ih =>
    by_cases hnumber : c = '#'
    · simp [hnumber]
    · by_cases hquestion : c = '?'
      · simp [hquestion]
      · simpa [hnumber, hquestion] using ih

/-- The path of a target is what stands before a number sign and a question mark. -/
theorem Target.path_of_ofText? {s : String} {target : Target} (h : Target.ofText? s = some target) :
    target.path = String.ofList ((s.toList.takeWhile (· ≠ '#')).takeWhile (· ≠ '?')) := by
  rw [ofText?, Option.ite_none_right_eq_some] at h
  obtain ⟨-, h⟩ := h
  rw [← Option.some.inj h]

/-- A question mark and what is behind it do not change the path of a target. -/
theorem Target.path_eq_of_parameters {path : String} {parameters : List (String × String)}
    {plain query : Target} (hplain : Target.ofText? path = some plain)
    (hquery : Target.ofText? (withParameters path parameters) = some query) :
    plain.path = query.path := by
  rw [path_of_ofText? hplain, path_of_ofText? hquery, withParameters, String.toList_append,
    String.toList_append, List.append_assoc]
  exact congrArg String.ofList (takeWhile_question ..).symm

/-- A token is stored by a patch of the object that it is read from. -/
theorem patchToken?_path {ns name token : String} {put get : Request}
    (hput : patchToken? ns name token = some put) (hget : getCheck? ns name = some get) :
    get.method = "GET" ∧ get.target.path = put.target.path := by
  have htarget := (patchToken?_of_some hput).target
  rw [← withParameters_check] at htarget
  obtain ⟨path, hpath, hget⟩ := Option.bind_eq_some_iff.1 hget
  obtain ⟨-, rfl⟩ := objectPath?_eq_some_iff.1 hpath
  have hread := Request.make?_eq_some_iff.1 hget
  exact ⟨hread.method, Target.path_eq_of_parameters hread.target htarget⟩

/-- A check that is read from a reply gives its token. -/
theorem receive_getToken {ns name text : String} {v : Json} {c : Check} {status : Nat}
    (hstatus : status < 400) (htext : Json.read? text = some v) (hread : Check.ofJson? v = some c) :
    (Exchange.ofCall (.getToken ns name)).receive (.answered status text true)
      = (.over (.ok (.token (some c.spec.currentToken))), []) := by
  have hcheck : readText? Check.form text = some c := by
    rw [readText?, htext]
    exact hread
  have hreply : (Reply.answered status text true).read Check.form = .ok c := by
    rw [Reply.read, Reply.text_of_lt hstatus]
    simp only [bind, Except.bind, hcheck]
    rfl
  have houtcome : readToken (.answered status text true)
      = .ok (.token (some c.spec.currentToken)) := by
    rw [readToken, hreply]
  simp only [Exchange.ofCall, Exchange.receive, Exchange.isWatch, Exchange.hasEnded,
    Exchange.afterReply, houtcome, Bool.or_true, if_true]

/-- **The token that is stored is the token that is read, and nothing else changes.** The token is
stored by a merge patch of the object that it is read from. A check that was created on a whole
second is read back from what is written of it, and from the patched object with the token and
everything else as it was. The same is true of every object that a check can be read from, whatever
else is stored in it; all values stay in it but those that the token is in. -/
theorem stored_token_is_read (ns name token : String) :
    (∀ put, (Exchange.ofCall (.setToken ns name token)).request? = some put →
      put.method = "PATCH" ∧ put.contentType = some "application/merge-patch+json"
        ∧ put.body = some (tokenPatch token)
        ∧ ∀ get, (Exchange.ofCall (.getToken ns name)).request? = some get →
            get.method = "GET" ∧ get.target.path = put.target.path)
    ∧ (∀ c : Check, (∀ t, c.metadata.creationTimestamp = some t → t.nanos = 0) →
        Check.ofJson? c.toJson = some c ∧ Json.read? c.toJson.print = some c.toJson
        ∧ (let patched := c.toJson.mergePatch (tokenPatch token)
          Check.ofJson? patched = some (c.withToken token)
          ∧ patched = (c.withToken token).toJson
          ∧ ∀ status < 400,
              (Exchange.ofCall (.getToken ns name)).receive (.answered status patched.print true)
                = (.over (.ok (.token (some token))), [])))
    ∧ ∀ stored spec c, stored.member? "spec" = some (.object spec) →
        Check.ofJson? stored = some c →
        let patched := stored.mergePatch (tokenPatch token)
        Check.ofJson? patched = some (c.withToken token)
        ∧ patched.follow Check.tokenPath = some (.text token)
        ∧ (∀ path, ¬ path <+: Check.tokenPath → patched.follow path = stored.follow path)
        ∧ ∀ status < 400, ∀ text, Json.read? text = some patched →
            (Exchange.ofCall (.getToken ns name)).receive (.answered status text true)
              = (.over (.ok (.token (some token))), []) := by
  refine ⟨fun put hput => ?_, fun c hstamp => ?_, fun stored spec c hspec hread => ?_⟩
  · have hreads := patchToken?_of_some hput
    exact ⟨hreads.method, hreads.contentType, hreads.body,
      fun get hget => patchToken?_path hput hget⟩
  · have hstamp' : ∀ t, (c.withToken token).metadata.creationTimestamp = some t → t.nanos = 0 :=
      hstamp
    simp only [Check.mergePatch_toJson]
    exact ⟨Check.ofJson?_toJson hstamp, Check.read?_print_toJson hstamp,
      Check.ofJson?_toJson hstamp', trivial, fun status hstatus =>
        receive_getToken hstatus (Check.read?_print_toJson hstamp') (Check.ofJson?_toJson hstamp')⟩
  · have hpatched := Check.ofJson?_patched hspec hread token
    exact ⟨hpatched, follow_tokenPatch stored token,
      fun path hpath => Check.follow_patched hspec hread token hpath,
      fun status hstatus text htext => receive_getToken hstatus htext hpatched⟩

/-- A token for a check that was created in a leap second and has empty labels, and for an object
with members that no check has. -/
theorem stored_token_is_read_beside_status :
    let checkPath := "/apis/comcast.github.io/v1/namespaces/ns/kuberhealthychecks/dns"
    let stamp : Timestamp := ⟨⟨2016, 12, 31, by decide, by decide, by decide⟩, 23, 59, 60, 0,
      by decide, by decide, by decide, by decide⟩
    let c : Check :=
      { metadata := { creationTimestamp := some stamp, labels := some .empty }
        spec := { extraLabels := some .empty, currentToken := "a" } }
    let stored : Json := .object
      [("metadata", .object [("labels", .object []), ("managed", .int 1)]),
        ("spec", .object [("currentUUID", .text "a"), ("note", .array [.null])]),
        ("status", .object [("seen", .bool true)])]
    let patched : Json := .object
      [("metadata", .object [("labels", .object []), ("managed", .int 1)]),
        ("status", .object [("seen", .bool true)]),
        ("spec", .object [("note", .array [.null]), ("currentUUID", .text "b")])]
    ((getCheck? "ns" "dns").map (·.target.path) = some checkPath
      ∧ (patchToken? "ns" "dns" "b").map (·.target.path) = some checkPath)
    ∧ Check.ofJson? (c.toJson.mergePatch (tokenPatch "b")) = some (c.withToken "b")
    ∧ stored.mergePatch (tokenPatch "b") = patched
    ∧ Check.ofJson? patched
        = some { metadata := { labels := some .empty }, spec := { currentToken := "b" } }
    ∧ patched.follow ["spec", "note"] = stored.follow ["spec", "note"]
    ∧ (Exchange.ofCall (.getToken "ns" "dns")).receive (.answered 200 patched.print true)
        = (.over (.ok (.token (some "b"))), []) := by
  intro checkPath stamp c stored patched
  obtain ⟨hsent, hwritten, hstored⟩ := stored_token_is_read "ns" "dns" "b"
  have hput : (Exchange.ofCall (.setToken "ns" "dns" "b")).request?
      = some ⟨"PATCH", ⟨checkPath, some ""⟩, some "application/merge-patch+json",
          some (tokenPatch "b")⟩ := rfl
  have hget : (Exchange.ofCall (.getToken "ns" "dns")).request?
      = some ⟨"GET", ⟨checkPath, none⟩, none, none⟩ := rfl
  have hstamp : ∀ t, c.metadata.creationTimestamp = some t → t.nanos = 0 := by
    intro t ht
    rw [← Option.some.inj ht]
  have hread : Check.ofJson? stored
      = some { metadata := { labels := some .empty }, spec := { currentToken := "a" } } := rfl
  have htext : Json.read? patched.print = some patched := Json.read?_print (by simp [patched])
  obtain ⟨hpatched, -, hother, hanswer⟩ := hstored stored _ _ rfl hread
  have hpath := ((hsent _ hput).2.2.2 _ hget).2
  exact ⟨⟨rfl, congrArg some hpath.symm⟩, (hwritten c hstamp).2.2.1, rfl, hpatched,
    hother ["spec", "note"] (by decide), hanswer 200 (by decide) _ htext⟩

end Api

end PodCheck
