import Mathlib.Tactic.MkIffOfInductiveProp
import PodCheck.Proofs.Form.Carried
import PodCheck.Proofs.Manifest
import PodCheck.Proofs.Yaml.Mirror

/-! # Manifests in JSON

A manifest may be a JSON text. It is read as YAML, which is not quite the same: some JSON texts are
no YAML, and in some of them a character means something else. For texts without the line breaks of
YAML that are none in JSON it can be told exactly which ones are read alike (`Portable`): those are
read as the same check, and all other ones are refused (`readCheck_json`). -/

namespace PodCheck.Manifest

/-- What a JSON text must be like to be read as YAML, too, given what it stands for. -/
@[mk_iff portable_def]
structure Portable (s : String) (v : Json) : Prop where
  /-- All characters are allowed in YAML. -/
  isAllowed : ∀ c ∈ s.toList, Yaml.isAllowed c = true
  /-- No text names half of a surrogate pair by its number, not even next to the other half, and
  every key is in one line with its colon, at most 1024 bytes before it. -/
  isShared : ∀ q ∈ Json.quotations s, q.isShared = true
  /-- There is no tab before the document. -/
  before : '\t' ∉ s.toList.takeWhile Json.isSpace
  /-- Behind the document there is no tab in a line of its own. -/
  behind : '\t' ∉ (s.toList.rtakeWhile Json.isSpace).dropWhile fun c => !Json.isLineBreak c
  /-- The check and its configuration are objects and not rows of values. -/
  spec : ∃ members, v.member? "spec" = some (.object members)

/-- It can be computed whether a text is portable. -/
instance (s : String) (v : Json) : Decidable (Portable s v) :=
  have : Decidable (∃ members, v.member? "spec" = some (.object members)) :=
    match v.member? "spec" with
    | some (.object members) => isTrue ⟨members, rfl⟩
    | none | some .null | some .unreadable | some (.bool _) | some (.int _) | some (.real _)
    | some (.text _) | some (.array _) => isFalse (by simp)
  -- by its name, for another instance goes through all characters there are
  have : Decidable (∀ c ∈ s.toList, Yaml.isAllowed c = true) := List.decidableBAll _ _
  decidable_of_iff' _ (portable_def s v)

/-! ## Parts of the text -/

theorem isNested_of_ofJson? {t : Json.Script} {check : Check}
    (h : Check.ofJson? t.value = some check) : t.isNested = true := by
  cases t with
  | word _ _ hword =>
    cases hword <;> cases h
  | text inner units hspelled =>
    rw [Json.Script.value] at h
    cases htext : Json.textOf? units <;> rw [htext] at h <;> cases h
  | emptyArray | array | emptyObject | object => rfl

/-- Items end with the bracket of their list. -/
theorem exists_concat_items : ∀ items : Json.ItemScript, ∃ r, items.chars = r ++ [']']
  | .last v gap => ⟨v.chars ++ gap.chars, by simp [Json.ItemScript.chars]⟩
  | .more v gap gap' items => by
    obtain ⟨r, hr⟩ := exists_concat_items items
    exact ⟨v.chars ++ (gap.chars ++ ',' :: (gap'.chars ++ r)), by simp [Json.ItemScript.chars, hr]⟩

/-- Members end with the brace of their object. -/
theorem exists_concat_members : ∀ members : Json.MemberScript, ∃ r, members.chars = r ++ ['\x7d']
  | .last key v gap => ⟨key.chars ++ (v.chars ++ gap.chars), by simp [Json.MemberScript.chars]⟩
  | .more key v gap gap' members => by
    obtain ⟨r, hr⟩ := exists_concat_members members
    exact ⟨key.chars ++ (v.chars ++ (gap.chars ++ ',' :: (gap'.chars ++ r))),
      by simp [Json.MemberScript.chars, hr]⟩

/-- A list or an object ends with its bracket or brace. -/
theorem exists_concat_of_isNested {t : Json.Script} (h : t.isNested = true) :
    ∃ r c, t.chars = r ++ [c] ∧ Json.isSpace c = false := by
  cases t with
  | word | text => cases h
  | emptyArray gap => exact ⟨'[' :: gap.chars, ']', by simp [Json.Script.chars], rfl⟩
  | emptyObject gap => exact ⟨'\x7b' :: gap.chars, '\x7d', by simp [Json.Script.chars], rfl⟩
  | array gap items =>
    obtain ⟨r, hr⟩ := exists_concat_items items
    exact ⟨'[' :: (gap.chars ++ r), ']', by simp [Json.Script.chars, hr], rfl⟩
  | object gap members =>
    obtain ⟨r, hr⟩ := exists_concat_members members
    exact ⟨'\x7b' :: (gap.chars ++ r), '\x7d', by simp [Json.Script.chars, hr], rfl⟩

section

variable {s : String} {before after : Json.Blanks} {t : Json.Script}

/-- What stands before and behind a list or an object is blanks. -/
theorem takeWhile_isSpace (hs : s.toList = before.chars ++ (t.chars ++ after.chars))
    (hnested : t.isNested = true) :
    s.toList.takeWhile Json.isSpace = before.chars
      ∧ s.toList.rtakeWhile Json.isSpace = after.chars := by
  obtain ⟨c, r, hfront, hc⟩ := Yaml.Lexer.exists_cons_of_isNested hnested
  obtain ⟨r', c', hback, hc'⟩ := exists_concat_of_isNested hnested
  constructor
  · rw [hs, hfront]
    exact Json.takeWhile_blanks before hc _
  · have hreverse : s.toList.reverse
        = after.chars.reverse ++ c' :: (r'.reverse ++ before.chars.reverse) := by
      rw [hs, hback]
      simp
    have hspace : ∀ d ∈ after.chars.reverse, Json.isSpace d = true := fun d hd =>
      after.isSpace d (List.mem_reverse.1 hd)
    rw [List.rtakeWhile, hreverse, List.takeWhile_append_of_pos hspace,
      List.takeWhile_cons_of_neg (by simp [hc']), List.append_nil, List.reverse_reverse]

/-- The texts of a document are those of its script. -/
theorem areShared_iff (hs : s.toList = before.chars ++ (t.chars ++ after.chars)) :
    (∀ q ∈ Json.quotations s, q.isShared = true) ↔ t.Unpaired ∧ t.Near := by
  have hafter : (Json.skipSpace after.chars).head? ≠ some ':' := by
    have h := Json.skipSpace_blanks after []
    rw [List.append_nil] at h
    rw [h]
    simp [Json.skipSpace]
  have hnone : Json.AreShared after.chars := by
    have h := (Json.areShared_append after.quote_notMem []).2
      (by simp [Json.AreShared, Json.quotationsFrom])
    rwa [List.append_nil] at h
  have h := (Json.areShared_append before.quote_notMem _).trans (Json.areShared_script t hafter)
  rw [← hs] at h
  exact h.trans (and_iff_left hnone)

/-- A text is portable if it is a document of YAML and its parts are objects. -/
theorem portable_iff (hs : s.toList = before.chars ++ (t.chars ++ after.chars))
    (hnested : t.isNested = true) :
    Portable s t.value ↔ Yaml.Document.IsShared before t after
      ∧ ∃ members, t.value.member? "spec" = some (.object members) := by
  obtain ⟨hbefore, hafter⟩ := takeWhile_isSpace hs hnested
  have hshared := areShared_iff hs
  constructor
  · rintro ⟨h₁, h₂, h₃, h₄, h₅⟩
    obtain ⟨hunpaired, hnear⟩ := hshared.1 h₂
    exact ⟨⟨hs ▸ h₁, hbefore ▸ h₃, hafter ▸ h₄, hunpaired, hnear⟩, h₅⟩
  · rintro ⟨⟨h₁, h₃, h₄, hunpaired, hnear⟩, h₅⟩
    exact ⟨hs ▸ h₁, hshared.2 ⟨hunpaired, hnear⟩, hbefore ▸ h₃, hafter ▸ h₄, h₅⟩

end

/-! ## Reading as YAML -/

section

variable {s : String} {v : Json} {check : Check}

/-- **A JSON text is read as YAML just if it is portable**, and then as the same check. -/
theorem read?_json (hread : Json.read? s = some v) (hcheck : Check.ofJson? v = some check)
    (hnative : ∀ c ∈ s.toList, Yaml.isForeignBreak c = false) :
    (Portable s v → read? Check.form s.toUTF8 = some check)
      ∧ (¬ Portable s v → read? Check.form s.toUTF8 = none) := by
  obtain ⟨before, after, t, hs, rfl⟩ := Json.exists_script_of_read? hread
  have hnested := isNested_of_ofJson? hcheck
  have hnativeScript : Yaml.Lexer.IsNative t.chars := fun c hc => hnative c (by simp [hs, hc])
  obtain ⟨_, hjson⟩ := Check.ofJson?_eq_some_iff.1 hcheck
  rw [portable_iff hs hnested, read?_toUTF8, readText?]
  by_cases hshared : Yaml.Document.IsShared before t after
  · have hdocument := Yaml.Document.read?_of_isShared hs hnested hnativeScript hshared
    have hmirrors : (Source.json t.value).Mirrors (.yaml [] t.node) :=
      .intro (Yaml.mirrors_script t hshared.unpaired)
    rw [hdocument]
    constructor
    · rintro ⟨-, hspec⟩
      obtain ⟨-, _, hyaml, rfl⟩ := Check.refines_form hmirrors hspec _ _ _ hjson
      simp only [Option.bind_eq_bind, Option.bind_some, hyaml]
      rfl
    · intro hnot
      cases hyaml : Check.form.read (.yaml [] t.node) (aliasesPerNode * t.size) with
      | error e => simp [StateT.run, hyaml, Except.toOption]
      | ok r => exact absurd ⟨hshared, Check.exists_spec_of_read hmirrors hjson hyaml⟩ hnot
  · rw [Yaml.Document.read?_of_not_isShared hs hnested hnativeScript hshared]
    exact ⟨fun h => absurd h.1 hshared, fun _ => rfl⟩

/-- **A check in JSON that can be launched is accepted just if its text is portable**, and then as
it is; any other text is no manifest. -/
theorem readCheck_json (hread : Json.read? s = some v) (hcheck : Check.ofJson? v = some check)
    (hlaunchable : check.spec.podSpec.Launchable)
    (hnative : ∀ c ∈ s.toList, Yaml.isForeignBreak c = false) :
    (readCheck s.toUTF8 = .ok check ↔ Portable s v)
      ∧ (¬ Portable s v →
        readCheck s.toUTF8 = .error (.malformedSpec "invalid check manifest")) := by
  obtain ⟨hportable, hnot⟩ := read?_json hread hcheck hnative
  have herror : ¬ Portable s v →
      readCheck s.toUTF8 = .error (.malformedSpec "invalid check manifest") := fun h => by
    rw [readCheck, hnot h]
  refine ⟨⟨fun haccepted => ?_, fun h => ?_⟩, herror⟩
  · by_contra h
    rw [herror h] at haccepted
    cases haccepted
  · rw [readCheck_of_read? (hportable h)]
    exact map_validate_eq_ok_iff.2 ⟨hlaunchable, rfl⟩

end

/-- A check with a number, `null`, line breaks and a tab between its parts, and a text that names a
character by its number, is read alike. -/
theorem readCheck_json_of_manifest :
    let manifest := "\x7b\"metadata\":\x7b\"name\":\"web\",\"generation\":3\x7d,\n"
      ++ "\"spec\":\x7b\"timeout\":null,\"podSpec\":\x7b\"containers\":[\n"
      ++ "\t\x7b\"name\":\"main\",\"image\":\"probe\",\"args\":[\"\\u00e9\\n\"]\x7d]\x7d\x7d\x7d"
    let check : Check :=
      { metadata := { name := some "web", generation := some 3 }
        spec :=
          { podSpec :=
              { containers :=
                  [{ name := "main", image := some "probe", args := some ["é\n"] }] } } }
    readCheck manifest.toUTF8 = .ok check := by
  intro manifest check
  obtain ⟨v, hread, hcheck, hportable, hnative⟩ :
      ∃ v ∈ Json.read? manifest, Check.ofJson? v = some check ∧ Portable manifest v
        ∧ manifest.toList.all (!Yaml.isForeignBreak ·) = true := by
    decide +kernel
  have hlaunchable : check.spec.podSpec.Launchable :=
    ⟨List.cons_ne_nil _ _, by simp [check, Container.Startable]⟩
  exact (readCheck_json hread hcheck hlaunchable (by simpa using hnative)).1.2 hportable

/-- A symbol whose text names it by a pair of numbers is read from JSON, but the manifest is
refused. -/
theorem refuses_surrogatePair :
    let manifest := "\x7b\"metadata\":\x7b\"name\":\"web\"\x7d,\"spec\":\x7b\"podSpec\":\x7b"
      ++ "\"containers\":[\x7b\"name\":\"main\",\"image\":\"probe\","
      ++ "\"args\":[\"\\ud83d\\ude00\"]\x7d]\x7d\x7d\x7d"
    let check : Check :=
      { metadata := { name := some "web" }
        spec :=
          { podSpec :=
              { containers := [{ name := "main", image := some "probe", args := some ["😀"] }] } } }
    (Json.read? manifest).bind Check.ofJson? = some check
    ∧ check.spec.podSpec.Launchable
    ∧ readCheck manifest.toUTF8 = .error (.malformedSpec "invalid check manifest") := by
  intro manifest check
  obtain ⟨hread, hnone⟩ : (Json.read? manifest).bind Check.ofJson? = some check
      ∧ readText? Check.form manifest = none := by decide +kernel
  have hlaunchable : check.spec.podSpec.Launchable :=
    ⟨List.cons_ne_nil _ _, by simp [check, Container.Startable]⟩
  have hrefused : read? Check.form manifest.toUTF8 = none := by rw [read?_toUTF8, hnone]
  exact ⟨hread, hlaunchable, by rw [readCheck, hrefused]⟩

/-- A line break of YAML that is none in JSON is read as a blank, and another check comes out. -/
example :
    let manifest := "\x7b\"metadata\":\x7b\"name\":\"a\x85b\"\x7d,\"spec\":\x7b\x7d\x7d"
    (Json.read? manifest).bind Check.ofJson? = some { metadata := { name := some "a\x85b" } }
    ∧ readText? Check.form manifest = some { metadata := { name := some "a b" } } := by
  decide +kernel

end PodCheck.Manifest
