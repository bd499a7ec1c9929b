import DeploymentRecipes.Proofs.Recommendation.References
import DeploymentRecipes.Proofs.Recommendation.Validated
import DeploymentRecipes.Proofs.Value.Digits

/-!
# Acceptance

A set asks the validators of a setting one after the other, and hands the values of a mapping down to
the children.  It is refused by the first validator that does not find its value valid.  In a strict
catalog every validator can be built, but some get stuck on values, and then a set is neither accepted
nor refused.
-/

namespace DeploymentRecipes

/-! ### Validators that are stuck -/

namespace Validator

variable {place : Place} {value : Value}

/-- The text that a validator sees of a value. -/
def textOf (value : Value) : String := if value.isNull then "" else value.text?.getD ""

theorem asText_eq (h : value.IntegersFit) :
  asText value = .ok (textOf value)
  := by
  obtain ⟨s, hs⟩ := Value.exists_text h
  cases value with
  | null => rfl
  | _ => simp [asText, textOf, hs, Value.isNull]

/-- The code points that a validator sees of a value. -/
def codesOf (value : Value) : List Nat := value.codes?.getD (Text.codes (textOf value))

theorem asCodes_eq (h : value.IntegersFit) :
  asCodes value = .ok (codesOf value)
  := by
  rw [asCodes, codesOf, asText_eq h]
  cases value.codes? <;> rfl

/-- The owner of a path can be looked up if its name has bytes and no null character. -/
theorem ownerFault?_eq_none_iff {path : List Nat} :
  ownerFault? path = none ↔ ∀ code ∈ ownerOf path, isByteless code = false ∧ code ≠ 0
  := by
  rw [ownerFault?]
  generalize ownerOf path = name
  cases hrest : name.dropWhile (!isByteless ·) with
  | nil =>
      rw [List.dropWhile_eq_nil_iff] at hrest
      have hbytes : ∀ code ∈ name, isByteless code = false := by simpa using hrest
      simp only [ite_eq_right_iff, reduceCtorEq, imp_false, List.contains_iff_mem]
      constructor
      · rintro hnull code hcode
        refine ⟨hbytes code hcode, ?_⟩
        rintro rfl
        exact hnull hcode
      · intro h hnull
        exact (h 0 hnull).2 rfl
  | cons code rest =>
      have hmem : code ∈ name := (List.dropWhile_sublist _).subset (hrest ▸ List.mem_cons_self)
      have hbyteless : (!isByteless code) = false := by
        have hhead := List.head?_dropWhile_not (!isByteless ·) name
        rwa [hrest] at hhead
      simp only [reduceCtorEq, false_iff]
      intro h
      rw [(h code hmem).1] at hbyteless
      cases hbyteless

/-- Whether the bounds of a check have no texts. -/
def boundsTooLong (lo hi : Int) : Bool :=
  (Numeral.showInt? lo).isNone || (Numeral.showInt? hi).isNone

/-- What keeps a validator from a verdict on a value: a pattern that is refused where it is read, bounds
that cannot be shown, the owner of a directory that cannot be looked up, or that the class is not made
for values. -/
def stuckOn? (place : Place) (value : Value) (v : Validator) : Option CheckError :=
  match v with
  | .settingBase _ => some .unimplemented
  | .range _ lo hi _ => if boundsTooLong lo hi then some .noText else none
  | .regex _ pattern allowEmpty =>
    if allowEmpty && (codesOf value).isEmpty then none
    else match place.tools.pattern pattern with
      | .ok _ => none
      | .error fault => some (.pattern fault)
  | .stringLength _ lo hi =>
    if !inRange lo hi (some (textOf value).length) && boundsTooLong lo hi then some .noText else none
  | .directoryExists _ => ownerFault? (strippedCodes (codesOf value))
  | .required _ | .blockedArgs _ | .dockerBuildArgs _ | .dotnetPublishArgs _ => none
  | .recipeBase _ | .minMax _ _ _ | .fargateTaskSize _ _ _ _ =>
    some (.wrongScope v.kind.name "validate_value")

theorem boundTexts_cases (lo hi : Int) :
  (boundsTooLong lo hi = true ∧ boundTexts lo hi = .error .noText)
    ∨ (boundsTooLong lo hi = false ∧ ∃ texts, boundTexts lo hi = .ok texts)
  := by
  rw [boundsTooLong, boundTexts, boundText, boundText]
  cases Numeral.showInt? lo with
  | none => exact Or.inl ⟨rfl, rfl⟩
  | some a =>
      cases Numeral.showInt? hi with
      | none => exact Or.inl ⟨rfl, rfl⟩
      | some b => exact Or.inr ⟨rfl, _, rfl⟩

/-- A validator gives a verdict unless it is stuck on the value. -/
theorem checkValue_cases (v : Validator) (place : Place) (h : value.IntegersFit) :
  (∃ cause, v.stuckOn? place value = some cause ∧ v.checkValue place value = .error cause)
    ∨ (v.stuckOn? place value = none ∧ ∃ verdict, v.checkValue place value = .ok verdict)
  := by
  cases v with
  | settingBase _ | recipeBase _ | minMax _ _ _ | fargateTaskSize _ _ _ _ =>
      exact Or.inl ⟨_, rfl, rfl⟩
  | required _ | blockedArgs _ | dockerBuildArgs _ | dotnetPublishArgs _ =>
      simp only [checkValue, asText_eq h, bind, Except.bind]
      exact Or.inr ⟨rfl, _, rfl⟩
  | range message lo hi allowEmpty =>
      simp only [checkValue, asText_eq h, bind, Except.bind, stuckOn?]
      rcases boundTexts_cases lo hi with ⟨hlong, htexts⟩ | ⟨hshort, texts, htexts⟩
      · rw [hlong, htexts]
        exact Or.inl ⟨_, rfl, rfl⟩
      · rw [hshort, htexts]
        exact Or.inr ⟨rfl, _, rfl⟩
  | regex message pattern allowEmpty =>
      simp only [checkValue, asCodes_eq h, bind, Except.bind, stuckOn?, patternOccurs]
      cases allowEmpty && (codesOf value).isEmpty with
      | true => exact Or.inr ⟨rfl, _, rfl⟩
      | false =>
          cases place.tools.pattern pattern with
          | ok p => exact Or.inr ⟨rfl, _, rfl⟩
          | error fault => exact Or.inl ⟨_, rfl, rfl⟩
  | stringLength message lo hi =>
      simp only [checkValue, asText_eq h, bind, Except.bind, stuckOn?]
      cases inRange lo hi (some (textOf value).length) with
      | true => exact Or.inr ⟨rfl, _, rfl⟩
      | false =>
          rcases boundTexts_cases lo hi with ⟨hlong, htexts⟩ | ⟨hshort, texts, htexts⟩
          · rw [hlong, htexts]
            exact Or.inl ⟨_, rfl, rfl⟩
          · rw [hshort, htexts]
            exact Or.inr ⟨rfl, _, rfl⟩
  | directoryExists message =>
      simp only [checkValue, asCodes_eq h, bind, Except.bind, stuckOn?]
      cases ownerFault? (strippedCodes (codesOf value)) with
      | some fault => exact Or.inl ⟨_, rfl, rfl⟩
      | none => exact Or.inr ⟨rfl, _, rfl⟩

end Validator

/-! ### Questions -/

namespace Setting

variable {place : Place} {registry : Registry SettingCheck}

/-- What a set asks about a value: whether the value for an object is a mapping, which it only asks if
it is not, and whether a validator of the setting with the given id finds its value valid. -/
inductive Question where
  | mapping (id : String)
  | verdict (id : String) (v : Validator) (value : Value)

namespace Question

/-- The objection to the value, if there is one. -/
def objection? (place : Place) : Question → Option SetError
  | .mapping id => some (.refused id mappingExpected)
  | .verdict id v value =>
    match v.checkValue place value with
    | .ok .valid => none
    | .ok (.failed message) => some (.refused id message)
    | .error cause => some (.check cause)

/-- What keeps a question from an answer. -/
def stuck? (place : Place) : Question → Option CheckError
  | .mapping _ => none
  | .verdict _ v value => v.stuckOn? place value

/-- The value has a text. -/
def Fits : Question → Prop
  | .mapping _ => True
  | .verdict _ _ value => value.IntegersFit

/-- An objection is no refusal just when its question gets stuck. -/
theorem objection?_eq_check_iff {q : Question} (h : q.Fits) (cause : CheckError) :
  q.objection? place = some (.check cause) ↔ q.stuck? place = some cause
  := by
  cases q with
  | mapping id => simp [objection?, stuck?]
  | verdict id v value =>
      rw [objection?, stuck?]
      rcases v.checkValue_cases place h with ⟨e, hstuck, hcheck⟩ | ⟨hstuck, verdict, hcheck⟩
      · simp [hstuck, hcheck]
      · cases verdict <;> simp [hstuck, hcheck]

/-- No question finds fault with how a validator is built. -/
theorem objection?_ne_build (q : Question) (e : BuildError) :
  q.objection? place ≠ some (.build e)
  := by
  cases q with
  | mapping id => simp [objection?]
  | verdict id v value =>
      rw [objection?]
      split <;> simp

end Question

mutual

/-- What a set of a setting asks, in order, if it has no objection. -/
def questions (registry : Registry SettingCheck) (value : Value) : Setting → List Question
  | .node d _ cs =>
    if d.type = .object then
      match value with
      | .null => []
      | .map entries => questionsAll registry entries cs
      | _ => [.mapping d.id]
    else match (registry.buildAll d.validators).value with
      | .ok vs => vs.map fun v => .verdict d.id v value
      | .error _ => []

def questionsAll (registry : Registry SettingCheck) (entries : List (Value × Value)) :
    List Setting → List Question
  | [] => []
  | s :: ss =>
    (match Value.field? entries s.id with
      | some value => questions registry value s
      | none => []) ++ questionsAll registry entries ss

end

/-- The validators of a setting are asked one after the other. -/
theorem value_checkAll (id : String) (value : Value) (vs : List Validator) :
  (checkAll place id value vs).value =
    ((vs.map fun v => Question.verdict id v value).findSome? (·.objection? place)).elim (.ok ()) .error
  := by
  induction vs with
  | nil => rfl
  | cons v vs ih =>
      rw [checkAll, List.map_cons, List.findSome?_cons, Question.objection?]
      cases v.checkValue place value with
      | error cause => rfl
      | ok verdict =>
          cases verdict with
          | valid => exact ih
          | failed message => rfl

/-- The failure of a set, once it is known how those of the children fail. -/
theorem failure_setValue_of_children {s : Setting} (value : Value)
    (hbuild : registry.BuildsAll s.declaration.validators)
    (h : ∀ entries, (setChildren (judge place registry) entries s.children).failure
      = (questionsAll registry entries s.children).findSome? (·.objection? place)) :
  (setValue (judge place registry) value s).failure
    = (questions registry value s).findSome? (·.objection? place)
  := by
  obtain ⟨d, v, cs⟩ := s
  by_cases hobject : d.type = .object
  · cases value with
    | map entries =>
        simp only [setValue, questions, if_pos hobject]
        exact h entries
    | _ =>
        simp only [setValue, questions, if_pos hobject]
        rfl
  · obtain ⟨vs, hvs⟩ := Registry.buildAll_eq_ok_iff.mpr hbuild
    have hjudge : (judge place registry d value).value = (checkAll place d.id value vs).value := by
      rw [declaration] at hvs
      simp only [judge, hvs]
    rw [declaration] at hvs
    rw [setValue.eq_def, questions.eq_def]
    simp only [if_neg hobject, hvs, hjudge, value_checkAll]
    cases (vs.map fun v => Question.verdict d.id v value).findSome? (·.objection? place) <;> rfl

/-- Where all validators can be built, a set by a mapping fails with the first objection. -/
theorem failure_setChildren {ss : List Setting}
    (hbuild : ∀ s ∈ walkAll ss, registry.BuildsAll s.declaration.validators)
    (entries : List (Value × Value)) :
  (setChildren (judge place registry) entries ss).failure
    = (questionsAll registry entries ss).findSome? (·.objection? place)
  := by
  induction ss using forestInd generalizing entries with
  | nil => rfl
  | cons s ss ihchildren ihrest =>
      obtain ⟨hs, hchildren, hrest⟩ := forall_mem_walkAll_cons.mp hbuild
      rw [setChildren, questionsAll, List.findSome?_append, ← ihrest hrest]
      cases Value.field? entries s.id with
      | none => rfl
      | some value =>
          have hfirst := failure_setValue_of_children value hs (ihchildren hchildren)
          simp only [← hfirst]
          cases (setValue (judge place registry) value s).failure <;> rfl

/-- Where all validators can be built, a set fails with the first objection. -/
theorem failure_setValue {s : Setting} (hs : registry.BuildsAll s.declaration.validators)
    (hbelow : ∀ t ∈ walkAll s.children, registry.BuildsAll t.declaration.validators)
    (value : Value) :
  (setValue (judge place registry) value s).failure
    = (questions registry value s).findSome? (·.objection? place)
  := failure_setValue_of_children value hs (failure_setChildren hbelow)

/-- The questions about a value that has a text, once it is known of those about the children. -/
theorem fits_questions_of_children {s : Setting} {value : Value} (hvalue : value.IntegersFit)
    (h : ∀ entries, Value.EntriesFit entries →
      ∀ q ∈ questionsAll registry entries s.children, q.Fits) :
  ∀ q ∈ questions registry value s, q.Fits
  := by
  obtain ⟨d, v, cs⟩ := s
  intro q hq
  by_cases hobject : d.type = .object
  · cases value with
    | null => simp [questions, hobject] at hq
    | map entries =>
        simp only [questions, if_pos hobject] at hq
        exact h entries hvalue q hq
    | _ =>
        simp only [questions, if_pos hobject, List.mem_singleton] at hq
        rw [hq]
        trivial
  · rw [questions.eq_def] at hq
    simp only [if_neg hobject] at hq
    split at hq
    · obtain ⟨w, -, rfl⟩ := List.mem_map.mp hq
      exact hvalue
    · cases hq

theorem fits_questionsAll (ss : List Setting) {entries : List (Value × Value)}
    (h : Value.EntriesFit entries) :
  ∀ q ∈ questionsAll registry entries ss, q.Fits
  := by
  induction ss using forestInd generalizing entries with
  | nil => simp [questionsAll]
  | cons s ss ihchildren ihrest =>
      rw [questionsAll]
      intro q hq
      rcases List.mem_append.mp hq with hfirst | hrest
      · cases hfield : Value.field? entries s.id with
        | none =>
            rw [hfield] at hfirst
            cases hfirst
        | some value =>
            rw [hfield] at hfirst
            apply fits_questions_of_children _ _ q hfirst
            · apply Value.integersFit_of_field? h hfield
            · intro entries hentries
              apply ihchildren hentries
      · apply ihrest h q hrest

/-- A set asks about values that have a text, if the value has one. -/
theorem fits_questions (s : Setting) {value : Value} (h : value.IntegersFit) :
  ∀ q ∈ questions registry value s, q.Fits
  := fits_questions_of_children h fun _ hentries => fits_questionsAll s.children hentries

/-- Where all validators can be built, a set never fails for one that cannot. -/
theorem failure_setValue_ne_build {s : Setting}
    (hs : registry.BuildsAll s.declaration.validators)
    (hbelow : ∀ t ∈ walkAll s.children, registry.BuildsAll t.declaration.validators)
    (value : Value) (e : BuildError) :
  (setValue (judge place registry) value s).failure ≠ some (.build e)
  := by
  rw [failure_setValue hs hbelow]
  intro he
  obtain ⟨q, -, hq⟩ := List.exists_of_findSome?_eq_some he
  apply q.objection?_ne_build e hq

/-- Where all validators can be built, a set fails for want of a verdict just when the first question
with an objection gets stuck. -/
theorem failure_setValue_eq_check_iff {s : Setting}
    (hs : registry.BuildsAll s.declaration.validators)
    (hbelow : ∀ t ∈ walkAll s.children, registry.BuildsAll t.declaration.validators)
    {value : Value} (hvalue : value.IntegersFit) (cause : CheckError) :
  (setValue (judge place registry) value s).failure = some (.check cause)
    ↔ ∃ before q after, questions registry value s = before ++ q :: after
      ∧ (∀ p ∈ before, p.objection? place = none) ∧ q.stuck? place = some cause
  := by
  rw [failure_setValue hs hbelow, List.findSome?_eq_some_iff]
  constructor
  · rintro ⟨before, q, after, hsplit, hq, hbefore⟩
    have hmem : q ∈ questions registry value s := by simp [hsplit]
    have hfits := fits_questions s hvalue q hmem
    exact ⟨before, q, after, hsplit, hbefore, (Question.objection?_eq_check_iff hfits cause).mp hq⟩
  · rintro ⟨before, q, after, hsplit, hbefore, hq⟩
    have hmem : q ∈ questions registry value s := by simp [hsplit]
    have hfits := fits_questions s hvalue q hmem
    exact ⟨before, q, after, hsplit, (Question.objection?_eq_check_iff hfits cause).mpr hq, hbefore⟩

end Setting

/-! ### Sets in published recipes -/

namespace Recommendation

open Setting

variable {recipe : Recipe} {r : Recommendation}

/-- In every state the validators of a setting are those in the recipe. -/
theorem IsStateOf.buildsAll {registry : Registry SettingCheck} (hr : IsStateOf recipe [] r)
    (h : ∀ s ∈ walkAll recipe.settings, registry.BuildsAll s.declaration.validators) :
  ∀ s ∈ walkAll r.items, registry.BuildsAll s.declaration.validators
  := by
  intro s hs
  have hclear := hr.clearAll_items
  rw [List.append_nil] at hclear
  obtain ⟨t, ht, heq⟩ := exists_clear_eq hclear hs
  rw [← declaration_eq_of_clear_eq heq]
  apply h t ht

/-- How a set can fail in a recipe of a strict catalog, in every state of a recommendation without a
bundle. No validator goes wrong while it is built. The set is neither accepted nor refused just when a
validator gets stuck on the value that it is asked about, after all questions before were answered
without objection. -/
theorem failure_of_published {registries : Registries} {place there : Place}
    {request : CatalogRequest} {config : Config} {steps : List Catalog.Step}
    (h : recipe ∈ ((Catalog.Session.ofRequest place request config).run registries
      steps).catalog.recipes)
    (hstrict : (request.options place.cwdPath config).strict = true)
    (hr : IsStateOf recipe [] r) {path : Option String} {spot : Spot} {s : Setting}
    (hlocate : r.locate path = .ok (spot, s)) {value : Value} (hvalue : value.IntegersFit) :
  (∀ e, (r.set (judgeFor there registries.settings true) spot s value).failure ≠ some (.build e))
    ∧ (∀ cause,
      (r.set (judgeFor there registries.settings true) spot s value).failure = some (.check cause)
        ↔ ∃ before q after, questions registries.settings value s = before ++ q :: after
          ∧ (∀ p ∈ before, p.objection? there = none) ∧ q.stuck? there = some cause)
    ∧ ((∀ q ∈ questions registries.settings value s, q.stuck? there = none) →
      (r.set (judgeFor there registries.settings true) spot s value).failure = none
        ∨ ∃ id message, (r.set (judgeFor there registries.settings true) spot s value).failure =
          some (.refused id message))
  := by
  have hbuild := hr.buildsAll (Catalog.Session.workable_of_mem_recipes h hstrict).settings
  have hs : s ∈ walkAll r.items := mem_walkAll_of_at? (at?_of_locate_ok hlocate)
  have hbelow : ∀ t ∈ walkAll s.children, registries.settings.BuildsAll t.declaration.validators :=
    fun t ht => hbuild t (walkAll_children_subset hs ht)
  have hset : (r.set (judgeFor there registries.settings true) spot s value).failure =
      (setValue (judge there registries.settings) value s).failure := by
    rw [set, judgeFor, if_pos rfl]
  rw [hset]
  refine ⟨failure_setValue_ne_build (hbuild s hs) hbelow value,
    failure_setValue_eq_check_iff (hbuild s hs) hbelow hvalue, ?_⟩
  intro hnone
  cases hend : (setValue (judge there registries.settings) value s).failure with
  | none => exact Or.inl rfl
  | some e =>
      cases e with
      | refused id message => exact Or.inr ⟨id, message, rfl⟩
      | build e => exact (failure_setValue_ne_build (hbuild s hs) hbelow value e hend).elim
      | check cause =>
          obtain ⟨before, q, after, hsplit, -, hq⟩ :=
            (failure_setValue_eq_check_iff (hbuild s hs) hbelow hvalue cause).mp hend
          rw [hnone q (by simp [hsplit])] at hq
          cases hq

/-! ### A recipe with a pattern that cannot be read -/

open Catalog Session

/-- A setting with one validator. -/
def validated (id : String) (check : SettingCheck) (configuration : Value) : Setting :=
  .node ⟨id, "", "", .string, .null, false, true, [], [⟨check, .data configuration⟩]⟩ .null []

/-- A recipe with a setting that has to match a group without an end, and one that has to be given. -/
def groupRecipe : Recipe :=
  bareRecipe "group" [validated "a" .regex (.map [(.str "regex", .str "(")]),
    validated "b" .required .null] []

def groupDocument : Value :=
  .ofFields [("id", .str "group"), ("optionSettings", .list [
    .ofFields [("id", .str "a"), ("validators", .list [.ofFields [("kind", .str "Regex"),
      ("configuration", .ofFields [("regex", .str "(")])]])],
    .ofFields [("id", .str "b"), ("validators", .list [.ofFields [("kind", .str "Required")]])]])]

def groupFile : String × Value := ("group.json", groupDocument)

theorem files_group :
  files (folder [groupFile]) (folderOptions true [groupFile]) = ["/recipes/group.json"]
  := by
  have hscan : (folderOptions true [groupFile]).paths.flatMap
      ((folder [groupFile]).recipeFilesBelow (folderOptions true [groupFile]).recursive)
        = ["/recipes/group.json"] := by decide
  rw [files, Place.recipeFiles, hscan, List.mergeSort_singleton]

theorem workable_group :
  groupRecipe.Workable .delivered
  := by
  have hwalk : walkAll groupRecipe.settings = groupRecipe.settings := by
    simp [walkAll, walk, groupRecipe, bareRecipe, validated]
  constructor
  · rw [hwalk, groupRecipe, bareRecipe, List.forall_mem_cons, List.forall_mem_singleton]
    exact ⟨List.forall_mem_nil _, List.forall_mem_nil _⟩
  · rw [hwalk, groupRecipe, bareRecipe, List.forall_mem_cons, List.forall_mem_singleton,
      Registry.BuildsAll, Registry.BuildsAll, validated, validated]
    simp only [declaration, List.forall_mem_singleton]
    exact ⟨⟨_, rfl⟩, ⟨_, rfl⟩⟩
  · exact List.forall_mem_nil _

/-- A strict catalog shows the recipe. -/
theorem mem_recipes_group :
  groupRecipe ∈ ((ofRequest (folder [groupFile]) (folderRequest true [groupFile]) emptyConfig).run
    .delivered [.refresh false]).catalog.recipes
  := by
  have hcycles : (dependencyGraph groupRecipe.settings).cycles = [] := by
    cbv
  have hsound : groupRecipe.Sound .delivered true :=
    ⟨by decide, (Graph.cycles_eq_nil_iff _).mp hcycles, fun _ => workable_group⟩
  have hwritable : isWritable 6 groupDocument = true := by decide
  exact mem_recipes_of_onlyFile files_group rfl (by decide) hwritable rfl hsound

/-- A recommendation of the recipe. -/
def groupRecommended : Recommendation := ofRecipe groupRecipe [] "." 0 (TokenTable.ofTexts [])

theorem isStateOf_groupRecommended :
  IsStateOf groupRecipe [] groupRecommended
  := ⟨".", 0, [], [], rfl⟩

theorem locate_group :
  groupRecommended.locate (some "b") = .ok ([1], validated "b" .required .null)
  := by
  rfl

/-- A text for the setting that has to be given is accepted or refused, and nothing else. -/
theorem failure_of_published_group :
  groupRecipe ∈ ((ofRequest (folder [groupFile]) (folderRequest true [groupFile]) emptyConfig).run
      .delivered [.refresh false]).catalog.recipes
    ∧ ((folderRequest true [groupFile]).options (folder [groupFile]).cwdPath emptyConfig).strict = true
    ∧ IsStateOf groupRecipe [] groupRecommended
    ∧ groupRecommended.locate (some "b") = .ok ([1], validated "b" .required .null)
    ∧ ∀ text,
      let failure := (groupRecommended.set (judgeFor (folder [groupFile]) Registries.delivered.settings true)
        [1] (validated "b" .required .null) (.str text)).failure
      failure = none ∨ ∃ id message, failure = some (.refused id message)
  := by
  have hstrict : ((folderRequest true [groupFile]).options (folder [groupFile]).cwdPath
      emptyConfig).strict = true := rfl
  refine ⟨mem_recipes_group, hstrict, isStateOf_groupRecommended, locate_group, ?_⟩
  intro text
  obtain ⟨-, -, hends⟩ := @failure_of_published _ _ _ _ (folder [groupFile]) _ _ _ mem_recipes_group hstrict
    isStateOf_groupRecommended _ _ _ locate_group (.str text) trivial
  apply hends
  have hquestions :
      questions Registries.delivered.settings (.str text) (validated "b" .required .null)
        = [.verdict "b" (.required ValidatorClass.required.defaultMessage) (.str text)] := rfl
  rw [hquestions, List.forall_mem_singleton]
  rfl

/-- The recipe is shown by a strict catalog, but a text for its other setting is neither accepted nor
refused. -/
theorem malformed_set_group :
  groupRecipe ∈ ((ofRequest (folder [groupFile]) (folderRequest true [groupFile]) emptyConfig).run
      .delivered [.refresh false]).catalog.recipes
    ∧ ((folderRequest true [groupFile]).options (folder [groupFile]).cwdPath emptyConfig).strict = true
    ∧ IsStateOf groupRecipe [] groupRecommended
    ∧ groupRecommended.locate (some "a")
      = .ok ([0], validated "a" .regex (.map [(.str "regex", .str "(")]))
    ∧ (groupRecommended.set (judgeFor (folder [groupFile]) Registries.delivered.settings true) [0]
      (validated "a" .regex (.map [(.str "regex", .str "(")])) (.str "x")).failure
        = some (.check (.pattern .malformed))
  := by
  exact ⟨mem_recipes_group, rfl, isStateOf_groupRecommended, rfl, rfl⟩

end Recommendation
end DeploymentRecipes
