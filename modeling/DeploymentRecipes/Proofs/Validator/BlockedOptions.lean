import DeploymentRecipes.Proofs.Distinct
import DeploymentRecipes.Proofs.ShellWords
import DeploymentRecipes.Proofs.Text.Replacement
import DeploymentRecipes.Proofs.Text.Trim
import DeploymentRecipes.Validator.SettingCheck

/-!
# Options that a command line must not set

A command line is turned down when it cannot be split, and when a word of it sets an option that the
deployment sets itself.  The message lists the options that are set so, in the order of the first words
that set them.  No word that is turned down is hidden by what follows it.
-/

namespace DeploymentRecipes.Validator

/-- The word is the option, alone or with a value attached. -/
def Sets (word option : String) : Prop := word = option ∨ ∃ value, word = option ++ "=" ++ value

variable {blocked words : List String} {word option : String}

theorem setsOption_iff :
  setsOption option word = true ↔ Sets word option
  := by
  rw [setsOption, Bool.or_eq_true, beq_iff_eq, Text.startsWith_iff, Sets]

/-- The option that a word sets, if it sets one: all that stands before an equals sign. -/
def optionOf (word : String) : String := String.ofList (word.toList.takeWhile (· != '='))

theorem sets_iff (h : '=' ∉ option.toList) :
  Sets word option ↔ optionOf word = option
  := by
  have hchars : ∀ c ∈ option.toList, (c != '=') = true := by
    intro c hc
    rw [bne_iff_ne]
    rintro rfl
    exact h hc
  have htake : ∀ rest, (option.toList ++ rest).takeWhile (· != '=')
      = option.toList ++ rest.takeWhile (· != '=') :=
    fun rest => List.takeWhile_append_of_pos hchars
  constructor
  · rintro (rfl | ⟨value, rfl⟩)
    · have hself := htake []
      rw [List.append_nil, List.takeWhile_nil, List.append_nil] at hself
      rw [optionOf, hself, String.ofList_toList]
    · rw [optionOf, String.toList_append, String.toList_append, List.append_assoc, htake]
      simp
  · rintro rfl
    have hsplit := @List.takeWhile_append_dropWhile _ (· != '=') word.toList
    cases hdrop : word.toList.dropWhile (· != '=') with
    | nil =>
        left
        rw [hdrop, List.append_nil] at hsplit
        rw [optionOf, hsplit, String.ofList_toList]
    | cons c rest =>
        right
        use String.ofList rest
        have hc := List.head?_dropWhile_not (· != '=') word.toList
        rw [hdrop] at hc
        obtain rfl : c = '=' := by simpa using hc
        rw [hdrop] at hsplit
        simp [← String.toList_inj, optionOf, hsplit]

/-! ### The options that are set -/

/-- The options that are set, given those that words before the last one set. -/
def addHits (blocked hits : List String) (word : String) : List String :=
  blocked.foldl (fun hits option =>
    if setsOption option word && !hits.contains option then hits ++ [option] else hits) hits

theorem blockedHits_eq_foldl (blocked words : List String) :
  blockedHits blocked words = words.foldl (addHits blocked) []
  := rfl

/-- A word sets at most one of the blocked options. -/
theorem addHits_eq (hnodup : blocked.Nodup) (hplain : ∀ option ∈ blocked, '=' ∉ option.toList)
    (hits : List String) (word : String) :
  addHits blocked hits word = addNew hits ([optionOf word].filter (blocked.contains ·))
  := by
  induction blocked generalizing hits with
  | nil => rfl
  | cons option blocked ih =>
      obtain ⟨hnew, hnodup⟩ := List.nodup_cons.mp hnodup
      obtain ⟨hfirst, hplain⟩ := List.forall_mem_cons.mp hplain
      rw [addHits, List.foldl_cons, ← addHits, ih hnodup hplain]
      by_cases hword : optionOf word = option
      · have hsets : setsOption option word = true := setsOption_iff.mpr ((sets_iff hfirst).mpr hword)
        simp [hword, hsets, hnew, addNew]
      · have hsets : setsOption option word = false := by
          rw [← Bool.not_eq_true, setsOption_iff, sets_iff hfirst]
          exact hword
        simp [List.filter_cons, hword, hsets]

/-- The options that are set are added as the words set them. -/
theorem blockedHits_eq (hnodup : blocked.Nodup) (hplain : ∀ option ∈ blocked, '=' ∉ option.toList)
    (words : List String) :
  blockedHits blocked words = addNew [] ((words.map optionOf).filter (blocked.contains ·))
  := by
  rw [blockedHits_eq_foldl]
  generalize ([] : List String) = hits
  induction words generalizing hits with
  | nil => rfl
  | cons word words ih =>
      rw [List.foldl_cons, addHits_eq hnodup hplain, ih, ← addNew_append, ← List.filter_append,
        List.map_cons, List.singleton_append]

theorem mem_blockedHits_iff (hnodup : blocked.Nodup)
    (hplain : ∀ option ∈ blocked, '=' ∉ option.toList) :
  option ∈ blockedHits blocked words ↔ option ∈ blocked ∧ ∃ word ∈ words, Sets word option
  := by
  rw [blockedHits_eq hnodup hplain, mem_addNew, List.mem_filter, List.mem_map]
  simp only [List.not_mem_nil, false_or, List.contains_iff_mem]
  rw [and_comm]
  apply and_congr_right
  intro hoption
  simp only [sets_iff (hplain option hoption)]

/-- The option is set by the word with the given number. -/
def SetsAt (words : List String) (option : String) (place : Nat) : Prop :=
  ∃ word, words[place]? = some word ∧ Sets word option

/-- The blocked options that the words set, each once, in the order of the first words that set
them. -/
structure AreHits (blocked words hits : List String) : Prop where
  nodup : hits.Nodup
  mem_iff : ∀ option, option ∈ hits ↔ option ∈ blocked ∧ ∃ word ∈ words, Sets word option
  order : hits.Pairwise fun option other =>
    ∃ i, SetsAt words option i ∧ ∀ j, SetsAt words other j → i < j

/-- An option that is set comes before another one if some word sets it before all words that set the
other one. -/
theorem pairwise_blockedHits (hnodup : blocked.Nodup)
    (hplain : ∀ option ∈ blocked, '=' ∉ option.toList) (words : List String) :
  (blockedHits blocked words).Pairwise fun option other =>
    ∃ i, SetsAt words option i ∧ ∀ j, SetsAt words other j → i < j
  := by
  let places : List (Nat × String) :=
    (words.zipIdx.map fun p => (p.2, optionOf p.1)).filter fun p => blocked.contains p.2
  have hplaces : places.map (·.2) = (words.map optionOf).filter (blocked.contains ·) := by
    have hwords : words.map optionOf
        = (words.zipIdx.map fun p => (p.2, optionOf p.1)).map (·.2) := by
      conv_lhs => rw [← List.zipIdx_map_fst 0 words]
      rw [List.map_map, List.map_map]
      rfl
    rw [hwords, List.filter_map]
    rfl
  have hmem : ∀ option ∈ blocked, ∀ i, (i, option) ∈ places ↔ SetsAt words option i := by
    intro option hoption i
    rw [List.mem_filter, List.mem_map]
    constructor
    · rintro ⟨⟨⟨word, k⟩, hword, heq⟩, -⟩
      obtain ⟨rfl, rfl⟩ := Prod.mk.inj heq
      exact ⟨word, List.mem_zipIdx_iff_getElem?.mp hword, (sets_iff (hplain _ hoption)).mpr rfl⟩
    · rintro ⟨word, hword, hsets⟩
      have hoptionOf := (sets_iff (hplain option hoption)).mp hsets
      exact ⟨⟨(word, i), List.mem_zipIdx_iff_getElem?.mpr hword, by rw [hoptionOf]⟩, by simpa⟩
  have hordered : places.Pairwise fun p q => p.1 < q.1 := by
    apply List.Pairwise.filter
    rw [List.pairwise_map]
    exact pairwise_zipIdx words
  have hhits : blockedHits blocked words = addNew [] (places.map (·.2)) := by
    rw [hplaces, blockedHits_eq hnodup hplain]
  rw [hhits]
  apply (pairwise_addNew hordered).imp_of_mem
  intro option other hoption hother
  rw [← hhits, mem_blockedHits_iff hnodup hplain] at hoption hother
  simp only [hmem _ hoption.1, hmem _ hother.1]
  exact id

theorem areHits_blockedHits (hnodup : blocked.Nodup)
    (hplain : ∀ option ∈ blocked, '=' ∉ option.toList) (words : List String) :
  AreHits blocked words (blockedHits blocked words)
  where
  nodup := by
    rw [blockedHits_eq hnodup hplain]
    apply nodup_addNew List.nodup_nil
  mem_iff _ := mem_blockedHits_iff hnodup hplain
  order := pairwise_blockedHits hnodup hplain words

/-! ### The verdict -/

theorem checkBlocked_eq (blocked : List String) (message text : String) :
  checkBlocked blocked message text
    = match ShellWords.split (Text.strip text) with
      | .error fault => .failed ("Arguments could not be parsed: " ++ fault.message)
      | .ok words => verdict (blockedHits blocked words).isEmpty
          (fill message [("InvalidArgs", Text.join ", " (blockedHits blocked words))])
  := by
  rw [checkBlocked]
  dsimp only
  split
  · rename_i hempty
    rw [beq_iff_eq] at hempty
    rw [hempty]
    rfl
  · rfl

/-- A validator of command lines with the options that it blocks and its message. -/
inductive Blocks : Validator → List String → String → Prop
  | docker (message : String) : Blocks (.dockerBuildArgs message) dockerBlocked message
  | publish (message : String) : Blocks (.dotnetPublishArgs message) publishBlocked message

/-- A word of the command line sets a blocked option. -/
def SetsBlocked (blocked : List String) (text : String) : Prop :=
  ∃ words, ShellWords.split (Text.strip text) = .ok words
    ∧ ∃ word ∈ words, ∃ option ∈ blocked, Sets word option

theorem Blocks.checkValue_eq {v : Validator} {message : String} (h : Blocks v blocked message)
    (place : Place) (text : String) :
  checkValue place v (.str text) = .ok (checkBlocked blocked message text)
  := by
  cases h <;> rfl

theorem Blocks.nodup {v : Validator} {message : String} (h : Blocks v blocked message) :
  blocked.Nodup
  := by
  cases h <;> decide

theorem Blocks.plain {v : Validator} {message : String} (h : Blocks v blocked message) :
  ∀ option ∈ blocked, '=' ∉ option.toList
  := by
  cases h <;> decide

theorem Blocks.setsBlocked_iff {v : Validator} {message : String} (h : Blocks v blocked message)
    {text : String} (hsplit : ShellWords.split (Text.strip text) = .ok words) :
  SetsBlocked blocked text ↔ ∃ option, option ∈ blockedHits blocked words
  := by
  constructor
  · rintro ⟨words', hwords', word, hword, option, hoption, hset⟩
    rw [hsplit] at hwords'
    cases hwords'
    exact ⟨option, (mem_blockedHits_iff h.nodup h.plain).mpr ⟨hoption, word, hword, hset⟩⟩
  · rintro ⟨option, hmem⟩
    obtain ⟨hoption, word, hword, hset⟩ := (mem_blockedHits_iff h.nodup h.plain).mp hmem
    exact ⟨words, hsplit, word, hword, option, hoption, hset⟩

/-- A command line that can be split is turned down with the blocked options that it sets. -/
theorem Blocks.checkValue_of_split {v : Validator} {message : String} (h : Blocks v blocked message)
    (place : Place) {text : String} (hsplit : ShellWords.split (Text.strip text) = .ok words) :
  checkValue place v (.str text)
    = .ok (verdict (blockedHits blocked words).isEmpty
        (fill message [("InvalidArgs", Text.join ", " (blockedHits blocked words))]))
  := by
  rw [h.checkValue_eq, checkBlocked_eq, hsplit]

theorem Blocks.failed_iff {v : Validator} {message : String} (h : Blocks v blocked message)
    (place : Place) (text : String) :
  (∃ m, checkValue place v (.str text) = .ok (.failed m))
    ↔ (∃ fault, ShellWords.split (Text.strip text) = .error fault) ∨ SetsBlocked blocked text
  := by
  cases hsplit : ShellWords.split (Text.strip text) with
  | error fault =>
      rw [h.checkValue_eq, checkBlocked_eq, hsplit]
      exact iff_of_true ⟨_, rfl⟩ (Or.inl ⟨fault, rfl⟩)
  | ok words =>
      rw [h.checkValue_of_split place hsplit, h.setsBlocked_iff hsplit]
      cases blockedHits blocked words with
      | nil => simp [verdict]
      | cons option hits => simp [verdict]

/-- A blocked option is not hidden by what follows the command line that sets it. -/
theorem SetsBlocked.append {text : String} (h : SetsBlocked blocked text)
    (hstrip : Text.strip text = text) (more : String) :
  (∃ fault, ShellWords.split (Text.strip (text ++ " " ++ more)) = .error fault)
    ∨ SetsBlocked blocked (text ++ " " ++ more)
  := by
  obtain ⟨words, hsplit, word, hword, hset⟩ := h
  rw [hstrip] at hsplit
  have hne : text.toList ≠ [] := by
    intro hnil
    rw [ShellWords.split, hnil] at hsplit
    cases hsplit
    simp at hword
  have hbody := congrArg String.toList hstrip
  rw [Text.strip, String.toList_ofList] at hbody
  have hchars : (text ++ " " ++ more).toList = text.toList ++ ' ' :: more.toList := by simp
  rw [SetsBlocked, Text.strip, hchars]
  rcases Text.trimBoth_append_cons hbody hne (by decide : Text.isBlank ' ' = true) more.toList with
    hsame | ⟨kept, hkept⟩
  · right
    rw [hsame, String.ofList_toList]
    exact ⟨words, hsplit, word, hword, hset⟩
  · have hlonger : String.ofList (text.toList ++ ' ' :: kept) = text ++ " " ++ String.ofList kept := by
      simp [← String.toList_inj]
    rw [hkept, hlonger, ShellWords.split_append hsplit]
    cases ShellWords.split (String.ofList kept) with
    | error fault => exact Or.inl ⟨fault, rfl⟩
    | ok later => exact Or.inr ⟨words ++ later, rfl, word, List.mem_append_left later hword, hset⟩

/-- A command line is turned down just when it cannot be split or sets a blocked option.  Then the
message lists the blocked options that are set, each once, in the order of the first words that set
them.  What follows such a command line behind a blank does not save it. -/
theorem checkValue_blocks {v : Validator} {blocked : List String} {message : String}
    (h : Blocks v blocked message) (place : Place) (text : String) :
  ((∃ m, checkValue place v (.str text) = .ok (.failed m))
      ↔ (∃ fault, ShellWords.split (Text.strip text) = .error fault) ∨ SetsBlocked blocked text)
    ∧ ((∃ m, checkValue place v (.str text) = .ok (.failed m))
      ∨ checkValue place v (.str text) = .ok .valid)
    ∧ (∀ words, ShellWords.split (Text.strip text) = .ok words → SetsBlocked blocked text →
        ∃ hits, AreHits blocked words hits
          ∧ checkValue place v (.str text)
              = .ok (.failed (fill message [("InvalidArgs", Text.join ", " hits)]))
          ∧ ∀ lead trail : String, '{' ∉ lead.toList → '{' ∉ trail.toList →
              message = lead ++ "{{InvalidArgs}}" ++ trail →
              fill message [("InvalidArgs", Text.join ", " hits)]
                = lead ++ Text.join ", " hits ++ trail)
    ∧ (SetsBlocked blocked text → Text.strip text = text → ∀ more,
        ∃ m, checkValue place v (.str (text ++ " " ++ more)) = .ok (.failed m))
  := by
  refine ⟨h.failed_iff place text, ?_, ?_, ?_⟩
  · rw [h.checkValue_eq]
    cases checkBlocked blocked message text with
    | valid => exact Or.inr rfl
    | failed m => exact Or.inl ⟨m, rfl⟩
  · intro words hsplit hset
    refine ⟨blockedHits blocked words, areHits_blockedHits h.nodup h.plain words, ?_, ?_⟩
    · obtain ⟨option, hoption⟩ := (h.setsBlocked_iff hsplit).mp hset
      have hsome : (blockedHits blocked words).isEmpty = false :=
        List.isEmpty_eq_false_iff_exists_mem.mpr ⟨option, hoption⟩
      rw [h.checkValue_of_split place hsplit, hsome]
      rfl
    · rintro lead trail hlead htrail rfl
      exact Text.replaceAll_of_once (by simp) hlead htrail _
  · intro hset hstrip more
    rw [h.failed_iff]
    exact hset.append hstrip more

theorem checkValue_blocks_openQuote :
  ∃ m, checkValue .empty (.dockerBuildArgs "Not {{InvalidArgs}}!")
    (.str ("--no-cache --file=a" ++ " " ++ "'b")) = .ok (.failed m)
  := by
  have hset : SetsBlocked dockerBlocked "--no-cache --file=a" :=
    ⟨["--no-cache", "--file=a"], rfl, "--file=a", by simp, "--file", by decide, Or.inr ⟨"a", rfl⟩⟩
  exact (checkValue_blocks (.docker _) _ _).2.2.2 hset rfl "'b"

example :
  ValidatorClass.defaultMessage .dockerBuildArgs
    = "The Docker build arguments " ++ "{{InvalidArgs}}"
      ++ " are set by the deployment tool and cannot be overridden."
  := by
  decide

end DeploymentRecipes.Validator
