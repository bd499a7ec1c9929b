import DeploymentRecipes.Proofs.Distinct
import DeploymentRecipes.Proofs.Recommendation.Evaluation
import DeploymentRecipes.Proofs.Token.Occurrence
import DeploymentRecipes.Proofs.Token.Table
import DeploymentRecipes.Recommendation

/-!
# The tokens of a new recommendation

The defaults are searched setting by setting, each from left to right, and a token is entered where it
is met first.  So the table lists the tokens that occur in some default, each once and in the order in
which they first occur, and then the given tokens that occur in none.  Until it is given a text, a
token is left in place.
-/

namespace DeploymentRecipes

namespace TokenTable

/-- A table without a text for its tokens. -/
def blank (tokens : List String) : TokenTable := tokens.map fun t => (t, .str "")

theorem keys_blank (tokens : List String) :
  (blank tokens).map (·.1) = tokens
  := by
  simp [blank, Function.comp_def]

theorem insert_blank (tokens : List String) (t : String) :
  (blank tokens).insert t (.str "")
    = blank (if tokens.contains t then tokens else tokens ++ [t])
  := by
  induction tokens with
  | nil => rfl
  | cons u tokens ih =>
      rw [blank, List.map_cons, insert]
      by_cases hu : u = t
      · simp [hu, blank]
      · rw [if_neg hu, ← blank, ih]
        have hmem : (u :: tokens).contains t = tokens.contains t := by simp [Ne.symm hu]
        rw [hmem]
        split <;> rfl

theorem insert_all_blank (tokens more : List String) :
  more.foldl (fun acc t => acc.insert t (.str "")) (blank tokens) = blank (addNew tokens more)
  := by
  induction more generalizing tokens with
  | nil => rfl
  | cons t more ih => rw [List.foldl_cons, insert_blank, ih, addNew_cons]

end TokenTable

namespace Token

/-- A table without texts leaves every value as it is. -/
theorem substitute_blank (tokens : List String) (v : Value) :
  substitute (TokenTable.blank tokens) v = .ok v
  := by
  have hcodes (codes : List Nat) : substituteCodes (TokenTable.blank tokens) codes = .ok codes := by
    induction tokens with
    | nil => rfl
    | cons t tokens ih => exact ih
  cases v with
  | str s =>
      rw [substitute, hcodes, Except.map, Value.ofCodes_codes]
  | halfText codes hhalf =>
      rw [substitute, hcodes, Except.map, Value.ofCodes_of_half hhalf]
  | _ => rfl

/-- The tokens in a value, with the places at which they stand. -/
def placesIn (v : Value) : List (Nat × String) :=
  (placesFrom 0 (searched v).toList).map fun p => (p.1, String.ofList p.2)

theorem map_placesIn (v : Value) :
  (placesIn v).map (·.2) = find v
  := by
  rw [placesIn, List.map_map, find, ← map_placesFrom 0, List.map_map]
  rfl

theorem mem_placesIn_iff {v : Value} {place : Nat} {t : String} :
  (place, t) ∈ placesIn v ↔ IsToken t.toList ∧ t.toList <+: (searched v).toList.drop place
  := by
  have hmem : (place, t) ∈ placesIn v ↔ (place, t.toList) ∈ placesFrom 0 (searched v).toList := by
    rw [placesIn, List.mem_map]
    constructor
    · rintro ⟨p, hp, heq⟩
      obtain ⟨rfl, rfl⟩ := Prod.mk.inj heq
      rwa [String.toList_ofList]
    · intro hp
      exact ⟨_, hp, by rw [String.ofList_toList]⟩
  rw [hmem, mem_placesFrom_iff]
  simp

theorem pairwise_placesIn (v : Value) :
  (placesIn v).Pairwise (·.1 < ·.1)
  := by
  rw [placesIn, List.pairwise_map]
  apply pairwise_placesFrom

end Token

namespace Recommendation

open Setting (walkAll)

variable {items : List Setting} {t : String} {place : Nat × Nat}

/-- The token stands in the default of the setting with the given number, from the character with
the given number on. -/
def OccursAt (items : List Setting) (t : String) (place : Nat × Nat) : Prop :=
  ∃ s, (walkAll items)[place.1]? = some s ∧ Token.IsToken t.toList
    ∧ t.toList <+: (Token.searched s.declaration.defaultValue).toList.drop place.2

/-- A place in an earlier setting, or further to the left in the same one. -/
def ComesBefore (p q : Nat × Nat) : Prop := p.1 < q.1 ∨ p.1 = q.1 ∧ p.2 < q.2

/-- The tokens that occur in a default, each once, in the order in which they first occur. -/
structure AreTokensOf (items : List Setting) (seeded : List String) : Prop where
  nodup : seeded.Nodup
  mem_iff : ∀ t, t ∈ seeded ↔ Token.IsToken t.toList ∧ ∃ s ∈ walkAll items,
    t.toList <:+: (Token.searched s.declaration.defaultValue).toList
  order : seeded.Pairwise fun t u =>
    ∃ p, OccursAt items t p ∧ ∀ q, OccursAt items u q → ComesBefore p q

theorem exists_occursAt_iff :
  (∃ place, OccursAt items t place)
    ↔ Token.IsToken t.toList ∧ ∃ s ∈ walkAll items,
        t.toList <:+: (Token.searched s.declaration.defaultValue).toList
  := by
  constructor
  · rintro ⟨place, s, hs, htoken, hprefix⟩
    refine ⟨htoken, s, List.mem_of_getElem? hs, ?_⟩
    apply hprefix.isInfix.trans (List.drop_suffix _ _).isInfix
  · rintro ⟨htoken, s, hs, before, after, hinfix⟩
    obtain ⟨k, hk⟩ := List.mem_iff_getElem?.mp hs
    refine ⟨(k, before.length), s, hk, htoken, ?_⟩
    rw [← hinfix, List.append_assoc, List.drop_left]
    apply List.prefix_append

/-- The tokens in the defaults of all settings, with the places at which they stand. -/
def occurrences (items : List Setting) : List ((Nat × Nat) × String) :=
  (walkAll items).zipIdx.flatMap fun p =>
    (Token.placesIn p.1.declaration.defaultValue).map fun q => ((p.2, q.1), q.2)

theorem mem_occurrences_iff :
  (place, t) ∈ occurrences items ↔ OccursAt items t place
  := by
  rw [occurrences, List.mem_flatMap]
  constructor
  · rintro ⟨⟨s, k⟩, hs, hmem⟩
    obtain ⟨⟨i, u⟩, hu, heq⟩ := List.mem_map.mp hmem
    obtain ⟨rfl, rfl⟩ := Prod.mk.inj heq
    exact ⟨s, List.mem_zipIdx_iff_getElem?.mp hs, Token.mem_placesIn_iff.mp hu⟩
  · rintro ⟨s, hs, hstands⟩
    refine ⟨(s, place.1), List.mem_zipIdx_iff_getElem?.mpr hs, ?_⟩
    rw [List.mem_map]
    exact ⟨(place.2, t), Token.mem_placesIn_iff.mpr hstands, rfl⟩

theorem pairwise_occurrences (items : List Setting) :
  (occurrences items).Pairwise fun p q => ComesBefore p.1 q.1
  := by
  rw [occurrences, List.pairwise_flatMap]
  constructor
  · rintro ⟨s, k⟩ -
    rw [List.pairwise_map]
    apply (Token.pairwise_placesIn _).imp
    intro p q hlt
    exact Or.inr ⟨rfl, hlt⟩
  · apply (pairwise_zipIdx (walkAll items)).imp
    rintro ⟨s, k⟩ ⟨s', k'⟩ hlt p hp q hq
    obtain ⟨p, -, rfl⟩ := List.mem_map.mp hp
    obtain ⟨q, -, rfl⟩ := List.mem_map.mp hq
    exact Or.inl hlt

theorem map_occurrences (items : List Setting) :
  (occurrences items).map (·.2)
    = (walkAll items).flatMap fun s => Token.find s.declaration.defaultValue
  := by
  conv_rhs => rw [← List.zipIdx_map_fst 0 (walkAll items), List.flatMap_map]
  rw [occurrences, List.map_flatMap]
  congr 1
  funext p
  rw [List.map_map, ← Token.map_placesIn]
  rfl

/-- The tokens of the defaults are entered in the order in which they occur. -/
theorem collectTokens_eq_blank (items : List Setting) :
  collectTokens items [] = TokenTable.blank (addNew [] ((occurrences items).map (·.2)))
  := by
  rw [map_occurrences, ← TokenTable.insert_all_blank, List.foldl_flatMap]
  rfl

theorem areTokensOf_occurrences (items : List Setting) :
  AreTokensOf items (addNew [] ((occurrences items).map (·.2)))
  := by
  constructor
  · apply nodup_addNew List.nodup_nil
  · intro t
    rw [← exists_occursAt_iff, mem_addNew, List.mem_map]
    simp only [List.not_mem_nil, false_or]
    constructor
    · rintro ⟨p, hp, rfl⟩
      exact ⟨p.1, mem_occurrences_iff.mp hp⟩
    · rintro ⟨place, hplace⟩
      exact ⟨(place, t), mem_occurrences_iff.mpr hplace, rfl⟩
  · apply (pairwise_addNew (pairwise_occurrences items)).imp
    intro t u
    simp only [mem_occurrences_iff]
    exact id

/-- The tokens of a new recommendation are those that occur in a default, once each and in the order
in which they first occur, and then the other given ones.  Each has the text that is given for it; as
long as none is given, every default is left as it is. -/
theorem tokens_ofRecipe_eq (recipe : Recipe) (bundle : List Setting) (projectPath : String)
    (priority : Int) {given : TokenTable} (hgiven : (given.map (·.1)).Nodup) :
  ∃ seeded, AreTokensOf (recipe.settings ++ bundle) seeded
    ∧ (ofRecipe recipe bundle projectPath priority given).tokens
      = seeded.map (fun t => (t, (given.lookup t).getD (.str "")))
        ++ given.filter (fun p => p.1 ∉ seeded)
    ∧ (given = [] → ∀ s, (ofRecipe recipe bundle projectPath priority given).defaultValue s
        = .ok s.declaration.defaultValue)
  := by
  let items := recipe.settings ++ bundle
  refine ⟨addNew [] ((occurrences items).map (·.2)), areTokensOf_occurrences items, ?_, ?_⟩
  · have hnodup := (areTokensOf_occurrences items).nodup
    rw [ofRecipe, collectTokens_eq_blank, TokenTable.insertAll_eq_append _ hgiven,
      TokenTable.keys_blank, TokenTable.blank, List.map_map]
    · rfl
    · rwa [TokenTable.keys_blank]
  · rintro rfl s
    have hblank : (ofRecipe recipe bundle projectPath priority []).tokens
        = TokenTable.blank (addNew [] ((occurrences items).map (·.2))) :=
      collectTokens_eq_blank items
    rw [defaultValue, hblank, Setting.resolvedDefault, Setting.fillTokens, Token.substitute_blank]
    rfl

/-- Texts for the size of the machine and for a token that is in no default. -/
def zoneAndSize : TokenTable := [("{Zone}", .str "a"), ("{Size}", .str "large")]

theorem tokens_ofRecipe_eq_webService :
  ∃ seeded : List String, "{Size}" ∈ seeded
    ∧ (ofRecipe webService [] "." 0 zoneAndSize).tokens
      = seeded.map (fun t => (t, (zoneAndSize.lookup t).getD (.str "")))
        ++ zoneAndSize.filter (fun p => p.1 ∉ seeded)
  := by
  have hnodup : (zoneAndSize.map (·.1)).Nodup := by decide
  obtain ⟨seeded, hseeded, htokens, -⟩ := tokens_ofRecipe_eq webService [] "." 0 hnodup
  refine ⟨seeded, ?_, htokens⟩
  rw [hseeded.mem_iff]
  constructor
  · exact ⟨"Size".toList, by simp, List.all_eq_true.mp rfl, rfl⟩
  · exact ⟨_, List.mem_cons_self, List.infix_rfl⟩

example :
  (ofRecipe webService [] "." 0
    [("{Zone}", .str "a"), ("{Size}", .str "large")]).tokens
    = [("{Size}", .str "large"), ("{Zone}", .str "a")]
  := rfl

end Recommendation
end DeploymentRecipes
