import DeploymentRecipes.Application
import DeploymentRecipes.Manifest.Text
import DeploymentRecipes.Proofs.File.Path
import DeploymentRecipes.Proofs.Manifest.History
import Mathlib.Data.List.Permutation

/-!
# Applications deployed lately

The applications of an account are those of its stacks, sorted by the stacks that the manifest lists
for the account and region.  Applications of one name keep their order, and so do those that are not
listed.  Where the manifest lists no stack twice, listed applications come before the others, in the
order of the list.  A stack that is listed twice counts where it stands last, and then it may come
after one that is not listed at all.
-/

namespace DeploymentRecipes.Application

/-! ### Which stacks hold an application -/

/-- A stack holds an application, made by this tool from one of the given recipes, that can be
deployed again. -/
structure IsHeldBy (recipes : Option (List String)) (s : Stack) (a : Application) : Prop where
  name_eq : a.name = s.name
  status_eq : a.status = s.status
  tag : s.tags.lookup recipeTag = some a.recipe
  recipe_ne : a.recipe ≠ ""
  described : descriptionLead.toList <+: (s.description.getD "").toList
  notExcluded : ∀ status ∈ s.status, status ∉ excludedStates
  given : ∀ ids ∈ recipes, a.recipe ∈ ids

theorem lookup_eq_map_find? {β : Type} (key : String) (ps : List (String × β)) :
  ps.lookup key = (ps.find? (·.1 == key)).map (·.2)
  := by
  induction ps with
  | nil => rfl
  | cons p ps ih =>
      obtain ⟨k, b⟩ := p
      by_cases hk : k = key
      · simp [hk]
      · have hk' : (key == k) = false := by simpa using Ne.symm hk
        rw [List.lookup_cons, hk', List.find?_cons_of_neg (by simpa using hk), ih]

theorem recipeOf_eq_some_iff {s : Stack} {recipe : String} :
  recipeOf s = some recipe ↔ s.tags.lookup recipeTag = some recipe ∧ recipe ≠ ""
  := by
  rw [recipeOf, ← lookup_eq_map_find?, Manifest.given?, Option.filter_eq_some_iff]
  simp

theorem isOpen_iff {status : Option String} :
  isOpen status = true ↔ ∀ st ∈ status, st ∉ excludedStates
  := by
  cases status <;> simp [isOpen]

theorem ofStack?_eq_some_iff {recipes : Option (List String)} {s : Stack} {a : Application} :
  ofStack? recipes s = some a ↔ IsHeldBy recipes s a
  := by
  have hgiven (recipe : String) : (recipes.map (·.contains recipe)).getD true = true
      ↔ ∀ ids ∈ recipes, recipe ∈ ids := by
    cases recipes <;> simp
  have hlead : Text.startsWith (s.description.getD "") descriptionLead = true
      ↔ descriptionLead.toList <+: (s.description.getD "").toList :=
    Text.dropLead?_isSome_iff
  unfold ofStack?
  constructor
  · intro h
    split at h
    · cases h
    rename_i recipe hrecipe
    obtain ⟨htag, hne⟩ := recipeOf_eq_some_iff.mp hrecipe
    split at h
    · rename_i hif
      simp only [Bool.and_eq_true, hgiven, hlead, isOpen_iff] at hif
      cases h
      exact ⟨rfl, rfl, htag, hne, hif.1.1, hif.1.2, hif.2⟩
    · cases h
  · intro h
    simp only [recipeOf_eq_some_iff.mpr ⟨h.tag, h.recipe_ne⟩]
    rw [if_pos]
    · rw [← h.name_eq, ← h.status_eq]
    · simp only [Bool.and_eq_true, hgiven, hlead, isOpen_iff]
      exact ⟨⟨h.described, h.notExcluded⟩, h.given⟩

/-! ### Ranks -/

theorem rank_of_mem {names : List String} {name : String} (h : name ∈ names) :
  rank names name = names.length - 1 - names.reverse.idxOf name
  := by
  have hfind : names.reverse.findIdx? (· == name) = some (names.reverse.idxOf name) := by
    rw [List.findIdx?_eq_some_iff_findIdx_eq]
    constructor
    · apply List.idxOf_lt_length_iff.mpr (List.mem_reverse.mpr h)
    · rfl
  rw [rank, hfind]

theorem rank_of_not_mem {names : List String} {name : String} (h : name ∉ names) :
  rank names name = names.eraseDups.length
  := by
  have hfind : names.reverse.findIdx? (· == name) = none := by
    rw [List.findIdx?_eq_none_iff]
    intro other hother
    rw [beq_eq_false_iff_ne]
    rintro rfl
    exact h (List.mem_reverse.mp hother)
  rw [rank, hfind]

theorem eraseDups_of_nodup {names : List String} (h : names.Nodup) :
  names.eraseDups = names
  := by
  induction names with
  | nil => rfl
  | cons name names ih =>
      rw [List.nodup_cons] at h
      have hkeep : names.filter (fun other => !other == name) = names := by
        rw [List.filter_eq_self]
        intro other hother
        have hne : other ≠ name := ne_of_mem_of_not_mem hother h.1
        simpa using hne
      rw [List.eraseDups_cons, hkeep, ih h.2]

/-- Among names that all differ, a name ranks by its position, and one that is missing ranks last. -/
theorem rank_of_nodup {names : List String} (h : names.Nodup) (name : String) :
  rank names name = names.idxOf name
  := by
  by_cases hmem : name ∈ names
  · have hlt : names.reverse.idxOf name < names.reverse.length :=
      List.idxOf_lt_length_iff.mpr (List.mem_reverse.mpr hmem)
    have hget : names.reverse[names.reverse.idxOf name] = name := List.getElem_idxOf hlt
    rw [List.getElem_reverse] at hget
    have hidx := h.idxOf_getElem (names.length - 1 - names.reverse.idxOf name) (by grind)
    rw [hget] at hidx
    rw [rank_of_mem hmem, hidx]
  · rw [rank_of_not_mem hmem, eraseDups_of_nodup h, List.idxOf_eq_length_iff.mpr hmem]

/-! ### Sorting by rank -/

section Sorting

variable {α : Type} (f : α → Nat) (xs : List α)

/-- Sorting by a number leaves items of equal numbers in their order. -/
theorem filter_mergeSort_of_const {p : α → Bool} {n : Nat}
    (hconst : ∀ x, p x = true → f x = n) :
  (xs.mergeSort fun a b => f a ≤ f b).filter p = xs.filter p
  := by
  have hpairwise : (xs.filter p).Pairwise fun a b => decide (f a ≤ f b) = true := by
    apply List.pairwise_of_forall_mem_list
    intro a ha b hb
    rw [hconst a (List.of_mem_filter ha), hconst b (List.of_mem_filter hb)]
    simp
  have hsublist : (xs.filter p).Sublist (xs.mergeSort fun a b => f a ≤ f b) := by
    apply List.sublist_mergeSort _ _ hpairwise List.filter_sublist
    · simp only [decide_eq_true_eq]
      intro a b c hab hbc
      omega
    · simp only [Bool.or_eq_true, decide_eq_true_eq]
      intro a b
      omega
  have hfilter := hsublist.filter p
  rw [List.filter_filter] at hfilter
  simp only [Bool.and_self] at hfilter
  symm
  apply hfilter.eq_of_length
  apply ((List.mergeSort_perm xs _).filter p).length_eq.symm

theorem pairwise_mergeSort_of_nat :
  (xs.mergeSort fun a b => f a ≤ f b).Pairwise fun a b => f a ≤ f b
  := by
  have h := @List.pairwise_mergeSort α (fun a b => decide (f a ≤ f b)) (by grind) (by grind) xs
  simpa using h

end Sorting

/-! ### The order of the applications -/

theorem entryFor_eq (m : Manifest) (account region : String) :
  m.entryFor (some account) (some region)
    = (Manifest.entries (some m)).find? (·.site == (account, region))
  := by
  have hsame : Manifest.belongsTo (some account) (some region)
      = fun d : DeployedStacks => d.site == (account, region) := by
    funext d
    rw [Bool.eq_iff_iff, Manifest.belongsTo_iff, beq_iff_eq, Prod.ext_iff, Option.some_inj,
      Option.some_inj]
    exact and_congr eq_comm eq_comm
  rw [Manifest.entryFor, hsame]
  rfl

/-- With no stack listed, the applications stay as they are. -/
theorem byRank_nil (applications : List Application) :
  byRank [] applications = applications
  := by
  apply List.mergeSort_of_pairwise
  apply List.pairwise_of_forall
  intro a b
  rfl

theorem ofStacks_eq_byRank {account region : String} (haccount : account ≠ "")
    (hregion : region ≠ "") (deployed : List Stack) (recipes : Option (List String))
    (m : Option Manifest) :
  ofStacks deployed recipes m (some account) (some region)
    = byRank (Manifest.stacksAt m (account, region)) (deployed.filterMap (ofStack? recipes))
  := by
  cases m with
  | none =>
      symm
      apply byRank_nil
  | some m =>
      have hrecent : recentStacks (some m) (some account) (some region)
          = some (Manifest.stacksAt (some m) (account, region)) := by
        have hsome {name : String} (h : name ≠ "") : Manifest.given? (some name) = some name := by
          simp [Manifest.given?, h]
        rw [Manifest.stacksAt, ← entryFor_eq, recentStacks, hsome haccount, hsome hregion]
        rfl
      simp only [ofStacks, hrecent]

/-- Applications of one rank keep their order. -/
theorem filter_byRank {recent : List String} {p : Application → Bool} {n : Nat}
    (hconst : ∀ a, p a = true → rank recent a.name = n) (applications : List Application) :
  (byRank recent applications).filter p = applications.filter p
  := filter_mergeSort_of_const (fun a => rank recent a.name) applications hconst

theorem pairwise_byRank (recent : List String) (applications : List Application) :
  (byRank recent applications).Pairwise fun a b => rank recent a.name ≤ rank recent b.name
  := pairwise_mergeSort_of_nat (fun a => rank recent a.name) applications

/-- Of two listed stacks, the one that ranks first stands last later in the list. -/
theorem idxOf_reverse_le_of_rank_le {names : List String} {name other : String}
    (hname : name ∈ names) (hother : other ∈ names) (h : rank names name ≤ rank names other) :
  names.reverse.idxOf other ≤ names.reverse.idxOf name
  := by
  rw [rank_of_mem hname, rank_of_mem hother] at h
  have hlt : names.reverse.idxOf other < names.reverse.length :=
    List.idxOf_lt_length_iff.mpr (List.mem_reverse.mpr hother)
  rw [List.length_reverse] at hlt
  omega

/-- The applications of the stacks are sorted by the stacks that the manifest lists, in the order in
which these are listed if none is listed twice. -/
theorem ofStacks_order {account region : String} (haccount : account ≠ "") (hregion : region ≠ "")
    (deployed : List Stack) (recipes : Option (List String)) (m : Option Manifest) :
  let applications := deployed.filterMap (ofStack? recipes)
  let recent := Manifest.stacksAt m (account, region)
  let result := ofStacks deployed recipes m (some account) (some region)
  (∀ s a, ofStack? recipes s = some a ↔ IsHeldBy recipes s a) ∧ result.Perm applications
    ∧ (∀ name, result.filter (·.name = name) = applications.filter (·.name = name))
    ∧ result.filter (·.name ∉ recent) = applications.filter (·.name ∉ recent)
    ∧ (result.Pairwise fun a b => a.name ∈ recent → b.name ∈ recent →
        recent.reverse.idxOf b.name ≤ recent.reverse.idxOf a.name)
    ∧ (recent.Nodup → result.Pairwise fun a b => b.name ∈ recent →
        a.name ∈ recent ∧ recent.idxOf a.name ≤ recent.idxOf b.name)
  := by
  intro applications recent result
  have hresult : result = byRank recent applications :=
    ofStacks_eq_byRank haccount hregion deployed recipes m
  have hrank := pairwise_byRank recent applications
  rw [hresult]
  refine ⟨fun s a => ofStack?_eq_some_iff, List.mergeSort_perm _ _, ?_, ?_, ?_, ?_⟩
  · intro name
    apply filter_byRank (n := rank recent name)
    intro a ha
    rw [of_decide_eq_true ha]
  · apply filter_byRank (n := recent.eraseDups.length)
    intro a ha
    apply rank_of_not_mem (of_decide_eq_true ha)
  · apply hrank.imp
    intro a b hle ha hb
    apply idxOf_reverse_le_of_rank_le ha hb hle
  · intro hnodup
    apply hrank.imp
    intro a b hle hb
    rw [rank_of_nodup hnodup, rank_of_nodup hnodup] at hle
    constructor
    · apply List.idxOf_lt_length_iff.mp
      apply Nat.lt_of_le_of_lt hle (List.idxOf_lt_length_iff.mpr hb)
    · exact hle

/-- A stack that holds an application. -/
def webStack (name : String) : Stack :=
  ⟨name, some "AWSDotnetDeployCDKStack: web", some "CREATE_COMPLETE",
    [("aws-dotnet-deploy", "AspNetAppEcsFargate")]⟩

/-- A manifest with one entry. -/
def manifestOf (account region : String) (stackNames : List String) : Manifest :=
  ⟨some [⟨account, region, stackNames⟩], none⟩

theorem ofStacks_order_twoListed :
  let applications := [webStack "z", webStack "b", webStack "a", webStack "b"].filterMap
    (ofStack? (some ["AspNetAppEcsFargate"]))
  let result := ofStacks [webStack "z", webStack "b", webStack "a", webStack "b"]
    (some ["AspNetAppEcsFargate"]) (some (manifestOf "1" "eu-west-1" ["a", "b"])) (some "1")
    (some "eu-west-1")
  "1" ≠ "" ∧ "eu-west-1" ≠ "" ∧ ["a", "b"].Nodup ∧ applications.length = 4
    ∧ result.Perm applications
    ∧ result.Pairwise fun a b => b.name ∈ ["a", "b"] →
        a.name ∈ ["a", "b"] ∧ ["a", "b"].idxOf a.name ≤ ["a", "b"].idxOf b.name
  := by
  have horder := @ofStacks_order "1" "eu-west-1" (by decide) (by decide)
    [webStack "z", webStack "b", webStack "a", webStack "b"] (some ["AspNetAppEcsFargate"])
    (some (manifestOf "1" "eu-west-1" ["a", "b"]))
  refine ⟨by decide, by decide, by decide, by decide, horder.2.1, ?_⟩
  apply horder.2.2.2.2.2
  decide

/-- Where a stack is listed twice, it comes after one that is listed behind it at first, and after
one that is not listed. -/
theorem ofStacks_listedTwice :
  let m := manifestOf "1" "eu-west-1" ["a", "b", "a"]
  let result := ofStacks [webStack "z", webStack "a", webStack "b"] none (some m) (some "1")
    (some "eu-west-1")
  Manifest.parse m.print = .ok (some m) ∧ result.map (·.name) = ["b", "z", "a"]
    ∧ ¬ result.Pairwise fun a b => b.name ∈ ["a", "b", "a"] → a.name ∈ ["a", "b", "a"]
  := by
  intro m result
  have hparse : Manifest.parse m.print = .ok (some m) := by decide +kernel
  have hnames : result.map (·.name) = ["b", "z", "a"] := by
    simp only [result, m]
    cbv
  refine ⟨hparse, hnames, ?_⟩
  intro hfirst
  have hlisted : ["b", "z", "a"].Pairwise fun a b => b ∈ ["a", "b", "a"] → a ∈ ["a", "b", "a"] := by
    rw [← hnames, List.pairwise_map]
    exact hfirst
  revert hlisted
  decide

end DeploymentRecipes.Application
