import DeploymentRecipes.Manifest.Update
import Mathlib.Data.List.Induction
import Mathlib.Data.List.Nodup
import Mathlib.Tactic.Use

/-!
# Manifests and their histories

A manifest that is kept from the beginning is a log of what was done.  It has one entry for each
account and region that a stack was recorded for, in the order in which they came up.  An entry
lists the stacks that were recorded and have not been removed since, the latest first, and the
saved projects are those that were added, in order.
-/

namespace DeploymentRecipes

/-- The account and the region of an entry. -/
def DeployedStacks.site (d : DeployedStacks) : String × String := (d.account, d.region)

namespace Manifest

/-! ### Operations -/

/-- An operation on a manifest. -/
inductive Operation where
  | record (stack : String) (account region : Option String)
  | forget (stack : String) (account region : Option String)
  | keep (deployed : List String) (account region : Option String)
  | add (exists_ : String → Bool) (cwd target directory : String)

/-- The manifest after an operation. A deployment that cannot be recorded changes nothing. -/
def perform (m : Option Manifest) : Operation → Option Manifest
  | .record stack account region =>
    match recordDeployment m stack account region with
    | .ok m' => some m'
    | .error _ => m
  | .forget stack account region => forgetDeployment m stack account region
  | .keep deployed account region => keepDeployed m deployed account region
  | .add exists_ cwd target directory => addProject exists_ cwd m target directory

/-- The manifest that a history leaves, the latest operation being the last. -/
def ofHistory (history : List Operation) : Option Manifest := history.foldl perform none

theorem ofHistory_concat (history : List Operation) (op : Operation) :
  ofHistory (history ++ [op]) = perform (ofHistory history) op
  := by
  simp [ofHistory]

/-! ### What a history says -/

/-- The account and region, and the stack, that an operation records. -/
def Operation.recorded? : Operation → Option ((String × String) × String)
  | .record stack (some account) (some region) =>
    if account = "" ∨ region = "" then none else some ((account, region), stack)
  | _ => none

/-- An operation removes a stack of an account and region: it forgets the stack, or keeps only
others. -/
def Operation.Removes (site : String × String) (stack : String) : Operation → Prop
  | .forget other account region =>
    account = some site.1 ∧ region = some site.2 ∧ other = stack
  | .keep deployed account region =>
    account = some site.1 ∧ region = some site.2 ∧ stack ∉ deployed
  | _ => False

/-- The way from a project to the directory that an operation adds to its manifest. -/
def Operation.added? : Operation → Option String
  | .add exists_ cwd target directory =>
    if exists_ directory then
      some (Path.relative (Path.absolute cwd directory) (projectDirectory cwd target))
    else none
  | _ => none

/-- Some operation is of the first kind, and all after it are of the second. -/
def Since (first second : Operation → Prop) (history : List Operation) : Prop :=
  ∃ before op after, history = before ++ op :: after ∧ first op ∧ ∀ op' ∈ after, second op'

theorem not_since_nil (first second : Operation → Prop) :
  ¬ Since first second []
  := by
  rintro ⟨before, op, after, heq, -⟩
  simp at heq

theorem since_concat {first second : Operation → Prop} {history : List Operation}
    {op : Operation} :
  Since first second (history ++ [op])
    ↔ first op ∨ Since first second history ∧ second op
  := by
  constructor
  · rintro ⟨before, op', after, heq, hfirst, hsecond⟩
    rcases List.eq_nil_or_concat' after with rfl | ⟨after, last, rfl⟩
    · obtain ⟨-, hop⟩ := List.append_inj' heq rfl
      obtain rfl : op = op' := by simpa using hop
      exact Or.inl hfirst
    · rw [← List.cons_append, ← List.append_assoc] at heq
      obtain ⟨hhistory, hlast⟩ := List.append_inj' heq rfl
      obtain rfl : op = last := by simpa using hlast
      right
      constructor
      · use before, op', after, hhistory, hfirst
        intro op'' hop
        apply hsecond op'' (List.mem_append_left _ hop)
      · apply hsecond op (List.mem_append_right _ List.mem_cons_self)
  · rintro (hfirst | ⟨⟨before, op', after, rfl, hfirst, hsecond⟩, hop⟩)
    · use history, op, [], rfl, hfirst
      simp
    · use before, op', after ++ [op], by simp, hfirst
      intro op'' hmem
      rcases List.mem_append.mp hmem with hmem | hmem
      · apply hsecond op'' hmem
      · rw [List.mem_singleton] at hmem
        rwa [hmem]

/-- A stack was recorded for an account and region and has not been removed since. -/
def IsDeployed (history : List Operation) (site : String × String) (stack : String) : Prop :=
  Since (fun op => op.recorded? = some (site, stack)) (fun op => ¬ op.Removes site stack) history

/-- A stack was recorded for an account and region, and another one has not been since. -/
def IsLater (history : List Operation) (site : String × String) (stack other : String) : Prop :=
  Since (fun op => op.recorded? = some (site, stack))
    (fun op => op.recorded? ≠ some (site, other)) history

/-! ### What an operation does to the entries -/

/-- The entries of a manifest, if there is one. -/
def entries (m : Option Manifest) : List DeployedStacks := (m.bind (·.deployed)).getD []

/-- The stacks of an account and region. -/
def stacksAt (m : Option Manifest) (site : String × String) : List String :=
  (((entries m).find? (·.site == site)).map (·.stackNames)).getD []

/-- What an operation makes of the stacks of an account and region. -/
def Operation.effect (site : String × String) (names : List String) : Operation → List String
  | .record stack account region =>
    if (record stack account region).recorded? = some (site, stack) then latestFirst stack names
    else names
  | .forget stack account region =>
    if account = some site.1 ∧ region = some site.2 then names.erase stack else names
  | .keep deployed account region =>
    if account = some site.1 ∧ region = some site.2 then names.filter deployed.contains
    else names
  | .add _ _ _ _ => names

theorem belongsTo_iff {account region : Option String} {d : DeployedStacks} :
  belongsTo account region d = true ↔ account = some d.site.1 ∧ region = some d.site.2
  := by
  simp [belongsTo, DeployedStacks.site]

theorem sites_changeFirst (qualifies : DeployedStacks → Bool)
    (change : List String → List String) (ds : List DeployedStacks) :
  (changeFirst qualifies change ds).map (·.site) = ds.map (·.site)
  := by
  induction ds with
  | nil => rfl
  | cons d ds ih =>
      rw [changeFirst]
      split
      · rfl
      · rw [List.map_cons, List.map_cons, ih]

/-- A change of the first entry of an account and region is seen there and nowhere else. -/
theorem find?_changeFirst (account region : Option String)
    (change : List String → List String) (site : String × String) (ds : List DeployedStacks) :
  (changeFirst (belongsTo account region) change ds).find? (·.site == site)
    = if account = some site.1 ∧ region = some site.2 then
        (ds.find? (·.site == site)).map fun d => { d with stackNames := change d.stackNames }
      else ds.find? (·.site == site)
  := by
  induction ds with
  | nil => simp [changeFirst]
  | cons d ds ih =>
      rw [changeFirst]
      by_cases hd : d.site = site
      · subst hd
        by_cases hbelongs : belongsTo account region d
        · rw [if_pos hbelongs, if_pos (belongsTo_iff.mp hbelongs)]
          simp [DeployedStacks.site]
        · rw [if_neg hbelongs, if_neg (mt belongsTo_iff.mpr hbelongs)]
          simp
      · have hskip : ∀ ds', (d :: ds').find? (·.site == site) = ds'.find? (·.site == site) := by
          intro ds'
          rw [List.find?_cons_of_neg]
          simpa using hd
        by_cases hbelongs : belongsTo account region d
        · have hother : ¬ (account = some site.1 ∧ region = some site.2) := by
            rintro ⟨haccount, hregion⟩
            obtain ⟨haccount', hregion'⟩ := belongsTo_iff.mp hbelongs
            apply hd
            apply Prod.ext
            · apply Option.some.inj (haccount'.symm.trans haccount)
            · apply Option.some.inj (hregion'.symm.trans hregion)
          rw [if_pos hbelongs, if_neg hother, hskip, List.find?_cons_of_neg]
          simpa [DeployedStacks.site] using hd
        · rw [if_neg hbelongs, hskip, hskip, ih]

theorem entries_changeStacks (m : Manifest) (account region : Option String)
    (change : List String → List String) :
  entries (some (m.changeStacks account region change))
    = changeFirst (belongsTo account region) change (entries (some m))
  := by
  obtain ⟨deployed, projects⟩ := m
  cases deployed <;> rfl

/-- The accounts and regions of the entries. -/
def sites (m : Option Manifest) : List (String × String) := (entries m).map (·.site)

theorem sites_changeStacks (m : Manifest) (account region : Option String)
    (change : List String → List String) :
  sites (some (m.changeStacks account region change)) = sites (some m)
  := by
  rw [sites, entries_changeStacks, sites_changeFirst, sites]

/-- The stacks of an account and region after a change of the stacks of another one or the same. A
change that makes something of nothing needs an entry. -/
theorem stacksAt_changeStacks {m : Manifest} {account region : Option String}
    {change : List String → List String} {site : String × String}
    (h : account = some site.1 ∧ region = some site.2 →
      change [] = [] ∨ site ∈ sites (some m)) :
  stacksAt (some (m.changeStacks account region change)) site
    = if account = some site.1 ∧ region = some site.2 then change (stacksAt (some m) site)
      else stacksAt (some m) site
  := by
  rw [stacksAt, entries_changeStacks, find?_changeFirst, stacksAt]
  split
  · rename_i hsame
    cases hfind : (entries (some m)).find? (·.site == site) with
    | none =>
        rcases h hsame with h | h
        · simp [h]
        · obtain ⟨d, hd, hsite⟩ := List.mem_map.mp h
          have hnone := List.find?_eq_none.mp hfind d hd
          simp [hsite] at hnone
    | some d => rfl
  · rfl

/-- An operation that records a deployment names the stack, the account and the region. -/
theorem recorded?_eq_some_iff {op : Operation} {site : String × String} {stack : String} :
  op.recorded? = some (site, stack)
    ↔ op = .record stack (some site.1) (some site.2) ∧ site.1 ≠ "" ∧ site.2 ≠ ""
  := by
  constructor
  · intro h
    cases op with
    | record other account region =>
        cases account with
        | none => cases h
        | some account =>
            cases region with
            | none => cases h
            | some region =>
                rw [Operation.recorded?] at h
                split at h
                · cases h
                · rename_i hempty
                  rw [not_or] at hempty
                  cases h
                  exact ⟨rfl, hempty⟩
    | _ => cases h
  · rintro ⟨rfl, haccount, hregion⟩
    simp [Operation.recorded?, haccount, hregion]

/-- What becomes of a manifest when a deployment is recorded: nothing if the account or the region
is missing; else the entry of the site is changed, or there is none and a new one is made. -/
theorem perform_record_cases (m : Option Manifest) (stack : String)
    (account region : Option String) :
  ((Operation.record stack account region).recorded? = none
      ∧ perform m (.record stack account region) = m)
    ∨ ∃ site, (Operation.record stack account region).recorded? = some (site, stack)
      ∧ (site ∈ sites m ∧ perform m (.record stack account region)
          = some ((m.getD empty).changeStacks (some site.1) (some site.2) (latestFirst stack))
        ∨ site ∉ sites m ∧ perform m (.record stack account region)
          = some { m.getD empty with
              deployed := some (entries m ++ [⟨site.1, site.2, [stack]⟩]) })
  := by
  cases account with
  | none => exact Or.inl ⟨rfl, rfl⟩
  | some account =>
      cases region with
      | none =>
          left
          use rfl
          rw [perform, recordDeployment]
          cases given? (some account) <;> rfl
      | some region =>
          by_cases hempty : account = "" ∨ region = ""
          · left
            rw [Operation.recorded?, if_pos hempty]
            use rfl
            rw [perform, recordDeployment]
            rcases hempty with rfl | rfl
            · rfl
            · cases given? (some account) <;> rfl
          · right
            use (account, region)
            rw [Operation.recorded?, if_neg hempty]
            use rfl
            rw [not_or] at hempty
            have haccount : given? (some account) = some account := by simp [given?, hempty.1]
            have hregion : given? (some region) = some region := by simp [given?, hempty.2]
            have hentries : (m.getD empty).deployed.getD [] = entries m := by
              cases m <;> rfl
            have hentry : ((m.getD empty).entryFor (some account) (some region)).isSome
                ↔ (account, region) ∈ sites m := by
              rw [entryFor, List.find?_isSome, hentries, sites, List.mem_map]
              apply exists_congr
              intro d
              rw [belongsTo_iff, Prod.ext_iff, Option.some.injEq, Option.some.injEq]
              simp only [eq_comm]
            by_cases hsite : (account, region) ∈ sites m
            · left
              use hsite
              rw [perform, recordDeployment, haccount, hregion]
              simp only [if_pos (hentry.mpr hsite)]
            · right
              use hsite
              rw [perform, recordDeployment, haccount, hregion]
              simp only [if_neg (mt hentry.mp hsite), hentries]

theorem entries_getD_empty (m : Option Manifest) :
  entries (some (m.getD empty)) = entries m
  := by
  cases m <;> rfl

/-- The accounts and regions after an operation: one more if the operation records a stack for a new
one. -/
theorem sites_perform (m : Option Manifest) (op : Operation) :
  sites (perform m op) = match op.recorded? with
    | some (site, _) => if site ∈ sites m then sites m else sites m ++ [site]
    | none => sites m
  := by
  cases op with
  | record stack account region =>
      rcases perform_record_cases m stack account region with
        ⟨hnone, heq⟩ | ⟨site, hsome, ⟨hsite, heq⟩ | ⟨hsite, heq⟩⟩
      · rw [hnone, heq]
      · simp only [hsome, heq, if_pos hsite]
        rw [sites_changeStacks, sites, entries_getD_empty, sites]
      · simp only [hsome, heq, if_neg hsite]
        simp [sites, entries, DeployedStacks.site]
  | forget stack account region =>
      cases m with
      | none => rfl
      | some m => apply sites_changeStacks
  | keep deployed account region =>
      cases m with
      | none => rfl
      | some m => apply sites_changeStacks
  | add exists_ cwd target directory =>
      rw [perform, addProject]
      split
      · cases m <;> rfl
      · rfl

theorem find?_entries_of_not_mem {m : Option Manifest} {site : String × String}
    (h : site ∉ sites m) :
  (entries m).find? (·.site == site) = none
  := by
  rw [List.find?_eq_none]
  intro d hd hsite
  apply h
  rw [← eq_of_beq hsite]
  apply List.mem_map_of_mem hd

theorem stacksAt_of_not_mem {m : Option Manifest} {site : String × String} (h : site ∉ sites m) :
  stacksAt m site = []
  := by
  rw [stacksAt, find?_entries_of_not_mem h]
  rfl

/-- The stacks of an account and region once there is an entry for a new one. -/
theorem stacksAt_newEntry {m : Option Manifest} (projects : Option (List SavedProject))
    {site' : String × String} (h : site' ∉ sites m) {names : List String}
    {site : String × String} :
  stacksAt (some ⟨some (entries m ++ [⟨site'.1, site'.2, names⟩]), projects⟩) site
    = if site' = site then names else stacksAt m site
  := by
  have hnew : (⟨site'.1, site'.2, names⟩ : DeployedStacks).site = site' := rfl
  rw [stacksAt, entries]
  simp only [Option.bind_some, Option.getD_some, List.find?_append]
  by_cases hsame : site' = site
  · subst hsame
    simp [find?_entries_of_not_mem h, hnew]
  · simp [hnew, hsame, stacksAt]

/-- The stacks of an account and region after an operation. -/
theorem stacksAt_perform (m : Option Manifest) (op : Operation) (site : String × String) :
  stacksAt (perform m op) site = op.effect site (stacksAt m site)
  := by
  cases op with
  | record stack account region =>
      rw [Operation.effect]
      rcases perform_record_cases m stack account region with
        ⟨hnone, heq⟩ | ⟨site', hsome, ⟨hsite, heq⟩ | ⟨hsite, heq⟩⟩
      · simp [hnone, heq]
      · rw [heq, stacksAt_changeStacks, hsome]
        · have hview : stacksAt (some (m.getD empty)) site = stacksAt m site := by
            rw [stacksAt, entries_getD_empty, stacksAt]
          simp [hview, Prod.ext_iff]
        · rintro ⟨haccount, hregion⟩
          right
          have hsites : sites (some (m.getD empty)) = sites m := by
            rw [sites, entries_getD_empty, sites]
          rwa [hsites, ← Prod.ext (Option.some.inj haccount) (Option.some.inj hregion)]
      · rw [heq, hsome, stacksAt_newEntry _ hsite]
        by_cases hsame : site' = site
        · subst hsame
          simp [stacksAt_of_not_mem hsite, latestFirst]
        · simp [hsame]
  | forget stack account region =>
      cases m with
      | none => simp [Operation.effect, perform, forgetDeployment, stacksAt, entries]
      | some m => exact stacksAt_changeStacks fun _ => Or.inl rfl
  | keep deployed account region =>
      cases m with
      | none => simp [Operation.effect, perform, keepDeployed, stacksAt, entries]
      | some m => exact stacksAt_changeStacks fun _ => Or.inl rfl
  | add exists_ cwd target directory =>
      rw [perform, addProject]
      split
      · cases m <;> rfl
      · rfl

/-- The saved projects of a manifest, by the ways to their directories. -/
def ways (m : Option Manifest) : List (Option String) :=
  ((m.bind (·.projects)).getD []).map (·.directory)

/-- The saved projects after an operation: one more if the operation adds one. -/
theorem ways_perform (m : Option Manifest) (op : Operation) :
  ways (perform m op) = ways m ++ (op.added?.map some).toList
  := by
  cases op with
  | record stack account region =>
      have hnone : (Operation.record stack account region).added? = none := rfl
      rw [hnone, Option.map_none, Option.toList_none, List.append_nil]
      rcases perform_record_cases m stack account region with
        ⟨-, heq⟩ | ⟨site, -, ⟨-, heq⟩ | ⟨-, heq⟩⟩
      · rw [heq]
      · rw [heq]
        cases m <;> rfl
      · rw [heq]
        cases m <;> rfl
  | forget stack account region =>
      cases m with
      | none => rfl
      | some m => simp [perform, forgetDeployment, changeStacks, ways, Operation.added?]
  | keep deployed account region =>
      cases m with
      | none => rfl
      | some m => simp [perform, keepDeployed, changeStacks, ways, Operation.added?]
  | add exists_ cwd target directory =>
      rw [perform, addProject, Operation.added?]
      split
      · cases m with
        | none => rfl
        | some m => simp [ways]
      · simp

/-! ### The log -/

/-- The stacks of an account and region as a history has them: those that are deployed, each once
and the latest first. -/
structure Lists (history : List Operation) (site : String × String) (names : List String) :
    Prop where
  nodup : names.Nodup
  mem_iff : ∀ stack, stack ∈ names ↔ IsDeployed history site stack
  latest : names.Pairwise (IsLater history site)

theorem lists_nil (site : String × String) :
  Lists [] site []
  := by
  constructor
  · apply List.nodup_nil
  · intro stack
    simp [IsDeployed, not_since_nil]
  · apply List.Pairwise.nil

/-- An operation that records nothing for an account and region leaves the stacks that it does not
remove. -/
theorem Lists.sublist {history : List Operation} {site : String × String} {names : List String}
    (h : Lists history site names) {op : Operation}
    (hrecorded : ∀ stack, op.recorded? ≠ some (site, stack))
    {rest : List String} (hsub : rest.Sublist names)
    (hrest : ∀ stack, stack ∈ rest ↔ stack ∈ names ∧ ¬ op.Removes site stack) :
  Lists (history ++ [op]) site rest
  := by
  constructor
  · apply h.nodup.sublist hsub
  · intro stack
    rw [hrest, h.mem_iff, IsDeployed, IsDeployed, since_concat]
    simp [hrecorded]
  · apply (h.latest.sublist hsub).imp
    intro stack other hlater
    rw [IsLater, since_concat]
    exact Or.inr ⟨hlater, hrecorded other⟩

/-- A stack that an operation records comes first, and the others keep their order. -/
theorem Lists.latestFirst {history : List Operation} {site : String × String}
    {names : List String} (h : Lists history site names) {op : Operation} {stack : String}
    (hrecorded : op.recorded? = some (site, stack))
    (hremoves : ∀ other, ¬ op.Removes site other) :
  Lists (history ++ [op]) site (Manifest.latestFirst stack names)
  := by
  constructor
  · rw [Manifest.latestFirst, List.nodup_cons]
    exact ⟨h.nodup.not_mem_erase, h.nodup.erase stack⟩
  · intro other
    rw [Manifest.latestFirst, List.mem_cons, h.nodup.mem_erase_iff, h.mem_iff, IsDeployed,
      IsDeployed, since_concat]
    simp only [hrecorded, hremoves, Option.some.injEq, Prod.mk.injEq, true_and,
      not_false_eq_true, and_true]
    by_cases hother : other = stack
    · simp [hother]
    · simp [hother, Ne.symm hother]
  · rw [Manifest.latestFirst, List.pairwise_cons]
    constructor
    · intro other _
      rw [IsLater, since_concat]
      exact Or.inl hrecorded
    · -- The operation records none of the others, so their order stays what the history says.
      apply (h.latest.sublist List.erase_sublist).imp_of_mem
      intro earlier other _ hother hlater
      rw [IsLater, since_concat, hrecorded]
      right
      use hlater
      rintro heq
      obtain rfl : stack = other := by simpa using heq
      apply h.nodup.not_mem_erase hother

/-- The effect of an operation on the stacks is what the history says of it. -/
theorem Lists.effect {history : List Operation} {site : String × String} {names : List String}
    (h : Lists history site names) (op : Operation) :
  Lists (history ++ [op]) site (op.effect site names)
  := by
  cases op with
  | record stack account region =>
      rw [Operation.effect]
      generalize hop : Operation.record stack account region = op
      have hremoves : ∀ other, ¬ op.Removes site other := by
        rw [← hop]
        exact fun _ => id
      split
      · rename_i hrecorded
        apply h.latestFirst hrecorded hremoves
      · rename_i hrecorded
        apply h.sublist _ (List.Sublist.refl _)
        · simp [hremoves]
        · intro other hother
          apply hrecorded
          rw [← hop] at hother
          obtain ⟨heq, -, -⟩ := recorded?_eq_some_iff.mp hother
          cases heq
          rw [← hop, hother]
  | forget stack account region =>
      rw [Operation.effect]
      split
      · rename_i hsite
        apply h.sublist (by simp [Operation.recorded?]) List.erase_sublist
        intro other
        rw [h.nodup.mem_erase_iff, Operation.Removes]
        simp [hsite, and_comm, eq_comm]
      · rename_i hsite
        apply h.sublist (by simp [Operation.recorded?]) (List.Sublist.refl _)
        intro other
        rw [Operation.Removes]
        tauto
  | keep deployed account region =>
      rw [Operation.effect]
      split
      · rename_i hsite
        apply h.sublist (by simp [Operation.recorded?]) List.filter_sublist
        intro other
        rw [List.mem_filter, Operation.Removes]
        simp [hsite]
      · rename_i hsite
        apply h.sublist (by simp [Operation.recorded?]) (List.Sublist.refl _)
        intro other
        rw [Operation.Removes]
        tauto
  | add exists_ cwd target directory =>
      apply h.sublist (by simp [Operation.recorded?]) (List.Sublist.refl _)
      simp [Operation.Removes]

/-- A manifest is the log of a history: one entry for each account and region, in the order in which
stacks were first recorded for them, each with the stacks that are deployed, and the added projects
in order. -/
structure IsLog (history : List Operation) (m : Option Manifest) : Prop where
  nodup : (sites m).Nodup
  sites_eq : sites m = (history.filterMap fun op => op.recorded?.map (·.1)).eraseDups
  lists : ∀ d ∈ entries m, Lists history d.site d.stackNames
  ways_eq : ways m = (history.filterMap Operation.added?).map some

/-- What holds of the stacks of an account and region holds of its entry. -/
theorem stacksAt_of_mem {m : Option Manifest} (hnodup : (sites m).Nodup) {d : DeployedStacks}
    (hd : d ∈ entries m) :
  stacksAt m d.site = d.stackNames
  := by
  rw [stacksAt]
  cases hfind : (entries m).find? (·.site == d.site) with
  | none =>
      have hnone := List.find?_eq_none.mp hfind d hd
      simp at hnone
  | some d' =>
      have hsite : d'.site = d.site := by simpa using List.find?_some hfind
      have heq := List.inj_on_of_nodup_map hnodup (List.mem_of_find?_eq_some hfind) hd hsite
      rw [heq]
      rfl

theorem lists_stacksAt (history : List Operation) (site : String × String) :
  Lists history site (stacksAt (ofHistory history) site)
  := by
  induction history using List.reverseRecOn with
  | nil => apply lists_nil
  | append_singleton history op ih =>
      rw [ofHistory_concat, stacksAt_perform]
      apply ih.effect

theorem nodup_sites_ofHistory (history : List Operation) :
  (sites (ofHistory history)).Nodup
  := by
  induction history using List.reverseRecOn with
  | nil => apply List.nodup_nil
  | append_singleton history op ih =>
      rw [ofHistory_concat, sites_perform]
      split
      · split
        · exact ih
        · rename_i hsite
          rw [← List.concat_eq_append, List.nodup_concat]
          exact ⟨hsite, ih⟩
      · exact ih

/-- An item that comes once more is not listed again, and a new one is listed last. -/
theorem eraseDups_concat {α : Type} [BEq α] [LawfulBEq α] (l : List α) (a : α) :
  (l ++ [a]).eraseDups = if a ∈ l.eraseDups then l.eraseDups else l.eraseDups ++ [a]
  := by
  rw [List.eraseDups_append]
  by_cases ha : a ∈ l
  · simp [List.removeAll, ha]
  · simp [List.removeAll, ha, List.eraseDups_cons]

theorem sites_ofHistory (history : List Operation) :
  sites (ofHistory history) = (history.filterMap fun op => op.recorded?.map (·.1)).eraseDups
  := by
  induction history using List.reverseRecOn with
  | nil => rfl
  | append_singleton history op ih =>
      rw [ofHistory_concat, sites_perform, ih, List.filterMap_append]
      cases hrecorded : op.recorded? with
      | none => simp [hrecorded]
      | some p => simp [hrecorded, eraseDups_concat]

theorem ways_ofHistory (history : List Operation) :
  ways (ofHistory history) = (history.filterMap Operation.added?).map some
  := by
  induction history using List.reverseRecOn with
  | nil => rfl
  | append_singleton history op ih =>
      rw [ofHistory_concat, ways_perform, ih, List.filterMap_append, List.map_append]
      cases hadded : op.added? <;> simp [hadded]

/-- A manifest that is kept from the beginning is the log of its history. -/
theorem isLog_ofHistory (history : List Operation) :
  IsLog history (ofHistory history)
  := by
  constructor
  · apply nodup_sites_ofHistory
  · apply sites_ofHistory
  · intro d hd
    rw [← stacksAt_of_mem (nodup_sites_ofHistory history) hd]
    apply lists_stacksAt
  · apply ways_ofHistory

/-- A stack that is recorded once more comes first again, and a stack that is forgotten in one region
stays in the other. -/
example :
  let history : List Operation := [
    .record "web" (some "1") (some "north"), .record "jobs" (some "1") (some "north"),
    .record "web" (some "1") (some "south"), .record "web" (some "1") (some "north"),
    .forget "web" (some "1") (some "south")]
  entries (ofHistory history) = [⟨"1", "north", ["web", "jobs"]⟩, ⟨"1", "south", []⟩]
  := by
  decide +kernel

end Manifest
end DeploymentRecipes
