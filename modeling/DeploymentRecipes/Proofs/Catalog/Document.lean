import DeploymentRecipes.Catalog.Document

/-!
# What a file comes to

A file is read up to a recipe or up to something to report, unless its document asks for a value that
cannot be made, such as a date in a thirteenth month.  Then nothing is reported, and there is no
recipe.
-/

namespace DeploymentRecipes.Recipe

variable {α β : Type} {p : Prop} {x : Except FileTrouble α}

/-- A reading that comes to a result or to something to report about the file itself, unless there is
no way on. -/
inductive ReadsUnless (p : Prop) : Except FileTrouble α → Prop where
  | result (a : α) (h : ¬ p) : ReadsUnless p (.ok a)
  | report {cause : DiagnosticCause} (h : ¬ p) (hown : ∀ id files, cause ≠ .repeatedId id files) :
      ReadsUnless p (.error (.reported cause))
  | stop (e : LoadError) (h : p) : ReadsUnless p (.error (.fatal e))

theorem ReadsUnless.iff_fatal (h : ReadsUnless p x) :
  p ↔ ∃ e, x = .error (.fatal e)
  := by
  cases h with
  | result a h => simp [h]
  | report h hown => simp [h]
  | stop e h => simp [h]

theorem ReadsUnless.ne_repeatedId (h : ReadsUnless p x) (id : String) (files : List String) :
  x ≠ .error (.reported (.repeatedId id files))
  := by
  rintro rfl
  cases h with
  | report h hown => exact hown id files rfl

/-- The same reading under another description of where there is no way on. -/
theorem ReadsUnless.congr {q : Prop} (h : ReadsUnless p x) (hpq : p ↔ q) :
  ReadsUnless q x
  := by
  rwa [← hpq]

/-- If there is always a way on from the first part, what stops the whole stops the second part. -/
theorem ReadsUnless.bind_of_not {f : α → Except FileTrouble β} {q : α → Prop}
    (h : ReadsUnless False x) (hf : ∀ a, ReadsUnless (q a) (f a)) :
  ReadsUnless (∃ a, x = .ok a ∧ q a) (x >>= f)
  := by
  cases h with
  | result a _ => exact (hf a).congr (by simp)
  | report _ hown => exact .report (by simp) hown
  | stop e h => cases h

/-- If there is always a way on from the second part, what stops the whole stops the first part. -/
theorem ReadsUnless.bind {f : α → Except FileTrouble β} (h : ReadsUnless p x)
    (hf : ∀ a, ReadsUnless False (f a)) :
  ReadsUnless p (x >>= f)
  := by
  cases h with
  | result a h => exact (hf a).congr (by simp [h])
  | report h hown => exact .report h hown
  | stop e h => exact .stop e h

/-! ### Documents -/

theorem readsUnless_fileText (bytes : List UInt8) :
  ReadsUnless False (fileText bytes)
  := by
  rw [fileText]
  split
  · exact .result _ not_false
  · exact .report not_false (by simp)

theorem readsUnless_jsonDocument (text : List Char) :
  ReadsUnless
    (∃ count, Json.read (some Numeral.digitLimit) (String.ofList text) = .error (.longInteger count))
    (jsonDocument text)
  := by
  rw [jsonDocument]
  cases Json.read (some Numeral.digitLimit) (String.ofList text) with
  | ok v => exact .result v (by simp)
  | error fault =>
      cases fault with
      | defect d position => exact .report (by simp) (by simp)
      | longInteger count => exact .stop _ (by simp)

theorem readsUnless_yamlDocument (outcome : Except Yaml.LoadError Value) :
  ReadsUnless (∃ e, outcome = .error (.impossible e)) (yamlDocument outcome)
  := by
  cases outcome with
  | ok v => exact .result _ (by simp)
  | error e =>
      cases e with
      | fault f => exact .report (by simp) (by simp)
      | undecodable f => exact .report (by simp) (by simp)
      | unprintable code position => exact .report (by simp) (by simp)
      | impossible e => exact .stop _ (by simp)

/-- A document in which a value is well written and cannot be made: an integer that is too long, or
one that the reader of YAML does not get past. -/
def HasNoValue (tools : Tools) (bytes : List UInt8) : DocumentFormat → Prop
  | .json => ∃ text, fileText bytes = .ok text
      ∧ ∃ count, Json.read (some Numeral.digitLimit) (String.ofList text)
        = .error (.longInteger count)
  | .yaml => ∃ e, tools.yaml bytes = .error (.impossible e)

theorem readsUnless_documentOf (tools : Tools) (format : DocumentFormat) (bytes : List UInt8) :
  ReadsUnless (HasNoValue tools bytes format) (documentOf tools format bytes)
  := by
  cases format with
  | json => exact (readsUnless_fileText bytes).bind_of_not readsUnless_jsonDocument
  | yaml => exact readsUnless_yamlDocument (tools.yaml bytes)

/-! ### Recipes -/

theorem readsUnless_ofDocument (v : Value) :
  ReadsUnless False (ofDocument v)
  := by
  cases v with
  | map entries =>
      rw [ofDocument]
      cases ofValue (.map entries) with
      | ok recipe => exact .result recipe not_false
      | error found => exact .report not_false (by simp)
  | _ => exact .report not_false (by simp)

/-- A file that is not too large comes to a recipe or to something to report, unless its document asks
for a value that cannot be made. -/
theorem readsUnless_ofFile (tools : Tools) (limit : Int) (path : String) (file : File) :
  ReadsUnless
    (file.bytes.length ≤ limit
      ∧ HasNoValue tools file.bytes ((DocumentFormat.ofPath? path).getD .yaml))
    (ofFile tools limit path file)
  := by
  rw [ofFile]
  split
  · rename_i hsize
    exact .report (fun h => absurd h.1 (Int.not_le.mpr hsize)) (by simp)
  · rename_i hsize
    apply ((readsUnless_documentOf _ _ _).bind readsUnless_ofDocument).congr
    simp [Int.not_lt.mp hsize]

end DeploymentRecipes.Recipe
