import DeploymentRecipes.Proofs.Catalog.Session
import DeploymentRecipes.Proofs.Json.RoundTrip

/-!
# Plain files

A file of ASCII characters without carriage returns holds the text that its bytes spell.  A textual
document of ASCII texts is printed in such characters, so a file with its JSON holds the recipe of the
document.
-/

namespace DeploymentRecipes

namespace Text

/-- An ASCII character, but no carriage return. -/
def IsPlain (c : Char) : Prop := c.toNat < 0x80 ∧ c ≠ '\r'

instance (c : Char) : Decidable (IsPlain c) := inferInstanceAs (Decidable (_ ∧ _))

theorem toNat_asciiByte {c : Char} (h : IsPlain c) :
  (UInt8.ofNat c.toNat).toNat = c.toNat
  := by
  have hlt := h.1
  rw [UInt8.toNat_ofNat']
  omega

theorem utf8Chars_of_isPlain {cs : List Char} (h : ∀ c ∈ cs, IsPlain c) (position : Nat)
    (acc : List Char) :
  utf8Chars (cs.map fun c => UInt8.ofNat c.toNat) position 0 acc = .ok (acc.reverse ++ cs)
  := by
  induction cs generalizing position acc with
  | nil => simp [utf8Chars]
  | cons c cs ih =>
      rw [List.forall_mem_cons] at h
      rw [List.map_cons, utf8Chars, toNat_asciiByte h.1, if_pos h.1.1, ih h.2, Char.ofNat_toNat,
        List.reverse_cons, List.append_assoc, List.singleton_append]

/-- The bytes of plain characters are decoded as these. -/
theorem decodeMarked_of_isPlain {s : String} (h : ∀ c ∈ s.toList, IsPlain c) :
  decodeMarked (s.toList.map fun c => UInt8.ofNat c.toNat) = .ok s
  := by
  have hdecode : decodeUtf8 (s.toList.map fun c => UInt8.ofNat c.toNat) = .ok s := by
    rw [decodeUtf8, utf8Chars_of_isPlain h]
    simp [Except.map]
  rw [decodeMarked]
  · exact hdecode
  · -- A byte order mark does not start with the byte of an ASCII character.
    intro bytes hmark
    have hmem : (0xef : UInt8) ∈ s.toList.map fun c => UInt8.ofNat c.toNat := by
      rw [hmark]
      apply List.mem_cons_self
    obtain ⟨c, hc, hbyte⟩ := List.mem_map.mp hmem
    have hlt := (h c hc).1
    rw [← toNat_asciiByte (h c hc), hbyte] at hlt
    cases hlt.not_ge (by decide)

theorem unifyFrom_of_isPlain {cs : List Char} (h : ∀ c ∈ cs, IsPlain c) (acc : List Char) :
  unifyFrom cs acc = acc.reverse ++ cs
  := by
  induction cs generalizing acc with
  | nil => simp [unifyFrom]
  | cons c cs ih =>
      rw [List.forall_mem_cons] at h
      have hreturn := h.1.2
      rw [unifyFrom, ih h.2, List.reverse_cons, List.append_assoc, List.singleton_append]
      · rintro _ rfl
        cases hreturn rfl
      · rintro rfl
        cases hreturn rfl

end Text

namespace Json

open Text (IsPlain)

/-! ### Printing in plain characters -/

/-- All characters of a text are plain. -/
def AllPlain (s : String) : Prop := ∀ c ∈ s.toList, IsPlain c

instance (s : String) : Decidable (AllPlain s) := List.decidableBAll IsPlain s.toList

theorem AllPlain.append {s t : String} (hs : AllPlain s) (ht : AllPlain t) :
  AllPlain (s ++ t)
  := by
  intro c hc
  rw [String.toList_append, List.mem_append] at hc
  exact hc.elim (hs c) (ht c)

theorem allPlain_intercalate {sep : String} (hsep : AllPlain sep) {parts : List String}
    (h : ∀ part ∈ parts, AllPlain part) :
  AllPlain (sep.intercalate parts)
  := by
  induction parts with
  | nil => exact List.forall_mem_nil _
  | cons part parts ih =>
      rw [List.forall_mem_cons] at h
      cases parts with
      | nil =>
          rw [String.intercalate_singleton]
          exact h.1
      | cons next parts =>
          rw [String.intercalate_cons_cons]
          exact (h.1.append hsep).append (ih h.2)

/-- The escapes of ASCII characters are plain. -/
theorem allPlain_escaped {c : Char} (hc : c.toNat < 0x80) :
  AllPlain (escaped false c)
  := by
  have hall : ∀ n < 0x80, AllPlain (escaped false (Char.ofNat n)) := by decide +kernel
  have hplain := hall c.toNat hc
  rwa [Char.ofNat_toNat] at hplain

theorem allPlain_textLiteral {s : String} (h : ∀ c ∈ s.toList, c.toNat < 0x80) :
  AllPlain (textLiteral false s)
  := by
  intro c hc
  rw [toList_textLiteral, List.mem_cons, List.mem_append, List.mem_singleton, inner,
    List.mem_flatMap] at hc
  rcases hc with rfl | ⟨d, hd, hc⟩ | rfl
  · decide
  · exact allPlain_escaped (h d hd) c hc
  · decide

theorem allPlain_newLine (depth : Nat) :
  AllPlain (newLine depth)
  := by
  intro c hc
  rcases (by simpa [newLine] using hc) with rfl | ⟨-, rfl⟩ <;> decide

theorem allPlain_block {opening closing : String} (hopening : AllPlain opening)
    (hclosing : AllPlain closing) (depth : Nat) {parts : List String}
    (h : ∀ part ∈ parts, AllPlain part) :
  AllPlain (block opening closing depth parts)
  := by
  have hsep : AllPlain ("," ++ newLine (depth + 1)) := by
    apply AllPlain.append _ (allPlain_newLine _)
    decide
  rw [block]
  split
  · exact hopening.append hclosing
  · exact (((hopening.append (allPlain_newLine _)).append (allPlain_intercalate hsep h)).append
      (allPlain_newLine _)).append hclosing

mutual

/-- The texts that a textual value is made of, with the keys. -/
def texts : Value → List String
  | .str s => [s]
  | .list items => textsOfItems items
  | .map entries => textsOfEntries entries
  | _ => []

def textsOfItems : List Value → List String
  | [] => []
  | v :: vs => texts v ++ textsOfItems vs

def textsOfEntries : List (Value × Value) → List String
  | [] => []
  | (k, v) :: es => keyText k :: (texts v ++ textsOfEntries es)

end

theorem textsOfItems_eq_flatMap (items : List Value) :
  textsOfItems items = items.flatMap texts
  := by
  induction items with
  | nil => rfl
  | cons v vs ih => rw [textsOfItems, ih, List.flatMap_cons]

theorem textsOfEntries_eq_flatMap (fields : List (String × Value)) :
  textsOfEntries (fields.map fun f => (.str f.1, f.2)) = fields.flatMap fun f => f.1 :: texts f.2
  := by
  induction fields with
  | nil => rfl
  | cons f fields ih =>
      rw [List.map_cons, textsOfEntries, ih, List.flatMap_cons, keyText, List.cons_append]

/-- A textual value of ASCII texts is printed in plain characters. -/
theorem allPlain_print {n : Nat} {v : Value} (h : IsTextual n v)
    (htexts : ∀ s ∈ texts v, ∀ c ∈ s.toList, c.toNat < 0x80) (depth : Nat) :
  AllPlain (print false depth v)
  := by
  induction h generalizing depth with
  | text n s => exact allPlain_textLiteral (htexts s List.mem_cons_self)
  | list h ih =>
      rw [texts, textsOfItems_eq_flatMap] at htexts
      rw [print, printItems_eq_map]
      apply allPlain_block (by decide) (by decide)
      rw [List.forall_mem_map]
      intro v hv
      exact ih v hv (fun s hs => htexts s (List.mem_flatMap_of_mem hv hs)) _
  | map hnodup h ih =>
      rw [Value.ofFields, texts, textsOfEntries_eq_flatMap] at htexts
      rw [Value.ofFields, print, printEntries_eq_map]
      apply allPlain_block (by decide) (by decide)
      rw [List.forall_mem_map]
      intro f hf
      have hkey := htexts f.1 (List.mem_flatMap_of_mem hf List.mem_cons_self)
      have hvalue := ih f hf
        (fun s hs => htexts s (List.mem_flatMap_of_mem hf (List.mem_cons_of_mem _ hs)))
      exact ((allPlain_textLiteral hkey).append (by decide)).append (hvalue _)

end Json

namespace Catalog

/-! ### Written documents -/

/-- The bytes of the JSON of a document. -/
def writtenBytes (v : Value) : List UInt8 := asciiBytes (Json.print false 0 v)

/-- Whether a document is textual, of so many levels and with ASCII texts. -/
def isWritable (levels : Nat) (v : Value) : Bool :=
  Json.isTextual levels v && (Json.texts v).all fun s => s.toList.all (·.toNat < 0x80)

/-- A file with a written document holds the recipe of the document. -/
theorem read_of_isWritable {place : Place} {limit : Int} {path : String} {modified levels : Nat}
    {v : Value} {recipe : Recipe} (hfile : place.file? path = some ⟨writtenBytes v, modified⟩)
    (hformat : DocumentFormat.ofPath? path = some .json) (hv : isWritable levels v = true)
    (hsize : ((writtenBytes v).length : Int) ≤ limit) (hrecipe : Recipe.ofDocument v = .ok recipe) :
  read place limit path = .ok recipe
  := by
  rw [isWritable, Bool.and_eq_true, List.all_eq_true] at hv
  obtain ⟨hcheck, hascii⟩ := hv
  have htextual : Json.IsTextual levels v := .of_check hcheck
  have hplain : Json.AllPlain (Json.print false 0 v) := by
    apply Json.allPlain_print htextual
    intro s hs c hc
    simpa using List.all_eq_true.mp (hascii s hs) c hc
  have hdecode : Recipe.fileText (writtenBytes v) = .ok (Json.print false 0 v).toList := by
    simp only [Recipe.fileText, writtenBytes, asciiBytes, Text.decodeMarked_of_isPlain hplain,
      Text.unifyLineEnds, Text.unifyFrom_of_isPlain hplain, List.reverse_nil, List.nil_append]
  have hdocument : Recipe.jsonDocument (Json.print false 0 v).toList = .ok v := by
    rw [Recipe.jsonDocument, String.ofList_toList, Json.read_print htextual]
  rw [read, hfile, Option.getD_some, Recipe.ofFile, hformat, Option.getD_some, Recipe.documentOf]
  simp only [if_neg hsize.not_gt, hdecode, bind, Except.bind, hdocument, hrecipe]

/-- A folder with written documents, given with the names of their files. -/
def folder (documents : List (String × Value)) : Place where
  tree := {
    files := documents.map fun d => (["recipes", d.1], ⟨writtenBytes d.2, 1⟩)
    directories := [["recipes"]] }
  cwd := []
  home := "/"

/-- The number of bytes of all the files in the folder. -/
def folderSize (documents : List (String × Value)) : Nat :=
  documents.foldr (fun d size => (writtenBytes d.2).length + size) 0

/-- Options for the folder, with a limit that the documents keep. -/
def folderOptions (strict : Bool) (documents : List (String × Value)) : CatalogOptions where
  paths := ["/recipes"]
  recursive := false
  strict := strict
  sizeLimit := folderSize documents

/-- The request that has these options. -/
def folderRequest (strict : Bool) (documents : List (String × Value)) : CatalogRequest where
  paths := some ["/recipes"]
  recursive := some false
  strict := some strict
  sizeLimit := some (folderSize documents)

variable {strict : Bool} {documents : List (String × Value)}

/-- A document in the folder keeps the limit. -/
theorem length_writtenBytes_le {d : String × Value} (hd : d ∈ documents) :
  ((writtenBytes d.2).length : Int) ≤ folderSize documents
  := by
  rw [Int.ofNat_le]
  induction documents with
  | nil => cases hd
  | cons first documents ih =>
      rw [folderSize, List.foldr_cons]
      rcases List.mem_cons.mp hd with rfl | hd
      · apply Nat.le_add_right
      · apply (ih hd).trans (Nat.le_add_left _ _)

theorem run_refresh_folder (strict : Bool) (documents : List (String × Value)) :
  (Session.ofRequest (folder documents) (folderRequest strict documents) emptyConfig).run .delivered
      [.refresh false]
    = (Session.start (folder documents) (folderOptions strict documents)).refresh .delivered false
  := by
  have hroot : Path.absolute "/" "/recipes" = "/recipes" := rfl
  have hoptions : (folderRequest strict documents).options (folder documents).cwdPath emptyConfig
      = folderOptions strict documents := by
    change CatalogOptions.mk [Path.absolute "/" "/recipes"] false strict _ = _
    rw [hroot]
    rfl
  rw [Session.ofRequest_run_refresh hoptions]

/-- A catalog over a folder with a single document shows the recipe in it, if the recipe is sound. -/
theorem mem_recipes_of_onlyFile {d : String × Value} {path : String} {levels : Nat} {recipe : Recipe}
    (hfiles : files (folder [d]) (folderOptions strict [d]) = [path])
    (hfile : (folder [d]).file? path = some ⟨writtenBytes d.2, 1⟩)
    (hformat : DocumentFormat.ofPath? path = some .json) (hv : isWritable levels d.2 = true)
    (hrecipe : Recipe.ofDocument d.2 = .ok recipe) (hsound : recipe.Sound .delivered strict) :
  recipe ∈ ((Session.ofRequest (folder [d]) (folderRequest strict [d]) emptyConfig).run .delivered
    [.refresh false]).catalog.recipes
  := by
  have honly : (⟨path, recipe⟩ : Found) ∈ [⟨path, recipe⟩] := List.mem_cons_self
  rw [run_refresh_folder]
  apply Session.mem_recipes_refresh_start Registries.cover_delivered hfiles (by simp) (by simp) _ honly
    hsound
  rw [List.forall_mem_singleton]
  exact read_of_isWritable hfile hformat hv (length_writtenBytes_le List.mem_cons_self) hrecipe

/-! ### Bare recipes -/

/-- The setting of a document that gives no more than an id, a type, rules and children. -/
def bareSetting (id : String) (type : SettingType) (dependsOn : List DependencyRule)
    (children : List Setting) : Setting :=
  .node ⟨id, "", "", type, .null, false, true, dependsOn, []⟩ .null children

/-- The recipe of a document that gives no more than an id, settings and validators. -/
def bareRecipe (id : String) (settings : List Setting) (validators : List (CheckRequest RecipeCheck)) :
    Recipe where
  id := id
  version := ""
  name := ""
  deploymentType := .cdkProject
  bundleType := .container
  projectTemplate := none
  projectTemplateId := none
  description := ""
  shortDescription := ""
  targetService := ""
  settings := settings
  validators := validators

end Catalog
end DeploymentRecipes
