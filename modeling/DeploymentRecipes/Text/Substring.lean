/-!
# Parts of a text

Splitting a text at a separator, joining texts, and replacing every occurrence of one text by
another.  All three work on lists of characters, scanning from left to right.  Replacing does the same
with code points in the place of characters.
-/

namespace DeploymentRecipes.Text

section

variable {α : Type} [DecidableEq α]

/-- The rest of `cs` after `lead`, when `cs` starts with it. -/
def dropLead? : List α → List α → Option (List α)
  | [], cs => some cs
  | _ :: _, [] => none
  | p :: ps, c :: cs => if p = c then dropLead? ps cs else none

theorem length_of_dropLead? {ps cs rest : List α} (h : dropLead? ps cs = some rest) :
  cs.length = ps.length + rest.length
  := by
  induction ps generalizing cs with
  | nil => simp_all [dropLead?]
  | cons p ps ih =>
    cases cs with
    | nil => simp [dropLead?] at h
    | cons c cs =>
      by_cases hp : p = c
      · simp only [dropLead?, hp, if_true] at h
        have := ih h
        simp only [List.length_cons]
        omega
      · simp [dropLead?, hp] at h

/-- The characters with every occurrence of `old` replaced by `new`; occurrences are found from
left to right and do not overlap. `old` is not empty. -/
def replaceChars (old new : List α) (h : old ≠ []) : List α → List α
  | [] => []
  | c :: cs =>
    match _hd : dropLead? old (c :: cs) with
    | some rest => new ++ replaceChars old new h rest
    | none => c :: replaceChars old new h cs
termination_by cs => cs.length
decreasing_by
  · have := length_of_dropLead? _hd
    have : 0 < old.length := List.length_pos_iff.2 h
    simp only [List.length_cons] at *
    omega
  · simp

/-- The characters with every occurrence of `old` replaced by `new`. An empty `old` occurs before each
character and at the end. -/
def replaceIn (cs old new : List α) : List α :=
  if h : old = [] then cs.foldr (fun c acc => new ++ c :: acc) new else replaceChars old new h cs

end

/-- The text with every occurrence of `old` replaced by `new`. -/
def replaceAll (s old new : String) : String :=
  String.ofList (replaceIn s.toList old.toList new.toList)

/-- The pieces of `cs` between the characters equal to `sep`; there is always at least one. -/
def splitChars (sep : Char) : List Char → List (List Char)
  | [] => [[]]
  | c :: cs =>
    if c = sep then [] :: splitChars sep cs
    else match splitChars sep cs with
      | piece :: pieces => (c :: piece) :: pieces
      | [] => [[c]]

/-- The pieces of a text between the characters equal to `sep`. -/
def split (sep : Char) (s : String) : List String := (splitChars sep s.toList).map String.ofList

/-- The texts with `sep` between each two. -/
def join (sep : String) : List String → String
  | [] => ""
  | [s] => s
  | s :: ss => s ++ sep ++ join sep ss

/-- Whether `s` starts with `lead`. -/
def startsWith (s lead : String) : Bool := (dropLead? lead.toList s.toList).isSome

/-- Whether `s` ends with `tail`. -/
def endsWith (s tail : String) : Bool := (dropLead? tail.toList.reverse s.toList.reverse).isSome

end DeploymentRecipes.Text
