import DeploymentRecipes.Regex.Pattern

/-!
# Matching

A pattern is matched from a position on, with a continuation that decides whether the rest of the
text fits.  Choices are tried in order, so the first way to succeed wins.  A repetition ends with
an empty round beyond its least count, which bounds the number of rounds by the length of the text.
-/

namespace DeploymentRecipes.Regex

/-- A place in the text with the spans of the groups matched so far, the latest first. -/
structure Place where
  pos : Nat
  spans : List (Nat × Nat × Nat)

/-- The span of a group. -/
def Place.span? (place : Place) (index : Nat) : Option (Nat × Nat) :=
  (place.spans.find? (·.1 == index)).map (·.2)

/-- What remains to be matched. -/
abbrev Continuation := Place → Option Place

/-- The code point of a line feed. -/
def newline : Nat := 0xa

/-- Whether a word begins or ends at a position. -/
def atWordEdge (text : Array Nat) (asciiOnly : Bool) (pos : Nat) : Bool :=
  let isWord (c? : Option Nat) : Bool := (c?.map (Category.word.contains asciiOnly)).getD false
  isWord (if pos = 0 then none else text[pos - 1]?) != isWord text[pos]?

/-- Whether a position is of the given kind. An empty text has no word edges, nor places that are
none. -/
def Anchor.holds (text : Array Nat) (opts : Options) (pos : Nat) : Anchor → Bool
  | .textStart => pos == 0
  | .textEnd => pos == text.size
  | .lastLineEnd => pos == text.size || (pos + 1 == text.size && text[pos]? == some newline)
  | .lineStart => pos == 0 || text[pos - 1]? == some newline
  | .lineEnd => pos == text.size || text[pos]? == some newline
  | .wordEdge negated => text.size != 0 && atWordEdge text opts.asciiOnly pos != negated

/-- Goes on after one character if it passes the test. -/
def step (text : Array Nat) (test : Nat → Bool) (k : Continuation) (place : Place) :
    Option Place :=
  match text[place.pos]? with
  | some c => if test c then k { place with pos := place.pos + 1 } else none
  | none => none

/-- Whether the text at `pos` repeats the characters from `start` on, `count` of them. -/
def repeatsSpan (text : Array Nat) (opts : Options) (pos start : Nat) : Nat → Bool
  | 0 => true
  | count + 1 =>
    (match text[pos]?, text[start]? with
      | some c, some d => opts.repeats c d
      | _, _ => false) && repeatsSpan text opts (pos + 1) (start + 1) count

/-- The rounds of a repetition. `done` rounds are complete; `lastFree` is where the latest round
beyond the least count began. -/
def rounds (body : Continuation → Place → Option Place) (lazy : Bool) (least : Nat)
    (most : Option Nat) (k : Continuation) : Nat → Nat → Option Nat → Place → Option Place
  | 0, _, _, place => k place
  | left + 1, done, lastFree, place =>
    if done < least then body (rounds body lazy least most k left (done + 1) lastFree) place
    else
      let mayGoOn := (most.map (decide <| done < ·)).getD true && lastFree != some place.pos
      let again := fun (_ : Unit) =>
        if mayGoOn then
          body (rounds body lazy least most k left (done + 1) (some place.pos)) place
        else none
      if lazy then (k place).orElse again else (again ()).orElse fun _ => k place

/-- The first way in which a pattern matches from a place on such that the continuation succeeds. -/
def Pattern.run (text : Array Nat) : Pattern → Continuation → Place → Option Place
  | .empty, k, place => k place
  | .char d opts, k, place => step text (opts.fits · d) k place
  | .notChar d opts, k, place => step text (fun c => !opts.fits c d) k place
  | .any lineEnds, k, place => step text (fun c => lineEnds || c != newline) k place
  | .set negated items opts, k, place =>
    step text (fun c => items.any (·.contains opts c) != negated) k place
  | .category negated cat opts, k, place =>
    step text (fun c => cat.contains opts.asciiOnly c != negated) k place
  | .anchor a opts, k, place => if a.holds text opts place.pos then k place else none
  | .seq p q, k, place => p.run text (q.run text k) place
  | .alt p q, k, place => (p.run text k place).orElse fun _ => q.run text k place
  | .repeated .atomic least most p, k, place =>
    let once : Continuation → Place → Option Place := fun k place =>
      (p.run text some place).bind k
    (rounds once false least most some (least + text.size + 2) 0 none place).bind k
  | .repeated greed least most p, k, place =>
    rounds (p.run text) (greed == .fewest) least most k (least + text.size + 2) 0 none place
  | .group index p, k, place =>
    p.run text (fun after =>
      k { after with spans := (index, place.pos, after.pos) :: after.spans }) place
  | .reference index _ opts, k, place =>
    match place.span? index with
    | none => none
    | some (start, stop) =>
      if repeatsSpan text opts place.pos start (stop - start) then
        k { place with pos := place.pos + (stop - start) }
      else none
  | .ahead negated p, k, place =>
    match p.run text some place with
    | some after => if negated then none else k { after with pos := place.pos }
    | none => if negated then k place else none
  | .behind negated width p, k, place =>
    let found := if width ≤ place.pos then
        p.run text some { place with pos := place.pos - width } else none
    match found with
    | some after => if negated then none else k { after with pos := place.pos }
    | none => if negated then k place else none
  | .atomic p, k, place => (p.run text some place).bind k
  | .scoped p, k, place => p.run text k place
  | .conditional index yes no, k, place =>
    if (place.span? index).isSome then yes.run text k place else no.run text k place

/-- Whether the pattern matches somewhere in the text with the given code points. -/
def Pattern.occursIn (p : Pattern) (codes : List Nat) : Bool :=
  let text := codes.toArray
  (List.range (text.size + 1)).any fun pos => (p.run text some ⟨pos, []⟩).isSome

end DeploymentRecipes.Regex
