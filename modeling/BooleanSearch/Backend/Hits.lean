import BooleanSearch.Backend.Client

/-! Hits: what a search finds, and how it is listed for a reader. -/

namespace BooleanSearch.Backend

/-- The object that a value is. -/
def objectOf : Value → Except Failure Entries
  | .mapping entries => .ok entries
  | other => .error (.noObject other.kindName)

/-- What a hit holds of its document; what is no object is no hit. -/
def sourceOf? : Value → Option Value
  | .mapping entries => some ((Entries.getText? "_source" entries).getD (.mapping []))
  | _ => none

/-- The documents of a hit list. -/
def sources : Value → List Value
  | .list hits => hits.filterMap sourceOf?
  | _ => []

/-- The documents that an answer to a search holds, in the order of their rank. -/
def hitsOf : Value → Except Failure (List Value)
  | .mapping entries => do
    let outer ← objectOf ((Entries.getText? "hits" entries).getD (.mapping []))
    return sources ((outer.getText? "hits").getD (.list []))
  | _ => .ok []

/-- The documents that a search finds, in the order of their rank. -/
def Client.search (client : Client) (document : Value) : Exchange Failure (List Value) := do
  let payload ← client.answer (client.request .post "_search" (some document))
  Exchange.ofExcept (hitsOf payload)

/-- The authors as they are listed; nothing is listed for authors that are nothing. -/
def authorText? : Option Value → Option String
  | none => none
  | some (.list names) =>
    let joined := ", ".intercalate (names.map Value.shown)
    if joined == "" then none else some joined
  | some value => if value.isNothing then none else some value.shown

/-- The year as it is listed. -/
def yearText? : Option Value → Option String
  | none | some .null => none
  | some value => some value.shown

/-- The lines about one hit of some rank. -/
def hitLines (rank : Nat) (hit : Entries) : List String :=
  let title := ((hit.getText? "title").map Value.shown).getD "-"
  let author := (authorText? (hit.getText? "author")).map ("   Author: " ++ ·)
  let year := (yearText? (hit.getText? "publication_year")).map ("   Year: " ++ ·)
  (Number.intText rank ++ ". " ++ title) :: author.toList ++ year.toList

/-- The lines about hits, numbered from some rank on. -/
def linesFrom (rank : Nat) : List Value → Except Failure (List String)
  | [] => .ok []
  | hit :: rest => do
    let entries ← objectOf hit
    let lines ← linesFrom (rank + 1) rest
    return hitLines rank entries ++ lines

/-- The list of hits for a reader, every line ended. -/
def listing (hits : List Value) : Except Failure String := do
  match ← linesFrom 1 hits with
  | [] => return "No hits\n"
  | lines => return "\n".intercalate lines ++ "\n"

end BooleanSearch.Backend
