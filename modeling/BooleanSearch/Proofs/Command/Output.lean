import BooleanSearch.Command.Run
import BooleanSearch.Proofs.Backend.Operations
import BooleanSearch.Proofs.Query.Characters

/-! What jobs about queries write, and what of it is left where no terminal shows it. -/

namespace BooleanSearch.Command

open Backend Query

/-! ### Control sequences -/

/-- Every control sequence starts with an escape, so that nothing is dropped where there is none. -/
theorem dropControls_eq_self {cs : List Char} (noEscape : '\x1b' ∉ cs) :
    Text.dropControls 0 cs = cs := by
  induction cs with
  | nil => rfl
  | cons c rest ih =>
    obtain ⟨other, behind⟩ : '\x1b' ≠ c ∧ '\x1b' ∉ rest := by simpa using noEscape
    have none : Text.controlLength (c :: rest) = 0 := by
      cases rest <;> simp [Text.controlLength, other.symm]
    simp [Text.dropControls, none, ih behind]

theorem withoutControls_eq_self {text : String} (noEscape : '\x1b' ∉ text.toList) :
    Text.withoutControls text = text := by
  rw [Text.withoutControls, dropControls_eq_self noEscape, String.ofList_toList]

/-- Escapes are escaped in JSON, so that documents are written as they are. -/
theorem withoutControls_render {fields : FieldNames} {text : String} {document : Value}
    (translated : documentOfText fields text = .ok document) (layout : Json.Layout) :
    Text.withoutControls (Json.render layout document ++ "\n") =
      Json.render layout document ++ "\n" := by
  apply withoutControls_eq_self
  intro member
  rw [String.toList_append, List.mem_append, Json.render, String.toList_ofList] at member
  obtain inside | last := member
  · have allowed := (isDocument_documentOfText translated).allows 0 _ inside
    -- An escape is below all characters that either layout allows.
    cases layout <;> revert allowed <;> simp [Json.Layout.Allows]
  · revert last
    decide

/-- An explanation is written as it is if its text holds no escape. -/
theorem withoutControls_explanation {text : String} {query : Buckets}
    (asked : Buckets.ofText text = .ok query) (noEscape : '\x1b' ∉ text.toList) :
    Text.withoutControls query.explanation = query.explanation := by
  apply withoutControls_eq_self
  intro member
  obtain plain | newline | inside := mem_explanation asked member
  · revert plain
    decide
  · revert newline
    decide
  · exact noEscape inside

/-! ### Jobs -/

/-- The query of a text is found without a request. -/
theorem settles_queryOf (text : String) :
    (queryOf text).Settles ((Buckets.ofText text).mapError .query) := by
  unfold queryOf Buckets.ofText
  cases parse text with
  | error error => exact .done _
  | ok raws =>
    -- Each of the two steps ends in a record of what it found.
    dsimp only
    refine .bind_ok (.done (.ok raws)) (.bind_ok (.log _ (.done _)) ?_)
    cases classifyAll raws with
    | error error => exact .done _
    | ok clauses => exact .bind_ok (.done (.ok clauses)) (.bind_ok (.log _ (.done _)) (.done _))

variable {text : String} {settings : Settings} {client : Client} {reader : Yaml.Reader}

/-- What is made of a query is made of none where there is none. -/
theorem settles_rejected {error : QueryError} (rejected : Buckets.ofText text = .error error)
    (continuation : Buckets → Exchange Failure String) :
    (queryOf text >>= continuation).Settles (.error (.query error)) := by
  have settles := settles_queryOf text
  rw [rejected] at settles
  exact settles.bind_error

/-- The document of a query is written behind some records, with a line break at its end. -/
theorem settles_document {document : Value}
    (translated : documentOfText settings.fields text = .ok document) (layout : Json.Layout) :
    ((Job.document layout text).steps settings client reader).Settles
      (.ok (Json.render layout document ++ "\n")) := by
  have settles := settles_queryOf text
  unfold documentOfText at translated
  cases asked : Buckets.ofText text with
  | error error => simp [asked] at translated
  | ok query =>
    rw [asked] at settles
    obtain rfl : query.document settings.fields = document := by simpa [asked] using translated
    -- The record of the finished document stands between the query and the text.
    exact .bind_ok (.bind_ok settles (.bind_ok (.log _ (.done _)) (.done _))) (.done _)

/-- The explanation of a query is written behind some records. -/
theorem settles_explanation {query : Buckets} (asked : Buckets.ofText text = .ok query) :
    ((Job.explain text).steps settings client reader).Settles (.ok query.explanation) := by
  have settles := settles_queryOf text
  rw [asked] at settles
  exact .bind_ok settles (.bind_ok (.log _ (.done _)) (.done _))

end BooleanSearch.Command
