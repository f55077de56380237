import BooleanSearch.Proofs.Json.OneLine
import BooleanSearch.Proofs.Query.Meaning
import Mathlib.Data.Nat.Digits.Defs

/-! The documents of queries stand in their renderings without loss, and on one line if compact. -/

namespace BooleanSearch.Query

open Json Number

variable {limit : Option Nat} {fields : FieldNames}

/-- An object of one member is a document if its value is one. -/
theorem isDocument_single {key : String} {value : Value} (document : IsDocument limit value) :
    IsDocument limit (.object [(key, value)]) := by
  refine .object (by simp) fun member among => ?_
  obtain rfl : member = (key, value) := by simpa using among
  exact document

/-- A year has at most four digits. -/
theorem isDocument_year {year : Int} (first : 0 ≤ year) (last : year < 10 ^ 4) :
    IsDocument (some digitLimit) (.int year) := by
  refine .int fun most limited => ?_
  obtain rfl : digitLimit = most := by simpa using limited
  -- The limit of readers is far above four digits.
  have short : (Nat.toDigits 10 year.natAbs).length ≤ 4 :=
    Nat.toDigits_length 10 year.natAbs 4 (by omega) (by omega)
  exact short.trans (by decide)

/-- What a raw clause asks for is a document. -/
theorem RawClause.Asks.isDocument {raw : RawClause} {fragment : Value}
    (asks : raw.Asks fields fragment) : IsDocument (some digitLimit) fragment := by
  -- Fragments are objects within objects, most of them with one member.
  cases asks with
  | term => exact isDocument_single (isDocument_single (isDocument_single (.text _)))
  | phrase => exact isDocument_single (isDocument_single (isDocument_single (.text _)))
  | @decade _ _ year _ _ first last =>
    refine isDocument_single (isDocument_single (.object (by simp) ?_))
    simp only [List.forall_mem_cons]
    exact ⟨isDocument_year (by omega) (by omega), isDocument_year (by omega) (by omega), by simp⟩

/-- What raw clauses ask for are documents. -/
theorem isDocument_of_asked {raws : List RawClause} {fragments : List Value}
    (asked : List.Forall₂ (RawClause.Asks fields) raws fragments) :
    ∀ fragment ∈ fragments, IsDocument (some digitLimit) fragment := by
  induction asked with
  | nil => simp
  | cons head _ ih => exact List.forall_mem_cons.2 ⟨head.isDocument, ih⟩

/-- The sections of a document have distinct names. -/
theorem isDocument_documentOf (raws : List RawClause) {fragments : Option String → List Value}
    (each : ∀ operator, ∀ fragment ∈ fragments operator, IsDocument limit fragment) :
    IsDocument limit (documentOf raws fragments) := by
  refine isDocument_single (isDocument_single (.object ?_ ?_))
  · -- The sections that are there have names of their own.
    simp only [sectionNames, List.filterMap_cons, List.filterMap_nil]
    split_ifs <;> simp
  · rintro ⟨name, value⟩ among
    obtain ⟨⟨operator, _⟩, -, found⟩ := List.mem_filterMap.1 among
    obtain ⟨-, -, rfl⟩ := by simpa using found
    exact .list (each operator)

/-- The document of a query is one that every reader takes. -/
theorem isDocument_documentOfText {text : String} {document : Value}
    (translated : documentOfText fields text = .ok document) :
    IsDocument (some digitLimit) document := by
  -- Only texts that are queries have documents.
  cases parsed : parse text with
  | error error => simp [documentOfText, Buckets.ofText, parsed] at translated
  | ok raws =>
    obtain ⟨clauses, classified, understood⟩ := (expressible_of_parse parsed).classifyAll fields
    obtain rfl : documentOf raws (fragmentsOf fields clauses) = document := by
      simpa [documentOfText, Buckets.ofText, parsed, classified, document_ofClauses understood]
        using translated
    exact isDocument_documentOf raws fun operator =>
      isDocument_of_asked (asks_fragmentsOf understood operator)

/--
Documents are read back from their renderings, whatever texts they hold.

A string ends at its own closing quote, so that no text can reach what stands behind it.
Different documents have different renderings, and a compact one stands on one line.
-/
theorem render_lossless :
    (∀ limit layout document, IsDocument limit document →
      readWithin? limit (render layout document) = some document) ∧
    (∀ left right document other, IsDocument none document → IsDocument none other →
      render left document = render right other → document = other) ∧
    (∀ document, IsDocument none document →
      ∀ c ∈ (render .compact document).toList, 0x20 ≤ c.toNat) ∧
    (∀ fields text document, documentOfText fields text = .ok document →
      IsDocument none document ∧ ∀ layout, read? (render layout document) = some document) ∧
    (∀ text, ∃ body, stringText text = '"' :: body ∧
      ∀ rest, readString (body ++ rest) = some (text, rest)) := by
  refine ⟨fun limit layout document wellFormed => wellFormed.readWithin?_render layout,
    fun left right document other wellFormed otherWellFormed =>
      wellFormed.render_injective otherWellFormed, ?_, ?_, ?_⟩
  · intro document wellFormed
    rw [render, String.toList_ofList]
    exact wellFormed.noControls 0
  · intro fields text document translated
    have wellFormed := isDocument_documentOfText translated
    exact ⟨wellFormed.unlimited, wellFormed.readWithin?_render⟩
  · intro text
    refine ⟨text.toList.flatMap escaped ++ ['"'], rfl, fun rest => ?_⟩
    rw [List.append_assoc, List.singleton_append]
    exact readString_flatMap text rest

/-- A document with a quote and a backslash in a text is read back from its indented text. -/
theorem render_lossless_escapes :
    IsDocument none (.object [("b", .list [.text "\"\\", .int (-10)]), ("a", .null)]) ∧
      readWithin? none (render .indented
          (.object [("b", .list [.text "\"\\", .int (-10)]), ("a", .null)])) =
        some (.object [("b", .list [.text "\"\\", .int (-10)]), ("a", .null)]) := by
  have list : IsDocument none (.list [.text "\"\\", .int (-10)]) :=
    .list (by simp [IsDocument.text, IsDocument.int])
  have document : IsDocument none
      (.object [("b", .list [.text "\"\\", .int (-10)]), ("a", .null)]) :=
    .object (by simp) (by simp [list, IsDocument.null])
  exact ⟨document, render_lossless.1 none .indented _ document⟩

end BooleanSearch.Query
