import BooleanSearch.Backend.Corpus

/-! Texts come to documents exactly if their values hold documents. -/

namespace BooleanSearch.Backend

/-- A value that holds documents. -/
inductive HoldsDocuments : Value → List Value → Prop
  /-- A value that counts as nothing holds none. -/
  | nothing {value : Value} (nothing : value.isNothing = true) : HoldsDocuments value []
  /-- A list holds its items if they are objects. -/
  | list {items : List Value} (objects : ∀ item ∈ items, ∃ entries, item = .mapping entries) :
      HoldsDocuments (.list items) items

/-- Values are taken for documents exactly if they are objects. -/
theorem requireObjects_eq_ok_iff (path : String) (items : List Value) :
    ∀ position, requireObjects path position items = .ok () ↔
      ∀ item ∈ items, ∃ entries, item = .mapping entries := by
  induction items with
  | nil => intro position; simp [requireObjects]
  | cons item rest ih =>
    intro position
    cases item with
    | mapping entries => simp [requireObjects, ih]
    | scalar content => simp [requireObjects]
    | list items => simp [requireObjects]

/-- A value comes to the documents that it holds. -/
theorem documentsOf_eq_ok_iff (path : String) (value : Value) (documents : List Value) :
    documentsOf path value = .ok documents ↔ HoldsDocuments value documents := by
  constructor
  · intro read
    cases value with
    | list items =>
      -- The items of a list are checked one by one, and then they are the documents.
      cases checked : requireObjects path 0 items with
      | error error => simp [documentsOf, checked, Except.map] at read
      | ok done =>
        obtain rfl : items = documents := by simpa [documentsOf, checked, Except.map] using read
        exact .list ((requireObjects_eq_ok_iff path items 0).1 checked)
    | scalar content =>
      cases nothing : (Value.scalar content).isNothing <;> simp [documentsOf, nothing] at read
      exact read ▸ .nothing nothing
    | mapping entries =>
      cases nothing : (Value.mapping entries).isNothing <;> simp [documentsOf, nothing] at read
      exact read ▸ .nothing nothing
  · rintro (nothing | objects)
    · cases value with
      | list items =>
        -- A list that counts as nothing is empty, and has no item that is no object.
        obtain rfl : items = [] := by simpa [Value.isNothing] using nothing
        rfl
      | scalar content => simp [documentsOf, nothing]
      | mapping entries => simp [documentsOf, nothing]
    · rw [documentsOf, (requireObjects_eq_ok_iff path documents 0).2 objects]
      rfl

/-- A text comes to the documents that its value holds, whichever reader finds that value. -/
theorem readDocuments_eq_ok_iff (reader : Yaml.Reader) (path content : String)
    (documents : List Value) :
    readDocuments path content reader = .ok documents ↔
      ∃ value, reader content = .ok value ∧ HoldsDocuments value documents := by
  unfold readDocuments
  cases reader content with
  | error error => simp
  | ok value => simp [documentsOf_eq_ok_iff]

end BooleanSearch.Backend
