import BooleanSearch.Value.Basic
import Mathlib.Data.List.Induction

/-! Entries under distinct keys are kept as they come. -/

namespace BooleanSearch

/-- The entries of an object. -/
def entriesOf (members : List (String × Value)) : Entries :=
  members.map fun (key, value) => (.text key, value)

/-- An object is the mapping of its entries. -/
theorem object_eq (members : List (String × Value)) :
    Value.object members = .mapping (entriesOf members) := rfl

/-- The first member gives the first entry. -/
theorem entriesOf_cons (key : String) (value : Value) (members : List (String × Value)) :
    entriesOf ((key, value) :: members) = (.text key, value) :: entriesOf members := rfl

namespace Entries

/-- A value under a new key is put behind all others. -/
theorem put_fresh {key : Scalar} {entries : Entries}
    (fresh : ∀ entry ∈ entries, entry.1.sameKey key = false) (value : Value) :
    put key value entries = entries ++ [(key, value)] := by
  induction entries with
  | nil => rfl
  | cons entry rest ih =>
    obtain ⟨name, old⟩ := entry
    -- The first entry has another key, so that the search goes on.
    have other : name.sameKey key = false := fresh (name, old) (by simp)
    simp [put, other, ih fun entry member => fresh entry (by simp [member])]

/-- The last of some pairs is put behind those in front of it. -/
theorem ofPairs_concat (pairs : List (Scalar × Value)) (key : Scalar) (value : Value) :
    ofPairs (pairs ++ [(key, value)]) = put key value (ofPairs pairs) := by
  simp [ofPairs]

/-- Of members under distinct keys none replaces another. -/
theorem ofPairs_entriesOf {members : List (String × Value)}
    (distinct : (members.map Prod.fst).Nodup) :
    ofPairs (entriesOf members) = entriesOf members := by
  -- The last member is put behind all others, none of which has its key.
  induction members using List.reverseRecOn with
  | nil => rfl
  | append_singleton members member ih =>
    obtain ⟨key, value⟩ := member
    rw [List.map_append, List.nodup_append] at distinct
    obtain ⟨distinct, -, others⟩ := distinct
    have fresh : ∀ entry ∈ entriesOf members, entry.1.sameKey (.text key) = false := by
      intro entry member
      obtain ⟨⟨name, old⟩, among, rfl⟩ := List.mem_map.1 member
      have other : name ≠ key :=
        others name (List.mem_map_of_mem (f := Prod.fst) among) key (by simp)
      simp [Scalar.sameKey, other]
    have split : entriesOf (members ++ [(key, value)]) =
        entriesOf members ++ [(.text key, value)] := by
      simp [entriesOf]
    rw [split, ofPairs_concat, ih distinct, put_fresh fresh]

end Entries

end BooleanSearch
