import BooleanSearch.Proofs.Value.Entries
import Mathlib.Data.List.Forall2

/-! Values are found under their keys, and putting one there leaves all others in place. -/

namespace BooleanSearch

/-- Two scalars are one key if they are told apart by nothing. -/
theorem Scalar.sameKey_iff (a b : Scalar) : a.sameKey b = true ↔ a.identity = b.identity := by
  -- Texts are compared without their identities, and all other scalars by them.
  unfold Scalar.sameKey
  split
  · -- The identity of a text is the text itself.
    rw [beq_iff_eq]
    constructor
    · intro same
      rw [same]
    · exact KeyIdentity.text.inj
  · exact beq_iff_eq

theorem Scalar.sameKey_congr {a b : Scalar} (same : a.sameKey b = true) (other : Scalar) :
    other.sameKey a = other.sameKey b := by
  have identity : a.identity = b.identity := (sameKey_iff a b).1 same
  rw [Bool.eq_iff_iff, sameKey_iff, sameKey_iff, identity]

namespace Entries

/-- The keys of a mapping, in order. -/
def keys (entries : Entries) : List Scalar :=
  entries.map Prod.fst

/-- No two entries are under one key. -/
def Distinct (entries : Entries) : Prop :=
  entries.Pairwise fun a b => a.1.sameKey b.1 = false

variable {key : Scalar} {entries : Entries}

@[simp] theorem get?_nil (key : Scalar) : get? key [] = none := rfl

theorem get?_cons (key name : Scalar) (value : Value) (rest : Entries) :
    get? key ((name, value) :: rest) = if name.sameKey key then some value else get? key rest := rfl

theorem get?_congr {a b : Scalar} (same : a.sameKey b = true) (entries : Entries) :
    get? a entries = get? b entries := by
  induction entries with
  | nil => rfl
  | cons entry rest ih => rw [get?, get?, Scalar.sameKey_congr same, ih]

theorem get?_eq_none_iff :
    get? key entries = none ↔ ∀ entry ∈ entries, entry.1.sameKey key = false := by
  -- The search ends at the first entry under the key.
  induction entries with
  | nil => simp
  | cons entry rest ih =>
    obtain ⟨name, value⟩ := entry
    rw [get?_cons, List.forall_mem_cons, ← ih]
    cases name.sameKey key <;> simp

theorem mem_of_get? {value : Value} (found : get? key entries = some value) :
    ∃ name, (name, value) ∈ entries := by
  induction entries with
  | nil => contradiction
  | cons entry rest ih =>
    obtain ⟨name, first⟩ := entry
    rw [get?_cons] at found
    -- It is the first entry, or one of those behind it, where the search goes on.
    split at found
    · obtain rfl : first = value := Option.some.inj found
      exact ⟨name, List.mem_cons_self ..⟩
    · obtain ⟨other, member⟩ := ih found
      exact ⟨other, List.mem_cons_of_mem _ member⟩

/-- Whether something is found under a key is told by the keys of a mapping. -/
theorem get?_eq_none_iff_keys :
    get? key entries = none ↔ ∀ name ∈ keys entries, name.sameKey key = false := by
  rw [get?_eq_none_iff, keys, List.forall_mem_map]

/-- Of distinct keys each one holds what stands behind it. -/
theorem Distinct.get?_eq_some_iff {value : Value} (distinct : Distinct entries) :
    get? key entries = some value ↔ ∃ name, (name, value) ∈ entries ∧ name.sameKey key = true := by
  induction entries with
  | nil => simp
  | cons entry rest ih =>
    obtain ⟨first, held⟩ := entry
    obtain ⟨others, behind⟩ := List.pairwise_cons.1 distinct
    rw [get?_cons]
    by_cases same : first.sameKey key
    · -- No later entry is under the key as well.
      have last : ∀ name, (name, value) ∈ rest → ¬ name.sameKey key := by
        intro name member found
        have other := others _ member
        rw [Scalar.sameKey_congr found, same] at other
        contradiction
      grind
    · rw [if_neg same, ih behind]
      grind

/-- Putting a value under a key changes what is found there, and nothing else. -/
theorem get?_put (name : Scalar) (value : Value) (key : Scalar) (entries : Entries) :
    get? key (put name value entries) = if name.sameKey key then some value else get? key entries := by
  -- Three keys meet in the first entry: its own, the one that is changed, and the one looked for.
  induction entries with
  | nil => rfl
  | cons entry rest ih =>
    obtain ⟨first, old⟩ := entry
    by_cases same : first.sameKey name
    · -- The value takes the place of the first entry, under a name of the same key.
      have both : name.sameKey key = first.sameKey key := by
        have identity := (Scalar.sameKey_iff _ _).1 same
        rw [Bool.eq_iff_iff, Scalar.sameKey_iff, Scalar.sameKey_iff, identity]
      simp only [put, same, get?_cons, both, if_true]
      split <;> rfl
    · by_cases here : first.sameKey key
      · -- What is found in front of the key's place is found as before.
        have other : ¬ name.sameKey key := by
          intro there
          rw [Scalar.sameKey_iff] at same here there
          exact same (here.trans there.symm)
        simp [put, same, get?_cons, here, other]
      · simp [put, same, get?_cons, here, ih]

/-- A value under a new key adds that key behind all others. -/
theorem keys_put (name : Scalar) (value : Value) (entries : Entries) :
    keys (put name value entries) =
      if (get? name entries).isSome then keys entries else keys entries ++ [name] := by
  induction entries with
  | nil => rfl
  | cons entry rest ih =>
    obtain ⟨first, old⟩ := entry
    unfold keys at ih ⊢
    by_cases same : first.sameKey name
    · -- The old name stays in its place.
      simp [put, same, get?_cons]
    · simp only [put, same, get?_cons, Bool.false_eq_true, if_false, List.map_cons, ih]
      split <;> rfl

/-- An entry behind a change is the changed one, or it was there before. -/
theorem mem_put {name : Scalar} {value : Value} {entry : Scalar × Value}
    (member : entry ∈ put name value entries) : entry.2 = value ∨ entry ∈ entries := by
  induction entries with
  | nil =>
    obtain rfl := List.mem_singleton.1 member
    exact .inl rfl
  | cons first rest ih =>
    unfold put at member
    -- The first entry is changed, or the change is made behind it.
    split at member
    · obtain rfl | behind := List.mem_cons.1 member
      · exact .inl rfl
      · exact .inr (List.mem_cons_of_mem _ behind)
    · obtain rfl | behind := List.mem_cons.1 member
      · exact .inr (List.mem_cons_self ..)
      · exact (ih behind).imp id (List.mem_cons_of_mem _)

/-- Whether entries are under distinct keys is told by their keys. -/
theorem distinct_iff (entries : Entries) :
    Distinct entries ↔ (keys entries).Pairwise fun a b => a.sameKey b = false := by
  rw [Distinct, keys, List.pairwise_map]

/-- Members under distinct names are under distinct keys. -/
theorem distinct_entriesOf {members : List (String × Value)}
    (distinct : (members.map Prod.fst).Nodup) : Distinct (entriesOf members) := by
  rw [Distinct, entriesOf, List.pairwise_map]
  apply (List.pairwise_map.1 distinct).imp
  intro first second other
  simpa [Scalar.sameKey] using other

/-- Keys stay distinct when a value is put under one of them, or under a new one. -/
theorem Distinct.put (distinct : Distinct entries) (name : Scalar) (value : Value) :
    Distinct (put name value entries) := by
  -- What is distinct are the keys, which a new one is added to at most.
  rw [distinct_iff] at distinct
  rw [distinct_iff, keys_put]
  split
  · exact distinct
  · -- A key that is not found is another one than all those that are there.
    rename_i absent
    rw [Option.not_isSome_iff_eq_none, get?_eq_none_iff] at absent
    rw [List.pairwise_append]
    refine ⟨distinct, List.pairwise_singleton _ _, ?_⟩
    intro key among other last
    obtain rfl := List.mem_singleton.1 last
    obtain ⟨entry, member, rfl⟩ := List.mem_map.1 among
    exact absent entry member

/-- Behind the first entry nothing more is found under its key. -/
theorem Distinct.get?_behind {name : Scalar} {value : Value} {rest : Entries}
    (distinct : Distinct ((name, value) :: rest)) (same : name.sameKey key = true) :
    get? key rest = none := by
  rw [get?_eq_none_iff]
  intro entry member
  rw [← (List.pairwise_cons.1 distinct).1 entry member, Bool.eq_iff_iff, Scalar.sameKey_iff,
    Scalar.sameKey_iff, (Scalar.sameKey_iff name key).1 same, eq_comm]

/-- Mappings with the same keys in the same order differ only in what is found there. -/
theorem eq_of_get? {a b : Entries} (distinct : Distinct a) (names : keys a = keys b)
    (values : ∀ key, get? key a = get? key b) : a = b := by
  -- Both mappings are taken apart entry by entry, as their keys are the same.
  induction a generalizing b with
  | nil => exact (List.map_eq_nil_iff.1 names.symm).symm
  | cons entry rest ih =>
    obtain ⟨name, value⟩ := entry
    cases b with
    | nil => contradiction
    | cons other others =>
      obtain ⟨first, held⟩ := other
      obtain ⟨rfl, behind⟩ : name = first ∧ keys rest = keys others := List.cons.inj names
      have distinctOther : Distinct ((name, held) :: others) := by
        rw [distinct_iff] at distinct ⊢
        rwa [← names]
      -- The first values are found under the first key, and all others behind them.
      have own : value = held := by
        have found := values name
        have same : name.sameKey name = true := (Scalar.sameKey_iff name name).2 rfl
        simpa [get?_cons, same] using found
      have rests : rest = others := by
        apply ih (List.pairwise_cons.1 distinct).2 behind
        intro key
        by_cases same : name.sameKey key
        · rw [distinct.get?_behind same, distinctOther.get?_behind same]
        · simpa [get?_cons, same] using values key
      rw [own, rests]

/-- Pairs in which later values replace earlier ones are under distinct keys. -/
theorem distinct_ofPairs (pairs : List (Scalar × Value)) : Distinct (ofPairs pairs) := by
  induction pairs using List.reverseRecOn with
  | nil => exact .nil
  | append_singleton pairs pair ih =>
    rw [ofPairs_concat]
    exact ih.put pair.1 pair.2

theorem mem_ofPairs {pairs : List (Scalar × Value)} {name : Scalar} {value : Value}
    (member : (name, value) ∈ ofPairs pairs) : ∃ key, (key, value) ∈ pairs := by
  -- From the end of the pairs each step is one change.
  induction pairs using List.reverseRecOn with
  | nil => contradiction
  | append_singleton pairs pair ih =>
    rw [ofPairs_concat] at member
    obtain rfl | earlier := mem_put member
    · exact ⟨pair.1, by simp⟩
    · obtain ⟨key, among⟩ := ih earlier
      exact ⟨key, List.mem_append_left _ among⟩

theorem get?_append (key : Scalar) (front back : Entries) :
    get? key (front ++ back) = (get? key front).or (get? key back) := by
  induction front with
  | nil => rfl
  | cons entry rest ih =>
    obtain ⟨name, value⟩ := entry
    simp only [List.cons_append, get?_cons, ih]
    split <;> rfl

/-- Values that are changed by their keys are found where they were. -/
theorem get?_map (change : Scalar → Value → Value)
    (respects : ∀ {a b : Scalar}, a.sameKey b = true → change a = change b) (key : Scalar)
    (entries : Entries) :
    get? key (entries.map fun entry => (entry.1, change entry.1 entry.2)) =
      (get? key entries).map (change key) := by
  -- Where a name is the key that is looked for, the change is the same for both.
  induction entries with
  | nil => rfl
  | cons entry rest ih =>
    obtain ⟨name, value⟩ := entry
    simp only [List.map_cons, get?_cons, ih]
    by_cases same : name.sameKey key
    · simp [same, respects same]
    · simp [same]

/-- Entries that are chosen by their keys are found if their keys are chosen. -/
theorem get?_filter (chosen : Scalar → Bool)
    (respects : ∀ {a b : Scalar}, a.sameKey b = true → chosen a = chosen b) (key : Scalar)
    (entries : Entries) :
    get? key (entries.filter fun entry => chosen entry.1) =
      if chosen key then get? key entries else none := by
  induction entries with
  | nil => simp
  | cons entry rest ih =>
    obtain ⟨name, value⟩ := entry
    by_cases same : name.sameKey key
    · cases kept : chosen key <;> simp [get?_cons, respects same, kept, same, ih]
    · -- Whether the first entry is kept or not, the search goes on behind it.
      cases kept : chosen name <;> simp [kept, get?_cons, same, ih]

end Entries

/-! ### Orders of keys -/

/-- Two values are the same but for the order of the keys in their mappings. -/
inductive Rearranged : Value → Value → Prop
  | refl (value : Value) : Rearranged value value
  | list {items others : List Value} (members : List.Forall₂ Rearranged items others) :
      Rearranged (.list items) (.list others)
  | mapping {entries others : Entries} (keys : entries.keys.Perm others.keys)
      (values : ∀ key value other, entries.get? key = some value → others.get? key = some other →
        Rearranged value other) : Rearranged (.mapping entries) (.mapping others)

theorem Rearranged.of_eq {value other : Value} (same : value = other) : Rearranged value other :=
  same ▸ .refl value

/-- Entries under distinct keys are rearranged by every permutation of them. -/
theorem rearranged_of_perm {entries others : Entries} (distinct : entries.Distinct)
    (order : entries.Perm others) : Rearranged (.mapping entries) (.mapping others) := by
  have distinctOthers : Entries.Distinct others :=
    (order.pairwise_iff fun {a b} differ => by
      rw [Bool.eq_false_iff, ne_eq, Scalar.sameKey_iff] at differ ⊢
      exact fun same => differ same.symm).1 distinct
  refine .mapping (order.map _) fun key value other found foundOther => ?_
  -- What is found in one order stands in the other one, too.
  obtain ⟨name, member, same⟩ := distinct.get?_eq_some_iff.1 found
  have there := distinctOthers.get?_eq_some_iff.2 ⟨name, order.mem_iff.1 member, same⟩
  obtain rfl : value = other := Option.some.inj (there.symm.trans foundOther)
  exact .refl value

theorem rearranged_rel_refl (held : Option Value) : Option.Rel Rearranged held held := by
  cases held with
  | none => exact .none
  | some value => exact .some (.refl value)

/-- Under each key rearranged mappings hold rearranged values, or nothing. -/
theorem Rearranged.get? {entries others : Entries}
    (rearranged : Rearranged (.mapping entries) (.mapping others)) (key : Scalar) :
    Option.Rel Rearranged (entries.get? key) (others.get? key) := by
  cases rearranged with
  | refl => exact rearranged_rel_refl _
  | mapping keys values =>
    -- A key is absent from both mappings, or it is in both of them.
    have absent : entries.get? key = none ↔ others.get? key = none := by
      simp only [Entries.get?_eq_none_iff_keys, keys.mem_iff]
    have held := values key
    generalize Entries.get? key entries = above, Entries.get? key others = below at absent held ⊢
    cases above with
    | none =>
      rw [absent.1 rfl]
      exact .none
    | some value =>
      cases below with
      | none => exact absurd (absent.2 rfl) (by simp)
      | some other => exact .some (held value other rfl rfl)

/-- Lists have no keys to be rearranged, but their items have. -/
theorem Rearranged.items {items others : List Value}
    (rearranged : Rearranged (.list items) (.list others)) :
    List.Forall₂ Rearranged items others := by
  cases rearranged with
  | refl => exact List.forall₂_same.2 fun item _ => .refl item
  | list members => exact members

theorem Rearranged.scalar {content other : Scalar}
    (rearranged : Rearranged (.scalar content) (.scalar other)) : content = other := by
  cases rearranged
  rfl

/-- Objects that open with one key hold rearranged values under it. -/
theorem Rearranged.first {key : String} {value another : Value}
    {members others : List (String × Value)}
    (rearranged : Rearranged (.object ((key, value) :: members))
      (.object ((key, another) :: others))) : Rearranged value another := by
  simpa [Entries.get?_cons, Scalar.sameKey] using rearranged.get? (.text key)

/-- An object with one member has that member however it is rearranged. -/
theorem Rearranged.single {key other : String} {value another : Value}
    (rearranged : Rearranged (.object [(key, value)]) (.object [(other, another)])) :
    key = other ∧ Rearranged value another := by
  by_cases same : other = key
  · subst same
    exact ⟨rfl, rearranged.first⟩
  · -- The key would be missing from the other object.
    have held := rearranged.get? (.text key)
    simp [Entries.get?_cons, Scalar.sameKey, same] at held

end BooleanSearch
