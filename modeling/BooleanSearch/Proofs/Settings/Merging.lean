import BooleanSearch.Proofs.Settings.Layers

/-! The laws of merging, with the order of keys: merging again changes nothing, and layers can be
grouped unless one of them stands between two mappings that the others hold. -/

namespace BooleanSearch.Settings

open Entries

/-- The mappings of a value have distinct keys, at every depth that merging reaches. -/
inductive Keyed : Value → Prop
  | scalar (content : Scalar) : Keyed (.scalar content)
  | list (items : List Value) : Keyed (.list items)
  | mapping {entries : Entries} (distinct : Entries.Distinct entries)
      (inside : ∀ entry ∈ entries, Keyed entry.2) : Keyed (.mapping entries)

/-- What a value holds along a path of keys, which leads through mappings only. -/
def valueAt : List Scalar → Value → Option Value
  | [], value => some value
  | key :: path, .mapping entries => (Entries.get? key entries).bind (valueAt path)
  | _ :: _, _ => none

/-- Along some path the outer two of three values hold mappings, and the middle one holds none. -/
def Parted (a b c : Value) : Prop :=
  ∃ path lower middle upper, valueAt path a = some (.mapping lower) ∧
    valueAt path b = some middle ∧ valueAt path c = some (.mapping upper) ∧
    ∀ entries, middle ≠ .mapping entries

/-! ### Single keys -/

theorem Keyed.distinct {entries : Entries} (keyed : Keyed (.mapping entries)) :
    entries.Distinct := by
  cases keyed with
  | mapping distinct _ => exact distinct

/-- What is found in a mapping is keyed as the mapping is. -/
theorem Keyed.of_get? {entries : Entries} {key : Scalar} {value : Value}
    (keyed : Keyed (.mapping entries)) (found : entries.get? key = some value) : Keyed value := by
  cases keyed with
  | mapping _ inside =>
    obtain ⟨name, member⟩ := mem_of_get? found
    exact inside _ member

/-- An object is keyed if its names are distinct and its members are keyed. -/
theorem keyed_object {members : List (String × Value)} (distinct : (members.map Prod.fst).Nodup)
    (inside : ∀ member ∈ members, Keyed member.2) : Keyed (.object members) := by
  rw [object_eq]
  refine .mapping (distinct_entriesOf distinct) fun entry among => ?_
  obtain ⟨member, held, rfl⟩ := List.mem_map.1 among
  exact inside member held

/-- A value that is no mapping replaces what is below it. -/
theorem mergeValue_replaces (below : Option Value) {value : Value}
    (other : ∀ entries, value ≠ .mapping entries) : mergeValue below value = value := by
  obtain ⟨lower, upper, -, rfl⟩ | ⟨replaced, -⟩ := merge_cases below value
  · exact absurd rfl (other upper)
  · exact replaced

/-- Over a value that is no mapping the upper value is left. -/
theorem mergeValue_hides {below : Value} (other : ∀ entries, below ≠ .mapping entries)
    (value : Value) : mergeValue (some below) value = value := by
  obtain ⟨lower, _, same, -⟩ | ⟨replaced, -⟩ := merge_cases (some below) value
  · exact absurd (Option.some.inj same) (other lower)
  · exact replaced

/-- Keys stay distinct when a mapping is laid over another one. -/
theorem distinct_mergeEntries {lower : Entries} (distinct : lower.Distinct) (upper : Entries) :
    Entries.Distinct (mergeEntries lower upper) := by
  -- Each entry of the upper mapping is put into what has been merged so far.
  induction upper generalizing lower with
  | nil => rwa [mergeEntries]
  | cons entry rest ih =>
    obtain ⟨name, value⟩ := entry
    rw [mergeEntries]
    exact ih (distinct.put name _)

theorem get?_mergeEntries {upper : Entries} (distinct : upper.Distinct) (lower : Entries)
    (key : Scalar) : (mergeEntries lower upper).get? key =
      (upper.get? key).elim (lower.get? key) fun value =>
        some (mergeValue (lower.get? key) value) :=
  (overlays_mergeEntries distinct lower).values key

/-- The keys of the lower mapping stay in place, and the new ones follow in their own order. -/
theorem keys_mergeEntries {upper : Entries} (distinct : upper.Distinct) (lower : Entries) :
    (mergeEntries lower upper).keys =
      lower.keys ++ upper.keys.filter fun key => (lower.get? key).isNone :=
  (overlays_mergeEntries distinct lower).keys

/-- A key is new to two mappings if it is new to each of them. -/
theorem isNone_get?_mergeEntries {upper : Entries} (distinct : upper.Distinct) (lower : Entries)
    (key : Scalar) : ((mergeEntries lower upper).get? key).isNone =
      ((lower.get? key).isNone && (upper.get? key).isNone) := by
  rw [get?_mergeEntries distinct]
  cases upper.get? key <;> simp

/-- No key of a mapping is new to it. -/
theorem filter_keys_self (entries : Entries) :
    (entries.keys.filter fun key => (entries.get? key).isNone) = [] := by
  rw [List.filter_eq_nil_iff]
  intro key member
  obtain ⟨entry, among, rfl⟩ := List.mem_map.1 member
  -- The search for a key ends at its own entry at the latest.
  have found : Entries.get? entry.1 entries ≠ none := by
    intro absent
    have other := get?_eq_none_iff.1 absent entry among
    rw [(Scalar.sameKey_iff entry.1 entry.1).2 rfl] at other
    contradiction
  simpa using found

/-! ### Merging again -/

/-- A value merged with itself stays as it is. -/
theorem Keyed.mergeValue_self {value : Value} (keyed : Keyed value) :
    mergeValue (some value) value = value := by
  induction keyed with
  | scalar content => exact mergeValue_replaces _ (by simp)
  | list items => exact mergeValue_replaces _ (by simp)
  | @mapping entries distinct inside ih =>
    rw [mergeValue_mapping]
    congr 1
    -- No key is new, and what is under it is merged with itself.
    apply eq_of_get? (distinct_mergeEntries distinct entries)
    · rw [keys_mergeEntries distinct, filter_keys_self, List.append_nil]
    · intro key
      rw [get?_mergeEntries distinct]
      cases found : Entries.get? key entries with
      | none => rfl
      | some value =>
        obtain ⟨name, member⟩ := mem_of_get? found
        exact congrArg some (ih _ member)

/-- What has been merged over a value can be merged over it again. -/
theorem Keyed.mergeValue_mergeValue {a b : Value} (keyed : Keyed a) (above : Keyed b) :
    mergeValue (some a) (mergeValue (some a) b) = mergeValue (some a) b := by
  induction keyed generalizing b with
  -- What is no mapping is gone after the first merging.
  | scalar content | list items => simp [mergeValue_hides]
  | @mapping lower distinct inside ih =>
    obtain ⟨_, upper, -, rfl⟩ | ⟨replaced, -⟩ := merge_cases (some (.mapping lower)) b
    · have merged := distinct_mergeEntries distinct upper
      rw [mergeValue_mapping, mergeValue_mapping]
      congr 1
      apply eq_of_get? (distinct_mergeEntries distinct _)
      · -- All keys are there already, those of the upper mapping behind the others.
        rw [keys_mergeEntries merged, keys_mergeEntries above.distinct, List.filter_append,
          filter_keys_self, List.nil_append, List.filter_filter]
        simp
      · intro key
        rw [get?_mergeEntries merged, get?_mergeEntries above.distinct]
        cases below : Entries.get? key lower with
        | none => cases Entries.get? key upper <;> simp [mergeValue_none]
        | some value =>
          -- The lower value is merged with itself, or with what was merged over it.
          obtain ⟨name, member⟩ := mem_of_get? below
          cases found : Entries.get? key upper with
          | none => exact congrArg some (inside _ member).mergeValue_self
          | some other => exact congrArg some (ih _ member (above.of_get? found))
    · rw [replaced, replaced]

/-! ### Three layers -/

theorem valueAt_cons_eq_some_iff {key : Scalar} {path : List Scalar} {value found : Value} :
    valueAt (key :: path) value = some found ↔ ∃ entries inner, value = .mapping entries ∧
      Entries.get? key entries = some inner ∧ valueAt path inner = some found := by
  cases value <;> simp [valueAt, Option.bind_eq_some_iff]

/-- Three mappings are parted by what they hold under one key. -/
theorem parted_mapping_iff {lower middle upper : Entries} :
    Parted (.mapping lower) (.mapping middle) (.mapping upper) ↔ ∃ key a b c,
      lower.get? key = some a ∧ middle.get? key = some b ∧ upper.get? key = some c ∧
        Parted a b c := by
  constructor
  · rintro ⟨path, inner, held, outer, foundBelow, foundBetween, foundAbove, other⟩
    cases path with
    | nil =>
      -- The middle value that is found along no path at all is a mapping.
      exact absurd (Option.some.inj foundBetween).symm (other middle)
    | cons key path =>
      obtain ⟨_, a, ⟨⟩, below, insideBelow⟩ := valueAt_cons_eq_some_iff.1 foundBelow
      obtain ⟨_, b, ⟨⟩, between, insideBetween⟩ := valueAt_cons_eq_some_iff.1 foundBetween
      obtain ⟨_, c, ⟨⟩, above, insideAbove⟩ := valueAt_cons_eq_some_iff.1 foundAbove
      exact ⟨key, a, b, c, below, between, above, path, inner, held, outer, insideBelow,
        insideBetween, insideAbove, other⟩
  · rintro ⟨key, a, b, c, below, between, above, path, inner, held, outer, insideBelow,
      insideBetween, insideAbove, other⟩
    refine ⟨key :: path, inner, held, outer, ?_, ?_, ?_, other⟩
    · exact valueAt_cons_eq_some_iff.2 ⟨lower, a, rfl, below, insideBelow⟩
    · exact valueAt_cons_eq_some_iff.2 ⟨middle, b, rfl, between, insideBetween⟩
    · exact valueAt_cons_eq_some_iff.2 ⟨upper, c, rfl, above, insideAbove⟩

/-- Three layers can be merged from either side unless the outer two are parted. -/
theorem Keyed.mergeValue_assoc {a b c : Value} (keyed : Keyed c) (below : Keyed a)
    (between : Keyed b) (joined : ¬ Parted a b c) :
    mergeValue (some (mergeValue (some a) b)) c = mergeValue (some a) (mergeValue (some b) c) := by
  induction keyed generalizing a b with
  | scalar content | list items =>
    -- The uppermost value replaces all others.
    simp [mergeValue_replaces]
  | @mapping upper distinct inside ih =>
    cases between with
    | scalar content | list items =>
      -- The middle value hides the lowest one, which is no mapping since nothing is parted.
      have plain : ∀ entries, a ≠ .mapping entries := by
        rintro entries rfl
        exact joined ⟨[], entries, _, upper, rfl, rfl, rfl, by simp⟩
      simp [mergeValue_replaces, mergeValue_hides, plain]
    | @mapping middle distinctMiddle insideMiddle =>
      cases below with
      | scalar content | list items =>
        -- The lowest value is hidden on both sides, and the two mappings above it are merged.
        simp [mergeValue_mapping, mergeValue_hides]
      | @mapping lower distinctLower insideLower =>
        have front := distinct_mergeEntries distinctLower middle
        have back := distinct_mergeEntries distinctMiddle upper
        simp only [mergeValue_mapping]
        congr 1
        apply eq_of_get? (distinct_mergeEntries front upper)
        · -- A key counts as new where neither of the layers below it has it.
          simp only [keys_mergeEntries distinct, keys_mergeEntries back,
            keys_mergeEntries distinctMiddle, isNone_get?_mergeEntries distinctMiddle,
            List.filter_append, List.filter_filter, List.append_assoc]
        · intro key
          simp only [get?_mergeEntries distinct, get?_mergeEntries back,
            get?_mergeEntries distinctMiddle]
          -- Only where all three layers hold something do more than two of them meet.
          cases above : Entries.get? key upper with
          | none => rfl
          | some c =>
            cases among : Entries.get? key middle with
            | none => simp [mergeValue_none]
            | some b =>
              cases under : Entries.get? key lower with
              | none => simp [mergeValue_none]
              | some a =>
                obtain ⟨name, member⟩ := mem_of_get? above
                obtain ⟨nameMiddle, memberMiddle⟩ := mem_of_get? among
                obtain ⟨nameLower, memberLower⟩ := mem_of_get? under
                have joinedInside : ¬ Parted a b c := fun parted =>
                  joined (parted_mapping_iff.2 ⟨key, a, b, c, under, among, above, parted⟩)
                exact congrArg some (ih _ member (insideLower _ memberLower)
                  (insideMiddle _ memberMiddle) joinedInside)

/-! ### Every level -/

/-- Two mappings that are found along one path are merged there. -/
theorem valueAt_mergeValue {path : List Scalar} {a b : Value} {lower upper : Entries}
    (above : Keyed b) (foundBelow : valueAt path a = some (.mapping lower))
    (foundAbove : valueAt path b = some (.mapping upper)) :
    valueAt path (mergeValue (some a) b) = some (.mapping (mergeEntries lower upper)) := by
  induction path generalizing a b with
  | nil =>
    obtain rfl := Option.some.inj foundBelow
    obtain rfl := Option.some.inj foundAbove
    rw [mergeValue_mapping]
    rfl
  | cons key path ih =>
    -- Both values are mappings, and the rest of the path is taken from what they hold.
    obtain ⟨below, a, rfl, heldBelow, insideBelow⟩ := valueAt_cons_eq_some_iff.1 foundBelow
    obtain ⟨top, b, rfl, heldAbove, insideAbove⟩ := valueAt_cons_eq_some_iff.1 foundAbove
    rw [mergeValue_mapping, valueAt_cons_eq_some_iff]
    refine ⟨_, mergeValue (some a) b, rfl, ?_, ih (above.of_get? heldAbove) insideBelow insideAbove⟩
    rw [get?_mergeEntries above.distinct, heldBelow, heldAbove]
    rfl

/-- What is found along a path in a keyed value is keyed, too. -/
theorem Keyed.of_valueAt {path : List Scalar} {value found : Value} (keyed : Keyed value)
    (held : valueAt path value = some found) : Keyed found := by
  induction path generalizing value with
  | nil =>
    obtain rfl := Option.some.inj held
    exact keyed
  | cons key path ih =>
    obtain ⟨entries, inner, rfl, first, behind⟩ := valueAt_cons_eq_some_iff.1 held
    exact ih (keyed.of_get? first) behind

/-- Merging obeys the laws of layers, the order of keys included: nothing is added by an empty
layer, or by a layer that is merged again, and layers can be grouped unless they are parted. -/
theorem mergeEntries_laws {a b c : Entries} (below : Keyed (.mapping a))
    (between : Keyed (.mapping b)) (above : Keyed (.mapping c)) :
    mergeEntries a [] = a ∧ mergeEntries [] b = b ∧ mergeEntries a a = a ∧
      mergeEntries a (mergeEntries a b) = mergeEntries a b ∧
      (¬ Parted (.mapping a) (.mapping b) (.mapping c) →
        mergeEntries (mergeEntries a b) c = mergeEntries a (mergeEntries b c)) ∧
      ∀ (path : List Scalar) (lower upper : Entries),
        valueAt path (.mapping a) = some (.mapping lower) →
        valueAt path (.mapping b) = some (.mapping upper) →
        valueAt path (.mapping (mergeEntries a b)) = some (.mapping (mergeEntries lower upper)) ∧
          (mergeEntries lower upper).keys =
            lower.keys ++ upper.keys.filter fun key => (lower.get? key).isNone := by
  refine ⟨by rw [mergeEntries], ?_, ?_, ?_, ?_, ?_⟩
  · -- All keys are new to the empty mapping.
    apply eq_of_get? (distinct_mergeEntries .nil b)
    · rw [keys_mergeEntries between.distinct]
      simp [Entries.keys]
    · intro key
      rw [get?_mergeEntries between.distinct]
      cases Entries.get? key b <;> simp [mergeValue_none]
  · have merged := below.mergeValue_self
    rw [mergeValue_mapping] at merged
    exact Value.mapping.inj merged
  · have merged := below.mergeValue_mergeValue between
    simp only [mergeValue_mapping] at merged
    exact Value.mapping.inj merged
  · intro joined
    have merged := above.mergeValue_assoc below between joined
    simp only [mergeValue_mapping] at merged
    exact Value.mapping.inj merged
  · intro path lower upper foundBelow foundAbove
    have merged := valueAt_mergeValue between foundBelow foundAbove
    rw [mergeValue_mapping] at merged
    exact ⟨merged, keys_mergeEntries (between.of_valueAt foundAbove).distinct lower⟩

/-- Layers that set different settings of one section can be grouped either way. -/
theorem mergeEntries_laws_sections :
    let a := entriesOf [("log", .object [("level", .text "INFO")]),
      ("backend", .object [("url", .text "http://books"), ("index", .text "old")])]
    let b := entriesOf [("backend", .object [("index", .text "new")])]
    let c := entriesOf [("fields", .null), ("backend", .object [("url", .text "http://shop")])]
    Keyed (.mapping a) ∧ Keyed (.mapping b) ∧ Keyed (.mapping c) ∧
      ¬ Parted (.mapping a) (.mapping b) (.mapping c) ∧
      mergeEntries (mergeEntries a b) c = mergeEntries a (mergeEntries b c) := by
  intro a b c
  have below : Keyed (.mapping a) := by
    refine keyed_object (by decide) ?_
    simp only [List.forall_mem_cons]
    exact ⟨keyed_object (by decide) (by simp [Keyed.scalar]),
      keyed_object (by decide) (by simp [Keyed.scalar]), by simp⟩
  have between : Keyed (.mapping b) := by
    refine keyed_object (by decide) ?_
    simp only [List.forall_mem_cons]
    exact ⟨keyed_object (by decide) (by simp [Keyed.scalar]), by simp⟩
  have above : Keyed (.mapping c) := by
    refine keyed_object (by decide) ?_
    simp only [List.forall_mem_cons]
    exact ⟨.scalar .null, keyed_object (by decide) (by simp [Keyed.scalar]), by simp⟩
  have joined : ¬ Parted (.mapping a) (.mapping b) (.mapping c) := by
    rw [parted_mapping_iff]
    rintro ⟨name, _, _, _, under, among, held, parted⟩
    -- The backend is the only section of the middle layer, and the index the only setting there.
    have backend : (Scalar.text "backend").sameKey name := by
      by_contra other
      simp [b, entriesOf, get?_cons, other] at among
    rw [← get?_congr backend] at under among held
    obtain ⟨⟩ := Option.some.inj under
    obtain ⟨⟩ := Option.some.inj among
    obtain ⟨⟩ := Option.some.inj held
    obtain ⟨key, _, _, _, -, among, held, -⟩ := parted_mapping_iff.1 parted
    have index : (Scalar.text "index").sameKey key := by
      by_contra other
      simp [get?_cons, other] at among
    -- The upper layer does not set the index.
    rw [← get?_congr index] at held
    contradiction
  exact ⟨below, between, above, joined, (mergeEntries_laws below between above).2.2.2.2.1 joined⟩

example : mergeEntries (mergeEntries (entriesOf [("log", .object [("level", .text "INFO")])])
    (entriesOf [("log", .null)])) (entriesOf [("log", .object [])]) =
      entriesOf [("log", .object [])] ∧
    mergeEntries (entriesOf [("log", .object [("level", .text "INFO")])])
      (mergeEntries (entriesOf [("log", .null)]) (entriesOf [("log", .object [])])) =
        entriesOf [("log", .object [("level", .text "INFO")])] := by
  exact ⟨rfl, rfl⟩

end BooleanSearch.Settings
