import BooleanSearch.Proofs.Settings.Sections
import BooleanSearch.Settings.Layers

/-! One rule decides each setting of two layers: where the upper one is silent the lower one counts. -/

namespace BooleanSearch.Settings

open Entries

/-! ### Mappings over mappings -/

/-- The entries of both mappings, where a rule gives the values of the upper one. -/
def overlay (rule : Option Value → Value → Value) (lower upper : Entries) : Entries :=
  lower.map (fun entry =>
      (entry.1, (upper.get? entry.1).elim entry.2 fun value => rule (some entry.2) value)) ++
    (upper.filter fun entry => (lower.get? entry.1).isNone).map fun entry =>
      (entry.1, rule none entry.2)

/-- A mapping has the entries of an upper one over a lower one. -/
structure Overlays (rule : Option Value → Value → Value) (lower upper result : Entries) : Prop where
  keys : result.keys = lower.keys ++ upper.keys.filter fun key => (lower.get? key).isNone
  values : ∀ key, result.get? key =
    (upper.get? key).elim (lower.get? key) fun value => some (rule (lower.get? key) value)

theorem overlays_overlay (rule : Option Value → Value → Value) (lower upper : Entries) :
    Overlays rule lower upper (overlay rule lower upper) := by
  constructor
  · simp [overlay, Entries.keys, List.filter_map, Function.comp_def]
  · intro key
    -- What is done to an entry depends on its key no further than lookups do.
    have front := get?_map
      (fun name below => (upper.get? name).elim below fun value => rule (some below) value)
      (fun same => by rw [get?_congr same]) key lower
    have back := get?_map (fun _ value => rule none value) (fun _ => rfl) key
      (upper.filter fun entry => (lower.get? entry.1).isNone)
    have fresh := get?_filter (fun name => (lower.get? name).isNone)
      (fun same => by rw [get?_congr same]) key upper
    rw [overlay, get?_append, front, back, fresh]
    cases lower.get? key <;> cases upper.get? key <;> rfl

/-- Merging lays one mapping over another. -/
theorem overlays_mergeEntries {upper : Entries} (distinct : upper.Distinct) (lower : Entries) :
    Overlays mergeValue lower upper (mergeEntries lower upper) := by
  -- Each entry changes what the entries behind it are laid over.
  induction upper generalizing lower with
  | nil => exact ⟨by simp [mergeEntries, Entries.keys], fun key => by rw [mergeEntries]; rfl⟩
  | cons entry rest ih =>
    obtain ⟨name, value⟩ := entry
    obtain ⟨others, behind⟩ := List.pairwise_cons.1 distinct
    have merged := ih behind (put name (mergeValue (lower.get? name) value) lower)
    rw [mergeEntries]
    constructor
    · -- The keys of the entries behind it are as new as they were.
      have unchanged : (keys rest).filter (fun key =>
            ((put name (mergeValue (lower.get? name) value) lower).get? key).isNone) =
          (keys rest).filter fun key => (lower.get? key).isNone := by
        apply List.filter_congr
        intro key among
        obtain ⟨entry, member, rfl⟩ := List.mem_map.1 among
        have other : name.sameKey entry.1 = false := others entry member
        rw [get?_put, other]
        rfl
      rw [merged.keys, unchanged, keys_put]
      cases found : lower.get? name <;> simp [Entries.keys, found]
    · intro key
      rw [merged.values, get?_put, get?_cons]
      by_cases same : name.sameKey key
      · -- No later entry is under the key, so that the value put there stays.
        have last : get? key rest = none := distinct.get?_behind same
        simp [same, last, get?_congr same]
      · simp [same]

/-! ### What settings can tell apart -/

/-- Two mappings with the same keys, and with related values under them. -/
structure Alike (related : Value → Value → Prop) (a b : Entries) : Prop where
  keys : a.keys = b.keys
  values : ∀ key, Option.Rel related (a.get? key) (b.get? key)

/-- No setting tells one mapping from another. -/
def SameSetting (a b : Value) : Prop :=
  a = b ∨ ∃ entries others, a = .mapping entries ∧ b = .mapping others

/-- Sections are the same if their settings are. -/
def SameSection (a b : Value) : Prop :=
  a = b ∨ ∃ entries others, a = .mapping entries ∧ b = .mapping others ∧
    Alike SameSetting entries others

theorem Overlays.alike {rule other : Option Value → Value → Value} {lower upper a b : Entries}
    {related : Value → Value → Prop} (refl : ∀ value, related value value)
    (rules : ∀ key value, upper.get? key = some value →
      related (rule (lower.get? key) value) (other (lower.get? key) value))
    (overlays : Overlays rule lower upper a) (others : Overlays other lower upper b) :
    Alike related a b := by
  constructor
  · -- Which keys there are does not depend on the rule.
    exact overlays.keys.trans others.keys.symm
  intro key
  rw [overlays.values, others.values]
  cases above : upper.get? key with
  | some value => exact .some (rules key value above)
  | none =>
    -- Both mappings have what the lower one has.
    cases lower.get? key with
    | none => exact .none
    | some value => exact .some (refl value)

/-- Over nothing the upper mapping is left. -/
theorem Overlays.alike_upper {rule : Option Value → Value → Value} {upper result : Entries}
    {related : Value → Value → Prop} (refl : ∀ value, related value value)
    (alone : ∀ value, rule none value = value) (overlays : Overlays rule [] upper result) :
    Alike related result upper := by
  constructor
  · -- No key is found in the lower mapping, so that all are kept.
    rw [overlays.keys]
    exact List.filter_eq_self.2 fun _ _ => rfl
  · intro key
    rw [overlays.values, get?_nil]
    cases upper.get? key with
    | none => exact .none
    | some value =>
      rw [Option.elim, alone]
      exact .some (refl value)

variable {a b : Entries}

theorem Alike.unknownNames {related : Value → Value → Prop} (alike : Alike related a b)
    (known : List String) : unknownNames known a = unknownNames known b := by
  rw [unknownNames_keys, unknownNames_keys, alike.keys]

theorem Alike.found {related : Value → Value → Prop} (alike : Alike related a b) (key : Scalar) :
    (a.get? key = none ∧ b.get? key = none) ∨
      ∃ value other, a.get? key = some value ∧ b.get? key = some other ∧ related value other := by
  -- The two lookups are related as they are, so they are named before they are taken apart.
  have values := alike.values key
  generalize a.get? key = above, b.get? key = below at values
  cases values with
  | none => exact .inl ⟨rfl, rfl⟩
  | some same => exact .inr ⟨_, _, rfl, rfl, same⟩

/-- A reading of values that does not look into mappings. -/
def RefusesMappings (expect : String → Value → Except Error α) : Prop :=
  ∀ key entries others, expect key (.mapping entries) = expect key (.mapping others)

theorem Alike.setting {expect : String → Value → Except Error α} (alike : Alike SameSetting a b)
    (refuses : RefusesMappings expect) (name key : String) (standard : α) :
    setting name key expect standard a = setting name key expect standard b := by
  unfold Settings.setting Entries.getText?
  obtain ⟨above, below⟩ | ⟨value, other, above, below, same⟩ := alike.found (.text key)
  · rw [above, below]
  · rw [above, below]
    obtain rfl | ⟨entries, others, rfl, rfl⟩ := same
    · rfl
    · -- Neither mapping is a value that the setting may have.
      exact refuses _ entries others

/-- Sections of roots that are told apart by nothing are read alike. -/
theorem Alike.knownSection {continuation : Entries → Except Error α}
    (continues : ∀ {entries others : Entries}, Alike SameSetting entries others →
      continuation entries = continuation others)
    (alike : Alike SameSection a b) (name : String) (known : List String) :
    knownSection name known a >>= continuation = knownSection name known b >>= continuation := by
  unfold Settings.knownSection sectionEntries Entries.getText?
  obtain ⟨above, below⟩ | ⟨value, other, above, below, same⟩ := alike.found (.text name)
  · rw [above, below]
  · rw [above, below]
    obtain rfl | ⟨entries, others, rfl, rfl, inside⟩ := same
    · rfl
    · -- Either both sections are refused for their keys, or both are read on.
      simp only [bind, Except.bind, inside.unknownNames]
      cases Settings.unknownNames known others with
      | nil => exact continues inside
      | cons unknown names => rfl

/-- Settings are the same for roots that are told apart by nothing. -/
theorem Alike.ofEntries (alike : Alike SameSection a b) : ofEntries a = ofEntries b := by
  -- No setting of any section may be a mapping.
  have text : RefusesMappings expectText := fun _ _ _ => rfl
  have truth : RefusesMappings expectTruth := fun _ _ _ => rfl
  have integer : RefusesMappings expectInteger := fun _ _ _ => rfl
  have seconds : RefusesMappings expectSeconds := fun _ _ _ => rfl
  have log : loadLog a = loadLog b := by
    refine alike.knownSection (fun inside => ?_) _ _
    simp only [inside.setting text, inside.setting truth]
  have fields : loadFields a = loadFields b := by
    refine alike.knownSection (fun inside => ?_) _ _
    simp only [inside.setting text]
  have backend : loadBackend a = loadBackend b := by
    refine alike.knownSection (fun inside => ?_) _ _
    simp only [inside.setting text, inside.setting integer, inside.setting seconds]
  unfold Settings.ofEntries
  rw [alike.unknownNames, log, fields, backend]

/-! ### Roots over roots -/

/-- A section over what is below it: a mapping keeps what it does not set, anything else nothing. -/
def sectionOver (below : Option Value) : Value → Value
  | .mapping upper =>
    match below with
    | some (.mapping lower) => .mapping (overlay (fun _ value => value) lower upper)
    | _ => .mapping upper
  | other => other

/-- One root over another, setting by setting. -/
def layered (base override : Entries) : Entries :=
  overlay sectionOver base override

/-- A root whose sections are under distinct keys, as are the settings of each of them. -/
structure IsLayer (root : Entries) : Prop where
  sections : root.Distinct
  settings : ∀ name entries, (name, .mapping entries) ∈ root → Entries.Distinct entries

theorem mergeValue_mapping (lower upper : Entries) :
    mergeValue (some (.mapping lower)) (.mapping upper) = .mapping (mergeEntries lower upper) := by
  rw [mergeValue]

/-- Unless both are mappings, the upper value stays as it is. -/
theorem merge_cases (below : Option Value) (value : Value) :
    (∃ lower upper, below = some (.mapping lower) ∧ value = .mapping upper) ∨
      (mergeValue below value = value ∧ sectionOver below value = value) := by
  cases value with
  | scalar content => exact .inr ⟨by rw [mergeValue]; simp, rfl⟩
  | list items => exact .inr ⟨by rw [mergeValue]; simp, rfl⟩
  | mapping upper =>
    obtain _ | (content | items | lower) := below
    case some.mapping => exact .inl ⟨lower, upper, rfl, rfl⟩
    -- A mapping is put over anything else as it is.
    all_goals exact .inr ⟨by rw [mergeValue]; simp, rfl⟩

theorem mergeValue_none (value : Value) : mergeValue none value = value := by
  obtain ⟨lower, upper, impossible, -⟩ | ⟨merged, -⟩ := merge_cases none value
  · contradiction
  · exact merged

theorem sameSetting_mergeValue (below : Option Value) (value : Value) :
    SameSetting (mergeValue below value) value := by
  obtain ⟨lower, upper, rfl, rfl⟩ | ⟨merged, -⟩ := merge_cases below value
  · rw [mergeValue_mapping]
    exact .inr ⟨_, _, rfl, rfl⟩
  · exact .inl merged

/-- Merged sections have the settings of one section over another. -/
theorem sameSection_mergeValue (below : Option Value) {value : Value}
    (distinct : ∀ entries, value = .mapping entries → Entries.Distinct entries) :
    SameSection (mergeValue below value) (sectionOver below value) := by
  obtain ⟨lower, upper, rfl, rfl⟩ | ⟨merged, kept⟩ := merge_cases below value
  · have merged := overlays_mergeEntries (distinct upper rfl) lower
    have inside : Alike SameSetting (mergeEntries lower upper)
        (overlay (fun _ value => value) lower upper) := by
      apply merged.alike (fun _ => .inl rfl) _ (overlays_overlay _ _ _)
      intro key value _
      exact sameSetting_mergeValue _ value
    rw [mergeValue_mapping]
    exact .inr ⟨_, _, rfl, rfl, inside⟩
  · exact .inl (merged.trans kept.symm)

/-- Roots that are merged have the settings of one root over another. -/
theorem IsLayer.ofEntries_merged {override : Entries} (layer : IsLayer override) (base : Entries) :
    ofEntries (mergeEntries base override) = ofEntries (layered base override) := by
  have merged := overlays_mergeEntries layer.sections base
  -- The two roots differ at most in mappings that stand where no setting may be one.
  have alike : Alike SameSection (mergeEntries base override) (layered base override) := by
    apply merged.alike (fun _ => .inl rfl) _ (overlays_overlay sectionOver _ _)
    intro key value above
    apply sameSection_mergeValue
    rintro entries rfl
    obtain ⟨name, member⟩ := mem_of_get? above
    exact layer.settings name entries member
  exact alike.ofEntries

/-! ### Single settings -/

/-- The value of a setting in one root over another. -/
def valueOver (base override : Entries) (name key : String) : Option Value :=
  match override.getText? name with
  | none => valueIn base name key
  | some (.mapping entries) => (Entries.getText? key entries).or (valueIn base name key)
  | some _ => none

theorem valueIn_layered (base override : Entries) (name key : String) :
    valueIn (layered base override) name key = valueOver base override name key := by
  have found := (overlays_overlay sectionOver base override).values (.text name)
  unfold valueIn valueOver valueIn Entries.getText? layered
  rw [found]
  -- Only where both layers have a mapping do two values come together.
  cases override.get? (.text name) with
  | none => rfl
  | some value =>
    cases value with
    | scalar content => rfl
    | list items => rfl
    | mapping upper =>
      obtain _ | (content | items | lower) := base.get? (.text name)
      case some.mapping =>
        have inside := (overlays_overlay (fun _ value => value) lower upper).values (.text key)
        simp only [Option.elim, sectionOver, inside]
        cases get? (.text key) upper <;> rfl
      all_goals simp [sectionOver]

/-- One rule decides each setting of two layers. -/
theorem ofEntries_mergeEntries (base : Entries) {override : Entries} (layer : IsLayer override) :
    ofEntries (mergeEntries base override) = ofEntries (layered base override) ∧
      (∀ name key, valueIn (layered base override) name key = valueOver base override name key) ∧
      (∀ settings, ofEntries (mergeEntries base override) = .ok settings →
        ofValues (valueOver base override) = .ok settings) ∧
      ofEntries (mergeEntries base []) = ofEntries base ∧
      ofEntries (mergeEntries [] override) = ofEntries override := by
  have same := layer.ofEntries_merged base
  have single : valueIn (layered base override) = valueOver base override := by
    funext name key
    exact valueIn_layered base override name key
  refine ⟨same, valueIn_layered base override, ?_, by rw [mergeEntries], ?_⟩
  · intro settings accepted
    rw [← single]
    exact ofValues_valueIn (same.symm.trans accepted)
  · have merged := overlays_mergeEntries layer.sections []
    exact (merged.alike_upper (fun _ => .inl rfl) mergeValue_none).ofEntries

/-- A section that is set in part keeps the rest, and one that is set to nothing loses all. -/
theorem ofEntries_mergeEntries_parts :
    let base : Entries := [(.text "log", .object [("level", .text "debug")]),
      (.text "backend", .object [("url", .text "http://books"), ("index", .text "old")])]
    let override : Entries :=
      [(.text "backend", .object [("index", .text "new")]), (.text "log", .null)]
    let value := valueIn (layered base override)
    IsLayer override ∧ ofEntries (mergeEntries base override) = ofEntries (layered base override) ∧
      value "backend" "url" = some (.text "http://books") ∧
      value "backend" "index" = some (.text "new") ∧ value "log" "level" = none := by
  intro base override value
  have layer : IsLayer override := by
    constructor
    · unfold Entries.Distinct
      decide
    · intro name entries member
      -- Only the backend has a mapping, which sets a single key.
      simp only [override, List.mem_cons, List.not_mem_nil, or_false] at member
      obtain backend | log := member
      · obtain ⟨-, mapping⟩ := Prod.mk.inj backend
        obtain rfl := Value.mapping.inj mapping
        exact List.pairwise_singleton _ _
      · exact absurd (Prod.mk.inj log).2 (by simp)
  obtain ⟨same, single, -⟩ := ofEntries_mergeEntries base layer
  refine ⟨layer, same, ?_, ?_, ?_⟩
  · exact (single "backend" "url").trans rfl
  · exact (single "backend" "index").trans rfl
  · exact (single "log" "level").trans rfl

end BooleanSearch.Settings
