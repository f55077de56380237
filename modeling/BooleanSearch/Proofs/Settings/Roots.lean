import BooleanSearch.Proofs.Settings.Merging
import BooleanSearch.Settings.Source

/-! Files over one another: with a reader that gives no key of a mapping twice they lead to the
settings of one root over another, and the reader that the program comes with is such a one. -/

namespace BooleanSearch

namespace Yaml

open Entries Settings

/-- A reader gives no key of a mapping twice, however deep the mapping lies in other ones. -/
def Reader.IsKeyed (reader : Reader) : Prop :=
  ∀ text value, reader text = .ok value → Keyed value

/-- The values of pairs are values of nodes among them. -/
theorem exists_pair_of_pairValues {pairs : List (Node × Node)} {values : List (Scalar × Value)}
    (read : pairValues pairs = .ok values) {key : Scalar} {value : Value}
    (member : (key, value) ∈ values) : ∃ pair ∈ pairs, pair.2.value = .ok value := by
  induction pairs generalizing values with
  | nil =>
    rw [pairValues] at read
    rw [← Except.ok.inj read] at member
    contradiction
  | cons pair rest ih =>
    obtain ⟨name, node⟩ := pair
    unfold pairValues at read
    split at read
    · contradiction
    · split at read
      · contradiction
      · rename_i first found
        split at read
        · contradiction
        · rename_i others behind
          rw [← Except.ok.inj read] at member
          -- The value is that of the first pair, or that of one behind it.
          obtain here | later := List.mem_cons.1 member
          · obtain rfl := (Prod.mk.inj here).2
            exact ⟨(name, node), List.mem_cons_self .., found⟩
          · obtain ⟨pair, among, same⟩ := ih behind later
            exact ⟨pair, List.mem_cons_of_mem _ among, same⟩

theorem map_eq_ok {x : Except ε α} {f : α → β} {result : β} (mapped : x.map f = .ok result) :
    ∃ value, x = .ok value ∧ f value = result := by
  cases x with
  | error error => contradiction
  | ok value => exact ⟨value, rfl, Except.ok.inj mapped⟩

/-- The mappings in the value of a node have distinct keys, since later pairs replace earlier ones
under the same key. -/
theorem Node.keyed_value : ∀ (node : Node) {value : Value}, node.value = .ok value → Keyed value
  | .plain cs, value, read => by
    obtain ⟨content, -, rfl⟩ := map_eq_ok read
    exact .scalar content
  | .quoted cs, value, read => by
    obtain rfl := Except.ok.inj read
    exact .scalar _
  | .typed, value, read => by contradiction
  | .sequence items, value, read => by
    obtain ⟨values, -, rfl⟩ := map_eq_ok read
    exact .list values
  | .mapping pairs, value, read => by
    obtain ⟨values, found, rfl⟩ := map_eq_ok read
    refine .mapping (distinct_ofPairs values) ?_
    rintro ⟨name, held⟩ member
    obtain ⟨key, among⟩ := mem_ofPairs member
    obtain ⟨⟨keyNode, node⟩, listed, same⟩ := exists_pair_of_pairValues found among
    -- What stands under a key is the value of a smaller node.
    have smaller : sizeOf node < sizeOf (Node.mapping pairs) := by
      have inPairs := List.sizeOf_lt_of_mem listed
      simp only [Prod.mk.sizeOf_spec, Node.mapping.sizeOf_spec] at inPairs ⊢
      omega
    exact Node.keyed_value node same
termination_by node => sizeOf node
decreasing_by exact smaller

/-- The reader that the program comes with gives no key twice. -/
theorem isKeyed_read : Reader.IsKeyed read := by
  intro text value found
  unfold read at found
  split at found
  · contradiction
  · -- The value is that of a node without faults.
    split at found
    · contradiction
    · exact Node.keyed_value _ found

end Yaml

namespace Settings

variable {reader : Yaml.Reader}

/-- A keyed root can be laid over any other one. -/
theorem Keyed.isLayer {root : Entries} (keyed : Keyed (.mapping root)) : IsLayer root := by
  cases keyed with
  | mapping distinct inside => exact ⟨distinct, fun _ _ member => (inside _ member).distinct⟩

/-- The root mapping of a text can be laid over any other one. -/
theorem isLayer_rootOfText (keyed : reader.IsKeyed) {text : String} {root : Entries}
    (read : rootOfText text reader = .ok root) : IsLayer root := by
  unfold rootOfText at read
  split at read
  · contradiction
  · rename_i entries found
    obtain rfl := Except.ok.inj read
    exact (keyed _ _ found).isLayer
  · -- A text of nothing has a root without sections.
    split at read
    · obtain rfl := Except.ok.inj read
      exact ⟨.nil, by simp⟩
    · contradiction

/-- The settings of a file over the standard ones are those of one root over another. -/
theorem ofFiles_layered (keyed : reader.IsKeyed) {files : Files} {path : String}
    {base override : Entries} (below : standardRoot files reader = .ok base)
    (above : rootOfFile files path reader = .ok override)
    (other : (Path.names path == Path.names standardPath && !Path.isAbsolute path) = false) :
    ofFiles files path reader = ofRoot (layered base override) := by
  have layer : IsLayer override := by
    unfold rootOfFile at above
    split at above
    · exact isLayer_rootOfText keyed above
    · contradiction
  have merged : ofRoot (mergeEntries base override) = ofRoot (layered base override) := by
    rw [ofRoot, ofRoot, layer.ofEntries_merged]
  rw [ofFiles, below, above]
  simp only [bind, Except.bind, other, Bool.false_eq_true, if_false, merged]

end Settings

end BooleanSearch
