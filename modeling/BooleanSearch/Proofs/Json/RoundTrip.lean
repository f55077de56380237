import BooleanSearch.Proofs.Json.Numbers
import BooleanSearch.Proofs.Json.Strings
import BooleanSearch.Proofs.Value.Entries

/-! Documents are read back as they were written, in both layouts and with their keys in order. -/

namespace BooleanSearch.Json

open Number Text

/-- Values that JSON can tell apart, their integers being short enough for a reader. -/
inductive IsDocument (limit : Option Nat) : Value → Prop
  | null : IsDocument limit .null
  | bool (truth : Bool) : IsDocument limit (.bool truth)
  /-- Without a limit there are no integers that are too long. -/
  | int {number : Int} (short : ∀ most ∈ limit, (Nat.toDigits 10 number.natAbs).length ≤ most) :
      IsDocument limit (.int number)
  | text (content : String) : IsDocument limit (.text content)
  | list {items : List Value} (each : ∀ item ∈ items, IsDocument limit item) :
      IsDocument limit (.list items)
  /-- No two members of an object have one key. -/
  | object {members : List (String × Value)} (distinct : (members.map Prod.fst).Nodup)
      (each : ∀ member ∈ members, IsDocument limit member.2) : IsDocument limit (.object members)

/-- What a reader with a limit takes, one without a limit takes too. -/
theorem IsDocument.unlimited {limit : Option Nat} {document : Value}
    (wellFormed : IsDocument limit document) : IsDocument none document := by
  induction wellFormed with
  | null => exact .null
  | bool truth => exact .bool truth
  | int => exact .int (by simp)
  | text content => exact .text content
  | list _ each => exact .list each
  | object distinct _ each => exact .object distinct each

variable {limit : Option Nat} (layout : Layout)

/-! ### Space -/

/-- What sets members apart is space. -/
theorem isSpace_of_mem_lineStart (depth : Nat) : ∀ c ∈ layout.lineStart depth, isSpace c := by
  -- One layout puts nothing there, the other one a new line and spaces.
  cases layout with
  | compact => simp [Layout.lineStart]
  | indented =>
    simp only [Layout.lineStart, List.mem_cons, List.mem_replicate]
    rintro c (rfl | ⟨_, rfl⟩) <;> rfl

/-- The space in front of a member is skipped. -/
theorem skipSpace_lineStart (depth : Nat) (cs : List Char) :
    skipSpace (layout.lineStart depth ++ cs) = skipSpace cs :=
  List.dropWhile_append_of_pos (isSpace_of_mem_lineStart layout depth)

/-- Nothing is skipped in front of a character that is no space. -/
theorem skipSpace_cons {c : Char} (plain : isSpace c = false) (rest : List Char) :
    skipSpace (c :: rest) = c :: rest := by
  simp [skipSpace, plain]

/-- A value is read whether or not the space in front of it was skipped before. -/
theorem readValue_skipSpace (fuel : Nat) (cs : List Char) :
    readValue limit fuel (skipSpace cs) = readValue limit fuel cs := by
  -- Skipping space twice skips no more than skipping it once.
  cases fuel with
  | zero => simp [readValue]
  | succ fuel => simp only [readValue, skipSpace, dropWhile_dropWhile]

/-- The members of a list are read whether or not the space in front was skipped before. -/
theorem readItems_skipSpace (fuel : Nat) (cs : List Char) :
    readItems limit fuel (skipSpace cs) = readItems limit fuel cs := by
  cases fuel with
  | zero => simp [readItems]
  | succ fuel => simp only [readItems, readValue_skipSpace]

/-- The entries of a mapping are read whether or not the space in front was skipped before. -/
theorem readEntries_skipSpace (fuel : Nat) (cs : List Char) :
    readEntries limit fuel (skipSpace cs) = readEntries limit fuel cs := by
  cases fuel with
  | zero => simp [readEntries]
  | succ fuel => simp only [readEntries, skipSpace, dropWhile_dropWhile]

/-! ### Scalars -/

/-- A word or a number is read as a scalar. -/
theorem readValue_bare {c : Char} {tail rest : List Char} {content : Scalar}
    (plain : isSpace c = false) (noOpening : c ≠ '"' ∧ c ≠ '[' ∧ c ≠ '\x7b')
    (reads : readBare limit (c :: tail) = some (content, rest)) (fuel : Nat) :
    readValue limit (fuel + 1) (c :: tail) = some (.scalar content, rest) := by
  simp [readValue, skipSpace_cons plain, noOpening, reads]

/-- The text of an integer opens with a minus or with a digit. -/
theorem intText_opens (n : Int) :
    ∃ c tail, (intText n).toList = c :: tail ∧ (c = '-' ∨ c.isDigit) := by
  -- Only negative numbers have a sign.
  by_cases sign : n < 0
  · exact ⟨'-', Nat.toDigits 10 n.natAbs, by simp [intText, sign], .inl rfl⟩
  · obtain ⟨c, tail, written, digit⟩ := toDigits_eq_cons n.natAbs
    exact ⟨c, tail, by simp [intText, sign, written], .inr digit⟩

/-- A character that opens a number opens nothing else, and it is no space. -/
theorem opensNumber_plain {c : Char} (opens : c = '-' ∨ c.isDigit) :
    isSpace c = false ∧ c ∉ ['"', '[', ']', '\x7b', '\x7d'] := by
  -- Each of the other characters is compared with the digits, and none is one.
  rcases opens with rfl | digit
  · decide
  · constructor
    · cases space : isSpace c with
      | false => rfl
      | true =>
        simp only [isSpace, Bool.or_eq_true, beq_iff_eq] at space
        rcases space with ((rfl | rfl) | rfl) | rfl <;> revert digit <;> decide
    · simp only [List.mem_cons, List.not_mem_nil, or_false]
      rintro (rfl | rfl | rfl | rfl | rfl) <;> revert digit <;> decide

/-- Every value opens with a character that is no space, and that closes nothing. -/
theorem write_opens {value : Value} (document : IsDocument limit value) (depth : Nat) :
    ∃ c tail, write layout depth value = c :: tail ∧ isSpace c = false ∧ c ≠ ']' ∧ c ≠ '\x7d' := by
  -- The first character tells the kinds of values apart.
  cases document with
  | null => exact ⟨'n', ['u', 'l', 'l'], rfl, by decide⟩
  | bool truth => cases truth <;> exact ⟨_, _, rfl, by decide⟩
  | @int number short =>
    obtain ⟨c, tail, written, opens⟩ := intText_opens number
    have plain := opensNumber_plain opens
    exact ⟨c, tail, by simp [write, scalarText, bareText, written], plain.1,
      fun same => plain.2 (by simp [same]), fun same => plain.2 (by simp [same])⟩
  | text content => exact ⟨'"', _, rfl, by decide⟩
  | @list items each =>
    cases items <;> exact ⟨'[', _, by simp only [write, List.cons_append]; rfl, by decide⟩
  | @object members distinct each =>
    cases members <;>
      exact ⟨'\x7b', _, by simp only [write, Value.object, List.map, List.cons_append]; rfl,
        by decide⟩

/-- An integer that is short enough is read back. -/
theorem readValue_int {number : Int}
    (short : ∀ most ∈ limit, (Nat.toDigits 10 number.natAbs).length ≤ most) {rest : List Char}
    (ends : EndsValue rest) (fuel : Nat) :
    readValue limit (fuel + 1) ((intText number).toList ++ rest) = some (.int number, rest) := by
  -- The limit of the reader is the one that the integer was measured by.
  have admitted : isTooLong limit (Nat.toDigits 10 number.natAbs) = false := by
    cases limit with
    | none => rfl
    | some most => simpa [isTooLong] using short most rfl
  have reads := readBare_intText admitted ends
  obtain ⟨c, tail, written, opens⟩ := intText_opens number
  obtain ⟨plain, noOpening⟩ := opensNumber_plain opens
  simp only [List.mem_cons, List.not_mem_nil, or_false, not_or] at noOpening
  rw [written, List.cons_append] at reads ⊢
  exact readValue_bare plain ⟨noOpening.1, noOpening.2.1, noOpening.2.2.2.1⟩ reads fuel

/-- A string opens with a quote, and its own closing quote stands in front of what follows. -/
theorem stringText_append (content : String) (rest : List Char) :
    stringText content ++ rest = '"' :: (content.toList.flatMap escaped ++ '"' :: rest) := by
  simp [stringText]

/-- A string is read back as a value. -/
theorem readValue_stringText (content : String) (rest : List Char) (fuel : Nat) :
    readValue limit (fuel + 1) (stringText content ++ rest) = some (.text content, rest) := by
  rw [stringText_append, readValue, skipSpace_cons rfl]
  simp only [readString_flatMap, Option.map_some]

/-! ### Members -/

/-- A value is read back in front of whatever ends it, given fuel for each of its characters. -/
def ReadsBack (limit : Option Nat) (layout : Layout) (value : Value) : Prop :=
  -- Each character pays for two steps: a bracket needs as many, a comma fewer.
  ∀ (depth fuel : Nat) (rest : List Char), EndsValue rest →
    2 * (write layout depth value).length ≤ fuel →
      readValue limit fuel (write layout depth value ++ rest) = some (value, rest)

variable {layout}

/-- Commas, brackets, braces and new lines end a value. -/
theorem endsValue_cons {c : Char} (plain : c ∈ [',', ']', '\x7d', '\n']) (rest : List Char) :
    EndsValue (c :: rest) := by
  intro d first
  obtain rfl : c = d := by simpa using first
  simp only [List.mem_cons, List.not_mem_nil, or_false] at plain
  rcases plain with rfl | rfl | rfl | rfl <;> decide

/-- The space in front of a closing bracket or brace ends the value in front of it. -/
theorem endsValue_lineStart (layout : Layout) {c : Char} (plain : c = ']' ∨ c = '\x7d')
    (depth : Nat) (rest : List Char) : EndsValue (layout.lineStart depth ++ c :: rest) := by
  -- Either the bracket follows at once, or a new line stands in front of it.
  cases layout with
  | compact => exact endsValue_cons (by rcases plain with rfl | rfl <;> simp) rest
  | indented => exact endsValue_cons (by simp) _

/-- Behind the last member its closing bracket or brace comes next. -/
theorem skipSpace_closing (layout : Layout) {c : Char} (plain : isSpace c = false) (depth : Nat)
    (rest : List Char) : skipSpace (layout.lineStart depth ++ c :: rest) = c :: rest := by
  rw [skipSpace_lineStart, skipSpace_cons plain]

section Member

variable {value : Value} (back : ReadsBack limit layout value) {depth fuel : Nat}
  (enough : 2 * (write layout depth value).length ≤ fuel)

include back enough

/-- A value is read back whatever space stands in front of it. -/
theorem readValue_space {space : List Char} (blank : ∀ c ∈ space, isSpace c) {rest : List Char}
    (ends : EndsValue rest) :
    readValue limit fuel (space ++ (write layout depth value ++ rest)) = some (value, rest) := by
  -- The reader skips the space first, so that it sees nothing but the value.
  have skipped : skipSpace (space ++ (write layout depth value ++ rest)) =
      skipSpace (write layout depth value ++ rest) := List.dropWhile_append_of_pos blank
  rw [← readValue_skipSpace, skipped, readValue_skipSpace]
  exact back depth fuel rest ends enough

/-- The last member of a list is read back up to the bracket. -/
theorem readItems_last (closing : Nat) (rest : List Char) :
    readItems limit (fuel + 1) (layout.lineStart depth ++
        (write layout depth value ++ (layout.lineStart closing ++ ']' :: rest))) =
      some ([value], rest) := by
  -- Behind the value there is space and then the bracket.
  have ends := endsValue_lineStart layout (.inl rfl : ']' = ']' ∨ _) closing rest
  rw [readItems, readValue_space back enough (isSpace_of_mem_lineStart layout depth) ends]
  dsimp only
  rw [skipSpace_closing layout rfl]
  rfl

/-- A member of a list is read back in front of the others. -/
theorem readItems_more {behind rest : List Char} {others : List Value}
    (reads : readItems limit fuel behind = some (others, rest)) :
    readItems limit (fuel + 1) (layout.lineStart depth ++
        (write layout depth value ++ ',' :: behind)) = some (value :: others, rest) := by
  -- Behind the value there is a comma, and the others are read from there.
  have ends := endsValue_cons (show ',' ∈ _ by simp) behind
  rw [readItems, readValue_space back enough (isSpace_of_mem_lineStart layout depth) ends]
  dsimp only
  rw [skipSpace_cons rfl]
  simp only [reads, Option.map_some]

/-- A key and its value are set apart by a colon and by nothing but space. -/
theorem readValue_colon {rest : List Char} (ends : EndsValue rest) :
    ∃ behind, skipSpace (layout.colon ++ (write layout depth value ++ rest)) = ':' :: behind ∧
      readValue limit fuel behind = some (value, rest) := by
  have blank : ∀ c ∈ [' '], isSpace c := by simp [isSpace]
  -- Only the indented layout has a space behind the colon.
  cases layout with
  | compact => exact ⟨_, rfl, back depth fuel rest ends enough⟩
  | indented => exact ⟨_, rfl, readValue_space back enough blank ends⟩

/-- The last entry of an object is read back up to the brace. -/
theorem readEntries_last (key : String) (closing : Nat) (rest : List Char) :
    readEntries limit (fuel + 1) (layout.lineStart depth ++ (stringText key ++ (layout.colon ++
        (write layout depth value ++ (layout.lineStart closing ++ '\x7d' :: rest))))) =
      some ([(.text key, value)], rest) := by
  have ends := endsValue_lineStart layout (.inr rfl : _ ∨ '\x7d' = '\x7d') closing rest
  -- The key is a string, and behind the colon stands the value.
  obtain ⟨behind, colon, reads⟩ := readValue_colon back enough ends
  have brace : skipSpace (layout.lineStart closing ++ '\x7d' :: rest) = '\x7d' :: rest :=
    skipSpace_closing layout rfl closing rest
  rw [readEntries, skipSpace_lineStart, stringText_append, skipSpace_cons rfl]
  simp only [readString_flatMap, colon, reads, brace]

/-- An entry of an object is read back in front of the others. -/
theorem readEntries_more (key : String) {others : List Char} {entries : Entries} {rest : List Char}
    (more : readEntries limit fuel others = some (entries, rest)) :
    readEntries limit (fuel + 1) (layout.lineStart depth ++ (stringText key ++ (layout.colon ++
        (write layout depth value ++ ',' :: others)))) =
      some ((.text key, value) :: entries, rest) := by
  have ends := endsValue_cons (show ',' ∈ _ by simp) others
  -- The key is read as above, and the comma leads to the other entries.
  obtain ⟨behind, colon, reads⟩ := readValue_colon back enough ends
  have comma : skipSpace (',' :: others) = ',' :: others := skipSpace_cons rfl others
  rw [readEntries, skipSpace_lineStart, stringText_append, skipSpace_cons rfl]
  simp only [readString_flatMap, colon, reads, comma, more, Option.map_some]

end Member

/-- The members of a list are read back up to its bracket, if each of them is. -/
theorem readItems_writeItems {items : List Value} (nonempty : items ≠ [])
    (each : ∀ item ∈ items, ReadsBack limit layout item) (depth closing : Nat) (rest : List Char) :
    ∀ fuel, 2 * (writeItems layout depth items).length + 1 ≤ fuel →
      readItems limit fuel
          (writeItems layout depth items ++ (layout.lineStart closing ++ ']' :: rest)) =
        some (items, rest) := by
  -- Each member costs one step of fuel, and its comma is one character.
  induction items with
  | nil => contradiction
  | cons item others ih =>
    intro fuel enough
    obtain ⟨fuel, rfl⟩ : ∃ left, fuel = left + 1 := ⟨fuel - 1, by omega⟩
    have first := each item (by simp)
    cases others with
    | nil =>
      simp only [writeItems, List.isEmpty_nil, if_true, List.append_nil, List.length_append,
        List.append_assoc] at enough ⊢
      exact readItems_last first (by omega) closing rest
    | cons next others =>
      rw [writeItems] at enough ⊢
      simp only [List.isEmpty_cons, Bool.false_eq_true, if_false, List.length_append,
        List.length_cons, List.append_assoc, List.cons_append] at enough ⊢
      have behind := ih (by simp) (fun other member => each other (by simp [member])) fuel
      exact readItems_more first (by omega) (behind (by omega))

/-- The entries of an object are read back up to its brace, if the values of all of them are. -/
theorem readEntries_writeEntries {members : List (String × Value)} (nonempty : members ≠ [])
    (each : ∀ member ∈ members, ReadsBack limit layout member.2) (depth closing : Nat)
    (rest : List Char) :
    ∀ fuel, 2 * (writeEntries layout depth (entriesOf members)).length + 1 ≤ fuel →
      readEntries limit fuel (writeEntries layout depth (entriesOf members) ++
          (layout.lineStart closing ++ '\x7d' :: rest)) = some (entriesOf members, rest) := by
  -- As for lists, each entry costs one step of fuel and its comma is one character.
  induction members with
  | nil => contradiction
  | cons member others ih =>
    obtain ⟨key, value⟩ := member
    intro fuel enough
    obtain ⟨fuel, rfl⟩ : ∃ left, fuel = left + 1 := ⟨fuel - 1, by omega⟩
    have first : ReadsBack limit layout value := each (key, value) (by simp)
    cases others with
    | nil =>
      simp only [entriesOf, List.map_cons, List.map_nil, writeEntries, bareText,
        String.ofList_toList, List.isEmpty_nil, if_true, List.append_nil, List.length_append,
        List.append_assoc] at enough ⊢
      exact readEntries_last first (by omega) key closing rest
    | cons next others =>
      have behind := ih (by simp) (fun other member => each other (by simp [member])) fuel
      rw [entriesOf_cons, writeEntries] at enough ⊢
      have more : (entriesOf (next :: others)).isEmpty = false := rfl
      simp only [more, bareText, String.ofList_toList, Bool.false_eq_true, if_false,
        List.length_append, List.length_cons, List.append_assoc, List.cons_append] at enough ⊢
      exact readEntries_more first (by omega) key (behind (by omega))

/-! ### Documents -/

/-- A list that does not close at once is read member by member. -/
theorem readValue_list {cs tail : List Char} {c : Char} (opens : skipSpace cs = c :: tail)
    (more : c ≠ ']') (fuel : Nat) :
    readValue limit (fuel + 1) ('[' :: cs) =
      (readItems limit fuel cs).map fun (items, rest) => (.list items, rest) := by
  rw [← readItems_skipSpace, opens, readValue, skipSpace_cons rfl]
  simp [opens, more]

/-- An object that does not close at once is read entry by entry. -/
theorem readValue_mapping {cs tail : List Char} {c : Char} (opens : skipSpace cs = c :: tail)
    (more : c ≠ '\x7d') (fuel : Nat) :
    readValue limit (fuel + 1) ('\x7b' :: cs) =
      (readEntries limit fuel cs).map fun (pairs, rest) =>
        (.mapping (Entries.ofPairs pairs), rest) := by
  rw [← readEntries_skipSpace, opens, readValue, skipSpace_cons rfl]
  simp [opens, more]

/-- What is written is not empty, so that there is fuel for its first character. -/
theorem readsBack_of_succ {value : Value} (document : IsDocument limit value)
    (step : ∀ (depth fuel : Nat) (rest : List Char), EndsValue rest →
      2 * (write layout depth value).length ≤ fuel + 1 →
        readValue limit (fuel + 1) (write layout depth value ++ rest) = some (value, rest)) :
    ReadsBack limit layout value := by
  intro depth fuel rest ends enough
  -- The first character alone pays for the step that is taken.
  obtain ⟨c, tail, written, -⟩ := write_opens layout document depth
  have some : 0 < (write layout depth value).length := by simp [written]
  obtain ⟨fuel, rfl⟩ : ∃ left, fuel = left + 1 := ⟨fuel - 1, by omega⟩
  exact step depth fuel rest ends enough

/-- A list is read back if each of its members is. -/
theorem readsBack_list {items : List Value} (each : ∀ item ∈ items, IsDocument limit item)
    (back : ∀ item ∈ items, ReadsBack limit layout item) :
    ReadsBack limit layout (.list items) := by
  refine readsBack_of_succ (.list each) fun depth fuel rest _ enough => ?_
  cases items with
  | nil => simp [write, readValue, skipSpace, isSpace]
  | cons item others =>
    -- The list goes on with its first member, which does not close it.
    obtain ⟨c, tail, written, plain, noBracket, -⟩ :=
      write_opens layout (each item (by simp)) (depth + 1)
    have opens (behind : List Char) : ∃ tail,
        skipSpace (writeItems layout (depth + 1) (item :: others) ++ behind) = c :: tail := by
      simp only [writeItems, List.append_assoc, skipSpace_lineStart, written, List.cons_append]
      exact ⟨_, skipSpace_cons plain _⟩
    obtain ⟨tail, opens⟩ := opens (layout.lineStart depth ++ ']' :: rest)
    simp only [write, List.length_append, List.length_cons, List.length_nil, List.append_assoc,
      List.cons_append, List.nil_append] at enough ⊢
    rw [readValue_list opens noBracket,
      readItems_writeItems (by simp) back (depth + 1) depth rest fuel (by omega)]
    rfl

/-- An object is read back, its keys in order, if the values of all its members are. -/
theorem readsBack_object {members : List (String × Value)}
    (distinct : (members.map Prod.fst).Nodup)
    (each : ∀ member ∈ members, IsDocument limit member.2)
    (back : ∀ member ∈ members, ReadsBack limit layout member.2) :
    ReadsBack limit layout (.object members) := by
  refine readsBack_of_succ (.object distinct each) fun depth fuel rest _ enough => ?_
  rw [object_eq] at enough ⊢
  cases members with
  | nil => simp [entriesOf, write, readValue, skipSpace, isSpace]
  | cons member others =>
    obtain ⟨key, value⟩ := member
    -- The object goes on with the quote of its first key.
    have opens (behind : List Char) : ∃ tail, skipSpace
        (writeEntries layout (depth + 1) (entriesOf ((key, value) :: others)) ++ behind) =
          '"' :: tail := by
      simp only [entriesOf_cons, writeEntries, List.append_assoc, skipSpace_lineStart, stringText,
        List.cons_append]
      exact ⟨_, skipSpace_cons rfl _⟩
    obtain ⟨tail, opens⟩ := opens (layout.lineStart depth ++ '\x7d' :: rest)
    have written : write layout depth (.mapping (entriesOf ((key, value) :: others))) =
        '\x7b' :: writeEntries layout (depth + 1) (entriesOf ((key, value) :: others)) ++
          layout.lineStart depth ++ ['\x7d'] := by
      rw [entriesOf_cons, write]
    simp only [written, List.length_append, List.length_cons, List.length_nil, List.append_assoc,
      List.cons_append, List.nil_append] at enough ⊢
    rw [readValue_mapping opens (by decide),
      readEntries_writeEntries (by simp) back (depth + 1) depth rest fuel (by omega)]
    simp only [Option.map_some, Entries.ofPairs_entriesOf distinct]

/-- Every document is read back in front of whatever ends it. -/
theorem IsDocument.readsBack {document : Value} (wellFormed : IsDocument limit document) :
    ReadsBack limit layout document := by
  -- The induction is on the document: its members are read back before it is.
  induction wellFormed with
  | null =>
    exact readsBack_of_succ .null fun _ fuel _ _ _ => readValue_bare rfl (by decide) rfl fuel
  | bool truth =>
    refine readsBack_of_succ (.bool truth) fun _ fuel _ _ _ => ?_
    cases truth <;> exact readValue_bare rfl (by decide) rfl fuel
  | int short =>
    exact readsBack_of_succ (.int short) fun _ fuel _ ends _ => readValue_int short ends fuel
  | text content =>
    exact readsBack_of_succ (.text content) fun _ fuel rest _ _ =>
      readValue_stringText content rest fuel
  | list each back => exact readsBack_list each back
  | object distinct each back => exact readsBack_object distinct each back

/-- A document is what its text is read as, in either layout. -/
theorem IsDocument.readWithin?_render {document : Value} (wellFormed : IsDocument limit document)
    (layout : Layout) : readWithin? limit (render layout document) = some document := by
  -- Nothing stands behind the text of the document.
  have ends : EndsValue [] := by intro c first; contradiction
  have back : ReadsBack limit layout document := wellFormed.readsBack
  have reads := back 0 (2 * (write layout 0 document).length + 2) [] ends (by omega)
  rw [List.append_nil] at reads
  simp [readWithin?, render, reads, skipSpace]

/-- Different documents have different texts, even in different layouts. -/
theorem IsDocument.render_injective {document other : Value} (wellFormed : IsDocument none document)
    (otherWellFormed : IsDocument none other) {left right : Layout}
    (same : render left document = render right other) : document = other := by
  -- One text is read as one value.
  have reads := wellFormed.readWithin?_render left
  rw [same, otherWellFormed.readWithin?_render right] at reads
  exact (Option.some.inj reads).symm

end BooleanSearch.Json
