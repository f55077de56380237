import BooleanSearch.Proofs.Json.RoundTrip

/-! Texts of documents hold no controls but line breaks, and compact ones stand on one line. -/

namespace BooleanSearch.Json

open Number

/-- Characters none of which is a control of ASCII. -/
def NoControls (cs : List Char) : Prop :=
  ∀ c ∈ cs, 0x20 ≤ c.toNat

instance (cs : List Char) : Decidable (NoControls cs) :=
  List.decidableBAll (0x20 ≤ Char.toNat ·) cs

/-- Two parts without controls make a text without controls. -/
theorem NoControls.append {cs ds : List Char} (front : NoControls cs) (back : NoControls ds) :
    NoControls (cs ++ ds) := by
  intro c member
  rcases List.mem_append.1 member with member | member
  · exact front c member
  · exact back c member

/-- A character in front of a text without controls. -/
theorem NoControls.cons {c : Char} {cs : List Char} (behind : NoControls cs)
    (plain : 0x20 ≤ c.toNat) : NoControls (c :: cs) :=
  List.forall_mem_cons.2 ⟨plain, behind⟩

/-- Controls are escaped, and no escape holds a control. -/
theorem noControls_escaped (c : Char) : NoControls (escaped c) := by
  have short : ∀ pair ∈ shortEscapes, NoControls ['\\', pair.2] := by decide
  have digits : ∀ code < 0x20, NoControls (Text.hexText 4 code) := by decide
  -- Every control is written by a letter or by four digits.
  by_cases listed : c ∈ shortEscapes.map Prod.fst
  · obtain ⟨pair, member, rfl⟩ := List.mem_map.1 listed
    rw [(escaped_short pair member).1]
    exact short pair member
  · rw [escaped_other listed]
    split
    · rename_i control
      exact ((digits _ control).cons (by decide)).cons (by decide)
    · rename_i noControl
      exact NoControls.cons (by decide) (by omega)

/-- A string holds no controls, whatever its text is. -/
theorem noControls_stringText (content : String) : NoControls (stringText content) := by
  refine .cons (.append (fun d member => ?_) (by decide)) (by decide)
  obtain ⟨c, -, among⟩ := List.mem_flatMap.1 member
  exact noControls_escaped c d among

/-- The text of an integer holds no controls. -/
theorem noControls_intText (n : Int) : NoControls (intText n).toList := by
  have digits : NoControls (Nat.toDigits 10 n.natAbs) := by
    intro c member
    have digit : c.isDigit := Nat.isDigit_of_mem_toDigits (by decide) (by decide) member
    have lower : 48 ≤ c.toNat := (Char.isDigit_iff_toNat.1 digit).1
    omega
  -- A minus is no control either.
  by_cases sign : n < 0
  · simpa [intText, sign] using digits.cons (show 0x20 ≤ '-'.toNat by decide)
  · simpa [intText, sign] using digits

/-! ### Documents -/

variable {layout : Layout}

/-- What may stand in a text of some layout: no controls, but for the breaks between lines. -/
def Layout.Allows : Layout → Char → Prop
  | .compact, c => 0x20 ≤ c.toNat
  | .indented, c => 0x20 ≤ c.toNat ∨ c = '\n'

/-- Every layout allows what is no control. -/
theorem NoControls.allows {cs : List Char} (plain : NoControls cs) :
    ∀ c ∈ cs, layout.Allows c := by
  cases layout with
  | compact => exact plain
  | indented => exact fun c member => .inl (plain c member)

/-- A layout allows what it puts in front of members. -/
theorem Layout.allows_lineStart (depth : Nat) : ∀ c ∈ layout.lineStart depth, layout.Allows c := by
  cases layout with
  | compact => simp [lineStart]
  | indented =>
    refine List.forall_mem_cons.2 ⟨.inr rfl, fun c member => ?_⟩
    obtain rfl := List.eq_of_mem_replicate member
    exact .inl (by decide)

/-- A list holds nothing but what its members hold, and what the layout allows. -/
theorem allows_writeItems {depth : Nat} {items : List Value}
    (each : ∀ item ∈ items, ∀ c ∈ write layout depth item, layout.Allows c) :
    ∀ c ∈ writeItems layout depth items, layout.Allows c := by
  have comma : NoControls [','] := by decide
  -- Behind each member but the last one there is a comma, and in front of each a start of a line.
  induction items with
  | nil => simp [writeItems]
  | cons item others ih =>
    have behind := ih fun other member => each other (by simp [member])
    rw [writeItems, List.forall_mem_append, List.forall_mem_append]
    refine ⟨⟨Layout.allows_lineStart depth, each item (by simp)⟩, ?_⟩
    split
    · simp
    · exact List.forall_mem_append.2 ⟨comma.allows, behind⟩

/-- An object holds nothing but what its values hold, whatever its keys are. -/
theorem allows_writeEntries {depth : Nat} {members : List (String × Value)}
    (each : ∀ member ∈ members, ∀ c ∈ write layout depth member.2, layout.Allows c) :
    ∀ c ∈ writeEntries layout depth (entriesOf members), layout.Allows c := by
  have comma : NoControls [','] := by decide
  have colon : NoControls layout.colon := by cases layout <;> decide
  induction members with
  | nil => simp [entriesOf, writeEntries]
  | cons member others ih =>
    obtain ⟨name, value⟩ := member
    have behind := ih fun other member => each other (by simp [member])
    -- A key is written as a string, in which controls are escaped.
    have key := noControls_stringText (String.ofList (bareText (.text name)))
    rw [entriesOf_cons, writeEntries]
    simp only [List.forall_mem_append]
    refine ⟨⟨⟨⟨Layout.allows_lineStart depth, key.allows⟩, colon.allows⟩, ?_⟩, ?_⟩
    · exact each (name, value) (by simp)
    · split
      · simp
      · exact List.forall_mem_append.2 ⟨comma.allows, behind⟩

/-- The text of a document holds nothing but what its layout allows, at any depth. -/
theorem IsDocument.allows {limit : Option Nat} {document : Value}
    (wellFormed : IsDocument limit document) (depth : Nat) :
    ∀ c ∈ write layout depth document, layout.Allows c := by
  have brackets : NoControls ['['] ∧ NoControls [']'] ∧ NoControls ['[', ']'] := by decide
  have braces : NoControls ['\x7b'] ∧ NoControls ['\x7d'] ∧ NoControls ['\x7b', '\x7d'] := by
    decide
  have names : NoControls "null".toList ∧ NoControls "true".toList ∧ NoControls "false".toList := by
    decide
  -- Members stand one level deeper than the document that they belong to.
  induction wellFormed generalizing depth with
  | null => exact names.1.allows
  | bool truth =>
    cases truth with
    | true => exact names.2.1.allows
    | false => exact names.2.2.allows
  | @int number _ => exact (noControls_intText number).allows
  | text content => exact (noControls_stringText content).allows
  | @list items _ ih =>
    cases items with
    | nil => exact brackets.2.2.allows
    | cons item others =>
      have members := allows_writeItems fun item member => ih item member (depth + 1)
      rw [write, ← List.singleton_append]
      simp only [List.forall_mem_append]
      exact ⟨⟨⟨brackets.1.allows, members⟩, Layout.allows_lineStart depth⟩, brackets.2.1.allows⟩
  | @object members _ _ ih =>
    have entries := allows_writeEntries fun member among => ih member among (depth + 1)
    cases members with
    | nil => exact braces.2.2.allows
    | cons member others =>
      rw [object_eq, entriesOf_cons, write, ← List.singleton_append]
      simp only [List.forall_mem_append]
      exact ⟨⟨⟨braces.1.allows, entries⟩, Layout.allows_lineStart depth⟩, braces.2.1.allows⟩

/-- The compact text of a document holds no controls at any depth. -/
theorem IsDocument.noControls {limit : Option Nat} {document : Value}
    (wellFormed : IsDocument limit document) (depth : Nat) :
    NoControls (write .compact depth document) :=
  wellFormed.allows depth

end BooleanSearch.Json
