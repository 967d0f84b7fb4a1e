import Mathlib.Data.List.DropRight
import UniversalQuery.Json.Reader
import UniversalQuery.Json.Writer

set_option autoImplicit false

/-! Reading what was written. A value without numbers, written on indented lines, is read back by
every shape that looks at all of it. -/

namespace UniversalQuery.Json

/-! ## Strings -/

/-- What a character inside a written string is read as. Control characters without an escape of
their own are written as their code. -/
def unitOf (c : Char) : StringUnit :=
  if c < ' ' ∧ c ∉ ['\x08', '\x0c', '\n', '\r', '\t'] then .code c.toNat else .char c

section Strings

variable {c : Char} {text rest : List Char} {units : List StringUnit}

private theorem readString_char (plain : c ≠ '"' ∧ c ≠ '\\' ∧ ¬ c < ' ')
    (later : readString text = some (units, rest)) :
    readString (c :: text) = some (.char c :: units, rest) := by
  obtain ⟨noQuote, noEscape, visible⟩ := plain
  rw [readString]
  · simp [noEscape, visible, later]
  · exact noQuote
  · intro _ _ _ _ _ same
    exact absurd same noEscape
  · intro _ _ same
    exact absurd same noEscape

private theorem readString_escape {escape : Char} (means : escaped? escape = some c)
    (later : readString text = some (units, rest)) :
    readString ('\\' :: escape :: text) = some (.char c :: units, rest) := by
  have short : escape ≠ 'u' := by
    intro same
    rw [same] at means
    cases means
  rw [readString]
  · simp [means, later]
  · intro _ _ _ _ _ same
    exact absurd same short

private theorem readString_code {bits : Nat} {first second third fourth : Char}
    (digits : hexBits? first second third fourth = some bits)
    (later : readString text = some (units, rest)) :
    readString ('\\' :: 'u' :: first :: second :: third :: fourth :: text) =
      some (.code bits :: units, rest) := by
  simp [readString, digits, later]

private theorem hexBits?_hexDigit :
    ∀ code < 32, hexBits? '0' '0' (hexDigit (code / 16)) (hexDigit (code % 16)) = some code := by
  decide

/-- A written character is read back, whatever stands after it. -/
theorem readString_escapedChar (c : Char) (later : readString text = some (units, rest)) :
    readString (escapedChar c ++ text) = some (unitOf c :: units, rest) := by
  unfold escapedChar
  split_ifs with quote backslash back feed line turn tab control
  · subst quote
    exact readString_escape rfl later
  · subst backslash
    exact readString_escape rfl later
  · subst back
    exact readString_escape rfl later
  · subst feed
    exact readString_escape rfl later
  · subst line
    exact readString_escape rfl later
  · subst turn
    exact readString_escape rfl later
  · subst tab
    exact readString_escape rfl later
  · have coded : unitOf c = .code c.toNat := by
      simp [unitOf, control, back, feed, line, turn, tab]
    have small : c.toNat < 32 := control
    rw [coded]
    exact readString_code (hexBits?_hexDigit _ small) later
  · have plain : unitOf c = .char c := by
      simp [unitOf, control]
    rw [plain]
    exact readString_char ⟨quote, backslash, control⟩ later

end Strings

theorem readString_written (text rest : List Char) :
    readString (text.flatMap escapedChar ++ '"' :: rest) = some (text.map unitOf, rest) := by
  induction text with
  | nil => rfl
  | cons c text ih =>
    rw [List.flatMap_cons, List.append_assoc, List.map_cons]
    exact readString_escapedChar c ih

private theorem decode_unitOf_cons (c : Char) (units : List StringUnit) :
    StringUnit.decode (unitOf c :: units) = (StringUnit.decode units).map (c :: ·) := by
  unfold unitOf
  split
  · rename_i control
    have small : c.toNat < 32 := control.1
    have noLeading : StringUnit.isLeading c.toNat = false := by
      simp [StringUnit.isLeading]
      omega
    have noTrailing : StringUnit.isTrailing c.toNat = false := by
      simp [StringUnit.isTrailing]
      omega
    simp [StringUnit.decode.eq_def (.code c.toNat :: units), noLeading, noTrailing]
  · rfl

theorem text?_unitOf (text : String) :
    StringUnit.text? (text.toList.map unitOf) = some text := by
  have decoded : ∀ chars : List Char, StringUnit.decode (chars.map unitOf) = some chars := by
    intro chars
    induction chars with
    | nil => rfl
    | cons c chars ih => rw [List.map_cons, decode_unitOf_cons, ih, Option.map_some]
  rw [StringUnit.text?, decoded, Option.map_some, String.ofList_toList]

/-! ## Blanks -/

theorem skipBlanks_newLine (level : Nat) (text : List Char) :
    skipBlanks (newLine level ++ text) = skipBlanks text := by
  have blanks : ∀ count, skipBlanks (List.replicate count ' ' ++ text) = skipBlanks text := by
    intro count
    induction count with
    | zero => rfl
    | succ count ih =>
      rw [List.replicate_succ]
      exact ih
  exact blanks (2 * level)

theorem skipBlanks_skipBlanks (text : List Char) :
    skipBlanks (skipBlanks text) = skipBlanks text :=
  List.dropWhile_idempotent isBlank text

theorem skipBlanks_cons {c : Char} {text : List Char} (visible : isBlank c = false) :
    skipBlanks (c :: text) = c :: text := by
  apply List.dropWhile_cons_of_neg
  simp [visible]

private theorem readValue_skipBlanks (budget : Nat) (text : List Char) :
    readValue budget (skipBlanks text) = readValue budget text := by
  cases budget with
  | zero => rfl
  | succ budget =>
    unfold readValue
    rw [skipBlanks_skipBlanks]

private theorem readValue_newLine (budget level : Nat) (text : List Char) :
    readValue budget (newLine level ++ text) = readValue budget text := by
  cases budget with
  | zero => rfl
  | succ budget =>
    unfold readValue
    rw [skipBlanks_newLine]

private theorem readValue_blank (budget : Nat) (text : List Char) :
    readValue budget (' ' :: text) = readValue budget text := by
  cases budget with
  | zero => rfl
  | succ budget => rfl

/-! ## Values -/

/-- A value without numbers that a shape looks at as a whole, nested in at most so many levels. -/
inductive Fits : Shape → Nat → Json → Prop where
  | null {shape levels} : Fits shape levels .null
  | bool {shape levels} (truth : Bool) : Fits shape levels (.bool truth)
  | string {shape levels} (text : String) : Fits shape levels (.string text)
  | array {shape levels items} :
      shape.fieldShapes = none → (∀ item ∈ items, Fits shape.item levels item) →
      Fits shape (levels + 1) (.array items)
  | object {shape levels members} (inner : String → Shape) :
      (∀ member ∈ members, shape.member? member.1 = some (inner member.1)) →
      (∀ member ∈ members, Fits (inner member.1) levels member.2) →
      Fits shape (levels + 1) (.object members)

/-- The value is read off the front of a text that begins with its written form. -/
def IsReadBack (shape : Shape) (levels : Nat) (json : Json) : Prop :=
  ∀ level budget rest, (prettyChars level json).length ≤ budget →
    ∃ source, readValue budget (prettyChars level json ++ rest) = some (source, rest) ∧
      source.toJson? shape levels = some json

private theorem isReadBack_string (shape : Shape) (levels : Nat) (text : String) :
    IsReadBack shape levels (.string text) := by
  intro level budget rest enough
  cases budget with
  | zero => cases enough
  | succ budget =>
    refine ⟨.string (text.toList.map unitOf), ?_, ?_⟩
    · change (readString (text.toList.flatMap escapedChar ++ ['"'] ++ rest)).map _ = _
      rw [List.append_assoc, List.singleton_append, readString_written]
      rfl
    · simp [Source.toJson?, text?_unitOf]

/-! ### Lists -/

private theorem readItems_skipBlanks (budget : Nat) (text : List Char) :
    readItems budget (skipBlanks text) = readItems budget text := by
  cases budget with
  | zero => rfl
  | succ budget =>
    unfold readItems
    rw [readValue_skipBlanks]

/-- No item begins with a closing bracket. -/
theorem readItems_closed {budget : Nat} {text rest : List Char}
    (closed : skipBlanks text = ']' :: rest) : readItems budget text = none := by
  cases budget with
  | zero => rfl
  | succ budget =>
    cases budget with
    | zero => rfl
    | succ budget =>
      unfold readItems readValue
      rw [closed]
      rfl

private theorem readItems_comma {budget : Nat} {text rest after : List Char} {item : Source}
    {items : List Source} (first : readValue budget text = some (item, ',' :: rest))
    (later : readItems budget rest = some (items, after)) :
    readItems (budget + 1) text = some (item :: items, after) := by
  unfold readItems
  rw [first]
  change (readItems budget rest).bind _ = _
  rw [later]
  rfl

private theorem readItems_bracket {budget : Nat} {text rest after : List Char} {item : Source}
    (first : readValue budget text = some (item, rest)) (closed : skipBlanks rest = ']' :: after) :
    readItems (budget + 1) text = some ([item], after) := by
  unfold readItems
  rw [first]
  simp [closed]

private theorem readItems_written {shape : Shape} {levels : Nat} {items : List Json}
    (each : ∀ item ∈ items, IsReadBack shape levels item) (nonempty : items ≠ [])
    {budget : Nat} (level outer : Nat) (rest : List Char)
    (enough : (prettyItems level items).length ≤ budget) :
    ∃ sources,
      readItems budget (prettyItems level items ++ (newLine outer ++ ']' :: rest)) =
        some (sources, rest) ∧
      Source.itemsToJson? shape levels sources = some items := by
  induction items generalizing budget with
  | nil => exact absurd rfl nonempty
  | cons item others ih =>
    obtain ⟨first, later⟩ := List.forall_mem_cons.mp each
    cases budget with
    | zero => cases others <;> cases enough
    | succ budget =>
      cases others with
      | nil =>
        have fits : (prettyChars level item).length ≤ budget := by
          simp [prettyItems, newLine] at enough
          omega
        obtain ⟨source, read, back⟩ := first level budget (newLine outer ++ ']' :: rest) fits
        refine ⟨[source], ?_, ?_⟩
        · refine readItems_bracket ?_ ((skipBlanks_newLine outer (']' :: rest)).trans rfl)
          rw [prettyItems, List.append_assoc, readValue_newLine, read]
        · simp [Source.itemsToJson?, back]
      | cons next others =>
        have fits : (prettyChars level item).length ≤ budget ∧
            (prettyItems level (next :: others)).length ≤ budget := by
          simp [prettyItems, newLine] at enough
          omega
        obtain ⟨sources, remaining, others⟩ := ih later (List.cons_ne_nil _ _) fits.2
        obtain ⟨source, read, back⟩ := first level budget _ fits.1
        refine ⟨source :: sources, readItems_comma ?_ remaining, ?_⟩
        · rw [prettyItems, List.append_assoc, List.append_assoc, readValue_newLine]
          · exact read
          · exact List.cons_ne_nil _ _
        · simp [Source.itemsToJson?, back, others]

private theorem readValue_bracket {budget : Nat} {text rest : List Char} {items : List Source}
    (read : readItems budget text = some (items, rest)) :
    readValue (budget + 1) ('[' :: text) = some (.array items, rest) := by
  have opened : skipBlanks ('[' :: text) = '[' :: text := skipBlanks_cons rfl
  unfold readValue
  simp only [opened]
  split
  · rename_i closed
    rw [readItems_closed closed] at read
    cases read
  · rw [readItems_skipBlanks, read]
    rfl

/-! ### Objects -/

private theorem readMembers_skipBlanks (budget : Nat) (text : List Char) :
    readMembers budget (skipBlanks text) = readMembers budget text := by
  cases budget with
  | zero => rfl
  | succ budget =>
    unfold readMembers
    rw [skipBlanks_skipBlanks]

/-- No member begins with a closing brace. -/
theorem readMembers_closed {budget : Nat} {text rest : List Char}
    (closed : skipBlanks text = '}' :: rest) : readMembers budget text = none := by
  cases budget with
  | zero => rfl
  | succ budget =>
    unfold readMembers
    rw [closed]
    rfl

private theorem readValue_brace {budget : Nat} {text rest : List Char}
    {members : List (List StringUnit × Source)}
    (read : readMembers budget text = some (members, rest)) :
    readValue (budget + 1) ('{' :: text) = some (.object members, rest) := by
  have opened : skipBlanks ('{' :: text) = '{' :: text := skipBlanks_cons rfl
  unfold readValue
  simp only [opened]
  split
  · rename_i closed
    rw [readMembers_closed closed] at read
    cases read
  · rw [readMembers_skipBlanks, read]
    rfl

section Members

variable {budget : Nat} {text quoted later rest after : List Char} {name : List StringUnit}
  {value : Source}

private theorem readMembers_comma {members : List (List StringUnit × Source)}
    (opened : skipBlanks text = '"' :: quoted)
    (named : readString quoted = some (name, ':' :: later))
    (valued : readValue budget later = some (value, ',' :: rest))
    (remaining : readMembers budget rest = some (members, after)) :
    readMembers (budget + 1) text = some ((name, value) :: members, after) := by
  unfold readMembers
  rw [opened]
  simp [named, skipBlanks_cons, isBlank, valued, remaining]

private theorem readMembers_brace (opened : skipBlanks text = '"' :: quoted)
    (named : readString quoted = some (name, ':' :: later))
    (valued : readValue budget later = some (value, rest))
    (closed : skipBlanks rest = '}' :: after) :
    readMembers (budget + 1) text = some ([(name, value)], after) := by
  unfold readMembers
  rw [opened]
  simp [named, skipBlanks_cons, isBlank, valued, closed]

end Members

private theorem readMembers_written {shape : Shape} {levels : Nat} {members : List (String × Json)}
    {inner : String → Shape}
    (known : ∀ member ∈ members, shape.member? member.1 = some (inner member.1))
    (each : ∀ member ∈ members, IsReadBack (inner member.1) levels member.2)
    (nonempty : members ≠ []) {budget : Nat} (level outer : Nat) (rest : List Char)
    (enough : (prettyMembers level members).length ≤ budget) :
    ∃ sources,
      readMembers budget (prettyMembers level members ++ (newLine outer ++ '}' :: rest)) =
        some (sources, rest) ∧
      Source.membersToJson? shape levels sources = some members := by
  induction members generalizing budget with
  | nil => exact absurd rfl nonempty
  | cons member others ih =>
    obtain ⟨name, value⟩ := member
    obtain ⟨kept, knownLater⟩ := List.forall_mem_cons.mp known
    obtain ⟨first, later⟩ := List.forall_mem_cons.mp each
    -- What stands after the name of the first member.
    have named : ∀ after, readString (name.toList.flatMap escapedChar ++ '"' :: ':' :: after) =
        some (name.toList.map unitOf, ':' :: after) := by
      intro after
      exact readString_written name.toList (':' :: after)
    cases budget with
    | zero => cases others <;> cases enough
    | succ budget =>
      cases others with
      | nil =>
        have fits : (prettyChars level value).length ≤ budget := by
          simp [prettyMembers, newLine] at enough
          omega
        obtain ⟨source, read, back⟩ := first level budget (newLine outer ++ '}' :: rest) fits
        refine ⟨[(name.toList.map unitOf, source)], ?_, ?_⟩
        · refine readMembers_brace ?_ (named _) ((readValue_blank _ _).trans read) ?_
          · simp [prettyMembers, quotedChars, skipBlanks_newLine, skipBlanks_cons, isBlank]
          · exact (skipBlanks_newLine outer ('}' :: rest)).trans rfl
        · simp [Source.membersToJson?, text?_unitOf, kept, back]
      | cons next others =>
        have fits : (prettyChars level value).length ≤ budget ∧
            (prettyMembers level (next :: others)).length ≤ budget := by
          simp [prettyMembers, newLine] at enough
          omega
        obtain ⟨sources, remaining, others⟩ :=
          ih knownLater later (List.cons_ne_nil _ _) fits.2
        obtain ⟨source, read, back⟩ := first level budget _ fits.1
        refine ⟨(name.toList.map unitOf, source) :: sources, ?_, ?_⟩
        · refine readMembers_comma ?_ (named _) ((readValue_blank _ _).trans read) remaining
          simp [prettyMembers, quotedChars, skipBlanks_newLine, skipBlanks_cons, isBlank]
        · simp [Source.membersToJson?, text?_unitOf, kept, back, others]

/-! ### All values -/

private theorem isReadBack_array {shape : Shape} {levels : Nat} {items : List Json}
    (plain : shape.fieldShapes = none)
    (each : ∀ item ∈ items, IsReadBack shape.item levels item) :
    IsReadBack shape (levels + 1) (.array items) := by
  intro level budget rest enough
  cases budget with
  | zero => cases items <;> cases enough
  | succ budget =>
    cases items with
    | nil => exact ⟨.array [], rfl, by simp [Source.toJson?, Source.itemsToJson?, plain]⟩
    | cons item items =>
      have fits : (prettyItems (level + 1) (item :: items)).length ≤ budget := by
        simp [prettyChars] at enough
        omega
      obtain ⟨sources, read, back⟩ :=
        readItems_written each (List.cons_ne_nil _ _) (level + 1) level rest fits
      refine ⟨.array sources, ?_, by simp [Source.toJson?, plain, back]⟩
      have opened : prettyChars level (.array (item :: items)) ++ rest =
          '[' :: (prettyItems (level + 1) (item :: items) ++ (newLine level ++ ']' :: rest)) := by
        simp [prettyChars]
      rw [opened]
      exact readValue_bracket read

private theorem isReadBack_object {shape : Shape} {levels : Nat} {members : List (String × Json)}
    {inner : String → Shape}
    (known : ∀ member ∈ members, shape.member? member.1 = some (inner member.1))
    (each : ∀ member ∈ members, IsReadBack (inner member.1) levels member.2) :
    IsReadBack shape (levels + 1) (.object members) := by
  intro level budget rest enough
  cases budget with
  | zero => cases members <;> cases enough
  | succ budget =>
    cases members with
    | nil => exact ⟨.object [], rfl, by simp [Source.toJson?, Source.membersToJson?]⟩
    | cons member members =>
      have fits : (prettyMembers (level + 1) (member :: members)).length ≤ budget := by
        simp [prettyChars] at enough
        omega
      obtain ⟨sources, read, back⟩ :=
        readMembers_written known each (List.cons_ne_nil _ _) (level + 1) level rest fits
      refine ⟨.object sources, ?_, by simp [Source.toJson?, back]⟩
      have opened : prettyChars level (.object (member :: members)) ++ rest =
          '{' :: (prettyMembers (level + 1) (member :: members) ++
            (newLine level ++ '}' :: rest)) := by
        simp [prettyChars]
      rw [opened]
      exact readValue_brace read

/-- A value that fits a shape is read off the front of its written form. -/
theorem isReadBack_of_fits {shape : Shape} {levels : Nat} {json : Json}
    (fits : Fits shape levels json) : IsReadBack shape levels json := by
  induction fits with
  | null =>
    intro level budget rest enough
    cases budget with
    | zero => cases enough
    | succ budget => exact ⟨.null, rfl, rfl⟩
  | bool truth =>
    intro level budget rest enough
    cases budget with
    | zero => cases truth <;> cases enough
    | succ budget => cases truth <;> exact ⟨.bool _, rfl, rfl⟩
  | string text => exact isReadBack_string _ _ text
  | array plain _ each => exact isReadBack_array plain each
  | object inner known _ each => exact isReadBack_object known each

/-- The indented text of a value that fits a shape is read as that value. -/
theorem ofText?_pretty {shape : Shape} {json : Json} (fits : Fits shape levelLimit json) :
    ofText? shape json.pretty = some json := by
  obtain ⟨source, read, back⟩ :=
    isReadBack_of_fits fits 0 (2 * (prettyChars 0 json).length + 1) [] (by omega)
  rw [List.append_nil] at read
  simp [ofText?, pretty, Source.ofChars?, read, skipBlanks, back]

end UniversalQuery.Json
