import Mathlib.Data.List.DropRight
import Mathlib.Data.List.TakeWhile
import UniversalQuery.Sql.Literal

set_option autoImplicit false

/-! Reading array literals of texts. Items stand between braces, with commas between them. An item
may stand in double quotes; otherwise blanks around it do not count and the word null is no text. In
both cases a backslash takes the next character as it is. Arrays in arrays are not read. Texts that
are only put between braces and commas are read back exactly if each of them can stand alone. -/

namespace UniversalQuery.Sql

/-! ## Reading -/

def arrayBlanks : List Char := [' ', '\t', '\n', '\r', '\x0b', '\x0c']

def isArrayBlank (c : Char) : Bool :=
  arrayBlanks.contains c

/-- Whether a character has a meaning in an array. -/
def isArrayMark (c : Char) : Bool :=
  [',', '\x7b', '\x7d', '"', '\\'].contains c

/-- Whether an item without quotes is the word null, in small or capital letters. -/
def isNullWord (item : List Char) : Bool :=
  item.map Char.toUpper == "NULL".toList

structure ItemUnit where
  char : Char
  escaped : Bool
deriving DecidableEq, Repr

def ItemUnit.isBlank (unit : ItemUnit) : Bool :=
  !unit.escaped && isArrayBlank unit.char

/-- Where in an item a reader is. What it has read of the item is held backwards. -/
inductive ItemReader where
  | bare (units : List ItemUnit)
  | quoted (content : List Char)
  /-- After the closing quote. -/
  | closed (content : List Char)
deriving DecidableEq, Repr

/-- The item of units that are held backwards, which is a text or null. Blanks at its end do not
count, and something has to be left. -/
def bareItem? (units : List ItemUnit) : Option (Option String) :=
  match units.dropWhile ItemUnit.isBlank with
  | [] => none
  | kept =>
    let item := kept.reverse.map ItemUnit.char
    some (if kept.all (!·.escaped) && isNullWord item then none else some (String.ofList item))

/-- The items up to the closing brace, after which only blanks may follow. -/
def readItems : ItemReader → List Char → Option (List (Option String))
  | _, [] => none
  | .bare units, c :: rest =>
    if c = ',' then do
      let item ← bareItem? units
      let items ← readItems (.bare []) rest
      some (item :: items)
    else if c = '\x7d' then
      if rest.all isArrayBlank then (bareItem? units).map ([·]) else none
    else if c = '\x7b' then none
    else if c = '"' then if units = [] then readItems (.quoted []) rest else none
    else if c = '\\' then
      match rest with
      | [] => none
      | next :: rest => readItems (.bare (⟨next, true⟩ :: units)) rest
    else if units = [] ∧ isArrayBlank c then readItems (.bare []) rest
    else readItems (.bare (⟨c, false⟩ :: units)) rest
  | .quoted content, c :: rest =>
    if c = '"' then readItems (.closed content) rest
    else if c = '\\' then
      match rest with
      | [] => none
      | next :: rest => readItems (.quoted (next :: content)) rest
    else readItems (.quoted (c :: content)) rest
  | .closed content, c :: rest =>
    if c = ',' then (readItems (.bare []) rest).map (some (String.ofList content.reverse) :: ·)
    else if c = '\x7d' then
      if rest.all isArrayBlank then some [some (String.ofList content.reverse)] else none
    else if isArrayBlank c then readItems (.closed content) rest
    else none

def arrayItems? (text : String) : Option (List (Option String)) :=
  match text.toList.dropWhile isArrayBlank with
  | '\x7b' :: body =>
    match body.dropWhile isArrayBlank with
    | '\x7d' :: rest => if rest.all isArrayBlank then some [] else none
    | _ => readItems (.bare []) body
  | _ => none

example : arrayItems? "\x7ba\\,b, \"c d\" ,null\x7d" = some [some "a,b", some "c d", none] := by
  decide +kernel

/-! ## Steps -/

/-- What a reader reads, with one constructor for each step. -/
inductive ReadsItems : ItemReader → List Char → List (Option String) → Prop where
  | bareComma {units : List ItemUnit} {rest : List Char} {item : Option String}
      {items : List (Option String)} :
      bareItem? units = some item → ReadsItems (.bare []) rest items →
      ReadsItems (.bare units) (',' :: rest) (item :: items)
  | bareEnd {units : List ItemUnit} {rest : List Char} {item : Option String} :
      bareItem? units = some item → rest.all isArrayBlank = true →
      ReadsItems (.bare units) ('\x7d' :: rest) [item]
  | openQuote {rest : List Char} {items : List (Option String)} :
      ReadsItems (.quoted []) rest items → ReadsItems (.bare []) ('"' :: rest) items
  | bareEscape {units : List ItemUnit} {next : Char} {rest : List Char}
      {items : List (Option String)} :
      ReadsItems (.bare (⟨next, true⟩ :: units)) rest items →
      ReadsItems (.bare units) ('\\' :: next :: rest) items
  | leadingBlank {c : Char} {rest : List Char} {items : List (Option String)} :
      isArrayMark c = false → isArrayBlank c = true → ReadsItems (.bare []) rest items →
      ReadsItems (.bare []) (c :: rest) items
  | bareChar {units : List ItemUnit} {c : Char} {rest : List Char}
      {items : List (Option String)} :
      isArrayMark c = false → (units = [] → isArrayBlank c = false) →
      ReadsItems (.bare (⟨c, false⟩ :: units)) rest items →
      ReadsItems (.bare units) (c :: rest) items
  | closeQuote {content rest : List Char} {items : List (Option String)} :
      ReadsItems (.closed content) rest items → ReadsItems (.quoted content) ('"' :: rest) items
  | quotedEscape {content : List Char} {next : Char} {rest : List Char}
      {items : List (Option String)} :
      ReadsItems (.quoted (next :: content)) rest items →
      ReadsItems (.quoted content) ('\\' :: next :: rest) items
  | quotedChar {content : List Char} {c : Char} {rest : List Char}
      {items : List (Option String)} :
      c ≠ '"' → c ≠ '\\' → ReadsItems (.quoted (c :: content)) rest items →
      ReadsItems (.quoted content) (c :: rest) items
  | closedComma {content rest : List Char} {items : List (Option String)} :
      ReadsItems (.bare []) rest items →
      ReadsItems (.closed content) (',' :: rest) (some (String.ofList content.reverse) :: items)
  | closedEnd {content rest : List Char} :
      rest.all isArrayBlank = true →
      ReadsItems (.closed content) ('\x7d' :: rest) [some (String.ofList content.reverse)]
  | closedBlank {content : List Char} {c : Char} {rest : List Char}
      {items : List (Option String)} :
      isArrayMark c = false → isArrayBlank c = true → ReadsItems (.closed content) rest items →
      ReadsItems (.closed content) (c :: rest) items

theorem isArrayMark_eq_false_iff {c : Char} : isArrayMark c = false ↔
    c ≠ ',' ∧ c ≠ '\x7b' ∧ c ≠ '\x7d' ∧ c ≠ '"' ∧ c ≠ '\\' := by
  simp [isArrayMark]

private theorem isArrayMark_of_isArrayBlank {c : Char} (blank : isArrayBlank c = true) :
    isArrayMark c = false := by
  have known : c ∈ arrayBlanks := List.contains_iff_mem.mp blank
  have unmarked : ∀ c ∈ arrayBlanks, isArrayMark c = false := by simp [arrayBlanks, isArrayMark]
  exact unmarked c known

private theorem readsItems_of_readItems {reader : ItemReader} {text : List Char}
    {items : List (Option String)} (read : readItems reader text = some items) :
    ReadsItems reader text items := by
  fun_induction readItems reader text generalizing items with
  | case1 | case4 | case5 | case7 | case8 | case13 | case18 | case20 => cases read
  | case2 units rest ih =>
    obtain ⟨item, held, tail⟩ := Option.bind_eq_some_iff.mp read
    obtain ⟨others, later, same⟩ := Option.bind_eq_some_iff.mp tail
    cases same
    exact .bareComma held (ih later)
  | case3 units rest blank =>
    obtain ⟨item, held, rfl⟩ := Option.map_eq_some_iff.mp read
    exact .bareEnd held blank
  | case6 rest _ _ _ ih => exact .openQuote (ih read)
  | case9 units next rest _ _ _ _ ih => exact .bareEscape (ih read)
  | case10 units c rest _ _ _ _ _ blank ih =>
    obtain ⟨rfl, blank⟩ := blank
    exact .leadingBlank (isArrayMark_of_isArrayBlank blank) blank (ih read)
  | case11 units c rest comma closing opening quote escape solid ih =>
    refine .bareChar (isArrayMark_eq_false_iff.mpr ⟨comma, opening, closing, quote, escape⟩) ?_
      (ih read)
    intro start
    simpa [start] using solid
  | case12 content rest ih => exact .closeQuote (ih read)
  | case14 content next rest _ ih => exact .quotedEscape (ih read)
  | case15 content c rest quote escape ih => exact .quotedChar quote escape (ih read)
  | case16 content rest ih =>
    obtain ⟨others, later, rfl⟩ := Option.map_eq_some_iff.mp read
    exact .closedComma (ih later)
  | case17 content rest blank =>
    cases read
    exact .closedEnd blank
  | case19 content c rest comma closing blank ih =>
    exact .closedBlank (isArrayMark_of_isArrayBlank blank) blank (ih read)

private theorem readItems_of_readsItems {reader : ItemReader} {text : List Char}
    {items : List (Option String)} (reads : ReadsItems reader text items) :
    readItems reader text = some items := by
  induction reads with
  | bareComma held _ ih =>
    unfold readItems
    simp [held, ih]
  | bareEnd held blank =>
    unfold readItems
    simpa [held] using blank
  | openQuote _ ih =>
    unfold readItems
    simp [ih]
  | bareEscape _ ih =>
    unfold readItems
    simp [ih]
  | leadingBlank unmarked blank _ ih =>
    have different := isArrayMark_eq_false_iff.mp unmarked
    unfold readItems
    simp [different, blank, ih]
  | bareChar unmarked solid _ ih =>
    obtain ⟨comma, opening, closing, quote, escape⟩ := isArrayMark_eq_false_iff.mp unmarked
    unfold readItems
    rw [if_neg comma, if_neg closing, if_neg opening, if_neg quote, if_neg escape, if_neg, ih]
    rintro ⟨start, blank⟩
    rw [solid start] at blank
    cases blank
  | closeQuote _ ih =>
    unfold readItems
    simp [ih]
  | quotedEscape _ ih =>
    unfold readItems
    simp [ih]
  | quotedChar quote escape _ ih =>
    unfold readItems
    simp [quote, escape, ih]
  | closedComma _ ih =>
    unfold readItems
    simp [ih]
  | closedEnd blank =>
    unfold readItems
    simpa using blank
  | closedBlank unmarked blank _ ih =>
    have different := isArrayMark_eq_false_iff.mp unmarked
    unfold readItems
    simp [different, blank, ih]

theorem readItems_eq_some_iff {reader : ItemReader} {text : List Char}
    {items : List (Option String)} :
    readItems reader text = some items ↔ ReadsItems reader text items :=
  ⟨readsItems_of_readItems, readItems_of_readsItems⟩

/-! ## Items that can stand alone -/

/-- An item that means itself without quotes. -/
structure IsBareItem (item : List Char) : Prop where
  nonempty : item ≠ []
  unmarked : ∀ c ∈ item, isArrayMark c = false
  first : ∀ c, item.head? = some c → isArrayBlank c = false
  last : ∀ c, item.getLast? = some c → isArrayBlank c = false
  notNull : isNullWord item = false

/-- Characters as a reader holds them. -/
def bareUnits (chars : List Char) : List ItemUnit :=
  chars.reverse.map (⟨·, false⟩)

@[simp] theorem bareUnits_nil : bareUnits [] = [] := rfl

@[simp] theorem length_bareUnits (chars : List Char) : (bareUnits chars).length = chars.length := by
  simp [bareUnits]

theorem bareUnits_append_singleton (chars : List Char) (c : Char) :
    bareUnits (chars ++ [c]) = ⟨c, false⟩ :: bareUnits chars := by
  simp [bareUnits]

theorem bareUnits_eq_nil_iff {chars : List Char} : bareUnits chars = [] ↔ chars = [] := by
  simp [bareUnits]

/-- The item of characters that were not escaped is what is left without blanks at the end. -/
theorem bareItem?_bareUnits (chars : List Char) :
    bareItem? (bareUnits chars) =
      if chars.rdropWhile isArrayBlank = [] then none
      else some (if isNullWord (chars.rdropWhile isArrayBlank) then none
        else some (String.ofList (chars.rdropWhile isArrayBlank))) := by
  have dropped : (bareUnits chars).dropWhile ItemUnit.isBlank =
      bareUnits (chars.rdropWhile isArrayBlank) := by
    simp only [bareUnits, List.dropWhile_map, List.rdropWhile, List.reverse_reverse]
    rfl
  unfold bareItem?
  rw [dropped]
  generalize chars.rdropWhile isArrayBlank = kept
  split
  · rename_i nothing
    rw [if_pos (bareUnits_eq_nil_iff.mp nothing)]
  · rename_i something
    rw [if_neg fun nothing => something (bareUnits_eq_nil_iff.mpr nothing)]
    simp [bareUnits, Function.comp_def]

private theorem bareItem?_of_isBareItem {item : List Char} (bare : IsBareItem item) :
    bareItem? (bareUnits item) = some (some (String.ofList item)) := by
  have kept : item.rdropWhile isArrayBlank = item := by
    rw [List.rdropWhile_eq_self_iff]
    intro nonempty blank
    rw [bare.last _ (List.getLast?_eq_some_getLast nonempty)] at blank
    cases blank
  rw [bareItem?_bareUnits, kept, if_neg bare.nonempty, bare.notNull]
  rfl

/-! ## Lengths -/

def ItemReader.size : ItemReader → Nat
  | .bare units => units.length
  | .quoted content | .closed content => content.length

/-- The characters of an item. Null is no text and has none. -/
def itemSize (item : Option String) : Nat :=
  (item.getD "").length

/-- The shortest that items can be written, with what stands after each. -/
def itemsSize : List (Option String) → Nat
  | [] => 0
  | item :: items => itemSize item + 1 + itemsSize items

@[simp] theorem itemsSize_nil : itemsSize [] = 0 := rfl

@[simp] theorem itemsSize_cons (item : Option String) (items : List (Option String)) :
    itemsSize (item :: items) = itemSize item + 1 + itemsSize items := rfl

@[simp] theorem itemSize_some_ofList (chars : List Char) :
    itemSize (some (String.ofList chars)) = chars.length := by
  simp [itemSize]

theorem itemSize_le_of_bareItem? {units : List ItemUnit} {item : Option String}
    (held : bareItem? units = some item) : itemSize item ≤ units.length := by
  have shorter := List.length_dropWhile_le ItemUnit.isBlank units
  unfold bareItem? at held
  split at held
  · cases held
  · cases held
    split
    · exact Nat.zero_le _
    · simpa using shorter

private theorem itemsSize_le {reader : ItemReader} {text : List Char} {items : List (Option String)}
    (reads : ReadsItems reader text items) : itemsSize items ≤ reader.size + text.length := by
  induction reads with
  | bareComma held _ ih =>
    have shorter := itemSize_le_of_bareItem? held
    simp only [ItemReader.size, itemsSize_cons, List.length_cons, List.length_nil] at ih ⊢
    omega
  | bareEnd held _ =>
    have shorter := itemSize_le_of_bareItem? held
    simp only [ItemReader.size, itemsSize_cons, itemsSize_nil, List.length_cons]
    omega
  | openQuote | bareEscape | leadingBlank | bareChar | closeQuote | quotedEscape | quotedChar
  | closedBlank =>
    rename_i ih
    simp only [ItemReader.size, List.length_cons, List.length_nil] at ih ⊢
    omega
  | closedComma _ ih =>
    simp only [ItemReader.size, itemsSize_cons, itemSize_some_ofList, List.length_cons,
      List.length_nil, List.length_reverse] at ih ⊢
    omega
  | closedEnd _ => simp [ItemReader.size]

private theorem isBareItem_of_length_le {chars : List Char} {item : Option String}
    (unmarked : ∀ c ∈ chars, isArrayMark c = false)
    (first : ∀ c, chars.head? = some c → isArrayBlank c = false)
    (held : bareItem? (bareUnits chars) = some item) (whole : chars.length ≤ itemSize item) :
    item = some (String.ofList chars) ∧ IsBareItem chars := by
  rw [bareItem?_bareUnits] at held
  split at held
  · cases held
  · rename_i something
    cases held
    split at whole
    · rename_i word
      have empty : chars = [] := List.eq_nil_of_length_eq_zero (Nat.le_zero.mp whole)
      rw [empty] at something
      exact absurd rfl something
    · rename_i notWord
      rw [itemSize_some_ofList] at whole
      have kept : chars.rdropWhile isArrayBlank = chars :=
        (List.rdropWhile_prefix isArrayBlank chars).eq_of_length_le whole
      rw [kept] at something notWord ⊢
      rw [if_neg notWord]
      refine ⟨rfl, something, unmarked, first, ?_, by simpa using notWord⟩
      intro c last
      obtain ⟨nonempty, rfl⟩ := List.mem_getLast?_eq_getLast last
      simpa using List.rdropWhile_eq_self_iff.mp kept nonempty

/-- If every character of a text counts for an item, every item stands alone. -/
theorem isBareItem_of_tight {reader : ItemReader} {text : List Char} {items : List (Option String)}
    (reads : ReadsItems reader text items) {chars : List Char}
    (start : reader = .bare (bareUnits chars)) (unmarked : ∀ c ∈ chars, isArrayMark c = false)
    (first : ∀ c, chars.head? = some c → isArrayBlank c = false)
    (tight : reader.size + text.length ≤ itemsSize items) :
    ∀ item ∈ items, ∃ chars, item = some (String.ofList chars) ∧ IsBareItem chars := by
  induction reads generalizing chars with
  | bareComma held later ih =>
    -- Neither the item nor the items after it can make up for what the other lacks.
    cases start
    have shorter := itemSize_le_of_bareItem? held
    have others := itemsSize_le later
    simp only [ItemReader.size, length_bareUnits, itemsSize_cons, List.length_cons,
      List.length_nil] at tight shorter others ih
    intro item member
    rcases List.mem_cons.mp member with rfl | member
    · exact ⟨chars, isBareItem_of_length_le unmarked first held (by omega)⟩
    · exact ih (congrArg ItemReader.bare bareUnits_nil.symm) (by simp) (by simp) (by omega) item
        member
  | bareEnd held blank =>
    cases start
    simp only [ItemReader.size, length_bareUnits, itemsSize_cons, itemsSize_nil,
      List.length_cons] at tight
    intro item member
    rw [List.mem_singleton.mp member]
    exact ⟨chars, isBareItem_of_length_le unmarked first held (by omega)⟩
  | @bareChar units c rest items unmarkedChar solid _ ih =>
    cases start
    refine ih (congrArg ItemReader.bare (bareUnits_append_singleton chars c).symm) ?_ ?_ ?_
    · intro d member
      rcases List.mem_append.mp member with member | member
      · exact unmarked d member
      · exact List.mem_singleton.mp member ▸ unmarkedChar
    · intro d head
      cases chars with
      | nil =>
        cases head
        exact solid rfl
      | cons d' chars => exact first d head
    · simp only [ItemReader.size, List.length_cons] at tight ⊢
      omega
  | openQuote later | bareEscape later | leadingBlank _ _ later =>
    -- A character that is no part of an item makes the items too short.
    have shorter := itemsSize_le later
    simp only [ItemReader.size, List.length_cons, List.length_nil] at tight shorter
    omega
  | closeQuote | quotedEscape | quotedChar | closedComma | closedEnd | closedBlank => cases start

/-! ## Items between commas -/

private theorem readsItems_append {chars more rest : List Char} {items : List (Option String)}
    (unmarked : ∀ c ∈ more, isArrayMark c = false)
    (first : ∀ c, (chars ++ more).head? = some c → isArrayBlank c = false)
    (reads : ReadsItems (.bare (bareUnits (chars ++ more))) rest items) :
    ReadsItems (.bare (bareUnits chars)) (more ++ rest) items := by
  induction more generalizing chars with
  | nil => simpa using reads
  | cons c more ih =>
    refine .bareChar (unmarked c List.mem_cons_self) ?_ ?_
    · intro start
      rw [bareUnits_eq_nil_iff.mp start] at first
      exact first c rfl
    · rw [← bareUnits_append_singleton]
      refine ih (fun d member => unmarked d (List.mem_cons_of_mem _ member)) ?_ ?_
      · simpa using first
      · simpa using reads

private theorem readsItems_bareItem {segment rest : List Char} {items : List (Option String)}
    (bare : IsBareItem segment) (reads : ReadsItems (.bare (bareUnits segment)) rest items) :
    ReadsItems (.bare []) (segment ++ rest) items := by
  have start : ReadsItems (.bare (bareUnits [])) (segment ++ rest) items :=
    readsItems_append bare.unmarked (by simpa using bare.first) (by simpa using reads)
  simpa using start

/-- The segments of an array with commas between them, up to the closing brace. -/
def arrayBody (segments : List String) : List Char :=
  [','].intercalate (segments.map String.toList) ++ ['\x7d']

theorem arrayBody_singleton (segment : String) :
    arrayBody [segment] = segment.toList ++ ['\x7d'] := by
  simp [arrayBody]

theorem arrayBody_cons_cons (segment next : String) (rest : List String) :
    arrayBody (segment :: next :: rest) = segment.toList ++ ',' :: arrayBody (next :: rest) := by
  simp [arrayBody]

private theorem length_arrayBody {segments : List String} (nonempty : segments ≠ []) :
    (arrayBody segments).length = itemsSize (segments.map some) := by
  induction segments with
  | nil => exact absurd rfl nonempty
  | cons segment rest ih =>
    cases rest with
    | nil => simp [arrayBody_singleton, itemSize, String.length_toList]
    | cons next rest =>
      rw [arrayBody_cons_cons, List.length_append, List.length_cons, ih (List.cons_ne_nil _ _)]
      simp [itemSize, String.length_toList]
      omega

private theorem readsItems_arrayBody {segments : List String} (nonempty : segments ≠ [])
    (bare : ∀ segment ∈ segments, IsBareItem segment.toList) :
    ReadsItems (.bare []) (arrayBody segments) (segments.map some) := by
  induction segments with
  | nil => exact absurd rfl nonempty
  | cons segment rest ih =>
    have alone := bare segment List.mem_cons_self
    have held := bareItem?_of_isBareItem alone
    rw [String.ofList_toList] at held
    cases rest with
    | nil =>
      rw [arrayBody_singleton]
      exact readsItems_bareItem alone (.bareEnd held rfl)
    | cons next rest =>
      rw [arrayBody_cons_cons]
      have later := ih (List.cons_ne_nil _ _)
        (fun other member => bare other (List.mem_cons_of_mem _ member))
      exact readsItems_bareItem alone (.bareComma held later)

private theorem head_arrayBody {segments : List String} (nonempty : segments ≠ [])
    (bare : ∀ segment ∈ segments, IsBareItem segment.toList) :
    ∃ c rest, arrayBody segments = c :: rest ∧ isArrayMark c = false ∧ isArrayBlank c = false := by
  obtain ⟨segment, rest, rfl⟩ := List.exists_cons_of_ne_nil nonempty
  have alone := bare segment List.mem_cons_self
  obtain ⟨c, chars, spelled⟩ := List.exists_cons_of_ne_nil alone.nonempty
  have unmarked := alone.unmarked c (spelled ▸ List.mem_cons_self)
  have solid := alone.first c (by rw [spelled]; rfl)
  cases rest with
  | nil => exact ⟨c, _, by rw [arrayBody_singleton, spelled]; rfl, unmarked, solid⟩
  | cons next rest => exact ⟨c, _, by rw [arrayBody_cons_cons, spelled]; rfl, unmarked, solid⟩

/-- Texts between braces and commas are read back exactly if each of them can stand alone. -/
theorem arrayItems?_eq_iff {segments : List String} (nonempty : segments ≠ []) :
    arrayItems? ("\x7b" ++ ",".intercalate segments ++ "\x7d") = some (segments.map some) ↔
      ∀ segment ∈ segments, IsBareItem segment.toList := by
  have spelled : ("\x7b" ++ ",".intercalate segments ++ "\x7d").toList =
      '\x7b' :: arrayBody segments := by
    simp [arrayBody, String.toList_intercalate]
  have opening : ('\x7b' :: arrayBody segments).dropWhile isArrayBlank =
      '\x7b' :: arrayBody segments := rfl
  have opened : arrayItems? ("\x7b" ++ ",".intercalate segments ++ "\x7d") =
      match (arrayBody segments).dropWhile isArrayBlank with
      | '\x7d' :: rest => if rest.all isArrayBlank then some [] else none
      | _ => readItems (.bare []) (arrayBody segments) := by
    unfold arrayItems?
    rw [spelled, opening]
    rfl
  rw [opened]
  constructor
  · intro read
    split at read
    · split at read
      · cases segments with
        | nil => exact absurd rfl nonempty
        | cons => cases read
      · cases read
    · have reads := readItems_eq_some_iff.mp read
      have alone := isBareItem_of_tight reads (congrArg ItemReader.bare bareUnits_nil.symm)
        (by simp) (by simp) (by simp [ItemReader.size, length_arrayBody nonempty])
      intro segment member
      obtain ⟨chars, same, bare⟩ := alone (some segment) (List.mem_map_of_mem member)
      cases same
      simpa using bare
  · intro bare
    obtain ⟨c, rest, body, unmarked, solid⟩ := head_arrayBody nonempty bare
    have different := isArrayMark_eq_false_iff.mp unmarked
    have kept : (arrayBody segments).dropWhile isArrayBlank = arrayBody segments := by
      rw [body, List.dropWhile_cons_of_neg (by simp [solid])]
    have read := readItems_eq_some_iff.mpr (readsItems_arrayBody nonempty bare)
    rw [kept]
    split
    · rename_i empty
      rw [body] at empty
      cases empty
      exact absurd rfl different.2.2.1
    · exact read

end UniversalQuery.Sql
