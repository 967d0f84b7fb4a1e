set_option autoImplicit false

/-! Field references. A reference names a field and, after dots, a path into its JSON value. -/

namespace UniversalQuery

/-- A field and the segments of a path into it. -/
structure FieldPath where
  root : String
  segments : List String
deriving DecidableEq, Repr

namespace FieldPath

/-- Cuts a text at every dot. The current piece is held backwards. -/
def cutAtDots (piece : List Char) : List Char → List (List Char)
  | [] => [piece.reverse]
  | c :: rest =>
    if c = '.' then piece.reverse :: cutAtDots [] rest else cutAtDots (c :: piece) rest

theorem cutAtDots_ne_nil (piece text : List Char) : cutAtDots piece text ≠ [] := by
  induction text generalizing piece with
  | nil => simp [cutAtDots]
  | cons c rest ih => by_cases dot : c = '.' <;> simp [cutAtDots, dot, ih]

/-- Cutting loses nothing: the pieces with dots between them are the text. -/
theorem intercalate_cutAtDots (piece text : List Char) :
    ['.'].intercalate (cutAtDots piece text) = piece.reverse ++ text := by
  induction text generalizing piece with
  | nil => simp [cutAtDots]
  | cons c rest ih =>
    by_cases dot : c = '.'
    · have pieces := cutAtDots_ne_nil [] rest
      subst dot
      simp [cutAtDots, List.intercalate_cons_of_ne_nil pieces, ih]
    · simp [cutAtDots, dot, ih]

theorem dot_not_mem_of_mem_cutAtDots {piece text segment : List Char} (before : '.' ∉ piece)
    (member : segment ∈ cutAtDots piece text) : '.' ∉ segment := by
  induction text generalizing piece with
  | nil =>
    rw [cutAtDots, List.mem_singleton] at member
    rw [member, List.mem_reverse]
    exact before
  | cons c rest ih =>
    rw [cutAtDots] at member
    split at member
    · rcases List.mem_cons.mp member with rfl | later
      · rw [List.mem_reverse]
        exact before
      · exact ih List.not_mem_nil later
    · rename_i solid
      refine ih ?_ member
      rw [List.mem_cons, not_or]
      exact ⟨Ne.symm solid, before⟩

theorem cutAtDots_of_not_mem {piece text : List Char} (solid : '.' ∉ text) :
    cutAtDots piece text = [piece.reverse ++ text] := by
  induction text generalizing piece with
  | nil => simp [cutAtDots]
  | cons c rest ih =>
    rw [List.mem_cons, not_or] at solid
    have next : ¬ c = '.' := Ne.symm solid.1
    simp [cutAtDots, next, ih solid.2]

theorem cutAtDots_append {piece text : List Char} (solid : '.' ∉ text) (rest : List Char) :
    cutAtDots piece (text ++ '.' :: rest) = (piece.reverse ++ text) :: cutAtDots [] rest := by
  induction text generalizing piece with
  | nil => simp [cutAtDots]
  | cons c text ih =>
    rw [List.mem_cons, not_or] at solid
    have next : ¬ c = '.' := Ne.symm solid.1
    simp [cutAtDots, next, ih solid.2]

def ofKey (key : String) : FieldPath :=
  match cutAtDots [] key.toList with
  | [] => ⟨key, []⟩
  | root :: segments => ⟨String.ofList root, segments.map String.ofList⟩

/-- The key of a reference: its root and its segments with dots between them. -/
def key (path : FieldPath) : String :=
  String.ofList (['.'].intercalate ((path.root :: path.segments).map String.toList))

@[simp] theorem key_ofKey (key : String) : (ofKey key).key = key := by
  have whole := intercalate_cutAtDots [] key.toList
  unfold ofKey FieldPath.key
  cases pieces : cutAtDots [] key.toList with
  | nil => exact absurd pieces (cutAtDots_ne_nil [] key.toList)
  | cons root segments =>
    rw [pieces] at whole
    simp [Function.comp_def, whole]

/-- What stands between the dots of a text. -/
def parts (text : String) : List String :=
  (ofKey text).root :: (ofKey text).segments

theorem intercalate_parts (text : String) : ".".intercalate (parts text) = text := by
  have whole := key_ofKey text
  rw [key, ← String.toList_inj, String.toList_ofList] at whole
  rw [← String.toList_inj, String.toList_intercalate, parts]
  exact whole

theorem parts_eq_map (text : String) :
    parts text = (cutAtDots [] text.toList).map String.ofList := by
  unfold parts ofKey
  cases pieces : cutAtDots [] text.toList with
  | nil => exact absurd pieces (cutAtDots_ne_nil [] text.toList)
  | cons root segments => rfl

theorem dot_not_mem_of_mem_parts {text segment : String} (member : segment ∈ parts text) :
    '.' ∉ segment.toList := by
  rw [parts_eq_map] at member
  obtain ⟨chars, inside, rfl⟩ := List.mem_map.mp member
  rw [String.toList_ofList]
  exact dot_not_mem_of_mem_cutAtDots List.not_mem_nil inside

def isPlain (path : FieldPath) : Bool :=
  path.segments.isEmpty

theorem root_of_isPlain {key : String} (plain : (ofKey key).isPlain = true) :
    (ofKey key).root = key := by
  have whole := key_ofKey key
  rw [isPlain, List.isEmpty_iff] at plain
  simpa [FieldPath.key, plain] using whole

end FieldPath

/-- The field that a key refers to: what stands before the first dot. -/
def rootField (key : String) : String :=
  (FieldPath.ofKey key).root

theorem dot_not_mem_rootField (key : String) : '.' ∉ (rootField key).toList := by
  have first : rootField key ∈ FieldPath.parts key := List.mem_cons_self
  exact FieldPath.dot_not_mem_of_mem_parts first

namespace FieldPath

/-- A reference is to a whole field exactly if there is no dot in it. -/
theorem isPlain_iff {key : String} : (ofKey key).isPlain = true ↔ '.' ∉ key.toList := by
  constructor
  · intro plain
    have solid := dot_not_mem_rootField key
    rwa [rootField, root_of_isPlain plain] at solid
  · intro solid
    rw [ofKey, cutAtDots_of_not_mem solid]
    rfl

theorem isPlain_eq_false_iff {key : String} :
    (ofKey key).isPlain = false ↔ '.' ∈ key.toList := by
  rw [Bool.eq_false_iff, ne_eq, isPlain_iff, Decidable.not_not]

theorem rootField_of_not_mem {key : String} (plain : '.' ∉ key.toList) : rootField key = key :=
  root_of_isPlain (isPlain_iff.mpr plain)

/-- The field of a reference is a reference to the field and to nothing in it. -/
theorem isPlain_rootField (key : String) : (ofKey (rootField key)).isPlain = true :=
  isPlain_iff.mpr (dot_not_mem_rootField key)

end FieldPath

end UniversalQuery
