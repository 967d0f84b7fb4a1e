import UniversalQuery.Text.Alphanumeric
import UniversalQuery.Text.LetterCase

set_option autoImplicit false

/-! Lowercase forms of lowercase forms. A character of a lowercase form is its own lowercase form,
unless it is uppercase still. Only alphanumeric characters have another one. -/

namespace UniversalQuery.Text

/-! ## Spans of the tables -/

namespace CodeSpan

theorem contains_iff {span : CodeSpan} {code : Nat} :
    span.contains code = true ↔
      span.first ≤ code ∧ code ≤ span.last ∧ (code - span.first) % span.step = 0 := by
  simp [contains, and_assoc]

/-- The span at a distance. -/
def moved (span : CodeSpan) (distance : Int) : CodeSpan :=
  ⟨(span.first + distance).toNat, (span.last + distance).toNat, span.step⟩

private theorem contains_moved {span : CodeSpan} {distance : Int} {code : Nat}
    (room : 0 ≤ (span.first : Int) + distance) (inside : span.contains code = true) :
    (span.moved distance).contains (code + distance).toNat = true := by
  obtain ⟨lower, upper, even⟩ := contains_iff.mp inside
  have same : (code + distance).toNat - (span.first + distance).toNat = code - span.first := by
    omega
  refine contains_iff.mpr ⟨?_, ?_, ?_⟩
  · dsimp only [moved]
    omega
  · dsimp only [moved]
    omega
  · dsimp only [moved]
    rw [same, even]

/-- Whether two spans are visibly apart: one ends before the other begins, or they take turns. -/
def isApart (left right : CodeSpan) : Bool :=
  Nat.blt left.last right.first || Nat.blt right.last left.first ||
    ((left.step == 2 || left.first == left.last) && right.step == 2 &&
      left.first % 2 != right.first % 2)

private theorem contains_eq_false_of_isApart {left right : CodeSpan} {code : Nat}
    (apart : left.isApart right = true) (inside : left.contains code = true) :
    right.contains code = false := by
  rw [Bool.eq_false_iff]
  intro other
  obtain ⟨first, last, even⟩ := contains_iff.mp inside
  obtain ⟨otherFirst, otherLast, otherEven⟩ := contains_iff.mp other
  simp only [isApart, Nat.blt_eq, Bool.or_eq_true, Bool.and_eq_true, beq_iff_eq, bne_iff_ne]
    at apart
  obtain (before | after) | ⟨⟨turns | single, step⟩, parity⟩ := apart
  · omega
  · omega
  · rw [turns] at even
    rw [step] at otherEven
    omega
  · rw [step] at otherEven
    omega

end CodeSpan

private theorem moved_isApart_lowerShifts :
    (lowerShifts.all fun shift => lowerShifts.all fun other =>
      (shift.1.moved shift.2).isApart other.1) = true := by decide +kernel

theorem small_le_of_mem_lowerShifts :
    ∀ shift ∈ lowerShifts, 0x61 ≤ (shift.1.first : Int) + shift.2 := by decide +kernel

/-! ## Lowercase forms -/

theorem toNat_ofNat {code : Nat} (valid : code.isValidChar) : (Char.ofNat code).toNat = code := by
  rw [Char.ofNat, dif_pos valid]
  rfl

/-- A character is its own lowercase form if no other one is listed. -/
theorem lowercase_eq_self {c : Char} (other : c ≠ 'İ')
    (unlisted : ∀ shift ∈ lowerShifts, shift.1.contains c.toNat = false) : lowercase c = [c] := by
  have none : (lowerShifts.find? fun shift => shift.1.contains c.toNat) = none :=
    List.find?_eq_none.mpr fun shift listed => by simp [unlisted shift listed]
  rw [lowercase, if_neg other, none]

/-- A character of a lowercase form is the character itself, a part of the dotted capital i, or
stands at the distance that the table gives. -/
theorem mem_lowercase_cases {c d : Char} (member : d ∈ lowercase c) :
    (d = c ∧ lowercase c = [c]) ∨ (d = 'i' ∨ d = '\u0307') ∨
      ∃ shift ∈ lowerShifts, shift.1.contains c.toNat = true ∧
        d = Char.ofNat (c.toNat + shift.2).toNat := by
  unfold lowercase at member
  split at member
  · exact .inr (.inl (by simpa using member))
  · split at member
    · rename_i span distance found
      exact .inr (.inr ⟨(span, distance), List.mem_of_find?_eq_some found,
        List.find?_some (p := fun shift : CodeSpan × Int => shift.1.contains c.toNat) found,
        List.mem_singleton.mp member⟩)
    · rename_i plain _ unlisted
      refine .inl ⟨List.mem_singleton.mp member, ?_⟩
      rw [lowercase, if_neg plain, unlisted]

/-- No character of the lowercase form is uppercase. -/
def Settles (c : Char) : Prop :=
  ∀ d ∈ lowercase c, isUppercase d = false

instance (c : Char) : Decidable (Settles c) :=
  decidable_of_iff ((lowercase c).all fun d => !isUppercase d) (by simp [Settles])

/-- A character that is not uppercase and is its own lowercase form. -/
structure IsSettled (c : Char) : Prop where
  notUpper : isUppercase c = false
  lower : lowercase c = [c]

instance (c : Char) : Decidable (IsSettled c) :=
  decidable_of_iff (isUppercase c = false ∧ lowercase c = [c])
    ⟨fun both => ⟨both.1, both.2⟩, fun settled => ⟨settled.notUpper, settled.lower⟩⟩

theorem isSettled_dotted {d : Char} (part : d = 'i' ∨ d = '\u0307') : IsSettled d := by
  obtain rfl | rfl := part <;> decide +kernel

theorem isSettled_of_mem_lowercase {c d : Char} (settles : Settles c) (member : d ∈ lowercase c) :
    IsSettled d := by
  have notUpper := settles d member
  refine ⟨notUpper, ?_⟩
  obtain ⟨rfl, alone⟩ | dotted | ⟨shift, listed, inside, same⟩ := mem_lowercase_cases member
  · exact alone
  · exact (isSettled_dotted dotted).lower
  · by_cases valid : (c.toNat + shift.2).toNat.isValidChar
    · have code : d.toNat = (c.toNat + shift.2).toNat := by
        rw [same, toNat_ofNat valid]
      refine lowercase_eq_self ?_ fun other otherListed => ?_
      · -- The dotted capital i is uppercase itself.
        rintro rfl
        revert notUpper
        decide +kernel
      · have apart := List.all_eq_true.mp
          (List.all_eq_true.mp moved_isApart_lowerShifts shift listed) other otherListed
        have room := small_le_of_mem_lowerShifts shift listed
        rw [code]
        exact CodeSpan.contains_eq_false_of_isApart apart
          (CodeSpan.contains_moved (by omega) inside)
    · -- A distance that leads to no character stands for the character zero.
      have zero : d = '\x00' := by
        rw [same, Char.ofNat, dif_neg valid]
        rfl
      rw [zero]
      decide +kernel

/-! ## Characters with another lowercase form -/

/-- Whether all code points of a span are alphanumeric: one range holds the span from end to end, or
each code point is in one, as where a span steps over a gap between two ranges. -/
def CodeSpan.isCovered (span : CodeSpan) : Bool :=
  (alphanumericRanges.any fun bounds =>
      Nat.ble bounds.1 span.first && Nat.ble span.last bounds.2) ||
    (List.range ((span.last - span.first) / span.step + 1)).all fun place =>
      alphanumericRanges.any fun bounds =>
        Nat.ble bounds.1 (span.first + place * span.step) &&
          Nat.ble (span.first + place * span.step) bounds.2

private theorem isCovered_lowerShifts :
    (lowerShifts.all fun shift => shift.1.isCovered) = true := by decide +kernel

private theorem isAlphanumeric_of_isCovered {span : CodeSpan} {c : Char}
    (covered : span.isCovered = true) (inside : span.contains c.toNat = true) :
    isAlphanumeric c = true := by
  obtain ⟨first, last, even⟩ := CodeSpan.contains_iff.mp inside
  have listed : ∃ bounds ∈ alphanumericRanges, bounds.1 ≤ c.toNat ∧ c.toNat ≤ bounds.2 := by
    simp only [CodeSpan.isCovered, Bool.or_eq_true, List.any_eq_true, List.all_eq_true,
      Bool.and_eq_true, Nat.ble_eq] at covered
    obtain ⟨bounds, listed, lower, upper⟩ | each := covered
    · exact ⟨bounds, listed, Nat.le_trans lower first, Nat.le_trans last upper⟩
    · have place : (c.toNat - span.first) / span.step ∈
          List.range ((span.last - span.first) / span.step + 1) := by
        rw [List.mem_range, Nat.lt_succ_iff]
        exact Nat.div_le_div_right (Nat.sub_le_sub_right last _)
      have code : span.first + (c.toNat - span.first) / span.step * span.step = c.toNat := by
        rw [Nat.div_mul_cancel (Nat.dvd_of_mod_eq_zero even), Nat.add_sub_cancel' first]
      have found := each _ place
      rwa [code] at found
  simpa [isAlphanumeric] using listed

/-- A character that is neither a letter nor a digit is its own lowercase form. -/
theorem lowercase_of_not_isAlphanumeric {c : Char} (other : isAlphanumeric c = false) :
    lowercase c = [c] := by
  apply lowercase_eq_self
  · rintro rfl
    revert other
    decide +kernel
  · intro shift listed
    rw [Bool.eq_false_iff]
    intro inside
    have covered := List.all_eq_true.mp isCovered_lowerShifts shift listed
    rw [isAlphanumeric_of_isCovered covered inside] at other
    cases other

/-! ## ASCII -/

theorem ascii_lt_of_mem_tails :
    (∀ span ∈ uppercaseSpans.tail, 0x80 ≤ span.first) ∧
      ∀ shift ∈ lowerShifts.tail, 0x80 ≤ shift.1.first := by decide +kernel

theorem isUppercase_ascii {c : Char} (ascii : c.toNat < 0x80) :
    isUppercase c = CodeSpan.contains ⟨0x41, 0x5A, 1⟩ c.toNat := by
  have others : (uppercaseSpans.tail.any fun span => span.contains c.toNat) = false := by
    rw [List.any_eq_false]
    intro span listed inside
    have beyond := ascii_lt_of_mem_tails.1 span listed
    have lower := (CodeSpan.contains_iff.mp inside).1
    omega
  change (CodeSpan.contains _ c.toNat || uppercaseSpans.tail.any _) = _
  rw [others, Bool.or_false]

theorem lowercase_ne_self_of_capital :
    ∀ place < 26, lowercase (Char.ofNat (0x41 + place)) ≠ [Char.ofNat (0x41 + place)] := by
  decide +kernel

/-- The capital letters of ASCII turn into the small ones, which are not uppercase. -/
theorem settles_ascii {c : Char} (ascii : c.toNat < 0x80) : Settles c := by
  intro d member
  obtain ⟨rfl, alone⟩ | dotted | ⟨shift, listed, inside, same⟩ := mem_lowercase_cases member
  · rw [isUppercase_ascii ascii, Bool.eq_false_iff]
    intro capital
    obtain ⟨lower, upper, -⟩ := CodeSpan.contains_iff.mp capital
    dsimp only at lower upper
    have spelled : Char.ofNat (0x41 + (d.toNat - 0x41)) = d := by
      rw [Nat.add_sub_cancel' lower, Char.ofNat_toNat]
    have changed := lowercase_ne_self_of_capital (d.toNat - 0x41) (by omega)
    rw [spelled] at changed
    exact changed alone
  · exact (isSettled_dotted dotted).notUpper
  · have first : shift = (⟨0x41, 0x5A, 1⟩, 32) := by
      have split : shift = _ ∨ shift ∈ lowerShifts.tail := List.mem_cons.mp listed
      obtain head | later := split
      · exact head
      · have beyond := ascii_lt_of_mem_tails.2 shift later
        have lower := (CodeSpan.contains_iff.mp inside).1
        omega
    subst first
    obtain ⟨lower, upper, -⟩ := CodeSpan.contains_iff.mp inside
    dsimp only at lower upper
    have code : d.toNat = c.toNat + 32 := by
      have moved : ((c.toNat : Int) + 32).toNat = c.toNat + 32 := by omega
      rw [same, moved, toNat_ofNat (.inl (by omega))]
    rw [isUppercase_ascii (by omega), code, Bool.eq_false_iff]
    intro capital
    have last := (CodeSpan.contains_iff.mp capital).2.1
    dsimp only at last
    omega

end UniversalQuery.Text
