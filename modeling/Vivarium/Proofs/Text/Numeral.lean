import Mathlib.Algebra.Group.Nat.Defs
import Mathlib.Data.List.DropRight
import Mathlib.Data.List.TakeWhile
import Vivarium.Text.Numeral

/-!
# Decimal numbers that are read back

1. `readInt_toDigits`: the decimal digits of a number are read as that number if they are not too many.
2. `length_toDigits_of_readInt`: whatever is read, in any script and with any zeros in front, has no more digits
   than are read.
-/

namespace Vivarium.Text

variable {cs : List Char} {c : Char}

/-! ## Digits are read -/

theorem toNat_of_isDigit (digit : c.isDigit = true) : 48 ≤ c.toNat ∧ c.toNat ≤ 57 := by
  simp only [Char.isDigit, Bool.and_eq_true, decide_eq_true_eq] at digit
  exact digit

theorem isNumeralBlank_of_isDigit (digit : c.isDigit = true) : isNumeralBlank c = false := by
  obtain ⟨low, high⟩ := toNat_of_isDigit digit
  have other : c ≠ ' ' := by
    rintro rfl
    exact absurd digit (by decide)
  rw [isNumeralBlank, if_pos (by omega)]
  simp [other]
  omega

theorem trimNumeral_of_digits (digits : ∀ c ∈ cs, c.isDigit = true) : trimNumeral cs = cs := by
  have solid : ∀ c ∈ cs, ¬ isNumeralBlank c = true := fun c listed =>
    Bool.eq_false_iff.1 (isNumeralBlank_of_isDigit (digits c listed))
  have first : cs.dropWhile isNumeralBlank = cs :=
    List.dropWhile_eq_self_iff.2 fun filled => solid _ (List.getElem_mem filled)
  have last : cs.rdropWhile isNumeralBlank = cs :=
    List.rdropWhile_eq_self_iff.2 fun filled => solid _ (List.getLast_mem filled)
  rw [trimNumeral, first]
  exact last

theorem takeSign_of_digits (digits : ∀ c ∈ cs, c.isDigit = true) : takeSign cs = (false, cs) := by
  rw [takeSign.eq_def]
  split
  · exact absurd (digits '-' List.mem_cons_self) (by decide)
  · exact absurd (digits '+' List.mem_cons_self) (by decide)
  · rfl

theorem groupedDigits_of_digits (digits : ∀ c ∈ cs, c.isDigit = true) {gap : Bool}
    (filled : gap = true → cs ≠ []) :
    groupedDigits digitValue? gap cs = some (cs.map (·.toNat - 48), []) := by
  induction cs generalizing gap with
  | nil =>
    cases gap
    · rfl
    · exact absurd rfl (filled rfl)
  | cons c cs ih =>
    rw [groupedDigits, digitValue?_of_isDigit (digits c List.mem_cons_self)]
    simp [ih fun d listed => digits d (List.mem_cons_of_mem c listed)]

theorem readInt_of_digits (filled : cs ≠ []) (digits : ∀ c ∈ cs, c.isDigit = true)
    (short : cs.length ≤ digitLimit) : readInt cs = .ok (Nat.ofDigitChars 10 cs 0) := by
  have value : ofDigits 10 (cs.map (·.toNat - 48)) = Nat.ofDigitChars 10 cs 0 := by
    rw [ofDigits, List.foldl_map]
    rfl
  rw [readInt, trimNumeral_of_digits digits, takeSign_of_digits digits]
  simp only [groupedDigits_of_digits digits fun _ => filled, List.length_map, value]
  rw [if_neg (by omega)]
  rfl

/-- The digits of a number are read as that number. -/
theorem readInt_toDigits {n : Nat} (short : (Nat.toDigits 10 n).length ≤ digitLimit) :
    readInt (Nat.toDigits 10 n) = .ok n := by
  rw [readInt_of_digits Nat.toDigits_ne_nil
      (fun c listed => Nat.isDigit_of_mem_toDigits (by decide) (by decide) listed) short,
    Nat.ofDigitChars_toDigits (by decide) (by decide)]

/-! ## Numbers that are read -/

theorem lt_ten_of_groupedDigits {gap : Bool} {values : List Nat} {rest : List Char}
    (read : groupedDigits digitValue? gap cs = some (values, rest)) : ∀ d ∈ values, d < 10 := by
  induction cs generalizing gap values with
  | nil =>
    cases gap <;> cases read
    simp
  | cons c cs ih =>
    rw [groupedDigits] at read
    split at read
    · next d value =>
      obtain ⟨⟨later, left⟩, readLater, same⟩ := Option.map_eq_some_iff.1 read
      cases same
      exact List.forall_mem_cons.2 ⟨digitValue?_lt value, ih readLater⟩
    · split at read
      · cases read
      · split at read
        · exact ih read
        · cases read
          simp

theorem ofDigits_lt {values : List Nat} (small : ∀ d ∈ values, d < 10) :
    ofDigits 10 values < 10 ^ values.length := by
  induction values using List.reverseRecOn with
  | nil => decide
  | append_singleton values last ih =>
    have digit : last < 10 := small last (by simp)
    have front := ih fun d listed => small d (List.mem_append_left _ listed)
    have value : ofDigits 10 (values ++ [last]) = 10 * ofDigits 10 values + last := by
      simp [ofDigits]
    rw [value, List.length_append, List.length_singleton, Nat.pow_succ]
    omega

theorem readInt_lt {n : Int} (read : readInt cs = .ok n) : n.toNat < 10 ^ digitLimit := by
  rw [readInt] at read
  generalize takeSign (trimNumeral cs) = signed at read
  obtain ⟨negative, body⟩ := signed
  simp only at read
  split at read
  · cases read
  · next values rest grouped =>
    split at read
    · cases read
    · next short =>
      split at read
      · cases read
      · have value : ofDigits 10 values < 10 ^ digitLimit :=
          (ofDigits_lt (lt_ten_of_groupedDigits grouped)).trans_le
            (Nat.pow_le_pow_right (by decide) (by omega))
        cases read
        split <;> omega

theorem length_toDigits_of_readInt {n : Int} (read : readInt cs = .ok n) :
    (Nat.toDigits 10 n.toNat).length ≤ digitLimit :=
  (Nat.length_toDigits_le_iff (by decide) (by decide)).2 (readInt_lt read)

end Vivarium.Text
