import Vivarium.Json.Reader
import Vivarium.Json.Writer

/-!
# Texts that are read back

A text that was written between quotes is read as that text, whatever characters it has.

1. `readUnit_fourHex`: four hexadecimal digits are read as the number they were written for.
2. `readText_escapeChar`: an escaped character is read as that character.
3. `read_quote`: so a quoted text is read as the text.
-/

namespace Vivarium.Json

variable {cs rest : List Char} {c : Char} {n : Nat}

/-! ## Units -/

theorem hexValue?_digitChar (digit : n < 16) : hexValue? n.digitChar = some n := by
  have every : ∀ d < 16, hexValue? (Nat.digitChar d) = some d := by decide
  exact every n digit

theorem exists_digits (n : Nat) : ∃ digits, (Nat.toDigits 16 n).mapM hexValue? = some digits ∧
    Text.ofDigits 16 digits = n := by
  induction n using Nat.strongRecOn with
  | ind n ih =>
    rw [Nat.toDigits_eq_if (by decide)]
    split
    · next small =>
      refine ⟨[n], ?_, ?_⟩
      · simp [hexValue?_digitChar small]
      · simp [Text.ofDigits]
    · obtain ⟨digits, read, value⟩ := ih (n / 16) (by omega)
      refine ⟨digits ++ [n % 16], ?_, ?_⟩
      · simp [List.mapM_append, read, hexValue?_digitChar (Nat.mod_lt n (by decide))]
      · rw [Text.ofDigits, List.foldl_append]
        rw [Text.ofDigits] at value
        simp [value]
        omega

theorem readUnit_fourHex (small : n < 65536) (rest : List Char) :
    readUnit (fourHex n ++ rest) = some (n, rest) := by
  obtain ⟨digits, read, value⟩ := exists_digits n
  have short : (Nat.toDigits 16 n).length ≤ 4 :=
    (Nat.length_toDigits_le_iff (by decide) (by decide)).2 small
  have zeros (k : Nat) : (List.replicate k '0').mapM hexValue? = some (List.replicate k 0) := by
    induction k with
    | zero => rfl
    | succ k ih => simp [List.replicate_succ, ih, show hexValue? '0' = some 0 from rfl]
  have padded (k : Nat) : Text.ofDigits 16 (List.replicate k 0 ++ digits) = n := by
    rw [← value, Text.ofDigits, Text.ofDigits, List.foldl_append]
    congr 1
    induction k with
    | zero => rfl
    | succ k ih => simpa [List.replicate_succ] using ih
  have whole : (fourHex n).mapM hexValue? =
      some (List.replicate (4 - (Nat.toDigits 16 n).length) 0 ++ digits) := by
    simp [fourHex, List.mapM_append, zeros, read]
  have length : (fourHex n).length = 4 := by
    simp [fourHex]
    omega
  match fourHex n, length, whole with
  | [a, b, c, d], _, whole => simp [readUnit, whole, padded]

/-! ## Escapes -/

/-- A high unit and a low one are read as the character they were written for. -/
theorem joinUnits_fourHex (high low : Nat) (unit : 0xDC00 ≤ low ∧ low < 0xE000) (rest : List Char) :
    joinUnits high ('\\' :: 'u' :: (fourHex low ++ rest)) =
      (Char.ofNat (0x10000 + (high - 0xD800) * 0x400 + (low - 0xDC00)), rest) := by
  rw [joinUnits, readUnit_fourHex (by omega)]
  exact if_pos unit

/-- The numbers of the two units that a character outside the first plane is written with. -/
theorem exists_units (large : ¬ c.toNat < 0x10000) : ∃ high low,
    unitEscape c = '\\' :: 'u' :: fourHex high ++ '\\' :: 'u' :: fourHex low ∧
      high = 0xD800 + (c.toNat - 0x10000) / 0x400 ∧ low = 0xDC00 + (c.toNat - 0x10000) % 0x400 :=
  ⟨_, _, if_neg large, rfl, rfl⟩

theorem readEscape_unitEscape (c : Char) (rest : List Char) :
    ∃ escape, unitEscape c ++ rest = '\\' :: escape ∧ readEscape escape = some (c, rest) := by
  have valid : c.toNat < 0xD800 ∨ 0xDFFF < c.toNat ∧ c.toNat < 0x110000 := c.valid
  by_cases small : c.toNat < 0x10000
  · have written : unitEscape c = '\\' :: 'u' :: fourHex c.toNat := if_pos small
    refine ⟨'u' :: (fourHex c.toNat ++ rest), by rw [written]; rfl, ?_⟩
    simp only [readEscape, readUnit_fourHex small]
    rw [if_neg (by omega), if_neg (by omega), Char.ofNat_toNat]
  · obtain ⟨high, low, written, above, below⟩ := exists_units small
    have joined : 0x10000 + (high - 0xD800) * 0x400 + (low - 0xDC00) = c.toNat := by omega
    refine ⟨'u' :: (fourHex high ++ '\\' :: 'u' :: (fourHex low ++ rest)), by simp [written], ?_⟩
    simp only [readEscape, readUnit_fourHex (n := high) (by omega)]
    rw [if_pos (by omega), joinUnits_fourHex high low (by omega), joined, Char.ofNat_toNat]

/-- An escaped character is read as that character. -/
theorem readText_escapeChar (ascii : Bool) (c : Char) (before : List Char) (fuel : Nat)
    (rest : List Char) : readText before (fuel + 1) (escapeChar ascii c ++ rest) =
      readText (c :: before) fuel rest := by
  have unit : readText before (fuel + 1) (unitEscape c ++ rest) = readText (c :: before) fuel rest := by
    obtain ⟨escape, written, read⟩ := readEscape_unitEscape c rest
    rw [written, readText, if_neg (by decide), if_pos rfl, read]
  rw [escapeChar]
  split
  · next same => rw [same]; rfl
  split
  · next same => rw [same]; rfl
  split
  · next same => rw [same]; rfl
  split
  · next same => rw [same]; rfl
  split
  · next same => rw [same]; rfl
  split
  · next same => rw [same]; rfl
  split
  · next same => rw [same]; rfl
  split
  · exact unit
  split
  · exact unit
  · next noQuote noBackslash _ _ _ _ _ printable _ =>
    rw [List.singleton_append, readText, if_neg noQuote, if_neg noBackslash, if_neg printable]

/-! ## Texts -/

theorem readText_quote (ascii : Bool) (cs before rest : List Char) {fuel : Nat}
    (enough : cs.length < fuel) :
    readText before fuel (cs.flatMap (escapeChar ascii) ++ '"' :: rest) =
      .ok (String.ofList (before.reverse ++ cs), rest) := by
  induction cs generalizing before fuel with
  | nil =>
    obtain ⟨fuel, rfl⟩ := Nat.exists_eq_add_of_lt enough
    simp [readText]
  | cons c cs ih =>
    obtain ⟨fuel, rfl⟩ : ∃ more, fuel = more + 1 := ⟨fuel - 1, by simp at enough; omega⟩
    rw [List.flatMap_cons, List.append_assoc, readText_escapeChar,
      ih (c :: before) (by simpa using enough)]
    simp

/-- Characters that begin with a quote are a text. -/
theorem readValue_quote (depth fuel : Nat) (cs : List Char) :
    readValue depth (fuel + 1) ('"' :: cs) =
      (readText [] (fuel + 1) cs).map fun read => (.text read.1, read.2) := by
  have unnamed : readName ('"' :: cs) = none := by
    simp [readName, names, dropWord]
  rw [readValue.eq_def]
  dsimp only
  rw [readScalar, unnamed]
  dsimp only
  cases readText [] (fuel + 1) cs <;> rfl

theorem escapeChar_ne_nil (ascii : Bool) (c : Char) : escapeChar ascii c ≠ [] := by
  have unit : unitEscape c ≠ [] := by
    obtain ⟨escape, written, -⟩ := readEscape_unitEscape c []
    rw [List.append_nil] at written
    rw [written]
    exact List.cons_ne_nil _ _
  rw [escapeChar]
  repeat' split
  all_goals first | exact unit | exact List.cons_ne_nil _ _

theorem length_le_flatMap_escapeChar (ascii : Bool) (cs : List Char) :
    cs.length ≤ (cs.flatMap (escapeChar ascii)).length := by
  induction cs with
  | nil => exact Nat.le_refl 0
  | cons c cs ih =>
    have first := List.length_pos_iff.2 (escapeChar_ne_nil ascii c)
    rw [List.flatMap_cons, List.length_append, List.length_cons]
    omega

/-- A text that was written between quotes is read as that text. -/
theorem read_quote (ascii : Bool) (s : String) : read (quote ascii s) = .ok (.text s) := by
  have enough := length_le_flatMap_escapeChar ascii s.toList
  rw [read, readWithin, quote, String.toList_ofList, List.cons_append]
  have start : skipBlanks ('"' :: (s.toList.flatMap (escapeChar ascii) ++ ['"'])) =
      '"' :: (s.toList.flatMap (escapeChar ascii) ++ ['"']) := rfl
  generalize size : 2 * ('"' :: (s.toList.flatMap (escapeChar ascii) ++ ['"'])).length + 2 = fuel
  rw [List.length_cons, List.length_append] at size
  obtain ⟨fuel, rfl⟩ : ∃ more, fuel = more + 1 := ⟨fuel - 1, by omega⟩
  rw [start, readValue_quote, readText_quote ascii s.toList [] [] (by omega)]
  simp [Except.map, skipBlanks]

end Vivarium.Json
