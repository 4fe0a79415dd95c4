import Mathlib.Data.List.Basic
import Vivarium.Text.Csv

/-!
# Rows that are read back

1. `readRows`: what a reader of comma-separated rows makes of a text. It knows nothing of how rows are
   written.
2. `exists_readFrom_csvField`: it reads a written field, with quotes or without.
3. `readRows_join`: so it reads written rows.
-/

namespace Vivarium.Text

/-! ## The reader -/

/-- Where a reader is in a field: outside quotes, between them, or after a quote that ended them, unless
another quote follows. -/
inductive Place where
  | bare
  | quoted
  | after
deriving DecidableEq

/-- Reads the rest of a text, with the part of a field and of a row that were read before it. Outside
quotes a comma ends the field, and a carriage return with a line feed the row; a quote opens a field and
stands nowhere else. -/
def readFrom : Place → List Char → List String → List Char → Option (List (List String))
  | place, field, row, [] => if place = .bare ∧ field = [] ∧ row = [] then some [] else none
  | .quoted, field, row, '"' :: cs => readFrom .after field row cs
  | .quoted, field, row, c :: cs => readFrom .quoted (field ++ [c]) row cs
  | _, field, row, ',' :: cs => readFrom .bare [] (row ++ [String.ofList field]) cs
  | _, field, row, '\r' :: '\n' :: cs =>
    (readFrom .bare [] [] cs).map ((row ++ [String.ofList field]) :: ·)
  | .after, field, row, '"' :: cs => readFrom .quoted (field ++ ['"']) row cs
  | .after, _, _, _ :: _ => none
  | .bare, [], row, '"' :: cs => readFrom .quoted [] row cs
  | .bare, field, row, c :: cs =>
    if c = '"' ∨ c = '\r' ∨ c = '\n' then none else readFrom .bare (field ++ [c]) row cs

/-- The rows of a text, if it is made of rows. -/
def readRows (text : String) : Option (List (List String)) := readFrom .bare [] [] text.toList

/-! ## Fields -/

variable {cs field rest : List Char} {row : List String} {c : Char} {place : Place}

theorem readFrom_bare (plain : ∀ c ∈ cs, needsQuotes c = false) :
    readFrom .bare field row (cs ++ rest) = readFrom .bare (field ++ cs) row rest := by
  induction cs generalizing field with
  | nil => rw [List.nil_append, List.append_nil]
  | cons c cs ih =>
    obtain ⟨first, others⟩ := List.forall_mem_cons.1 plain
    have step : readFrom .bare field row (c :: (cs ++ rest)) =
        readFrom .bare (field ++ [c]) row (cs ++ rest) := by
      rw [readFrom.eq_def]
      split <;> simp_all [needsQuotes]
    rw [List.cons_append, step, ih others, List.append_assoc]
    rfl

theorem readFrom_doubled :
    readFrom .quoted field row (cs.flatMap (fun c => if c = '"' then ['"', '"'] else [c]) ++ rest) =
      readFrom .quoted (field ++ cs) row rest := by
  induction cs generalizing field with
  | nil => rw [List.flatMap_nil, List.nil_append, List.append_nil]
  | cons c cs ih =>
    have step (later : List Char) : readFrom .quoted field row
        ((if c = '"' then ['"', '"'] else [c]) ++ later) =
          readFrom .quoted (field ++ [c]) row later := by
      split
      · next quote => rw [quote]; rfl
      · simp [readFrom]
    rw [List.flatMap_cons, List.append_assoc, step, ih, List.append_assoc]
    rfl

/-- A written field is read, up to what follows it. -/
theorem exists_readFrom_csvField (row : List String) (s : String) : ∃ place, place ≠ .quoted ∧
    ∀ rest, readFrom .bare [] row (csvField s ++ rest) = readFrom place s.toList row rest := by
  rw [csvField]
  split
  · -- The quote at the end is the one that no other follows.
    refine ⟨.after, nofun, fun rest => ?_⟩
    rw [List.append_assoc, List.cons_append]
    exact readFrom_doubled
  · next plain =>
    refine ⟨.bare, nofun, fun rest => readFrom_bare fun c listed => ?_⟩
    rw [← Bool.not_eq_true]
    exact fun needed => plain (List.any_eq_true.2 ⟨c, listed, needed⟩)

/-! ## Rows -/

theorem readFrom_comma (outside : place ≠ .quoted) : readFrom place field row (',' :: rest) =
    readFrom .bare [] (row ++ [String.ofList field]) rest := by
  cases place with
  | bare => cases field <;> rfl
  | quoted => exact absurd rfl outside
  | after => rfl

theorem readFrom_newline (outside : place ≠ .quoted) :
    readFrom place field row ('\r' :: '\n' :: rest) =
      (readFrom .bare [] [] rest).map ((row ++ [String.ofList field]) :: ·) := by
  cases place with
  | bare => cases field <;> rfl
  | quoted => exact absurd rfl outside
  | after => rfl

theorem readFrom_csvFields {fields : List String} (filled : fields ≠ []) (row : List String)
    (rest : List Char) : readFrom .bare [] row (csvFields fields ++ '\r' :: '\n' :: rest) =
      (readFrom .bare [] [] rest).map ((row ++ fields) :: ·) := by
  induction fields generalizing row with
  | nil => exact absurd rfl filled
  | cons field others ih =>
    obtain ⟨place, outside, read⟩ := exists_readFrom_csvField row field
    cases others with
    | nil => rw [csvFields, read, readFrom_newline outside, String.ofList_toList]
    | cons next others =>
      rw [csvFields, List.append_assoc, read, List.cons_append, readFrom_comma outside,
        String.ofList_toList, ih (List.cons_ne_nil _ _), List.append_assoc]
      · rfl
      · exact List.cons_ne_nil _ _

/-- Rows that are written one after the other are read back, unless one of them has no field. -/
theorem readRows_join {rows : List (List String)} (filled : ∀ row ∈ rows, row ≠ []) :
    readRows (String.join (rows.map csvRow)) = some rows := by
  rw [readRows, String.toList_join]
  induction rows with
  | nil => rfl
  | cons row rows ih =>
    obtain ⟨first, others⟩ := List.forall_mem_cons.1 filled
    have read := readFrom_csvFields first [] ((rows.map csvRow).flatMap String.toList)
    rw [ih others] at read
    rw [List.map_cons, List.flatMap_cons, csvRow, String.toList_ofList, List.append_assoc]
    exact read

end Vivarium.Text
