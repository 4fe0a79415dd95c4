import Mathlib.Tactic.ByContra
import Mathlib.Tactic.Push
import Mathlib.Tactic.Tauto
import Vivarium.Proofs.Value
import Vivarium.Settings.Basic

/-!
# What validation accepts and how it fails

Six figures of the settings are compared with zero, one after the other, and then the number of
creatures with that of the squares. The first rule that is broken is told of, with the figures that
broke it; but a figure may be no number at all, and may be too long or too deep to be told.

1. `Settings.Valid`: the rules. `validate_eq_ok_iff_valid`: what passes satisfies them all.
2. `Settings.Lapse`: the faults of validation that tell of no rule. `lapse_iff`: these are all of them.
3. `Settings.Planned`: settings whose figures are whole numbers. For these the rules are inequalities
   (`Planned.validate_iff`), and a fault tells of a rule unless a number is too long for that
   (`Planned.validate_eq_error`).
-/

namespace Vivarium

/-! ## Faults -/

namespace Fault

/-- Whether a fault says what is wrong with settings. -/
def isConfiguration : Fault → Bool
  | .settingsNotMap _ | .badSettings _ | .smallWorld .. | .badRounds _ | .badPause _
  | .badLimitSetting _ | .badCount _ | .overfull .. => true
  | _ => false

/-- A flaw of a value says nothing about settings. -/
theorem isConfiguration_of_flaw {v : Value} {room : Nat} {flaw : Fault}
    (found : v.flaw? room = some flaw) : flaw.isConfiguration = false := by
  rcases v.flaw?_cases room flaw found with ⟨rfl, -⟩ | ⟨rfl, -⟩ <;> rfl

theorem isConfiguration_of_untold {values : List Value} {flaw : Fault}
    (untold : Value.untold? values = some flaw) : flaw.isConfiguration = false := by
  obtain ⟨v, -, found⟩ := exists_flaw_of_untold untold
  exact isConfiguration_of_flaw found

variable {α : Type} {check : α → Except Fault Unit} {xs : List α} {fault : Fault}

theorem forM_eq_ok_iff : forM xs check = .ok () ↔ ∀ x ∈ xs, check x = .ok () := by
  induction xs with
  | nil => exact ⟨fun _ x present => absurd present List.not_mem_nil, fun _ => rfl⟩
  | cons x rest ih =>
    rw [List.forM_cons, List.forall_mem_cons]
    cases passed : check x with
    | error fault => exact ⟨fun done => (nomatch done), fun all => (nomatch all.1)⟩
    | ok _ => exact ⟨fun done => ⟨rfl, ih.1 done⟩, fun all => ih.2 all.2⟩

/-- Checks that are made one after the other fail with the first that fails. -/
theorem forM_eq_error_iff : forM xs check = .error fault ↔
    ∃ before x after, xs = before ++ x :: after ∧ (∀ y ∈ before, check y = .ok ()) ∧
      check x = .error fault := by
  constructor
  · intro failed
    induction xs with
    | nil => cases failed
    | cons x rest ih =>
      rw [List.forM_cons] at failed
      rcases cases_of_bind_eq_error failed with here | ⟨_, passed, later⟩
      · exact ⟨[], x, rest, rfl, fun y present => absurd present List.not_mem_nil, here⟩
      · obtain ⟨before, y, after, rfl, fine, fails⟩ := ih later
        exact ⟨x :: before, y, after, rfl, List.forall_mem_cons.2 ⟨passed, fine⟩, fails⟩
  · rintro ⟨before, x, after, rfl, fine, fails⟩
    induction before with
    | nil =>
      rw [List.nil_append, List.forM_cons, fails]
      rfl
    | cons y before ih =>
      obtain ⟨passed, fine⟩ := List.forall_mem_cons.1 fine
      rw [List.cons_append, List.forM_cons, passed]
      exact ih fine

end Fault

/-! ## Comparisons -/

namespace Value

variable {v w : Value} {relation : String} {holds : Number → Number → Bool}

/-- Only numbers are compared. -/
theorem compare_eq_ok_iff {result : Bool} : v.compare relation holds w = .ok result ↔
    ∃ x y, v.number? = some x ∧ w.number? = some y ∧ holds x y = result := by
  rw [compare]
  cases v.number? <;> cases w.number? <;> simp

theorem compare_eq_error_iff {fault : Fault} : v.compare relation holds w = .error fault ↔
    (v.number? = none ∨ w.number? = none) ∧ fault = .unordered relation v.kind w.kind := by
  rw [compare]
  cases v.number? <;> cases w.number? <;> simp [eq_comm]

/-- The product of numbers is a number, or one of them is too large a whole number for a double. -/
theorem mul_of_numbers {x y : Number} (known : v.number? = some x) (known' : w.number? = some y) :
    (∃ product : Number, v.mul w = .ok product.toValue) ∨ v.mul w = .error .tooLargeForDouble := by
  have converted (z : Number) : (∃ d, z.toDouble = .ok d) ∨ z.toDouble = .error .tooLargeForDouble := by
    cases z with
    | double d => exact .inl ⟨d, rfl⟩
    | whole n =>
      rw [Number.toDouble]
      cases Decimal.ofInt? n with
      | none => exact .inr rfl
      | some d => exact .inl ⟨d, rfl⟩
  rw [mul, known, known']
  by_cases whole : ∃ n m, x = .whole n ∧ y = .whole m
  · obtain ⟨n, m, rfl, rfl⟩ := whole
    exact .inl ⟨.whole (n * m), rfl⟩
  · have product : Number.mul x y = (do return .double ((← x.toDouble) * (← y.toDouble))) := by
      rw [Number.mul]
      intro n m rfl rfl
      exact whole ⟨n, m, rfl, rfl⟩
    dsimp only
    rw [product]
    rcases converted x with ⟨d, first⟩ | first
    · rcases converted y with ⟨e, second⟩ | second
      · exact .inl ⟨.double (d * e), by rw [first, second]; rfl⟩
      · exact .inr (by rw [first, second]; rfl)
    · exact .inr (by rw [first]; rfl)

theorem gt_toValue (x y : Number) : x.toValue.gt y.toValue = .ok (Number.lt y x) := by
  cases x <;> cases y <;> rfl

end Value

namespace Settings

variable {s : Settings} {fault : Fault}

/-! ## Figures -/

structure Figure where
  value : Value
  /-- Whether zero is within the bounds. -/
  zero : Bool
  cause : Fault
  /-- The figures that the fault tells of. -/
  told : List Value

namespace Figure

variable {f : Figure}

/-- The relation that the figure must not have to zero. -/
def relation (f : Figure) : String := if f.zero then "<" else "<="

def outside (f : Figure) : Except Fault Bool :=
  if f.zero then f.value.lt (.int 0) else f.value.le (.int 0)

def check (f : Figure) : Except Fault Unit := do
  if ← f.outside then .error (f.cause.telling f.told)

theorem outside_eq_error_iff :
    f.outside = .error fault ↔
      f.value.number? = none ∧ fault = .unordered f.relation f.value.kind "int" := by
  have known : (Value.int 0).number? ≠ none := Option.some_ne_none _
  rw [outside, relation]
  split
  · rw [Value.lt, Value.compare_eq_error_iff, or_iff_left known]
    rfl
  · rw [Value.le, Value.compare_eq_error_iff, or_iff_left known]
    rfl

theorem check_eq_ok_iff : f.check = .ok () ↔ f.outside = .ok false := by
  rw [check]
  cases f.outside with
  | error fault => exact ⟨fun passed => (nomatch passed), fun within => (nomatch within)⟩
  | ok outside =>
    cases outside with
    | false => exact ⟨fun _ => rfl, fun _ => rfl⟩
    | true => exact ⟨fun passed => (nomatch passed), fun within => (nomatch within)⟩

theorem check_eq_error_iff : f.check = .error fault ↔
    (f.value.number? = none ∧ fault = .unordered f.relation f.value.kind "int") ∨
      (f.outside = .ok true ∧ fault = f.cause.telling f.told) := by
  rw [check, ← outside_eq_error_iff]
  cases f.outside with
  | error cause => simp [bind, Except.bind]
  | ok outside => cases outside <;> simp [bind, Except.bind, pure, Except.pure, eq_comm]

end Figure

/-- The figure of a limit, if one is set. -/
def limitFigures : Value → List Figure
  | .null => []
  | limit => [⟨limit, false, .badLimitSetting limit, [limit]⟩]

/-- The figures that are compared with zero, in the order in which they are. -/
def figures (s : Settings) : List Figure :=
  [⟨s.width, false, .smallWorld s.width s.height, [s.width, s.height]⟩,
    ⟨s.height, false, .smallWorld s.width s.height, [s.width, s.height]⟩,
    ⟨s.rounds, false, .badRounds s.rounds, [s.rounds]⟩,
    ⟨s.pause, true, .badPause s.pause, [s.pause]⟩] ++
  (limitFigures s.turnLimit ++ [⟨s.count, true, .badCount s.count, [s.count]⟩])

theorem mem_figures_of_split {before after : List Figure} {f : Figure}
    (split : s.figures = before ++ f :: after) : f ∈ s.figures := by
  rw [split]
  exact List.mem_append_right before List.mem_cons_self

theorem mem_limitFigures {v : Value} {f : Figure} (listed : f ∈ limitFigures v) :
    v ≠ .null ∧ f = ⟨v, false, .badLimitSetting v, [v]⟩ := by
  cases v with
  | null => cases listed
  | _ => exact ⟨nofun, List.mem_singleton.1 listed⟩

theorem isConfiguration_of_figure {f : Figure} (listed : f ∈ s.figures) :
    f.cause.isConfiguration = true := by
  rw [figures, List.mem_append, List.mem_append] at listed
  rcases listed with first | limit | last
  · simp only [List.mem_cons, List.not_mem_nil, or_false] at first
    rcases first with rfl | rfl | rfl | rfl <;> rfl
  · rw [(mem_limitFigures limit).2]
    rfl
  · rw [List.mem_singleton.1 last]
    rfl

theorem checkWorld_eq (s : Settings) : s.checkWorld = (do
    (Figure.mk s.width false (.smallWorld s.width s.height) [s.width, s.height]).check
    (Figure.mk s.height false (.smallWorld s.width s.height) [s.width, s.height]).check) := by
  simp only [checkWorld, Figure.check, Figure.outside, Bool.false_eq_true, if_false]
  cases s.width.le (.int 0) with
  | error fault => rfl
  | ok narrow =>
    cases narrow with
    | true => rfl
    | false => cases s.height.le (.int 0) <;> rfl

theorem checkTurnLimit_eq (s : Settings) :
    s.checkTurnLimit = forM (limitFigures s.turnLimit) Figure.check := by
  have alone (limit : Value) : (do
      if ← limit.le (.int 0) then .error (.telling (.badLimitSetting limit) [limit])) =
      forM [Figure.mk limit false (.badLimitSetting limit) [limit]] Figure.check := by
    rw [List.forM_cons, List.forM_nil]
    cases compared : limit.le (.int 0) with
    | error fault => simp [Figure.check, Figure.outside, compared, bind, Except.bind]
    | ok low =>
      cases low <;>
        simp [Figure.check, Figure.outside, compared, bind, Except.bind, pure, Except.pure]
  rw [checkTurnLimit]
  cases s.turnLimit <;> first | rfl | exact alone _

/-- Validation checks the figures one after the other, and then the room. -/
theorem validate_eq (s : Settings) : s.validate = (do
    forM s.figures Figure.check
    s.checkRoom) := by
  have rounds : s.checkRounds = (Figure.mk s.rounds false (.badRounds s.rounds) [s.rounds]).check := rfl
  have pause : s.checkPause = (Figure.mk s.pause true (.badPause s.pause) [s.pause]).check := rfl
  have count : s.checkCount = (Figure.mk s.count true (.badCount s.count) [s.count]).check := rfl
  simp only [validate, figures, checkWorld_eq, rounds, pause, checkTurnLimit_eq, count,
    List.forM_append, List.forM_cons, List.forM_nil, bind_assoc, pure_bind]

/-! ## Rules -/

/-- The rules: no figure is out of its bounds, and there are no more creatures than squares. -/
structure Valid (s : Settings) : Prop where
  width : s.width.le (.int 0) = .ok false
  height : s.height.le (.int 0) = .ok false
  rounds : s.rounds.le (.int 0) = .ok false
  pause : s.pause.lt (.int 0) = .ok false
  turnLimit : s.turnLimit = .null ∨ s.turnLimit.le (.int 0) = .ok false
  count : s.count.lt (.int 0) = .ok false
  room : ∃ squares wanted, s.width.mul s.height = .ok squares ∧
    s.count.mul (.int s.speciesFiles.length) = .ok wanted ∧ wanted.gt squares = .ok false

theorem forall_limitFigures_iff {v : Value} :
    (∀ f ∈ limitFigures v, f.outside = .ok false) ↔ v = .null ∨ v.le (.int 0) = .ok false := by
  cases v <;> simp [limitFigures, Figure.outside]

theorem forall_figures_iff : (∀ f ∈ s.figures, f.outside = .ok false) ↔
    s.width.le (.int 0) = .ok false ∧ s.height.le (.int 0) = .ok false ∧
      s.rounds.le (.int 0) = .ok false ∧ s.pause.lt (.int 0) = .ok false ∧
      (s.turnLimit = .null ∨ s.turnLimit.le (.int 0) = .ok false) ∧
      s.count.lt (.int 0) = .ok false := by
  rw [figures, List.forall_mem_append, List.forall_mem_append, forall_limitFigures_iff]
  simp [Figure.outside, and_assoc]

theorem checkRoom_eq_ok_iff : s.checkRoom = .ok () ↔
    ∃ squares wanted, s.width.mul s.height = .ok squares ∧
      s.count.mul (.int s.speciesFiles.length) = .ok wanted ∧ wanted.gt squares = .ok false := by
  constructor
  · intro passed
    obtain ⟨squares, multiplied, passed⟩ := Fault.exists_of_bind_eq_ok passed
    obtain ⟨wanted, multiplied', passed⟩ := Fault.exists_of_bind_eq_ok passed
    obtain ⟨more, compared, passed⟩ := Fault.exists_of_bind_eq_ok passed
    cases more with
    | true => cases passed
    | false => exact ⟨squares, wanted, multiplied, multiplied', compared⟩
  · rintro ⟨squares, wanted, multiplied, multiplied', compared⟩
    simp only [checkRoom, multiplied, multiplied', compared, bind, Except.bind]
    rfl

/-- Settings pass validation if they satisfy all rules. -/
theorem validate_eq_ok_iff_valid : s.validate = .ok () ↔ s.Valid := by
  have both : s.validate = .ok () ↔
      (∀ f ∈ s.figures, f.outside = .ok false) ∧ s.checkRoom = .ok () := by
    rw [validate_eq]
    constructor
    · intro passed
      obtain ⟨_, figures, room⟩ := Fault.exists_of_bind_eq_ok passed
      exact ⟨fun f listed => Figure.check_eq_ok_iff.1 (Fault.forM_eq_ok_iff.1 figures f listed), room⟩
    · rintro ⟨figures, room⟩
      rw [Fault.forM_eq_ok_iff.2 fun f listed => Figure.check_eq_ok_iff.2 (figures f listed), room]
      rfl
  rw [both, forall_figures_iff, checkRoom_eq_ok_iff]
  constructor
  · rintro ⟨⟨width, height, rounds, pause, limit, count⟩, room⟩
    exact ⟨width, height, rounds, pause, limit, count, room⟩
  · rintro ⟨width, height, rounds, pause, limit, count, room⟩
    exact ⟨⟨width, height, rounds, pause, limit, count⟩, room⟩

/-! ## Lapses -/

/-- The faults of validation that do not say which rule is broken. -/
inductive Lapse (s : Settings) : Fault → Prop
  /-- The first figure that is not within its bounds is no number. -/
  | unordered {before after : List Figure} {f : Figure} (split : s.figures = before ++ f :: after)
      (passed : ∀ g ∈ before, g.outside = .ok false) (strange : f.value.number? = none) :
      Lapse s (.unordered f.relation f.value.kind "int")
  /-- The first figure that is not within its bounds is out of them, and the fault would tell of a
  value that cannot be written. -/
  | untold {before after : List Figure} {f : Figure} {flaw : Fault}
      (split : s.figures = before ++ f :: after) (passed : ∀ g ∈ before, g.outside = .ok false)
      (outside : f.outside = .ok true) (untold : Value.untold? f.told = some flaw) : Lapse s flaw
  /-- The numbers are within their bounds, and a product of them cannot be made. -/
  | overflow (passed : ∀ f ∈ s.figures, f.outside = .ok false)
      (large : s.width.mul s.height = .error .tooLargeForDouble ∨
        s.count.mul (.int s.speciesFiles.length) = .error .tooLargeForDouble) :
      Lapse s .tooLargeForDouble
  /-- There is too little room, and the fault would tell of a value that cannot be written. -/
  | crowded {squares wanted : Value} {flaw : Fault}
      (passed : ∀ f ∈ s.figures, f.outside = .ok false)
      (squared : s.width.mul s.height = .ok squares)
      (multiplied : s.count.mul (.int s.speciesFiles.length) = .ok wanted)
      (more : wanted.gt squares = .ok true)
      (untold : Value.untold? [wanted, s.width, s.height] = some flaw) : Lapse s flaw

/-- The number of squares, once the figures are within their bounds. -/
theorem squares_of_within (passed : ∀ f ∈ s.figures, f.outside = .ok false) :
    (∃ squares : Number, s.width.mul s.height = .ok squares.toValue) ∨
      s.width.mul s.height = .error .tooLargeForDouble := by
  obtain ⟨width, height, -⟩ := forall_figures_iff.1 passed
  obtain ⟨x, -, wide, -⟩ := Value.compare_eq_ok_iff.1 width
  obtain ⟨y, -, high, -⟩ := Value.compare_eq_ok_iff.1 height
  exact Value.mul_of_numbers wide high

/-- The number of creatures that are wanted. -/
theorem wanted_of_within (passed : ∀ f ∈ s.figures, f.outside = .ok false) :
    (∃ wanted : Number, s.count.mul (.int s.speciesFiles.length) = .ok wanted.toValue) ∨
      s.count.mul (.int s.speciesFiles.length) = .error .tooLargeForDouble := by
  obtain ⟨-, -, -, -, -, count⟩ := forall_figures_iff.1 passed
  obtain ⟨x, -, counted, -⟩ := Value.compare_eq_ok_iff.1 count
  exact Value.mul_of_numbers counted rfl

/-- How the check of the room fails once the figures are within their bounds. -/
theorem checkRoom_eq_error (passed : ∀ f ∈ s.figures, f.outside = .ok false)
    (failed : s.checkRoom = .error fault) : fault.isConfiguration = true ∨ s.Lapse fault := by
  rcases squares_of_within passed with ⟨squares, squared⟩ | large
  · rcases wanted_of_within passed with ⟨wanted, multiplied⟩ | large
    · simp only [checkRoom, squared, multiplied, Value.gt_toValue, bind, Except.bind] at failed
      split at failed
      · next more =>
        cases failed
        rcases Fault.telling_cases (.overfull wanted.toValue s.width s.height)
          [wanted.toValue, s.width, s.height] with told | ⟨flaw, untold, told⟩
        · rw [told]
          exact .inl rfl
        · rw [told]
          refine .inr (.crowded passed squared multiplied ?_ untold)
          rw [Value.gt_toValue, more]
      · cases failed
    · simp only [checkRoom, squared, large, bind, Except.bind] at failed
      cases failed
      exact .inr (.overflow passed (.inr large))
  · simp only [checkRoom, large, bind, Except.bind] at failed
    cases failed
    exact .inr (.overflow passed (.inl large))

/-- Validation fails with a fault that says what is wrong, or with a lapse. -/
theorem validate_eq_error (failed : s.validate = .error fault) :
    fault.isConfiguration = true ∨ s.Lapse fault := by
  rw [validate_eq] at failed
  rcases Fault.cases_of_bind_eq_error failed with figure | ⟨_, passed, room⟩
  · obtain ⟨before, f, after, split, fine, fails⟩ := Fault.forM_eq_error_iff.1 figure
    have within (g : Figure) (earlier : g ∈ before) : g.outside = .ok false :=
      Figure.check_eq_ok_iff.1 (fine g earlier)
    rcases Figure.check_eq_error_iff.1 fails with ⟨strange, rfl⟩ | ⟨outside, rfl⟩
    · exact .inr (.unordered split within strange)
    · rcases Fault.telling_cases f.cause f.told with told | ⟨flaw, untold, told⟩
      · rw [told]
        exact .inl (isConfiguration_of_figure (mem_figures_of_split split))
      · rw [told]
        exact .inr (.untold split within outside untold)
  · exact checkRoom_eq_error
      (fun f listed => Figure.check_eq_ok_iff.1 (Fault.forM_eq_ok_iff.1 passed f listed)) room

/-- The lapses are all faults of validation that do not say what is wrong. -/
theorem lapse_iff : s.Lapse fault ↔ s.validate = .error fault ∧ fault.isConfiguration = false := by
  constructor
  · intro lapse
    -- A figure that fails stops the checks, and figures that pass leave the check of the room.
    have stopped {before after : List Figure} {f : Figure} {cause : Fault}
        (split : s.figures = before ++ f :: after) (passed : ∀ g ∈ before, g.outside = .ok false)
        (fails : f.check = .error cause) : s.validate = .error cause := by
      have figures : forM s.figures Figure.check = .error cause :=
        Fault.forM_eq_error_iff.2 ⟨before, f, after, split,
          fun g earlier => Figure.check_eq_ok_iff.2 (passed g earlier), fails⟩
      rw [validate_eq, figures]
      rfl
    have reached (passed : ∀ f ∈ s.figures, f.outside = .ok false) : s.validate = s.checkRoom := by
      rw [validate_eq, Fault.forM_eq_ok_iff.2 fun f listed => Figure.check_eq_ok_iff.2 (passed f listed)]
      rfl
    cases lapse with
    | unordered split passed strange =>
      exact ⟨stopped split passed (Figure.check_eq_error_iff.2 (.inl ⟨strange, rfl⟩)), rfl⟩
    | untold split passed outside untold =>
      refine ⟨stopped split passed (Figure.check_eq_error_iff.2 (.inr ⟨outside, ?_⟩)),
        Fault.isConfiguration_of_untold untold⟩
      rw [Fault.telling_of_untold _ untold]
    | overflow passed large =>
      refine ⟨?_, rfl⟩
      rw [reached passed, checkRoom]
      rcases large with large | large
      · rw [large]
        rfl
      · rcases squares_of_within passed with ⟨squares, squared⟩ | overflow
        · rw [squared, large]
          rfl
        · rw [overflow]
          rfl
    | crowded passed squared multiplied more untold =>
      refine ⟨?_, Fault.isConfiguration_of_untold untold⟩
      rw [reached passed, checkRoom, squared, multiplied]
      simp only [bind, Except.bind, more, if_true, Fault.telling_of_untold _ untold]
  · rintro ⟨failed, silent⟩
    rcases validate_eq_error failed with told | lapse
    · rw [told] at silent
      cases silent
    · exact lapse

/-! ## Plans -/

/-- What settings come to when their figures are whole numbers. The pause may be any number. -/
structure Plan where
  width : Int
  height : Int
  rounds : Int
  pause : Number
  turnLimit : Option Int
  count : Int
  species : Nat

/-- The rules as inequalities. -/
structure Plan.Fits (p : Plan) : Prop where
  width : 0 < p.width
  height : 0 < p.height
  rounds : 0 < p.rounds
  /-- The pause is not negative. -/
  pause : p.pause.lt (.whole 0) = false
  turnLimit : ∀ limit, p.turnLimit = some limit → 0 < limit
  count : 0 ≤ p.count
  room : p.count * p.species ≤ p.width * p.height

/-- The limit that a value plans: none for nothing, or a whole number. -/
def limit? : Value → Option (Option Int)
  | .null => some none
  | limit => limit.whole?.map some

/-- The usual pause is not negative. -/
theorem usualPause_nonneg : Number.lt (.double (Decimal.nearest false ⟨1, 2⟩)) (.whole 0) = false := by
  decide +kernel

variable {p : Plan}

/-- Settings whose figures are of the kinds that a plan has. -/
structure Planned (s : Settings) (p : Plan) : Prop where
  width : s.width.whole? = some p.width
  height : s.height.whole? = some p.height
  rounds : s.rounds.whole? = some p.rounds
  pause : s.pause.number? = some p.pause
  turnLimit : limit? s.turnLimit = some p.turnLimit
  count : s.count.whole? = some p.count
  species : s.speciesFiles.length = p.species

end Settings

namespace Value

variable {v : Value} {n : Int}

theorem le_zero_iff (whole : v.whole? = some n) : v.le (.int 0) = .ok false ↔ 0 < n := by
  rw [le_of_whole whole rfl, Except.ok.injEq, decide_eq_false_iff_not, Int.not_le]

theorem lt_zero_iff (whole : v.whole? = some n) : v.lt (.int 0) = .ok false ↔ 0 ≤ n := by
  rw [lt_of_whole whole rfl, Except.ok.injEq, decide_eq_false_iff_not, Int.not_lt]

end Value

namespace Settings

variable {s : Settings} {p : Plan} {fault : Fault}

/-- A limit that is set is a whole number. -/
theorem whole_of_limit {v : Value} {limit : Option Int} (planned : limit? v = some limit)
    (set : v ≠ .null) : ∃ n, v.whole? = some n ∧ limit = some n := by
  have whole : v.whole?.map some = some limit := by
    rw [← planned]
    cases v with
    | null => exact absurd rfl set
    | _ => rfl
  obtain ⟨n, known, same⟩ := Option.map_eq_some_iff.1 whole
  exact ⟨n, known, same.symm⟩

theorem limit_iff {v : Value} {limit : Option Int} (planned : limit? v = some limit) :
    (v = .null ∨ v.le (.int 0) = .ok false) ↔ ∀ n, limit = some n → 0 < n := by
  by_cases unset : v = .null
  · subst unset
    cases planned
    exact ⟨fun _ n set => (nomatch set), fun _ => .inl rfl⟩
  · obtain ⟨n, known, rfl⟩ := whole_of_limit planned unset
    rw [or_iff_right unset, Value.le_zero_iff known]
    exact ⟨fun positive m set => Option.some.inj set ▸ positive, fun all => all n rfl⟩

/-- Whole numbers of creatures and squares are compared as such. -/
theorem room_iff {columns rows count : Int} (wide : s.width.whole? = some columns)
    (high : s.height.whole? = some rows) (counted : s.count.whole? = some count) :
    (∃ squares wanted, s.width.mul s.height = .ok squares ∧
      s.count.mul (.int s.speciesFiles.length) = .ok wanted ∧ wanted.gt squares = .ok false) ↔
      count * s.speciesFiles.length ≤ columns * rows := by
  have squared := Value.mul_of_whole wide high
  have multiplied : s.count.mul (.int s.speciesFiles.length) = _ := Value.mul_of_whole counted rfl
  have compared : (Value.int (count * s.speciesFiles.length)).gt (.int (columns * rows)) =
      .ok (decide (columns * rows < count * s.speciesFiles.length)) := Value.gt_of_whole rfl rfl
  rw [← Int.not_lt]
  constructor
  · rintro ⟨squares, wanted, squared', multiplied', within⟩
    cases squared.symm.trans squared'
    cases multiplied.symm.trans multiplied'
    exact of_decide_eq_false (Except.ok.inj (compared.symm.trans within))
  · intro room
    exact ⟨_, _, squared, multiplied, compared.trans (congrArg _ (decide_eq_false room))⟩

/-- For whole numbers the rules are inequalities. -/
theorem Planned.valid_iff (planned : s.Planned p) : s.Valid ↔ p.Fits := by
  have paused : s.pause.lt (.int 0) = .ok (p.pause.lt (.whole 0)) := by
    rw [Value.lt, Value.compare, planned.pause]
    rfl
  have room := room_iff planned.width planned.height planned.count
  rw [planned.species] at room
  constructor
  · intro valid
    exact {
      width := (Value.le_zero_iff planned.width).1 valid.width
      height := (Value.le_zero_iff planned.height).1 valid.height
      rounds := (Value.le_zero_iff planned.rounds).1 valid.rounds
      pause := Except.ok.inj (paused.symm.trans valid.pause)
      turnLimit := (limit_iff planned.turnLimit).1 valid.turnLimit
      count := (Value.lt_zero_iff planned.count).1 valid.count
      room := room.1 (planned.species ▸ valid.room) }
  · intro fits
    exact {
      width := (Value.le_zero_iff planned.width).2 fits.width
      height := (Value.le_zero_iff planned.height).2 fits.height
      rounds := (Value.le_zero_iff planned.rounds).2 fits.rounds
      pause := paused.trans (congrArg _ fits.pause)
      turnLimit := (limit_iff planned.turnLimit).2 fits.turnLimit
      count := (Value.lt_zero_iff planned.count).2 fits.count
      room := planned.species.symm ▸ room.2 fits.room }

/-- The values that faults of validation tell of. -/
def told (s : Settings) : List Value :=
  [s.width, s.height, s.rounds, s.pause, s.turnLimit, s.count] ++
    (s.count.mul (.int s.speciesFiles.length)).toOption.toList

theorem mem_told_of_figure {f : Figure} (listed : f ∈ s.figures) {v : Value} (told : v ∈ f.told) :
    v ∈ s.told := by
  rw [figures, List.mem_append, List.mem_append] at listed
  rw [Settings.told]
  rcases listed with first | limit | last
  · simp only [List.mem_cons, List.not_mem_nil, or_false] at first
    rcases first with rfl | rfl | rfl | rfl <;> simp at told ⊢ <;> tauto
  · rw [(mem_limitFigures limit).2] at told
    simp [List.mem_singleton.1 told]
  · rw [List.mem_singleton.1 last] at told
    simp [List.mem_singleton.1 told]

/-- Every figure of planned settings is a number. -/
theorem Planned.number_of_figure (planned : s.Planned p) {f : Figure} (listed : f ∈ s.figures) :
    ∃ x, f.value.number? = some x := by
  rw [figures, List.mem_append, List.mem_append] at listed
  rcases listed with first | limit | last
  · simp only [List.mem_cons, List.not_mem_nil, or_false] at first
    rcases first with rfl | rfl | rfl | rfl
    · exact ⟨_, Value.number?_of_whole? planned.width⟩
    · exact ⟨_, Value.number?_of_whole? planned.height⟩
    · exact ⟨_, Value.number?_of_whole? planned.rounds⟩
    · exact ⟨_, planned.pause⟩
  · obtain ⟨set, rfl⟩ := mem_limitFigures limit
    obtain ⟨n, known, -⟩ := whole_of_limit planned.turnLimit set
    exact ⟨_, Value.number?_of_whole? known⟩
  · rw [List.mem_singleton.1 last]
    exact ⟨_, Value.number?_of_whole? planned.count⟩

/-- So is every value that the fault of a figure tells of. -/
theorem Planned.number_of_told (planned : s.Planned p) {f : Figure} (listed : f ∈ s.figures) {v : Value}
    (told : v ∈ f.told) : ∃ x, v.number? = some x := by
  have width := Value.number?_of_whole? planned.width
  have height := Value.number?_of_whole? planned.height
  -- Only the faults of the width and the height tell of another figure than their own.
  have own (alone : f.told = [f.value]) : ∃ x, v.number? = some x := by
    rw [alone] at told
    rw [List.mem_singleton.1 told]
    exact planned.number_of_figure listed
  have size (both : f.told = [s.width, s.height]) : ∃ x, v.number? = some x := by
    rw [both] at told
    rcases List.mem_cons.1 told with rfl | told
    · exact ⟨_, width⟩
    · rw [List.mem_singleton.1 told]
      exact ⟨_, height⟩
  have place := listed
  rw [figures, List.mem_append, List.mem_append] at place
  rcases place with first | limit | last
  · simp only [List.mem_cons, List.not_mem_nil, or_false] at first
    rcases first with rfl | rfl | rfl | rfl
    · exact size rfl
    · exact size rfl
    · exact own rfl
    · exact own rfl
  · exact own (by rw [(mem_limitFigures limit).2])
  · exact own (by rw [List.mem_singleton.1 last])

/-- Validation of planned settings fails without saying what is wrong only where it cannot tell of a
number. -/
theorem Planned.unwritable_of_lapse (planned : s.Planned p) (lapse : s.Lapse fault) :
    fault = .unwritable ∧ ∃ v ∈ s.told, v.isWritable = false := by
  cases lapse with
  | unordered split _ strange =>
    obtain ⟨x, known⟩ := planned.number_of_figure (mem_figures_of_split split)
    rw [known] at strange
    cases strange
  | untold split _ _ untold =>
    have listed := mem_figures_of_split split
    obtain ⟨unwritable, v, told, long⟩ :=
      Fault.untold_of_numbers (fun v told => planned.number_of_told listed told) untold
    exact ⟨unwritable, v, mem_told_of_figure listed told, long⟩
  | overflow _ large =>
    have squared := Value.mul_of_whole planned.width planned.height
    have multiplied : s.count.mul (.int s.speciesFiles.length) = _ :=
      Value.mul_of_whole planned.count rfl
    rw [squared, multiplied] at large
    rcases large with large | large <;> cases large
  | @crowded _ wanted _ _ _ multiplied _ untold =>
    have product : wanted = .int (p.count * s.speciesFiles.length) :=
      Except.ok.inj (multiplied.symm.trans (Value.mul_of_whole planned.count rfl))
    have numbers : ∀ v ∈ [wanted, s.width, s.height], ∃ x, v.number? = some x := by
      refine List.forall_mem_cons.2 ⟨⟨.whole _, by rw [product]; rfl⟩, List.forall_mem_cons.2
        ⟨⟨_, Value.number?_of_whole? planned.width⟩, ?_⟩⟩
      exact List.forall_mem_singleton.2 ⟨_, Value.number?_of_whole? planned.height⟩
    obtain ⟨unwritable, v, told, long⟩ := Fault.untold_of_numbers numbers untold
    refine ⟨unwritable, v, ?_, long⟩
    rw [Settings.told, multiplied]
    simp only [List.mem_cons, List.not_mem_nil, or_false] at told
    rcases told with rfl | rfl | rfl <;> simp [Except.toOption]

/-- Planned settings pass validation if the plan satisfies the inequalities. -/
theorem Planned.validate_iff (planned : s.Planned p) : s.validate = .ok () ↔ p.Fits :=
  validate_eq_ok_iff_valid.trans planned.valid_iff

/-- If they do not, the fault says what is wrong, unless it would tell of a number that is too long. -/
theorem Planned.validate_eq_error (planned : s.Planned p) (failed : s.validate = .error fault) :
    fault.isConfiguration = true ∨ fault = .unwritable ∧ ∃ v ∈ s.told, v.isWritable = false :=
  (Settings.validate_eq_error failed).imp id planned.unwritable_of_lapse

end Settings

end Vivarium
