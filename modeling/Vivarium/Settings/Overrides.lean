import Vivarium.Settings.Basic

/-!
# Overriding settings

A run may replace single settings by values of its own. The settings after replacement must be valid;
those of a file must have been so before.
-/

namespace Vivarium.Settings

/-- Values that replace settings; a non-empty list of species replaces the list. -/
structure Overrides where
  speciesFiles : List String := []
  rounds : Option Value := none
  seed : Option Value := none
  width : Option Value := none
  height : Option Value := none
  count : Option Value := none
  turnLimit : Option Value := none
  pause : Option Value := none

/-- The settings with the given values replaced. -/
def Overrides.apply (o : Overrides) (s : Settings) : Settings where
  seed := o.seed.getD s.seed
  rounds := o.rounds.getD s.rounds
  pause := o.pause.getD s.pause
  turnLimit := o.turnLimit.getD s.turnLimit
  version := s.version
  width := o.width.getD s.width
  height := o.height.getD s.height
  count := o.count.getD s.count
  speciesFiles := if o.speciesFiles.isEmpty then s.speciesFiles else o.speciesFiles

/-- The settings of a run without a file: there is no pause. -/
def unpaused : Settings := { default with pause := .float (Decimal.nearest false ⟨0, 1⟩) }

/-- The settings with the given values replaced, which must be valid. -/
def override (o : Overrides) (s : Settings) : Except Fault Settings := do
  let settings := o.apply s
  settings.validate
  return settings

end Vivarium.Settings
