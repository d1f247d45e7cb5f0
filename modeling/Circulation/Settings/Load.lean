import Circulation.Settings
import Circulation.Settings.Folder
import Circulation.Settings.Layer
import Circulation.Settings.Value

/-!
# Loading settings

Settings are loaded in layers: a file of defaults, a file for the mode the program runs in, the environment, and last
the address of the database, if the environment names it. Variables of the environment count when their names, in
small letters, begin with `lending_`; two underscores separate a section from a field. The policy and the sweep may be
missing as whole sections; every other field must be there and have a value that can be read. A policy that breaks its
rules is refused.
-/

namespace Circulation.Settings

/-- The fields of a section. A section may also be a list of values in the order of its fields. -/
def sectionFields? (names : List String) (lacking : Nat) : Json → Option Json.Fields
  | .arr items => (Json.arr (items.take names.length)).fieldsOf? names lacking
  | j => j.fieldsOf? names lacking

/-- Reads the database settings. -/
def readDatabase? (j : Json) : Option DatabaseSettings := do
  let f ← sectionFields? ["url", "max_connections", "min_connections"] 0 j
  return {
    url := ← f.required? "url" Setting.toStr?
    maxConnections := ← f.required? "max_connections" Setting.toUInt32?
    minConnections := ← f.required? "min_connections" Setting.toUInt32? }

/-- Reads the log settings. -/
def readLogging? (j : Json) : Option LogSettings := do
  let f ← sectionFields? ["level", "format"] 0 j
  return { level := ← f.required? "level" Setting.toStr?, format := ← f.required? "format" Setting.toStr? }

/-- Reads the lending policy. -/
def readLending? (j : Json) : Option Policy := do
  let f ← sectionFields?
    [ "max_loans", "max_reservations", "loan_period_days", "renewal_period_days", "reservation_hold_days",
      "daily_fine_rate", "max_renewals" ] 1 j
  return {
    maxLoans := ← f.required? "max_loans" Setting.toInt64?
    maxReservations := ← f.required? "max_reservations" Setting.toInt64?
    loanPeriodDays := ← f.required? "loan_period_days" Setting.toInt64?
    renewalPeriodDays := ← f.required? "renewal_period_days" Setting.toInt64?
    reservationHoldDays := ← f.required? "reservation_hold_days" Setting.toInt64?
    dailyFineRate := ← f.required? "daily_fine_rate" Setting.toDecimal?
    maxRenewals := ← f.optional? "max_renewals" Setting.toInt32? }

/-- Reads the sweep settings. -/
def readSweep? (j : Json) : Option SweepSettings := do
  let f ← sectionFields? ["enabled", "interval_secs", "batch_size"] 0 j
  return {
    enabled := ← f.required? "enabled" Setting.toBool?
    intervalSeconds := ← f.required? "interval_secs" Setting.toUInt64?
    batchSize := ← f.required? "batch_size" Setting.toInt64? }

/-- Reads settings from the layers laid over each other. -/
def read? (table : Json) : Option Settings := do
  let f : Json.Fields := ⟨table.field?⟩
  return {
    database := ← f.required? "database" readDatabase?
    logging := ← f.required? "logging" readLogging?
    lending := ← f.default? "lending" {} readLending?
    sweep := ← f.default? "sweep" {} readSweep? }

/-- What settings are loaded from: files, and the environment. -/
structure Sources where
  folder : Folder := {}
  environment : List (String × String) := []

/-- The path of the file with a name among the files of settings. -/
def pathTo (name : String) : String := s!"config/{name}"

/-- The mode a program runs in unless the environment names one. -/
def standardMode : String := "development"

/-- The setting that a variable of the environment makes, by its name in small letters. -/
def settingOf? (name value : String) : Option (String × Json) :=
  let cs := name.toLower.toList
  let mark := "lending_".toList
  if mark.isPrefixOf cs then
    some (".".intercalate ((String.ofList (cs.drop mark.length)).splitOn "__"), Setting.ofText value)
  else
    none

/-- The layers of some sources, first to last. The file of defaults has to be there, the file of the mode may be
missing, and a file that is not a table cannot be laid. -/
def layers? (s : Sources) : Option (List (List (String × Json))) := do
  let table? : Json → Option (List (String × Json))
    | .obj fields => some fields
    | _ => none
  let base ← (s.folder.find? (pathTo "default")).bind table?
  let mode ← match s.folder.find? (pathTo ((s.environment.lookup "RUN_MODE").getD standardMode)) with
    | some file => table? file
    | none => some []
  let fromEnvironment := s.environment.filterMap fun (name, value) => settingOf? name value
  let address := match s.environment.lookup "DATABASE_URL" with
    | some url => [("database.url", Json.str url)]
    | none => []
  return [base, mode, fromEnvironment, address]

/-- Loads settings. -/
def load (s : Sources) : Except SettingsFailure Settings :=
  match (layers? s).bind fun layers => (layers.foldlM Layer.layOver? (.obj [])).bind read? with
  | none => .error .unreadable
  | some settings =>
    if settings.lending.isValid then .ok settings else .error (.invalidPolicy settings.lending.violations)

end Circulation.Settings
