import LogTagger.Number.Double
import LogTagger.SortedMap

/-!
# TOML values

A TOML value as a tree. In a table that was read from text no name occurs twice. Dates and times are
kept as they are written, since no setting holds one.
-/

namespace LogTagger

/-- A TOML value. -/
inductive Toml where
  /-- A string. -/
  | string (s : String)
  /-- An integer. -/
  | integer (n : Int)
  /-- A floating-point number. -/
  | float (x : Double)
  /-- A truth value. -/
  | boolean (b : Bool)
  /-- A date, a time, or both. -/
  | dateTime (written : String)
  /-- An array. -/
  | array (items : List Toml)
  /-- A table. -/
  | table (fields : List (String × Toml))
  deriving Inhabited

end LogTagger
