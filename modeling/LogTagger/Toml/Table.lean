import LogTagger.Toml.Basic

/-!
# Tables under construction

A TOML text gives its tables piece by piece, and how a table was begun decides what may be added to
it later: a table with a header of its own gets no second header, a table begun by dotted keys gets
no header at all, and what is written between braces is complete. `Fields.assign?` adds a value under
a dotted key and `Fields.open?` adds to the table that a header names; both fail where the rules
forbid the addition.
-/

namespace LogTagger.Toml

/-- How a table was begun. -/
inductive Origin where
  /-- By its own header, or between braces. -/
  | header
  /-- By the header of a table inside it. -/
  | implied
  /-- By a dotted key. -/
  | dotted
  deriving DecidableEq

/-- A field under construction. -/
inductive Node where
  /-- A complete value. -/
  | value (v : Toml)
  /-- A table to which fields may be added. -/
  | table (origin : Origin) (fields : List (String × Node))
  /-- An array of tables, of which the last may be added to. -/
  | tables (items : List (List (String × Node)))

/-- The fields of a table under construction. -/
abbrev Fields := List (String × Node)

namespace Node

mutual

/-- The value of a field when the text is at its end. -/
def close : Node → Toml
  | .value v => v
  | .table _ fields => .table (closeFields fields)
  | .tables items => .array (closeItems items)

/-- The values of fields when the text is at its end. -/
def closeFields : List (String × Node) → List (String × Toml)
  | [] => []
  | (k, n) :: rest => (k, close n) :: closeFields rest

/-- The tables of an array when the text is at its end. -/
def closeItems : List (List (String × Node)) → List Toml
  | [] => []
  | fields :: rest => .table (closeFields fields) :: closeItems rest

end

end Node

namespace Fields

/-- The fields with one of them put in place of that of its name, or at the end. -/
def put (k : String) (n : Node) : Fields → Fields
  | [] => [(k, n)]
  | (k', n') :: rest => if k = k' then (k, n) :: rest else (k', n') :: put k n rest

/-- Adds to the last of several tables. -/
def updateLast? (f : Fields → Option Fields) (items : List Fields) : Option (List Fields) :=
  match items.getLast? with
  | some fields => (f fields).map (fun fields' => items.dropLast ++ [fields'])
  | none => none

/-- Adds a value under a dotted key. The tables on the way are begun by dotted keys or only implied by
headers, and from then on count as begun by dotted keys. The key may lead through the last table of
an array to a table inside that, but not to the last table itself. -/
def assign? (v : Toml) : List String → Fields → Option Fields
  | [], _ => none
  | [k], fields =>
    match SortedMap.lookup k fields with
    | none => some (fields ++ [(k, .value v)])
    | some _ => none
  | k :: path, fields =>
    match SortedMap.lookup k fields with
    | none => (assign? v path []).map (fun inner => fields ++ [(k, .table .dotted inner)])
    | some (.table .header _) => none
    | some (.table _ inner) => (assign? v path inner).map (fun inner' => put k (.table .dotted inner') fields)
    | some (.tables items) =>
      if path.length = 1 then none
      else (updateLast? (assign? v path) items).map (fun items' => put k (.tables items') fields)
    | some (.value _) => none

/-- Applies `last` to the final name of a header's path, within the table that the names before it
lead to. -/
def descend? (last : String → Fields → Option Fields) : List String → Fields → Option Fields
  | [], _ => none
  | [k], fields => last k fields
  | k :: path, fields =>
    match SortedMap.lookup k fields with
    | none => (descend? last path []).map (fun inner => fields ++ [(k, .table .implied inner)])
    | some (.table origin inner) =>
      (descend? last path inner).map (fun inner' => put k (.table origin inner') fields)
    | some (.tables items) =>
      (updateLast? (descend? last path) items).map (fun items' => put k (.tables items') fields)
    | some (.value _) => none

/-- Begins a table by its header, or takes up one that another header implied, and adds to it. -/
def openTable? (add : Fields → Option Fields) (k : String) (fields : Fields) : Option Fields :=
  match SortedMap.lookup k fields with
  | none => (add []).map (fun inner => fields ++ [(k, .table .header inner)])
  | some (.table .implied inner) => (add inner).map (fun inner' => put k (.table .header inner') fields)
  | some _ => none

/-- Begins one more table of an array and adds to it. -/
def openElement? (add : Fields → Option Fields) (k : String) (fields : Fields) : Option Fields :=
  match SortedMap.lookup k fields with
  | none => (add []).map (fun item => fields ++ [(k, .tables [item])])
  | some (.tables items) => (add []).map (fun item => put k (.tables (items ++ [item])) fields)
  | some _ => none

/-- Adds values under dotted keys, one after the other. -/
def assignAll? (entries : List (List String × Toml)) (fields : Fields) : Option Fields :=
  entries.foldlM (fun fs e => assign? e.2 e.1 fs) fields

end Fields

/-! ### Sections -/

/-- What a section of a text adds to. -/
inductive Header where
  /-- The table of the whole text. -/
  | top
  /-- The table at a path. -/
  | table (path : List String)
  /-- A new table of the array at a path. -/
  | element (path : List String)

/-- A header with the values that stand under it. -/
structure Section where
  /-- The header. -/
  header : Header
  /-- The dotted keys and their values, in order. -/
  entries : List (List String × Toml)

namespace Section

/-- Adds a section to the table of the whole text. -/
def addTo? (fields : Fields) (s : Section) : Option Fields :=
  match s.header with
  | .top => fields.assignAll? s.entries
  | .table path => fields.descend? (Fields.openTable? (Fields.assignAll? s.entries)) path
  | .element path => fields.descend? (Fields.openElement? (Fields.assignAll? s.entries)) path

end Section

/-- The table of a text with these sections. -/
def ofSections? (sections : List Section) : Option Toml :=
  (sections.foldlM Section.addTo? []).map (fun fields => .table (Node.closeFields fields))

/-- The table between braces with these entries. -/
def inlineTable? (entries : List (List String × Toml)) : Option Toml :=
  (Fields.assignAll? entries []).map (fun fields => .table (Node.closeFields fields))

end LogTagger.Toml
