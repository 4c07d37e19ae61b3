import LogTagger.Proofs.Flatten.Leaves

/-!
# What a document is but for its scalars

The outline of a value has every scalar replaced by one of its kind (`Json.outline`): names, nulls, the
lengths of arrays and the nesting stay. A leaf has its route, the fields and items that lead to it
(`Json.routed`), which says more than its path in text: `a.b` may be one field or two.

Values with the same outline have the same routes, in the same order (`Json.routes_outline`), and the path
of a leaf is that of its route (`Json.leavesBelow_eq_map_routed`).
-/

namespace LogTagger

namespace Json

/-- A step on the way to a leaf. -/
inductive Step where
  /-- To a field. -/
  | field (name : String)
  /-- To an item. -/
  | item (index : Nat)
  deriving DecidableEq

/-- The way to a leaf. -/
abbrev Route := List Step

/-- The segment of a path that a step adds. -/
def Step.text : Step → String
  | .field name => name
  | .item index => toString index

/-- The path of a route that starts below a path. -/
def Route.path (start : String) (route : Route) : String := route.foldl (fun p s => KeyPath.join p s.text) start

/-! ### Routes -/

/-- What is reached from a step on. -/
def through {α : Type} (s : Step) (l : List (Route × α)) : List (Route × α) := l.map fun e => (s :: e.1, e.2)

mutual

/-- The leaves of a value with their routes, in visiting order. -/
def routed : Json → List (Route × AttributeValue)
  | .null => []
  | .bool b => [([], .bool b)]
  | .number n => [([], .ofNumber n)]
  | .string s => [([], .string s)]
  | .array items => routedItems 0 items
  | .object fields => routedFields fields

/-- The leaves of items from `index` on. -/
def routedItems (index : Nat) : List Json → List (Route × AttributeValue)
  | [] => []
  | v :: rest => through (.item index) v.routed ++ routedItems (index + 1) rest

/-- The leaves of fields. -/
def routedFields : List (String × Json) → List (Route × AttributeValue)
  | [] => []
  | (name, v) :: rest => through (.field name) v.routed ++ routedFields rest

end

/-- The routes to the leaves. -/
def routes (v : Json) : List Route := v.routed.map Prod.fst

/-- The values of the leaves. -/
def leafValues (v : Json) : List AttributeValue := v.routed.map Prod.snd

theorem map_path_through (path : String) (s : Step) (l : List (Route × AttributeValue)) :
    (through s l).map (fun e => (e.1.path path, e.2)) =
      l.map (fun e => (e.1.path (KeyPath.join path s.text), e.2)) := by
  rw [through, List.map_map]
  rfl

mutual

/-- The path of a leaf is that of its route. -/
theorem leavesBelow_eq_map_routed (path : String) : ∀ v : Json,
    v.leavesBelow path = v.routed.map fun e => (e.1.path path, e.2)
  | .null => rfl
  | .bool _ => rfl
  | .number _ => rfl
  | .string _ => rfl
  | .array items => by rw [leavesBelow, routed, itemLeavesBelow_eq_map_routed path 0 items]
  | .object fields => by rw [leavesBelow, routed, fieldLeavesBelow_eq_map_routed path fields]

theorem itemLeavesBelow_eq_map_routed (path : String) (index : Nat) : ∀ items : List Json,
    itemLeavesBelow path index items = (routedItems index items).map fun e => (e.1.path path, e.2)
  | [] => rfl
  | v :: rest => by
    rw [itemLeavesBelow, routedItems, List.map_append, map_path_through, Step.text, leavesBelow_eq_map_routed _ v,
      itemLeavesBelow_eq_map_routed path (index + 1) rest]

theorem fieldLeavesBelow_eq_map_routed (path : String) : ∀ fields : List (String × Json),
    fieldLeavesBelow path fields = (routedFields fields).map fun e => (e.1.path path, e.2)
  | [] => rfl
  | (name, v) :: rest => by
    rw [fieldLeavesBelow, routedFields, List.map_append, map_path_through, Step.text, leavesBelow_eq_map_routed _ v,
      fieldLeavesBelow_eq_map_routed path rest]

end

/-- The paths of the leaves follow from their routes. -/
theorem map_fst_literalLeaves (v : Json) : v.literalLeaves.map Prod.fst = v.routes.map (Route.path "") := by
  rw [literalLeaves, leavesBelow_eq_map_routed, routes, List.map_map, List.map_map]
  rfl

theorem map_snd_literalLeaves (v : Json) : v.literalLeaves.map Prod.snd = v.leafValues := by
  rw [literalLeaves, leavesBelow_eq_map_routed, leafValues, List.map_map]
  rfl

/-! ### Outlines -/

mutual

/-- The value with every scalar replaced by one of its kind. -/
def outline : Json → Json
  | .null => .null
  | .bool _ => .bool false
  | .number _ => .number (.whole (.ofUInt64 0))
  | .string _ => .string ""
  | .array items => .array (outlineItems items)
  | .object fields => .object (outlineFields fields)

/-- The outlines of items. -/
def outlineItems : List Json → List Json
  | [] => []
  | v :: rest => v.outline :: outlineItems rest

/-- The outlines of fields. -/
def outlineFields : List (String × Json) → List (String × Json)
  | [] => []
  | (name, v) :: rest => (name, v.outline) :: outlineFields rest

end

theorem outlineItems_eq_map (items : List Json) : outlineItems items = items.map outline := by
  induction items with
  | nil => rfl
  | cons v rest ih => rw [outlineItems, ih, List.map_cons]

theorem outlineFields_eq_map (fields : List (String × Json)) :
    outlineFields fields = fields.map fun e => (e.1, e.2.outline) := by
  induction fields with
  | nil => rfl
  | cons e rest ih => rw [outlineFields, ih, List.map_cons]

theorem map_fst_through (s : Step) (l : List (Route × AttributeValue)) :
    (through s l).map Prod.fst = (l.map Prod.fst).map (s :: ·) := by
  rw [through, List.map_map, List.map_map]
  rfl

mutual

/-- **The routes of a value are those of its outline.** -/
theorem routes_outline : ∀ v : Json, v.outline.routes = v.routes
  | .null => rfl
  | .bool _ => rfl
  | .number _ => rfl
  | .string _ => rfl
  | .array items => routes_outlineItems 0 items
  | .object fields => routes_outlineFields fields

theorem routes_outlineItems (index : Nat) : ∀ items : List Json,
    (routedItems index (outlineItems items)).map Prod.fst = (routedItems index items).map Prod.fst
  | [] => rfl
  | v :: rest => by
    have hitem : v.outline.routed.map Prod.fst = v.routed.map Prod.fst := routes_outline v
    rw [outlineItems, routedItems, routedItems, List.map_append, List.map_append, map_fst_through, map_fst_through,
      hitem, routes_outlineItems (index + 1) rest]

theorem routes_outlineFields : ∀ fields : List (String × Json),
    (routedFields (outlineFields fields)).map Prod.fst = (routedFields fields).map Prod.fst
  | [] => rfl
  | (name, v) :: rest => by
    have hfield : v.outline.routed.map Prod.fst = v.routed.map Prod.fst := routes_outline v
    rw [outlineFields, routedFields, routedFields, List.map_append, List.map_append, map_fst_through, map_fst_through,
      hfield, routes_outlineFields rest]

end

/-- Values with the same outline have their leaves in the same places. -/
theorem routes_eq_of_outline_eq {v w : Json} (h : v.outline = w.outline) : v.routes = w.routes := by
  rw [← routes_outline v, h, routes_outline w]

end Json

end LogTagger
