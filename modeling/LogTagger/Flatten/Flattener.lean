import LogTagger.Error
import LogTagger.Flatten.Ecs
import LogTagger.Flatten.Generic

/-!
# The choice of flattening

A document is flattened either as any tree of fields or by the schema of ECS. Only the latter fails.
-/

namespace LogTagger

/-- How documents are flattened. -/
inductive FlattenMode where
  /-- As any tree of fields. -/
  | generic
  /-- By the schema of ECS. -/
  | ecs
  deriving DecidableEq

/-- A way to flatten documents. -/
structure Flattener where
  /-- The mode. -/
  mode : FlattenMode := .generic
  /-- The naming of keys; the schema of ECS has its own. -/
  naming : KeyNaming := .dotted
  deriving DecidableEq

namespace Flattener

/-- The attributes of a document by the schema of ECS. -/
def ecs (document : Json) : Except TaggingError Attributes :=
  match Ecs.Container.ofJson? document with
  | some container => .ok container.attributes
  | none => .error (.flatten "not an ECS container document: a field has another type")

/-- Flattens a document. The schema of ECS has no colliding keys to count. -/
def flatten (f : Flattener) (document : Json) : Except TaggingError Flattening :=
  match f.mode with
  | .generic => .ok (.ofDocument f.naming document)
  | .ecs => (ecs document).map (fun attributes => { attributes })

end Flattener

end LogTagger
