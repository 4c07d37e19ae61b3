import LogTagger.Endpoint
import LogTagger.Json.Basic

/-!
# The cache of documents

The documents of live containers, by id, and the ids of the agent containers among all that were
found last.
-/

namespace LogTagger

/-- The cached documents and the agents. -/
structure DocumentCache where
  /-- The documents by container id. -/
  documents : SortedMap Json := ∅
  /-- The ids of agents. -/
  agents : SortedMap Unit := ∅

namespace DocumentCache

/-- The document of a container. -/
def get? (c : DocumentCache) (id : String) : Option Json := c.documents.get? id

/-- Whether a container's document is cached. -/
def contains (c : DocumentCache) (id : String) : Bool := c.documents.contains id

/-- Whether a container is an agent. -/
def isAgent (c : DocumentCache) (id : String) : Bool := c.agents.contains id

/-- The ids of the containers whose documents are cached, in ascending order. -/
def ids (c : DocumentCache) : List String := c.documents.keys

/-- The number of cached documents. -/
def size (c : DocumentCache) : Nat := c.documents.size

/-- Whether no document is cached. -/
def isEmpty (c : DocumentCache) : Bool := c.documents.isEmpty

end DocumentCache

end LogTagger
