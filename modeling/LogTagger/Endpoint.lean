import LogTagger.SortedMap
import LogTagger.Text.Blank

/-!
# Metadata endpoints

Where the metadata of live containers can be fetched. Each container has at least one address, the
first of which is preferred; a container without any is not entered. The ids of agent containers
are kept beside them.

The addresses stand in the environment of a container, under one variable for each version of the
metadata service.
-/

namespace LogTagger

/-- One address or more. -/
structure UrlList where
  /-- The preferred address. -/
  first : String
  /-- The other addresses, in order. -/
  others : List String := []
  deriving DecidableEq

namespace UrlList

/-- The addresses of a list, if there are any. -/
def ofList? : List String → Option UrlList
  | [] => none
  | url :: rest => some ⟨url, rest⟩

/-- The addresses in order. -/
def toList (u : UrlList) : List String := u.first :: u.others

end UrlList

/-- The endpoints of containers by id, and the ids of agents. -/
structure EndpointSet where
  /-- The addresses of each container. -/
  endpoints : SortedMap UrlList := ∅
  /-- The ids of agent containers. -/
  agents : SortedMap Unit := ∅
  deriving DecidableEq

namespace EndpointSet

/-- The set with the addresses of a container in place of those it had; without addresses nothing
changes. -/
def insert (s : EndpointSet) (id : String) (urls : List String) : EndpointSet :=
  match UrlList.ofList? urls with
  | none => s
  | some u => { s with endpoints := s.endpoints.insert id u }

/-- Whether `insert` enters a container with these addresses. -/
def accepts (urls : List String) : Bool := !urls.isEmpty

/-- The set with one more agent. -/
def insertAgent (s : EndpointSet) (id : String) : EndpointSet := { s with agents := s.agents.insert id () }

/-- The set of listed containers, entered one after the other. -/
def ofList (l : List (String × List String)) : EndpointSet := l.foldl (fun s e => s.insert e.1 e.2) {}

/-- Whether a container has an endpoint. -/
def contains (s : EndpointSet) (id : String) : Bool := s.endpoints.contains id

/-- The preferred address of a container. -/
def primary? (s : EndpointSet) (id : String) : Option String := (s.endpoints.get? id).map (·.first)

/-- Whether a container is an agent. -/
def isAgent (s : EndpointSet) (id : String) : Bool := s.agents.contains id

/-- The number of containers with endpoints. -/
def size (s : EndpointSet) : Nat := s.endpoints.size

/-- Whether no container has an endpoint. -/
def isEmpty (s : EndpointSet) : Bool := s.endpoints.isEmpty

end EndpointSet

/-! ### The environment of a container -/

/-- The name and the value of an entry: what stands before and after the first equals sign. -/
def nameAndValue? (entry : String) : Option (String × String) :=
  let before := entry.toList.takeWhile (· != '=')
  match entry.toList.drop before.length with
  | [] => none
  | _ :: after => some (String.ofList before, String.ofList after)

/-- The value of the first entry with a name. -/
def environmentValue? (env : List String) (name : String) : Option String :=
  env.findSome? (fun entry => (nameAndValue? entry).bind (fun (k, v) => if k = name then some v else none))

/-- The variables that hold addresses, the preferred one first. -/
def metadataVariables : List String := ["ECS_CONTAINER_METADATA_URI_V4", "ECS_CONTAINER_METADATA_URI"]

/-- The address in a variable, if it holds more than blanks. -/
def urlIn? (env : List String) (name : String) : Option String :=
  (environmentValue? env name).bind (fun v =>
    let url := Text.trim v
    if url.isEmpty then none else some url)

/-- The addresses in the environment of a container. -/
def metadataUrls (env : List String) : List String := metadataVariables.filterMap (urlIn? env)

end LogTagger
