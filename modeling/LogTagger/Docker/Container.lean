import LogTagger.Endpoint
import LogTagger.Error
import LogTagger.Event

/-!
# Containers of the Docker daemon

What the Docker daemon tells of its containers, and the search for metadata endpoints among them.
Agent containers are known by their image and are not asked for details. A container that is gone by
the time it is asked about is passed over; any other failure ends the search.
-/

namespace LogTagger

/-- A container in the list of the daemon. -/
structure ListedContainer where
  /-- The id. -/
  id : String
  /-- The name. -/
  name : String
  /-- The image. -/
  image : String
  deriving DecidableEq

/-- The details of a container. -/
structure ContainerDetails where
  /-- The id. -/
  id : String
  /-- The name. -/
  name : String
  /-- The entries of the environment. -/
  env : List String
  deriving DecidableEq

/-- What stands in the image of an agent. -/
def agentImage : String := "amazon/amazon-ecs-agent"

/-- Whether some characters stand in a row within others. -/
def occursWithin (part : List Char) : List Char → Bool
  | [] => part.isEmpty
  | c :: rest => part.isPrefixOf (c :: rest) || occursWithin part rest

/-- Whether an image is that of an agent. -/
def isAgentImage (image : String) : Bool := occursWithin agentImage.toList image.toList

/-- Whether the container is an agent. -/
def ListedContainer.isAgent (c : ListedContainer) : Bool := isAgentImage c.image

/-- The answers of a Docker daemon. -/
structure DockerDaemon where
  /-- Whether it answers at all. -/
  ping : Except SourceError Unit
  /-- The list of running containers. -/
  listing : Except SourceError (List ListedContainer)
  /-- The details of a container. -/
  inspect : String → Except SourceError ContainerDetails

namespace DockerDaemon

/-- Enters what is found about a listed container. -/
def enter (d : DockerDaemon) (found : EndpointSet) (c : ListedContainer) : Except SourceError EndpointSet :=
  if c.isAgent then .ok (found.insertAgent c.id)
  else
    match d.inspect c.id with
    | .ok details => .ok (found.insert c.id (metadataUrls details.env))
    | .error (.containerNotFound _) => .ok found
    | .error cause => .error cause

/-- The metadata endpoints and the agents among the containers. -/
def endpoints (d : DockerDaemon) : Except SourceError EndpointSet :=
  d.listing.bind (fun containers => containers.foldlM d.enter {})

end DockerDaemon

end LogTagger
