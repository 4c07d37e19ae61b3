import LogTagger.ContainerId

/-!
# Container events

What happens to containers, as the Docker daemon tells it. Only the creation of a container calls
for a synchronisation.
-/

namespace LogTagger

/-- What happened to a container. -/
inductive EventKind where
  /-- It was created. -/
  | created
  /-- It was started. -/
  | started
  /-- It came to a stop. -/
  | stopped
  /-- It was removed. -/
  | destroyed
  /-- Something else. -/
  | other (action : String)
  deriving DecidableEq

namespace EventKind

/-- The kind of an action. -/
def ofAction (action : String) : EventKind :=
  match action with
  | "create" => .created
  | "start" => .started
  | "stop" => .stopped
  | "die" => .stopped
  | "destroy" => .destroyed
  | _ => .other action

/-- The wording of a kind. -/
def text : EventKind → String
  | .created => "created"
  | .started => "started"
  | .stopped => "stopped"
  | .destroyed => "destroyed"
  | .other action => "other(" ++ action ++ ")"

end EventKind

/-- An event of a container. -/
structure ContainerEvent where
  /-- The container. -/
  id : ContainerId
  /-- What happened. -/
  kind : EventKind
  deriving DecidableEq

namespace ContainerEvent

/-- Whether the event calls for a synchronisation. -/
def triggersSync (e : ContainerEvent) : Bool := e.kind = .created

/-- The characters of a text that fill exactly so many octets, or all of a shorter text. There are
none if a character lies across the limit. -/
def octetPrefix? : Nat → List Char → Option (List Char)
  | _, [] => some []
  | n, c :: rest =>
    if n = 0 then some []
    else if c.utf8Size ≤ n then (octetPrefix? (n - c.utf8Size) rest).map (c :: ·)
    else none

/-- The wording of an event, with the first twelve octets of the id. There is none if a character
lies across the twelfth octet. -/
def text? (e : ContainerEvent) : Option String :=
  (octetPrefix? ContainerId.shortLength e.id.text.toList).map (fun short =>
    "ContainerEvent container=" ++ String.ofList short ++ " kind=" ++ e.kind.text)

end ContainerEvent

end LogTagger
