/-!
# HTTP exchanges

What a client gets to see of an answer: its status, the length it declares, and the parts of its
body as they arrive, which may break off. `Response.deliver` says what arrives of an answer that a
server gives.
-/

namespace LogTagger.Http

/-- What arrives of an answer. -/
structure Delivery where
  /-- The status. -/
  status : Nat
  /-- The length of the body, if it is declared. -/
  declared : Option Nat
  /-- The parts of the body in order. -/
  chunks : List ByteArray
  /-- Whether the body arrives to its end. -/
  complete : Bool

/-- An exchange: what arrives, or why no answer comes at all. -/
abbrev Exchange := Except String Delivery

namespace Delivery

/-- Whether the status tells of success. -/
def isSuccess (d : Delivery) : Bool := 200 ≤ d.status && d.status < 300

/-- All parts of the body together. -/
def content (d : Delivery) : ByteArray := d.chunks.foldl (· ++ ·) .empty

/-- The body, if it arrives to its end. -/
def body? (d : Delivery) : Option ByteArray := if d.complete then some d.content else none

end Delivery

/-- How a server marks the end of a body. -/
inductive Framing where
  /-- By declaring its length. -/
  | length (declared : Nat)
  /-- By an empty part at the end, which may be missing. -/
  | chunked (closed : Bool)
  /-- By closing the connection. -/
  | close

/-- The answer of a server. -/
structure Response where
  /-- The status. -/
  status : Nat := 200
  /-- The parts of the body as they are sent. -/
  chunks : List ByteArray
  /-- How the end of the body is marked. -/
  framing : Framing

namespace Response

/-- Whether an answer with a status has a body at all. -/
def hasBody (status : Nat) : Bool := 200 ≤ status && status != 204 && status != 304

/-- All parts of the body together. -/
def content (r : Response) : ByteArray := r.chunks.foldl (· ++ ·) .empty

/-- What arrives of the answer. Only parts that are marked one by one arrive apart. A body beyond its
declared length is cut; one that falls short of it breaks off. -/
def deliver (r : Response) : Delivery :=
  if hasBody r.status then
    match r.framing with
    | .length n =>
      { status := r.status, declared := some n, chunks := [r.content.extract 0 n], complete := n ≤ r.content.size }
    | .chunked closed => { status := r.status, declared := none, chunks := r.chunks, complete := closed }
    | .close => { status := r.status, declared := none, chunks := [r.content], complete := true }
  else { status := r.status, declared := none, chunks := [], complete := true }

end Response

end LogTagger.Http
