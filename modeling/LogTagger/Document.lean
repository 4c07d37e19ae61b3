import LogTagger.Error
import LogTagger.Http
import LogTagger.Json.Reader

/-!
# Metadata documents

The document of a container is a JSON object in UTF-8. It is fetched by an HTTP exchange, of which
only a successful answer counts. Its size is limited: a declared length is checked first, and while
the parts of the body arrive no more than the limit is ever gathered.
-/

namespace LogTagger

/-- Whether a value is an object. -/
def Json.isObject : Json → Bool
  | .object _ => true
  | _ => false

namespace Document

/-- The document that octets hold; `reason` words why octets hold no JSON text. -/
def ofOctets (reason : ByteArray → String) (octets : ByteArray) : Except FetchError Json :=
  match (String.fromUTF8? octets).bind Json.read? with
  | none => .error (.decode (reason octets))
  | some value => if value.isObject then .ok value else .error .notAnObject

/-- Appends parts of a body to what has been gathered, as long as they stay within a limit. -/
def gather (limit : Nat) : ByteArray → List ByteArray → Option ByteArray
  | gathered, [] => some gathered
  | gathered, chunk :: rest =>
    if limit < gathered.size + chunk.size then none else gather limit (gathered ++ chunk) rest

/-- Whether a declared length is beyond a limit. -/
def declaresMore (limit : Nat) (declared : Option Nat) : Bool := declared.any (fun n => limit < n)

/-- The document in what arrives of an answer. -/
def ofDelivery (reason : ByteArray → String) (limit : Nat) (d : Http.Delivery) : Except FetchError Json :=
  if !d.isSuccess then .error (.status d.status)
  else if declaresMore limit d.declared then .error (.tooLarge limit)
  else
    match gather limit .empty d.chunks with
    | none => .error (.tooLarge limit)
    | some body => if d.complete then ofOctets reason body else .error (.request "the body breaks off")

/-- The document that an exchange fetches. -/
def ofExchange (reason : ByteArray → String) (limit : Nat) : Http.Exchange → Except FetchError Json
  | .error cause => .error (.request cause)
  | .ok d => ofDelivery reason limit d

end Document

end LogTagger
