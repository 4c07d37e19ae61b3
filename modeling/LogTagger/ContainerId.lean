import LogTagger.Record

/-!
# Container ids

The id of the container from which a resource's records come. It is found in one of several
attributes of the resource: the first that begins with a lower-case letter or a digit, cut at the
first other character. So a file name such as `<id>-json.log` gives the id as well as the id itself.
-/

namespace LogTagger

/-- The id of a container. -/
structure ContainerId where
  /-- The id as text. -/
  text : String
  deriving DecidableEq

namespace ContainerId

/-- The number of characters of a short id. -/
def shortLength : Nat := 12

/-- The first twelve characters. -/
def short (id : ContainerId) : String := String.ofList (id.text.toList.take shortLength)

/-- Whether a character may stand in an id: a lower-case letter or a digit, both of ASCII. -/
def isIdChar (c : Char) : Bool := c.isLower || c.isDigit

/-- The longest run of id characters in front of a text, if there is one. -/
def ofText? (s : String) : Option ContainerId :=
  match s.toList.takeWhile isIdChar with
  | [] => none
  | cs => some ⟨String.ofList cs⟩

/-- The id in the text of one attribute of a resource. -/
def ofAttribute? (r : Resource) (source : String) : Option ContainerId :=
  (r.attributes.get? source).bind (fun v => ofText? v.text)

/-- The id in the first of the source attributes that holds one. -/
def ofResource? (r : Resource) (sources : List String) : Option ContainerId := sources.findSome? (ofAttribute? r)

end ContainerId

end LogTagger
