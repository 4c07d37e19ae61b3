/-!
# Names of flattened keys

A field name in capitalised words is turned into its words in lower case, parted by dots:
`ContainerPort` becomes `container.port`. A word starts at a capital after a lower-case letter or a
digit, and at the last capital of a run if a lower-case letter follows it, as in `ARNValue`. Two
characters further on a digit marks a version, as in `IPv4`, and the run goes on. Only the letters
and digits of ASCII count.
-/

namespace LogTagger

/-- How the names of fields become segments of keys. -/
inductive KeyNaming where
  /-- In lower-case words, parted by dots. -/
  | dotted
  /-- As they are. -/
  | literal
  deriving DecidableEq

/-- Whether a word starts at `c`, given the character before it and those after it. -/
def startsWord (before c : Char) (after : List Char) : Bool :=
  c.isUpper &&
    (before.isLower || before.isDigit ||
      (before.isUpper && after[0]?.any Char.isLower && !after[1]?.any Char.isDigit))

/-- The rest of a name in dotted words, given the character before it. -/
def dottedAfter (before : Char) : List Char → List Char
  | [] => []
  | c :: rest =>
    if startsWord before c rest then '.' :: c.toLower :: dottedAfter c rest
    else c.toLower :: dottedAfter c rest

/-- The characters of a name in dotted words. -/
def dottedChars : List Char → List Char
  | [] => []
  | c :: rest => c.toLower :: dottedAfter c rest

/-- A name in dotted words. -/
def dottedName (name : String) : String := String.ofList (dottedChars name.toList)

/-- The segment of a key that a field name becomes. -/
def KeyNaming.segment : KeyNaming → String → String
  | .dotted, name => dottedName name
  | .literal, name => name

end LogTagger
