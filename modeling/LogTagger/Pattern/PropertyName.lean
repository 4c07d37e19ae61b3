import LogTagger.Text.Age
import LogTagger.Text.Segmentation

/-!
# Properties by name

The names by which a pattern can call a set of characters: a name alone is that of a yes-or-no property,
of a general category or of a script; a name with a value is that of a property with several values.
Case, blanks, underscores and hyphens do not count in names, nor does the word `is` in front.
-/

namespace LogTagger.Pattern

open LogTagger.Text

/-- A name without what does not count in it: case, blanks, underscores, hyphens, the word `is` in front,
and characters outside ASCII. What is left of `isc` is the name of another property, so that name stays
as it is. -/
def normalName (name : List Char) : String :=
  let plain (cs : List Char) := cs.filter (fun c => c.toNat < 128 && !(c == ' ' || c == '_' || c == '-'))
  match name.map Char.toLower with
  | 'i' :: 's' :: rest => if plain rest = ['c'] then "isc" else String.ofList (plain rest)
  | cs => String.ofList (plain cs)

/-- The characters that a name alone calls: yes-or-no properties come before general categories, and
these before scripts. -/
def charsNamed? (name : List Char) : Option CharSet :=
  let normal := normalName name
  (Property.ofName? normal).orElse (fun _ => (Category.ofName? normal).orElse (fun _ =>
    (Script.ofName? normal).map Script.chars))

/-- The value of a name in a list of them. -/
def valueNamed? (values : List (List String × CharSet)) (name : String) : Option CharSet :=
  (values.find? (fun entry => entry.1.contains name)).map Prod.snd

/-- The characters for which the property of a name has the value of another. -/
def charsWith? (name value : List Char) : Option CharSet :=
  let value := normalName value
  match normalName name with
  | "gc" | "generalcategory" => Category.ofName? value
  | "sc" | "script" => (Script.ofName? value).map Script.chars
  | "scx" | "scriptextensions" => (Script.ofName? value).map Script.charsUsedWith
  | "age" => Age.ofName? value
  | "gcb" | "graphemeclusterbreak" => valueNamed? Segmentation.graphemeBreaks value
  | "wb" | "wordbreak" => valueNamed? Segmentation.wordBreaks value
  | "sb" | "sentencebreak" => valueNamed? Segmentation.sentenceBreaks value
  | _ => none

/-- The text before the first place of a sign, and the text after the sign. -/
def splitAtSign? (sign : List Char) : List Char → Option (List Char × List Char)
  | [] => none
  | c :: rest =>
    if sign.isPrefixOf (c :: rest) then some ([], (c :: rest).drop sign.length)
    else (splitAtSign? sign rest).map (fun (before, after) => (c :: before, after))

/-- A call of characters by a name: those with a property, or those without it. -/
structure PropertyCall where
  /-- The characters with the property. -/
  chars : CharSet
  /-- Whether the others are meant. -/
  negated : Bool := false

/-- What a name in braces calls. A value follows `!=`, a colon or `=`, looked for in this order; the first
means the characters without the value. -/
def propertyCalled? (name : List Char) : Option PropertyCall :=
  match splitAtSign? ['!', '='] name with
  | some (before, value) => (charsWith? before value).map (fun chars => ⟨chars, true⟩)
  | none =>
    match (splitAtSign? [':'] name).orElse (fun _ => splitAtSign? ['='] name) with
    | some (before, value) => (charsWith? before value).map (fun chars => ⟨chars, false⟩)
    | none => (charsNamed? name).map (fun chars => ⟨chars, false⟩)

end LogTagger.Pattern
