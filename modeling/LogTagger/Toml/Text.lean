import LogTagger.Text.Digits

/-!
# TOML text

The layout of a TOML text (space, comments, ends of lines) and its four forms of strings: basic and
literal, on one line or on several. A reader takes the characters of the text and returns what it
read with the rest, or nothing if the text is not well formed.
-/

namespace LogTagger.Toml

/-- The two characters that may stand between tokens of a line. -/
def isSpace (c : Char) : Bool := c == ' ' || c == '\t'

/-- Whether a character may stand in a comment or in a string: none of the control characters, the
tab apart. -/
def isPlain (c : Char) : Bool := c == '\t' || (0x20 ≤ c.toNat && c.toNat != 0x7F)

/-- The text after the space in front of it. -/
def skipSpace (s : List Char) : List Char := s.dropWhile isSpace

/-- The text after the end of a line. -/
def newline? : List Char → Option (List Char)
  | '\n' :: rest => some rest
  | '\r' :: '\n' :: rest => some rest
  | _ => none

/-- The text after the space and the comment in front of it. -/
def skipComment (s : List Char) : List Char :=
  match skipSpace s with
  | '#' :: rest => rest.dropWhile isPlain
  | s' => s'

/-- The text after the rest of a line that holds nothing more than a comment. -/
def endOfLine? (s : List Char) : Option (List Char) :=
  match skipComment s with
  | [] => some []
  | s' => newline? s'

/-- The text after space, comments and ends of lines; each round of fuel takes one line. -/
def skipLines : Nat → List Char → List Char
  | 0, s => s
  | fuel + 1, s =>
    let s' := skipComment s
    match newline? s' with
    | some rest => skipLines fuel rest
    | none => s'

/-- The text after any number of blank lines and comments. -/
def skipBlank (s : List Char) : List Char := skipLines (s.length + 1) s

/-! ### Strings -/

/-- The character with the number that hexadecimal digits write, if there is one. -/
def scalar? (ds : List Char) : Option Char :=
  (Text.numeral? 16 ds).bind (fun n => if n.isValidChar then some (Char.ofNat n) else none)

/-- The character named by a short escape. -/
def escaped? (c : Char) : Option Char :=
  match c with
  | 'b' => some '\x08'
  | 't' => some '\t'
  | 'n' => some '\n'
  | 'f' => some '\x0c'
  | 'r' => some '\r'
  | 'e' => some '\x1b'
  | '"' => some '"'
  | '\\' => some '\\'
  | _ => none

/-- The number of hexadecimal digits after the mark of an escape by number. -/
def escapeWidth? (c : Char) : Option Nat :=
  match c with
  | 'x' => some 2
  | 'u' => some 4
  | 'U' => some 8
  | _ => none

/-- The character of an escape after its backslash, and the number of characters that the escape
takes after the first. -/
def escape? (c : Char) (rest : List Char) : Option (Char × Nat) :=
  match escapeWidth? c with
  | some width =>
    if rest.length < width then none else (scalar? (rest.take width)).map (fun r => (r, width))
  | none => (escaped? c).map (fun r => (r, 0))

/-- The characters of a basic string after its opening quote, the last one first, and the text after
its closing quote. The number is that of characters still to be passed over. -/
def basic? : Nat → List Char → List Char → Option (List Char × List Char)
  | _, [], _ => none
  | n + 1, _ :: rest, acc => basic? n rest acc
  | 0, '"' :: rest, acc => some (acc, rest)
  | 0, '\\' :: c :: rest, acc =>
    match escape? c rest with
    | some (r, n) => basic? n rest (r :: acc)
    | none => none
  | 0, c :: rest, acc => if isPlain c && c != '\\' then basic? 0 rest (c :: acc) else none

/-- The characters of a literal string after its opening quote, and the text after its closing
quote. -/
def literal? (s : List Char) : Option (List Char × List Char) :=
  let content := s.takeWhile (fun c => isPlain c && c != '\'')
  match s.drop content.length with
  | '\'' :: rest => some (content, rest)
  | _ => none

/-- Whether a line ends after space. -/
def endsLine (s : List Char) : Bool := (newline? (skipSpace s)).isSome

/-- What a multi-line string is about to do with its next character. -/
inductive Pace where
  /-- Read it. -/
  | read
  /-- Pass over so many characters, which an escape has used up, and one more. -/
  | pass (n : Nat)
  /-- Pass over space and ends of lines, after a backslash at the end of a line. -/
  | join

/-- The characters of a multi-line basic string after its opening quotes, the last one first, and the
text after its closing quotes. One or two quotes may stand right before the closing ones. -/
def multiBasic? : Pace → List Char → List Char → Option (List Char × List Char)
  | _, [], _ => none
  | .pass 0, _ :: rest, acc => multiBasic? .read rest acc
  | .pass (n + 1), _ :: rest, acc => multiBasic? (.pass n) rest acc
  | _, '"' :: '"' :: '"' :: '"' :: '"' :: rest, acc => some ('"' :: '"' :: acc, rest)
  | _, '"' :: '"' :: '"' :: '"' :: rest, acc => some ('"' :: acc, rest)
  | _, '"' :: '"' :: '"' :: rest, acc => some (acc, rest)
  | .join, ' ' :: rest, acc => multiBasic? .join rest acc
  | .join, '\t' :: rest, acc => multiBasic? .join rest acc
  | .join, '\n' :: rest, acc => multiBasic? .join rest acc
  | .join, '\r' :: '\n' :: rest, acc => multiBasic? .join rest acc
  | _, '\r' :: '\n' :: rest, acc => multiBasic? .read rest ('\n' :: '\r' :: acc)
  | _, '\\' :: c :: rest, acc =>
    if endsLine (c :: rest) then multiBasic? .join (c :: rest) acc
    else
      match escape? c rest with
      | some (r, 0) => multiBasic? .read rest (r :: acc)
      | some (r, n + 1) => multiBasic? (.pass n) rest (r :: acc)
      | none => none
  | _, c :: rest, acc =>
    if (isPlain c || c == '\n') && c != '\\' then multiBasic? .read rest (c :: acc) else none

/-- The characters of a multi-line literal string after its opening quotes, the last one first, and
the text after its closing quotes. One or two quotes may stand right before the closing ones. -/
def multiLiteral? : List Char → List Char → Option (List Char × List Char)
  | [], _ => none
  | '\'' :: '\'' :: '\'' :: '\'' :: '\'' :: rest, acc => some ('\'' :: '\'' :: acc, rest)
  | '\'' :: '\'' :: '\'' :: '\'' :: rest, acc => some ('\'' :: acc, rest)
  | '\'' :: '\'' :: '\'' :: rest, acc => some (acc, rest)
  | '\r' :: '\n' :: rest, acc => multiLiteral? rest ('\n' :: '\r' :: acc)
  | c :: rest, acc => if isPlain c || c == '\n' then multiLiteral? rest (c :: acc) else none

/-- The text after the end of a line right at its front, if there is one. -/
def skipNewline (s : List Char) : List Char := (newline? s).getD s

/-- The string in front of a text that begins with a quote. -/
def string? : List Char → Option (String × List Char)
  | '"' :: '"' :: '"' :: rest =>
    (multiBasic? .read (skipNewline rest) []).map (fun (cs, rest') => (String.ofList cs.reverse, rest'))
  | '"' :: rest => (basic? 0 rest []).map (fun (cs, rest') => (String.ofList cs.reverse, rest'))
  | '\'' :: '\'' :: '\'' :: rest =>
    (multiLiteral? (skipNewline rest) []).map (fun (cs, rest') => (String.ofList cs.reverse, rest'))
  | '\'' :: rest => (literal? rest).map (fun (cs, rest') => (String.ofList cs, rest'))
  | _ => none

end LogTagger.Toml
