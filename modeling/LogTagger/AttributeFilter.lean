import LogTagger.Error
import LogTagger.Pattern.Parser

/-!
# Filters of attributes

Which attributes are written is chosen by a list of patterns: a key passes if any of them occurs in
it, and every key passes when there are none. A filter is compiled once (`AttributeFilter.compile`);
`passes?` compiles as it goes and so only meets an invalid pattern if none before it decides.

What a pattern is and what it matches is a parameter, `PatternLanguage`; `regularExpressions` is the
language of the program.
-/

namespace LogTagger

/-- A language of patterns. -/
structure PatternLanguage where
  /-- A compiled pattern. -/
  Compiled : Type
  /-- Compiles a pattern, or says why it is none. -/
  compile : String → Except String Compiled
  /-- Whether a compiled pattern occurs in a key. -/
  occursIn : Compiled → String → Bool

/-- The language of regular expressions, where `reason` words why a pattern is none. -/
def regularExpressions (reason : String → String) : PatternLanguage where
  Compiled := Pattern.Regex
  compile pattern :=
    match Pattern.Regex.ofPattern? pattern with
    | some r => .ok r
    | none => .error (reason pattern)
  occursIn r key := r.matchesIn key

namespace PatternLanguage

/-- Compiles a pattern; the cause of a failure names it. -/
def compilePattern (L : PatternLanguage) (pattern : String) : Except TaggingError L.Compiled :=
  match L.compile pattern with
  | .ok c => .ok c
  | .error reason => .error (.invalidPattern pattern reason)

end PatternLanguage

/-- A compiled list of patterns. -/
structure AttributeFilter (L : PatternLanguage) where
  /-- The compiled patterns, in order. -/
  patterns : List L.Compiled

namespace AttributeFilter

variable {L : PatternLanguage}

/-- The filter that lets every key pass. -/
def allowAll : AttributeFilter L := ⟨[]⟩

/-- Compiles patterns; the first invalid one is the cause of a failure. -/
def compile (L : PatternLanguage) (patterns : List String) : Except TaggingError (AttributeFilter L) :=
  (patterns.mapM L.compilePattern).map (fun compiled => ⟨compiled⟩)

/-- Whether a key passes. -/
def allows (f : AttributeFilter L) (key : String) : Bool :=
  f.patterns.isEmpty || f.patterns.any (fun c => L.occursIn c key)

/-- Whether one of the patterns occurs in a key, compiling them one by one. -/
def occursAny? (L : PatternLanguage) (key : String) : List String → Except TaggingError Bool
  | [] => .ok false
  | pattern :: rest =>
    match L.compilePattern pattern with
    | .error cause => .error cause
    | .ok c => if L.occursIn c key then .ok true else occursAny? L key rest

/-- Whether a key passes a list of patterns that has not been compiled. -/
def passes? (L : PatternLanguage) (patterns : List String) (key : String) : Except TaggingError Bool :=
  if patterns.isEmpty then .ok true else occursAny? L key patterns

end AttributeFilter

end LogTagger
