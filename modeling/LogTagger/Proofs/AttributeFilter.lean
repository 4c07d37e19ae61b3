import LogTagger.AttributeFilter
import Mathlib

/-!
# Compiled once and compiled on the way

A list of patterns is compiled as a whole (`compile`), or pattern by pattern while a key is held against it
(`passes?`). The first way meets every pattern and so every invalid one; the second stops at the first pattern that
occurs in the key, and what comes after it is never compiled.

**`compilations_agree`** compares them for every language of patterns. A list that compiles as a whole gives the same
answer both ways. Of one that does not, the patterns before the first invalid one decide: if one of them occurs in the
key it passes, and otherwise both ways fail for the same cause. So a list with an invalid pattern turns no key down.
-/

namespace LogTagger

/-! ### Patterns -/

namespace PatternLanguage

variable {L : PatternLanguage} {patterns : List String} {pattern reason : String}

theorem compilePattern_of_ok {compiled : L.Compiled} (h : L.compile pattern = .ok compiled) :
    L.compilePattern pattern = .ok compiled := by
  simp only [compilePattern, h]

theorem compilePattern_of_error (h : L.compile pattern = .error reason) :
    L.compilePattern pattern = .error (.invalidPattern pattern reason) := by
  simp only [compilePattern, h]

theorem exists_of_isOk (h : (L.compile pattern).isOk = true) : ∃ compiled, L.compile pattern = .ok compiled := by
  cases hp : L.compile pattern with
  | ok compiled => exact ⟨compiled, rfl⟩
  | error reason =>
    rw [hp] at h
    cases h

/-- Whether a pattern compiles and occurs in a key. -/
def admits (L : PatternLanguage) (key pattern : String) : Bool :=
  match L.compile pattern with
  | .ok compiled => L.occursIn compiled key
  | .error _ => false

theorem admits_of_ok {compiled : L.Compiled} (h : L.compile pattern = .ok compiled) (key : String) :
    L.admits key pattern = L.occursIn compiled key := by
  rw [admits, h]

/-- A pattern of a list is the first that does not compile. -/
structure FirstInvalid (L : PatternLanguage) (patterns : List String) (pattern reason : String) : Prop where
  /-- It is one of them, and those before it compile. -/
  place : ∃ before after, patterns = before ++ pattern :: after ∧ ∀ p ∈ before, (L.compile p).isOk = true
  /-- It does not compile. -/
  invalid : L.compile pattern = .error reason

/-- The patterns after the first one do not matter if that does not compile. -/
theorem firstInvalid_cons_of_error {rest : List String} (h : L.compile pattern = .error reason) :
    L.FirstInvalid (pattern :: rest) pattern reason :=
  ⟨⟨[], rest, rfl, by simp⟩, h⟩

theorem FirstInvalid.cons {first : String} (h : L.FirstInvalid patterns pattern reason)
    (hfirst : (L.compile first).isOk = true) : L.FirstInvalid (first :: patterns) pattern reason := by
  obtain ⟨⟨before, after, rfl, hbefore⟩, hinvalid⟩ := h
  refine ⟨⟨first :: before, after, rfl, ?_⟩, hinvalid⟩
  rw [List.forall_mem_cons]
  exact ⟨hfirst, hbefore⟩

end PatternLanguage

namespace AttributeFilter

variable {L : PatternLanguage}

theorem compile_cons_of_error {rest : List String} {pattern reason : String} (h : L.compile pattern = .error reason) :
    compile L (pattern :: rest) = .error (.invalidPattern pattern reason) := by
  rw [compile, List.mapM_cons, PatternLanguage.compilePattern_of_error h]
  rfl

theorem compile_cons_of_ok {rest : List String} {pattern : String} {compiled : L.Compiled}
    (h : L.compile pattern = .ok compiled) :
    compile L (pattern :: rest) = (compile L rest).map fun f => ⟨compiled :: f.patterns⟩ := by
  rw [compile, compile, List.mapM_cons, PatternLanguage.compilePattern_of_ok h]
  cases rest.mapM L.compilePattern <;> rfl

/-- Either all patterns compile, or the first that does not is the cause of the failure. -/
theorem compile_cases (L : PatternLanguage) (patterns : List String) :
    (∃ f, compile L patterns = .ok f ∧ ∀ p ∈ patterns, (L.compile p).isOk = true) ∨
      ∃ pattern reason, compile L patterns = .error (.invalidPattern pattern reason) ∧
        L.FirstInvalid patterns pattern reason := by
  induction patterns with
  | nil => exact .inl ⟨⟨[]⟩, rfl, by simp⟩
  | cons p rest ih =>
    cases hp : L.compile p with
    | error reason => exact .inr ⟨p, reason, compile_cons_of_error hp, PatternLanguage.firstInvalid_cons_of_error hp⟩
    | ok compiled =>
      have hok : (L.compile p).isOk = true := by rw [hp]; rfl
      rw [compile_cons_of_ok hp]
      rcases ih with ⟨f, hf, hall⟩ | ⟨pattern, reason, herror, hfirst⟩
      · refine .inl ⟨⟨compiled :: f.patterns⟩, by rw [hf]; rfl, ?_⟩
        rw [List.forall_mem_cons]
        exact ⟨hok, hall⟩
      · exact .inr ⟨pattern, reason, by rw [herror]; rfl, hfirst.cons hok⟩

theorem exists_compile_iff {patterns : List String} :
    (∃ f, compile L patterns = .ok f) ↔ ∀ p ∈ patterns, (L.compile p).isOk = true := by
  rcases compile_cases L patterns with ⟨f, hf, hall⟩ | ⟨pattern, reason, herror, ⟨before, after, rfl, -⟩, hinvalid⟩
  · exact ⟨fun _ => hall, fun _ => ⟨f, hf⟩⟩
  · refine ⟨fun ⟨f, hf⟩ => ?_, fun hall => ?_⟩
    · rw [herror] at hf
      cases hf
    · have hok := hall pattern (by simp)
      rw [hinvalid] at hok
      cases hok

/-! ### Patterns and keys -/

/-- The compiled patterns of a filter are those of its list. -/
theorem forall₂_of_compile {patterns : List String} {f : AttributeFilter L} (h : compile L patterns = .ok f) :
    List.Forall₂ (fun p c => L.compile p = .ok c) patterns f.patterns := by
  induction patterns generalizing f with
  | nil =>
    cases h
    exact .nil
  | cons p rest ih =>
    cases hp : L.compile p with
    | error reason =>
      rw [compile_cons_of_error hp] at h
      cases h
    | ok compiled =>
      rw [compile_cons_of_ok hp] at h
      cases hrest : compile L rest with
      | error cause =>
        rw [hrest] at h
        cases h
      | ok g =>
        rw [hrest] at h
        cases h
        exact .cons hp (ih hrest)

theorem any_of_forall₂ {patterns : List String} {compiled : List L.Compiled} (key : String)
    (h : List.Forall₂ (fun p c => L.compile p = .ok c) patterns compiled) :
    compiled.any (fun c => L.occursIn c key) = patterns.any (L.admits key) := by
  induction h with
  | nil => rfl
  | cons hp _ ih => rw [List.any_cons, List.any_cons, ih, L.admits_of_ok hp]

/-- A compiled list lets a key pass if it is empty or one of its patterns occurs in the key. -/
theorem allows_of_compile {patterns : List String} {f : AttributeFilter L} (h : compile L patterns = .ok f)
    (key : String) : f.allows key = (patterns.isEmpty || patterns.any (L.admits key)) := by
  have hall := forall₂_of_compile h
  have hempty : f.patterns.isEmpty = patterns.isEmpty := by
    rw [Bool.eq_iff_iff, List.isEmpty_iff_length_eq_zero, List.isEmpty_iff_length_eq_zero, hall.length_eq]
  rw [allows, any_of_forall₂ key hall, hempty]

theorem occursAny?_cons_of_ok {p : String} {compiled : L.Compiled} (h : L.compile p = .ok compiled) (key : String)
    (rest : List String) :
    occursAny? L key (p :: rest) = if L.occursIn compiled key then .ok true else occursAny? L key rest := by
  simp only [occursAny?, PatternLanguage.compilePattern_of_ok h]

theorem occursAny?_cons_of_error {p reason : String} (h : L.compile p = .error reason) (key : String)
    (rest : List String) : occursAny? L key (p :: rest) = .error (.invalidPattern p reason) := by
  simp only [occursAny?, PatternLanguage.compilePattern_of_error h]

/-- Patterns that compile are passed over as long as none occurs in the key. -/
theorem occursAny?_append {before : List String} (h : ∀ p ∈ before, (L.compile p).isOk = true) (key : String)
    (rest : List String) :
    occursAny? L key (before ++ rest) = if before.any (L.admits key) then .ok true else occursAny? L key rest := by
  induction before with
  | nil => rfl
  | cons p before ih =>
    obtain ⟨hp, hbefore⟩ := List.forall_mem_cons.mp h
    obtain ⟨compiled, hcompiled⟩ := PatternLanguage.exists_of_isOk hp
    rw [List.cons_append, occursAny?_cons_of_ok hcompiled, List.any_cons, L.admits_of_ok hcompiled]
    cases L.occursIn compiled key with
    | true => rfl
    | false => exact ih hbefore

/-- The first pattern that does not compile is met unless one before it occurs in the key. -/
theorem passes?_of_firstInvalid {before : List String} {pattern reason : String}
    (h : ∀ p ∈ before, (L.compile p).isOk = true) (hinvalid : L.compile pattern = .error reason) (after : List String)
    (key : String) : passes? L (before ++ pattern :: after) key =
      if before.any (L.admits key) then .ok true else .error (.invalidPattern pattern reason) := by
  have hne : (before ++ pattern :: after).isEmpty = false := by simp
  rw [passes?, hne, if_neg Bool.false_ne_true, occursAny?_append h, occursAny?_cons_of_error hinvalid]

/-- Where all patterns compile the answer is whether one of them occurs in the key. -/
theorem passes?_of_forall_isOk {patterns : List String} (h : ∀ p ∈ patterns, (L.compile p).isOk = true)
    (key : String) : passes? L patterns key = .ok (patterns.isEmpty || patterns.any (L.admits key)) := by
  have hpass := occursAny?_append h key []
  rw [List.append_nil] at hpass
  rw [passes?, hpass]
  cases patterns.isEmpty <;> cases patterns.any (L.admits key) <;> rfl

/-- The two ways to hold a key against a list of patterns. -/
structure Agrees (L : PatternLanguage) (patterns : List String) (key : String) : Prop where
  /-- If the list compiles as a whole, both answer, and in the same way. -/
  compiled : ∀ f, compile L patterns = .ok f → passes? L patterns key = .ok (f.allows key)
  /-- Otherwise there is a first pattern that does not compile. The key passes if a pattern before it occurs in the
  key, and else both fail for the same cause, which names that pattern. -/
  invalid : ∀ cause, compile L patterns = .error cause → ∃ before pattern after reason,
    patterns = before ++ pattern :: after ∧ (∀ p ∈ before, (L.compile p).isOk = true) ∧
      L.compile pattern = .error reason ∧ cause = .invalidPattern pattern reason ∧
      passes? L patterns key = if before.any (L.admits key) then .ok true else .error cause
  /-- A list with an invalid pattern turns no key down. -/
  lenient : (∃ p ∈ patterns, (L.compile p).isOk = false) → passes? L patterns key ≠ .ok false
  /-- A compiled list lets the key pass if it is empty or one of its patterns occurs in the key. -/
  decided : ∀ f, compile L patterns = .ok f → f.allows key = (patterns.isEmpty || patterns.any (L.admits key))

/-- **Compiling once and compiling on the way agree** for every language of patterns, every list and every key. -/
theorem compilations_agree (L : PatternLanguage) (patterns : List String) (key : String) : Agrees L patterns key := by
  have hcases := compile_cases L patterns
  refine ⟨?compiled, ?invalid, ?lenient, fun f hf => allows_of_compile hf key⟩
  case compiled =>
    intro f hf
    rw [passes?_of_forall_isOk (exists_compile_iff.mp ⟨f, hf⟩), allows_of_compile hf]
  case invalid =>
    intro cause hcause
    obtain ⟨f, hf, -⟩ | ⟨pattern, reason, herror, ⟨before, after, rfl, hbefore⟩, hinvalid⟩ := hcases
    · rw [hf] at hcause
      cases hcause
    · rw [herror] at hcause
      cases hcause
      exact ⟨before, pattern, after, reason, rfl, hbefore, hinvalid, rfl,
        passes?_of_firstInvalid hbefore hinvalid after key⟩
  case lenient =>
    rintro ⟨p, hp, hnone⟩ hdenied
    obtain ⟨f, -, hall⟩ | ⟨pattern, reason, -, ⟨before, after, rfl, hbefore⟩, hinvalid⟩ := hcases
    · rw [hall p hp] at hnone
      cases hnone
    · rw [passes?_of_firstInvalid hbefore hinvalid after key] at hdenied
      split at hdenied <;> cases hdenied

end AttributeFilter

end LogTagger
