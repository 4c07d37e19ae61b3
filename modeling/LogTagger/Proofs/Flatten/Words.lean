import LogTagger.Proofs.Flatten.Naming
import Mathlib

/-!
# The words of a name

A name falls into words (`FallsInto`): no word starts inside another, and one starts where the next begins. Whether one
starts depends on the characters behind it, so a word is whole only in front of the rest of its name (`Whole`). The
dotted name is made of these words in lower case, with a dot between any two (`FallsInto.dotted`).

On the left of such a dot stands a letter or a digit and on its right a capital (`FallsInto.seams`), never a dot of the
name. So the dots between words can be told from the name's own in only one way (`Parted.unique`), and it makes no
difference to ask before each of them whether one is there already (`guardedName_eq_dottedName`).

A name put together from capitalised words and acronyms falls into these (`Compound.fallsInto`). Behind an acronym a
word has to show by its second character that it has begun, and its third must not make it look like a version.

**`words_recovered`** says both of dotted names.
-/

namespace LogTagger

namespace DottedWords

/-! ### Where words start -/

section Starts

variable {before c : Char} {after : List Char}

/-- A word starts with a capital, behind a letter or a digit. -/
theorem isAlphanum_of_startsWord (h : startsWord before c after = true) :
    before.isAlphanum = true ∧ c.isUpper = true := by
  unfold startsWord at h
  simp only [Bool.and_eq_true, Bool.or_eq_true] at h
  obtain ⟨hc, (hlower | hdigit) | hupper⟩ := h
  · exact ⟨by simp [Char.isAlphanum, Char.isAlpha, hlower], hc⟩
  · exact ⟨by simp [Char.isAlphanum, hdigit], hc⟩
  · exact ⟨by simp [Char.isAlphanum, Char.isAlpha, hupper.1.1], hc⟩

/-- At a capital a word starts behind a lower-case letter or a digit. -/
theorem startsWord_of_small (hbefore : before.isLower = true ∨ before.isDigit = true) (hc : c.isUpper = true) :
    startsWord before c after = true := by
  rcases hbefore with h | h <;> simp [startsWord, h, hc]

/-- At no other character does a word start. -/
theorem startsWord_of_not_isUpper (hc : c.isUpper = false) : startsWord before c after = false := by
  simp [startsWord, hc]

theorem isUpper_eq_false_of_small (h : c.isLower = true ∨ c.isDigit = true) : c.isUpper = false := by
  rcases h with h | h
  · exact Bool.eq_false_iff.mpr (Char.not_isUpper_of_isLower h)
  · rw [← Bool.not_eq_true, isUpper_iff]
    have hle : c.toNat ≤ 57 := (Char.isDigit_iff_toNat.mp h).2
    omega

theorem isDigit_eq_false_of_isUpper (h : c.isUpper = true) : c.isDigit = false := by
  by_contra hdigit
  rw [isUpper_eq_false_of_small (.inr (Bool.not_eq_false _ ▸ hdigit))] at h
  cases h

/-- Inside a run of capitals no word starts. -/
theorem startsWord_of_capitals (hbefore : before.isUpper = true) (hafter : ∀ d ∈ after.head?, d.isUpper = true) :
    startsWord before c after = false := by
  have hlower : before.isLower = false := Bool.eq_false_iff.mpr (Char.not_isLower_of_isUpper hbefore)
  have hdigit := isDigit_eq_false_of_isUpper hbefore
  cases after with
  | nil => simp [startsWord, hlower, hdigit]
  | cons d rest =>
    have hd : d.isLower = false := Bool.eq_false_iff.mpr (Char.not_isLower_of_isUpper (hafter d rfl))
    simp [startsWord, hlower, hdigit, hd]

end Starts

/-- What a dotted name does with a character depends on whether a word starts at the next. -/
theorem dottedChars_cons_cons (c d : Char) (rest : List Char) : dottedChars (c :: d :: rest) =
    c.toLower :: if startsWord c d rest then '.' :: dottedChars (d :: rest) else dottedChars (d :: rest) := by
  rw [dottedChars, dottedAfter]
  split <;> rfl

/-! ### Whole words -/

/-- A word in front of the rest of its name. -/
inductive Whole : List Char → List Char → Prop
  /-- It ends with the name. -/
  | last (c : Char) : Whole [c] []
  /-- It ends where the next word starts. -/
  | before {c d : Char} {rest : List Char} (h : startsWord c d rest = true) : Whole [c] (d :: rest)
  /-- It goes on where none starts. -/
  | goesOn {c d : Char} {w rest : List Char} (h : startsWord c d (w ++ rest) = false) :
    Whole (d :: w) rest → Whole (c :: d :: w) rest

/-- The words of a name. -/
inductive FallsInto : List Char → List (List Char) → Prop
  /-- An empty name has none. -/
  | nothing : FallsInto [] []
  /-- A word is whole in front of those behind it. -/
  | word {w rest : List Char} {ws : List (List Char)} : Whole w rest → FallsInto rest ws →
    FallsInto (w ++ rest) (w :: ws)

section Words

variable {w rest cs : List Char} {ws : List (List Char)}

theorem Whole.ne_nil (h : Whole w rest) : w ≠ [] := by
  cases h <;> exact List.cons_ne_nil _ _

/-- A word is written in lower case, and a dot behind it if something follows. -/
theorem Whole.dotted (h : Whole w rest) : dottedChars (w ++ rest) =
    w.map Char.toLower ++ if rest = [] then [] else '.' :: dottedChars rest := by
  induction h with
  | last c => rfl
  | @before c d rest h =>
    rw [List.singleton_append, dottedChars_cons_cons, if_pos h, if_neg (List.cons_ne_nil d rest)]
    rfl
  | @goesOn c d w rest h _ ih =>
    rw [List.cons_append, List.cons_append, dottedChars_cons_cons, h, if_neg Bool.false_ne_true, ← List.cons_append, ih]
    rfl

/-- A word ends in a letter or a digit if another follows, which begins with a capital. -/
theorem Whole.seam (h : Whole w rest) {d : Char} (hd : rest.head? = some d) :
    (∃ c, w.getLast? = some c ∧ c.isAlphanum = true) ∧ d.isUpper = true := by
  induction h with
  | last c => cases hd
  | @before c d' rest h =>
    obtain rfl := Option.some.inj hd
    obtain ⟨hc, hupper⟩ := isAlphanum_of_startsWord h
    exact ⟨⟨c, rfl, hc⟩, hupper⟩
  | goesOn _ _ ih =>
    rw [List.getLast?_cons_cons]
    exact ih hd

theorem FallsInto.flatten (h : FallsInto cs ws) : ws.flatten = cs := by
  induction h with
  | nothing => rfl
  | word _ _ ih => rw [List.flatten_cons, ih]

theorem FallsInto.ne_nil (h : FallsInto cs ws) : ∀ w ∈ ws, w ≠ [] := by
  induction h with
  | nothing => intro w hw; cases hw
  | word hword _ ih => exact List.forall_mem_cons.mpr ⟨hword.ne_nil, ih⟩

/-- **The dotted name is made of the words in lower case with a dot between any two.** -/
theorem FallsInto.dotted (h : FallsInto cs ws) :
    dottedChars cs = ['.'].intercalate (ws.map (List.map Char.toLower)) := by
  induction h with
  | nothing => rfl
  | word hword hrest ih =>
    rw [hword.dotted, ih]
    cases hrest with
    | nothing => simp
    | word hnext _ =>
      rw [if_neg (List.append_ne_nil_of_left_ne_nil hnext.ne_nil _)]
      simp [List.intercalate_cons_cons]

/-- Where two words meet, a letter or a digit stands on the left and a capital on the right. -/
theorem FallsInto.seams (h : FallsInto cs ws) : ws.IsChain fun v w =>
    (∃ c, v.getLast? = some c ∧ c.isAlphanum = true) ∧ ∃ d, w.head? = some d ∧ d.isUpper = true := by
  induction h with
  | nothing => exact .nil
  | word hword hrest ih =>
    cases hrest with
    | nothing => exact .singleton _
    | @word next rest ws hnext _ =>
      obtain ⟨d, next, rfl⟩ := List.exists_cons_of_ne_nil hnext.ne_nil
      obtain ⟨hleft, hright⟩ := hword.seam rfl
      exact .cons_cons ⟨hleft, d, rfl, hright⟩ ih

/-- Every name falls into words. -/
theorem exists_fallsInto : ∀ cs : List Char, ∃ ws, FallsInto cs ws
  | [] => ⟨[], .nothing⟩
  | [c] => ⟨[[c]], .word (.last c) .nothing⟩
  | c :: d :: rest => by
    obtain ⟨ws, h⟩ := exists_fallsInto (d :: rest)
    cases hstarts : startsWord c d rest with
    | true => exact ⟨[c] :: ws, .word (.before hstarts) h⟩
    | false =>
      -- The first word behind `c` begins with `d`, and `c` belongs to it.
      generalize hcs : d :: rest = cs at h
      cases h with
      | nothing => cases hcs
      | @word w rest' ws hword hrest =>
        obtain ⟨d', w, rfl⟩ := List.exists_cons_of_ne_nil hword.ne_nil
        obtain ⟨rfl, rfl⟩ := List.cons.inj hcs
        exact ⟨(c :: d :: w) :: ws, .word (.goesOn hstarts hword) hrest⟩

end Words

/-! ### Names put together from tokens -/

/-- A capitalised word: a capital, and lower-case letters and digits behind it, at least one. -/
inductive Capitalised : List Char → Prop
  | mk {c d : Char} {cs : List Char} (capital : c.isUpper = true)
    (small : ∀ e ∈ d :: cs, e.isLower = true ∨ e.isDigit = true) : Capitalised (c :: d :: cs)

/-- An acronym: two capitals or more. -/
inductive Acronym : List Char → Prop
  | mk {c d : Char} {cs : List Char} (capitals : ∀ e ∈ c :: d :: cs, e.isUpper = true) : Acronym (c :: d :: cs)

/-- What may stand behind an acronym. -/
structure BehindAcronym (token : List Char) : Prop where
  /-- It is no acronym. -/
  apart : ¬ Acronym token
  /-- Its second character is a lower-case letter. -/
  second : ∃ d, token[1]? = some d ∧ d.isLower = true
  /-- Its third, if it has one, is no digit. -/
  third : ∀ d, token[2]? = some d → d.isDigit = false

/-- Tokens from which a name can be put together. -/
structure Compound (tokens : List (List Char)) : Prop where
  /-- Each is a capitalised word or an acronym. -/
  kinds : ∀ t ∈ tokens, Capitalised t ∨ Acronym t
  /-- What stands behind an acronym may stand there. -/
  behind : tokens.IsChain fun s t => Acronym s → BehindAcronym t

section Tokens

variable {c : Char} {cs rest t : List Char} {tokens : List (List Char)}

/-- Lower-case letters and digits belong to the word before them, and it ends in front of a capital. -/
theorem whole_of_small (hcs : ∀ e ∈ cs, e.isLower = true ∨ e.isDigit = true)
    (hc : cs = [] → c.isLower = true ∨ c.isDigit = true) (hrest : ∀ d ∈ rest.head?, d.isUpper = true) :
    Whole (c :: cs) rest := by
  induction cs generalizing c with
  | nil =>
    cases rest with
    | nil => exact .last c
    | cons d rest => exact .before (startsWord_of_small (hc rfl) (hrest d rfl))
  | cons d cs ih =>
    obtain ⟨hd, hcs⟩ := List.forall_mem_cons.mp hcs
    exact .goesOn (startsWord_of_not_isUpper (isUpper_eq_false_of_small hd)) (ih hcs fun _ => hd)

/-- Capitals are one word, if what follows shows that it begins another. -/
theorem whole_of_capitals (hcs : ∀ e ∈ c :: cs, e.isUpper = true) (hrest : ∀ d ∈ rest.head?, d.isUpper = true)
    (hstarts : ∀ d after, rest = d :: after → ∀ before, before.isUpper = true → startsWord before d after = true) :
    Whole (c :: cs) rest := by
  induction cs generalizing c with
  | nil =>
    cases rest with
    | nil => exact .last c
    | cons d rest => exact .before (hstarts d rest rfl c (hcs c (by simp)))
  | cons d cs ih =>
    obtain ⟨hc, hcs⟩ := List.forall_mem_cons.mp hcs
    refine .goesOn (startsWord_of_capitals hc ?_) (ih hcs)
    intro e he
    cases cs with
    | nil => exact hrest e he
    | cons e' cs =>
      obtain rfl := Option.some.inj he
      exact hcs e' (by simp)

/-- No token is of both kinds. -/
theorem Capitalised.not_acronym (h : Capitalised t) : ¬ Acronym t := by
  obtain @⟨c, d, cs, -, hsmall⟩ := h
  intro hacronym
  obtain ⟨hcapitals⟩ := hacronym
  have hd := hcapitals d (by simp)
  rw [isUpper_eq_false_of_small (hsmall d List.mem_cons_self)] at hd
  cases hd

theorem isUpper_of_head_token (h : Capitalised t ∨ Acronym t) : ∃ c cs, t = c :: cs ∧ c.isUpper = true := by
  cases h with
  | inl h =>
    obtain ⟨hc, -⟩ := h
    exact ⟨_, _, rfl, hc⟩
  | inr h =>
    obtain ⟨hcs⟩ := h
    exact ⟨_, _, rfl, hcs _ List.mem_cons_self⟩

/-- A name put together from tokens begins with a capital. -/
theorem isUpper_of_head_tokens (h : ∀ t ∈ tokens, Capitalised t ∨ Acronym t) :
    ∀ d ∈ tokens.flatten.head?, d.isUpper = true := by
  intro d hd
  cases tokens with
  | nil => cases hd
  | cons t tokens =>
    obtain ⟨c, cs, rfl, hc⟩ := isUpper_of_head_token (h t (by simp))
    obtain rfl := Option.some.inj hd
    exact hc

/-- Behind an acronym a word starts at a token that may stand there. -/
theorem startsWord_behindAcronym {before d : Char} {after : List Char} (hbehind : BehindAcronym t)
    (ht : Capitalised t ∨ Acronym t) (hrest : ∀ d ∈ rest.head?, d.isUpper = true) (heq : t ++ rest = d :: after)
    (hbefore : before.isUpper = true) : startsWord before d after = true := by
  obtain @⟨c, e, cs, hc, -⟩ | hacronym := ht
  · obtain ⟨rfl, rfl⟩ := List.cons.inj heq
    obtain ⟨e', he', hlower⟩ := hbehind.second
    obtain rfl : e = e' := Option.some.inj he'
    have hthird : ((cs ++ rest)[0]?).any Char.isDigit = false := by
      cases cs with
      | nil =>
        cases rest with
        | nil => rfl
        | cons f rest => exact isDigit_eq_false_of_isUpper (hrest f rfl)
      | cons f cs => exact hbehind.third f rfl
    simp [startsWord, hc, hbefore, hlower, hthird]
  · exact absurd hacronym hbehind.apart

/-- **A name put together from tokens falls into them.** -/
theorem Compound.fallsInto (h : Compound tokens) : FallsInto tokens.flatten tokens := by
  induction tokens with
  | nil => exact .nothing
  | cons t tokens ih =>
    obtain ⟨ht, hkinds⟩ := List.forall_mem_cons.mp h.kinds
    have hrest := isUpper_of_head_tokens hkinds
    have hstarts : Acronym t → ∀ d after, tokens.flatten = d :: after → ∀ before, before.isUpper = true →
        startsWord before d after = true := by
      intro hacronym d after heq before hbefore
      cases tokens with
      | nil => cases heq
      | cons u tokens =>
        have hbehind : BehindAcronym u := (List.isChain_cons_cons.mp h.behind).1 hacronym
        obtain ⟨hu, hkinds⟩ := List.forall_mem_cons.mp hkinds
        exact startsWord_behindAcronym hbehind hu (isUpper_of_head_tokens hkinds) heq hbefore
    refine .word ?_ (ih ⟨hkinds, h.behind.tail⟩)
    cases ht with
    | inl hcapitalised =>
      obtain ⟨-, hsmall⟩ := hcapitalised
      exact whole_of_small hsmall (fun hnil => absurd hnil (List.cons_ne_nil _ _)) hrest
    | inr hacronym =>
      have hfollowed := hstarts hacronym
      obtain ⟨hcapitals⟩ := hacronym
      exact whole_of_capitals hcapitals hrest hfollowed

end Tokens

/-! ### No dot behind a dot -/

theorem toLower_eq_dot_iff {c : Char} : c.toLower = '.' ↔ c = '.' := by
  cases hc : c.isUpper with
  | false => rw [toLower_of_isUpper_eq_false hc]
  | true =>
    have hrange := isUpper_iff.mp hc
    constructor
    · intro h
      have hnat := toNat_toLower_of_isUpper hc
      rw [h] at hnat
      change 46 = c.toNat + 32 at hnat
      omega
    · rintro rfl
      cases hc

/-- The rest of a name in dotted words behind what is written already, with no dot put behind a dot. -/
def guardedAfter (written : List Char) (before : Char) : List Char → List Char
  | [] => written
  | c :: rest =>
    if startsWord before c rest && written.getLast? != some '.' then guardedAfter (written ++ ['.', c.toLower]) c rest
    else guardedAfter (written ++ [c.toLower]) c rest

/-- The characters of a name in dotted words, with no dot put behind a dot. -/
def guardedChars : List Char → List Char
  | [] => []
  | c :: rest => guardedAfter [c.toLower] c rest

/-- A name in dotted words, with no dot put behind a dot. A name without a capital stays as it is. -/
def guardedName (name : String) : String :=
  if hasCapital name then String.ofList (guardedChars name.toList) else name

/-- Where a word starts, what has been written ends in no dot. -/
theorem guardedAfter_concat (written : List Char) (before : Char) (cs : List Char) :
    guardedAfter (written ++ [before.toLower]) before cs = written ++ before.toLower :: dottedAfter before cs := by
  induction cs generalizing written before with
  | nil => rfl
  | cons c rest ih =>
    unfold guardedAfter dottedAfter
    cases h : startsWord before c rest with
    | true =>
      have hbefore : before.toLower ≠ '.' := by
        intro hdot
        have halphanum := (isAlphanum_of_startsWord h).1
        rw [toLower_eq_dot_iff.mp hdot] at halphanum
        cases halphanum
      have hguard : (true && (written ++ [before.toLower]).getLast? != some '.') = true := by simp [hbefore]
      have hwritten : written ++ [before.toLower] ++ ['.', c.toLower] =
          (written ++ [before.toLower, '.']) ++ [c.toLower] := by simp
      rw [if_pos hguard, hwritten, ih, if_pos rfl]
      simp
    | false =>
      rw [Bool.false_and, if_neg Bool.false_ne_true, if_neg Bool.false_ne_true, ih, List.append_assoc]
      rfl

/-- **It makes no difference whether a dot is put behind a dot.** None would be. -/
theorem guardedName_eq_dottedName (name : String) : guardedName name = dottedName name := by
  unfold guardedName
  cases hcapital : hasCapital name with
  | false => exact (dottedName_eq_self_iff.mpr hcapital).symm
  | true =>
    rw [if_pos rfl, dottedName]
    cases name.toList with
    | nil => rfl
    | cons c rest => exact congrArg String.ofList (guardedAfter_concat [] c rest)

/-! ### Which dots stand between words -/

/-- A word behind another: it is not empty and does not begin with a dot. -/
def Later (w : List Char) : Prop := ∃ c cs, w = c :: cs ∧ c ≠ '.'

section Dots

variable {v w a x y : List Char} {vs ws : List (List Char)}

/-- If words go on alike without dots and with them, they do so with no character at all: the next would be both the
first of a word and the dot in front of it. -/
theorem eq_nil_of_later (hvs : ∀ u ∈ vs, Later u) (hflatten : vs.flatten = a ++ x)
    (hdots : vs.flatMap ('.' :: ·) = a ++ y) : a = [] := by
  cases a with
  | nil => rfl
  | cons c a =>
    cases vs with
    | nil => cases hdots
    | cons u vs =>
      obtain ⟨d, u, rfl, hd⟩ := hvs u (by simp)
      have hleft : d = c := (List.cons.inj hflatten).1
      have hright : '.' = c := (List.cons.inj hdots).1
      exact absurd (hleft.trans hright.symm) hd

/-- The first word ends at the first dot that is put between two. -/
theorem first_eq (hvs : ∀ u ∈ vs, Later u) (hws : ∀ u ∈ ws, Later u) (hflatten : v ++ vs.flatten = w ++ ws.flatten)
    (hdots : v ++ vs.flatMap ('.' :: ·) = w ++ ws.flatMap ('.' :: ·)) : v = w := by
  obtain ⟨a, rfl, hbehind⟩ | ⟨a, rfl, hbehind⟩ := List.append_eq_append_iff.mp hflatten
  · rw [List.append_assoc, List.append_cancel_left_eq] at hdots
    rw [eq_nil_of_later hvs hbehind hdots, List.append_nil]
  · rw [List.append_assoc, List.append_cancel_left_eq] at hdots
    rw [eq_nil_of_later hws hbehind hdots.symm, List.append_nil]

theorem later_eq (hvs : ∀ u ∈ vs, Later u) (hws : ∀ u ∈ ws, Later u) (hflatten : vs.flatten = ws.flatten)
    (hdots : vs.flatMap ('.' :: ·) = ws.flatMap ('.' :: ·)) : vs = ws := by
  induction vs generalizing ws with
  | nil =>
    cases ws with
    | nil => rfl
    | cons w ws => cases hdots
  | cons v vs ih =>
    cases ws with
    | nil => cases hdots
    | cons w ws =>
      have hvs' := (List.forall_mem_cons.mp hvs).2
      have hws' := (List.forall_mem_cons.mp hws).2
      have hdots' : v ++ vs.flatMap ('.' :: ·) = w ++ ws.flatMap ('.' :: ·) := (List.cons.inj hdots).2
      obtain rfl := first_eq hvs' hws' hflatten hdots'
      rw [ih hvs' hws' (List.append_cancel_left hflatten) (List.append_cancel_left hdots')]

theorem intercalate_cons (w : List Char) (ws : List (List Char)) :
    ['.'].intercalate (w :: ws) = w ++ ws.flatMap ('.' :: ·) := by
  induction ws generalizing w with
  | nil => simp
  | cons v ws ih => rw [List.intercalate_cons_cons, ih]; simp

/-- **Words are given by what they make without dots and with dots.** -/
theorem eq_of_intercalate (hvs : ∀ u ∈ vs, u ≠ []) (hws : ∀ u ∈ ws, u ≠ []) (hvs' : ∀ u ∈ vs.tail, Later u)
    (hws' : ∀ u ∈ ws.tail, Later u) (hflatten : vs.flatten = ws.flatten)
    (hdots : ['.'].intercalate vs = ['.'].intercalate ws) : vs = ws := by
  cases vs with
  | nil =>
    cases ws with
    | nil => rfl
    | cons w ws => exact absurd (List.append_eq_nil_iff.mp hflatten.symm).1 (hws w (by simp))
  | cons v vs =>
    cases ws with
    | nil => exact absurd (List.append_eq_nil_iff.mp hflatten).1 (hvs v (by simp))
    | cons w ws =>
      rw [List.tail_cons] at hvs' hws'
      rw [intercalate_cons, intercalate_cons] at hdots
      obtain rfl := first_eq hvs' hws' hflatten hdots
      rw [later_eq hvs' hws' (List.append_cancel_left hflatten) (List.append_cancel_left hdots)]

end Dots

/-! ### Dotted names -/

/-- What a dotted name makes of a name and its words. -/
structure Parted (name : String) (words : List String) : Prop where
  /-- The words put together are the name. -/
  joined : String.join words = name
  /-- The dotted name is the words in lower case with a dot put between any two. -/
  dotted : dottedName name = ".".intercalate (words.map String.toLower)
  /-- Without these dots it is the name in lower case. -/
  erased : String.join (words.map String.toLower) = name.toLower
  /-- No dot is put at the start or at the end, nor two in one place. -/
  filled : ∀ w ∈ words, w ≠ ""
  /-- No dot is put behind a dot of the name or in front of one. -/
  apart : words.IsChain fun v w => v.toList.getLast? ≠ some '.' ∧ w.toList.head? ≠ some '.'

section Names

variable {name : String} {words others : List String}

theorem toList_map_toLower (words : List String) :
    (words.map String.toLower).map String.toList = (words.map String.toList).map (List.map Char.toLower) := by
  rw [List.map_map, List.map_map]
  exact List.map_congr_left fun w _ => String.toList_map

theorem toList_join (words : List String) : (String.join words).toList = (words.map String.toList).flatten := by
  rw [String.toList_join, List.flatMap_def]

/-- A name is parted between the words into which it falls. -/
theorem parted_of_fallsInto (h : FallsInto name.toList (words.map String.toList)) : Parted name words := by
  refine ⟨?joined, ?dotted, ?erased, ?filled, ?apart⟩
  case joined => rw [← String.toList_inj, toList_join, h.flatten]
  case dotted =>
    rw [← String.toList_inj, dottedName, String.toList_ofList, String.toList_intercalate, toList_map_toLower]
    exact h.dotted
  case erased =>
    rw [← String.toList_inj, toList_join, toList_map_toLower, ← List.map_flatten, h.flatten]
    exact String.toList_map.symm
  case filled =>
    intro w hw hempty
    exact h.ne_nil w.toList (List.mem_map_of_mem hw) (String.toList_eq_nil_iff.mpr hempty)
  case apart =>
    refine ((List.isChain_map _).mp h.seams).imp fun v w hseam => ?_
    obtain ⟨⟨c, hc, hleft⟩, d, hd, hright⟩ := hseam
    constructor
    · rw [hc]
      rintro ⟨⟩
      cases hleft
    · rw [hd]
      rintro ⟨⟩
      cases hright

theorem exists_parted (name : String) :
    ∃ words : List String, FallsInto name.toList (words.map String.toList) ∧ Parted name words := by
  obtain ⟨ws, hfalls⟩ := exists_fallsInto name.toList
  have hwords : (ws.map String.ofList).map String.toList = ws := by
    rw [List.map_map]
    exact List.map_id'' (fun _ => String.toList_ofList) ws
  rw [← hwords] at hfalls
  exact ⟨_, hfalls, parted_of_fallsInto hfalls⟩

/-- No word but the first begins with a dot. -/
theorem Parted.head?_ne_dot (h : Parted name words) : ∀ w ∈ words.tail, w.toList.head? ≠ some '.' := by
  have hapart := h.apart
  clear h
  induction hapart with
  | nil => intro w hw; cases hw
  | singleton => intro w hw; cases hw
  | cons_cons hseam _ ih => exact List.forall_mem_cons.mpr ⟨hseam.2, ih⟩

theorem Parted.later (h : Parted name words) : ∀ u ∈ ((words.map String.toLower).map String.toList).tail, Later u := by
  intro u hu
  rw [toList_map_toLower, List.map_map, ← List.map_tail] at hu
  obtain ⟨w, hw, rfl⟩ := List.mem_map.mp hu
  cases hs : w.toList with
  | nil => exact absurd (String.toList_eq_nil_iff.mp hs) (h.filled w (List.mem_of_mem_tail hw))
  | cons c cs =>
    refine ⟨c.toLower, cs.map Char.toLower, by simp [hs], ?_⟩
    intro hdot
    apply h.head?_ne_dot w hw
    rw [hs, toLower_eq_dot_iff.mp hdot]
    rfl

theorem Parted.ne_nil (h : Parted name words) : ∀ u ∈ (words.map String.toLower).map String.toList, u ≠ [] := by
  intro u hu
  rw [toList_map_toLower, List.map_map] at hu
  obtain ⟨w, hw, rfl⟩ := List.mem_map.mp hu
  intro hnil
  exact h.filled w hw (String.toList_eq_nil_iff.mp (List.map_eq_nil_iff.mp hnil))

/-- **There is only one way to part a name.** -/
theorem Parted.unique (h : Parted name words) (h' : Parted name others) : words = others := by
  have hlower : (words.map String.toLower).map String.toList = (others.map String.toLower).map String.toList := by
    apply eq_of_intercalate h.ne_nil h'.ne_nil h.later h'.later
    · rw [← toList_join, ← toList_join, h.erased, h'.erased]
    · have hdots := congrArg String.toList (h.dotted.symm.trans h'.dotted)
      rwa [String.toList_intercalate, String.toList_intercalate] at hdots
  have hkept : ∀ ws : List String,
      ((ws.map String.toLower).map String.toList).map List.length = (ws.map String.toList).map List.length := by
    intro ws
    rw [toList_map_toLower]
    simp [Function.comp_def]
  have hlengths : (words.map String.toList).map List.length = (others.map String.toList).map List.length := by
    rw [← hkept, hlower, hkept]
  have hflatten : (words.map String.toList).flatten = (others.map String.toList).flatten := by
    rw [← toList_join, ← toList_join, h.joined, h'.joined]
  exact List.map_injective_iff.mpr (fun _ _ => String.toList_inj.mp) (List.eq_iff_flatten_eq.mpr ⟨hflatten, hlengths⟩)

/-- A name is parted where its words start, and nowhere else. -/
theorem parted_iff_fallsInto : Parted name words ↔ FallsInto name.toList (words.map String.toList) := by
  refine ⟨fun h => ?_, parted_of_fallsInto⟩
  obtain ⟨others, hothers, hparted⟩ := exists_parted name
  rw [h.unique hparted]
  exact hothers

/-- What a dotted name tells of the words of a name. -/
structure Told (name : String) : Prop where
  /-- There are words between which it has put its dots, and only these. -/
  words : ∃! words, Parted name words
  /-- They are those into which the name falls. -/
  starts : ∀ words, Parted name words ↔ FallsInto name.toList (words.map String.toList)
  /-- None is put behind another dot, so looking for one there makes no difference. -/
  guarded : guardedName name = dottedName name

/-- **A dotted name recovers the words of its name**: the tokens of one that is put together from capitalised words and
acronyms, and in any name the words whose characters it has only put into lower case and parted by dots. -/
theorem words_recovered :
    (∀ tokens : List String, Compound (tokens.map String.toList) →
      dottedName (String.join tokens) = ".".intercalate (tokens.map String.toLower)) ∧
    ∀ name, Told name := by
  constructor
  · intro tokens htokens
    have hfalls : FallsInto (String.join tokens).toList (tokens.map String.toList) := by
      rw [toList_join]
      exact htokens.fallsInto
    exact (parted_of_fallsInto hfalls).dotted
  · intro name
    obtain ⟨words, -, hparted⟩ := exists_parted name
    exact ⟨⟨words, hparted, fun _ h => h.unique hparted⟩, fun _ => parted_iff_fallsInto,
      guardedName_eq_dottedName name⟩

/-- Words and acronyms in turn: behind one acronym a word of five characters and behind another one of two. -/
theorem words_recovered_of_mixed :
    Compound (["ARN", "Value", "ID", "Ab", "V2", "CPU"].map String.toList) ∧
      dottedName "ARNValueIDAbV2CPU" = "arn.value.id.ab.v2.cpu" := by
  have htokens : Compound (["ARN", "Value", "ID", "Ab", "V2", "CPU"].map String.toList) := by
    have harn : Acronym ['A', 'R', 'N'] := .mk (by simp [Char.isUpper])
    have hvalue : Capitalised ['V', 'a', 'l', 'u', 'e'] := .mk rfl (by simp [Char.isLower, Char.isDigit])
    have hid : Acronym ['I', 'D'] := .mk (by simp [Char.isUpper])
    have hab : Capitalised ['A', 'b'] := .mk rfl (by simp [Char.isLower, Char.isDigit])
    have hv2 : Capitalised ['V', '2'] := .mk rfl (by simp [Char.isLower, Char.isDigit])
    have hcpu : Acronym ['C', 'P', 'U'] := .mk (by simp [Char.isUpper])
    have hlong : BehindAcronym ['V', 'a', 'l', 'u', 'e'] :=
      ⟨hvalue.not_acronym, ⟨'a', rfl, rfl⟩, fun d hd => by cases hd; rfl⟩
    have hshort : BehindAcronym ['A', 'b'] := ⟨hab.not_acronym, ⟨'b', rfl, rfl⟩, fun d hd => by cases hd⟩
    constructor
    · simp [harn, hvalue, hid, hab, hv2, hcpu]
    · simp [hlong, hshort, hvalue.not_acronym, hab.not_acronym, hv2.not_acronym]
  have hjoin : String.join ["ARN", "Value", "ID", "Ab", "V2", "CPU"] = "ARNValueIDAbV2CPU" := by decide +kernel
  have hdots : ".".intercalate (["ARN", "Value", "ID", "Ab", "V2", "CPU"].map String.toLower) =
      "arn.value.id.ab.v2.cpu" := by
    decide +kernel
  rw [← hjoin, ← hdots]
  exact ⟨htokens, words_recovered.1 _ htokens⟩

/-- Behind an acronym a word is not recovered if a digit in its third place makes it look like a version. -/
example : dottedName "ARNAb2" = "arnab2" := by decide +kernel

end Names

end DottedWords

end LogTagger
