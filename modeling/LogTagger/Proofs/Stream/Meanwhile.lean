import LogTagger.Proofs.Processor.Lockstep
import LogTagger.Proofs.Stream.Transduction

/-!
# A stream whose scheduler goes on

Between two lines of the input the scheduler of a stream's processor goes on by itself, and the cache may
be another when the next line comes (`LogStream.Takes`). What comes of the lines depends on that: each is
enriched from the cache as it is then. But how the lines are counted, and whether and how the stream fails,
does not depend on it as long as there is room for the output (`Takes.verdict`).
-/

namespace LogTagger.LogStream

variable {L : PatternLanguage} {s s' t : LogStream L} {lines : List (List UInt8)}
  {out : LogStream L × Option StreamError}

/-- The stream with its scheduler moved on. -/
def withScheduler (s : LogStream L) (scheduler : Scheduler) : LogStream L :=
  { s with processor := s.processor.withScheduler scheduler }

/-- A stream takes lines until one fails, and its scheduler may go on before each of them and in the end. -/
inductive Takes : LogStream L → List (List UInt8) → LogStream L × Option StreamError → Prop
  /-- No line is left. -/
  | done (s : LogStream L) : Takes s [] (s, none)
  /-- A line is taken. -/
  | line {s s' : LogStream L} {line : List UInt8} {lines : List (List UInt8)} {out : LogStream L × Option StreamError}
      (taken : s.takeLine line = (s', none)) (later : Takes s' lines out) : Takes s (line :: lines) out
  /-- A line fails. -/
  | fails {s s' : LogStream L} {line : List UInt8} {cause : StreamError}
      (taken : s.takeLine line = (s', some cause)) (lines : List (List UInt8)) :
      Takes s (line :: lines) (s', some cause)
  /-- The scheduler goes on. -/
  | meanwhile {s : LogStream L} {scheduler : Scheduler} {lines : List (List UInt8)}
      {out : LogStream L × Option StreamError} (goesOn : s.processor.scheduler.MovesOn scheduler)
      (later : Takes (s.withScheduler scheduler) lines out) : Takes s lines out

/-- Lines that are taken at once come before the others. -/
theorem Takes.of_takeLines {ended : List (List UInt8)} (h : s.takeLines ended = (s', none))
    (later : Takes s' lines out) : Takes s (ended ++ lines) out := by
  induction ended generalizing s with
  | nil =>
    cases h
    exact later
  | cons first rest ih =>
    rw [takeLines] at h
    split at h
    case h_1 s'' htaken => exact .line htaken (ih h)
    case h_2 s'' cause htaken => cases h

/-- When one of them fails, the others are not taken. -/
theorem Takes.of_takeLines_error {ended : List (List UInt8)} {cause : StreamError}
    (h : s.takeLines ended = (s', some cause)) (lines : List (List UInt8)) :
    Takes s (ended ++ lines) (s', some cause) := by
  induction ended generalizing s with
  | nil => cases h
  | cons first rest ih =>
    rw [takeLines] at h
    split at h
    case h_1 s'' htaken => exact .line htaken (ih h)
    case h_2 s'' cause' htaken =>
      cases h
      exact .fails htaken _

/-! ### What lines do to the processor -/

/-- Nothing but its metrics changes. -/
theorem exists_metrics_takeLine (s : LogStream L) (line : List UInt8) :
    ∃ metrics, (s.takeLine line).1.processor = s.processor.withMetrics metrics := by
  rw [takeLine]
  cases Text.ofOctets? line with
  | none => exact ⟨s.processor.metrics, rfl⟩
  | some text =>
    dsimp only
    split
    case h_1 => exact ⟨s.processor.metrics, rfl⟩
    case h_2 => exact ⟨_, rfl⟩
    case h_3 b _ =>
      rw [pass, Processor.processLogs]
      by_cases hrunning : s.processor.phase = .running
      · simp only [hrunning, if_true, Processor.enrichBatch]
        split
        · exact ⟨_, rfl⟩
        · exact ⟨_, rfl⟩
      · simp only [hrunning, if_false]
        exact ⟨s.processor.metrics, rfl⟩

theorem exists_metrics_takeLines (s : LogStream L) (lines : List (List UInt8)) :
    ∃ metrics, (s.takeLines lines).1.processor = s.processor.withMetrics metrics := by
  induction lines generalizing s with
  | nil => exact ⟨s.processor.metrics, rfl⟩
  | cons line rest ih =>
    obtain ⟨metrics, hline⟩ := s.exists_metrics_takeLine line
    rw [takeLines]
    split
    case h_1 s' htaken =>
      obtain ⟨metrics', hrest⟩ := ih s'
      rw [htaken] at hline
      rw [hrest, hline]
      exact ⟨metrics', rfl⟩
    case h_2 s' cause htaken =>
      rw [htaken] at hline
      exact ⟨metrics, hline⟩

/-! ### What does not depend on the scheduler -/

/-- A stream with a running processor and room for its output. -/
structure Ready (s : LogStream L) : Prop where
  running : s.processor.phase = .running
  room : s.sink.room = none

/-- The lines have been counted in the same way. -/
structure Alike (s t : LogStream L) : Prop where
  left : s.Ready
  right : t.Ready
  stats : s.stats = t.stats

/-- What a line holds has the same effect on the counts, and fails in the same way. -/
theorem Alike.takeInput (h : Alike s t) (input : InputLine) :
    (s.takeInput input).2 = (t.takeInput input).2 ∧ Alike (s.takeInput input).1 (t.takeInput input).1 := by
  cases input with
  | blank => exact ⟨rfl, h⟩
  | malformed =>
    refine ⟨rfl, ⟨h.left.running, h.left.room⟩, ⟨h.right.running, h.right.room⟩, ?_⟩
    simp [LogStream.takeInput, skip, countLine, h.stats]
  | logs b =>
    obtain ⟨hnone, htaken⟩ := pass_taken s h.left.running h.left.room b
    obtain ⟨hnone', htaken'⟩ := pass_taken t h.right.running h.right.room b
    refine ⟨hnone.trans hnone'.symm, ?_, ?_, ?_⟩
    · exact ⟨htaken.phase.trans h.left.running, htaken.room⟩
    · exact ⟨htaken'.phase.trans h.right.running, htaken'.room⟩
    · rw [LogStream.takeInput, LogStream.takeInput, htaken.stats, htaken'.stats, h.stats]

theorem takeLine_of_text {line : List UInt8} {text : String} (h : Text.ofOctets? line = some text) (s : LogStream L) :
    s.takeLine line = s.takeInput (InputLine.ofText text) := by
  simp only [LogStream.takeLine, h]
  cases InputLine.ofText text <;> rfl

/-- So has a line. -/
theorem Alike.takeLine (h : Alike s t) (line : List UInt8) :
    (s.takeLine line).2 = (t.takeLine line).2 ∧ Alike (s.takeLine line).1 (t.takeLine line).1 := by
  cases htext : Text.ofOctets? line with
  | none =>
    rw [LogStream.takeLine, LogStream.takeLine, htext]
    exact ⟨rfl, h⟩
  | some text =>
    rw [takeLine_of_text htext, takeLine_of_text htext]
    exact h.takeInput _

theorem Alike.meanwhile (h : Alike s t) (scheduler : Scheduler) : Alike (s.withScheduler scheduler) t where
  left := ⟨by simp [LogStream.withScheduler, Processor.withScheduler, h.left.running], h.left.room⟩
  right := h.right
  stats := h.stats

/-- **However the scheduler goes on**, the lines are counted as by a stream that takes them at once, and
the stream fails as that one does. -/
theorem Takes.verdict (h : Takes s lines out) (halike : Alike s t) :
    out.2 = (t.takeLines lines).2 ∧ out.1.stats = (t.takeLines lines).1.stats := by
  induction h generalizing t with
  | done s => exact ⟨rfl, halike.stats⟩
  | @line s s' line lines out taken later ih =>
    obtain ⟨hfailure, hnext⟩ := halike.takeLine line
    rw [taken] at hfailure hnext
    have htaken : t.takeLine line = ((t.takeLine line).1, none) := Prod.ext rfl hfailure.symm
    rw [takeLines, htaken]
    exact ih hnext
  | @fails s s' line cause taken lines =>
    obtain ⟨hfailure, hnext⟩ := halike.takeLine line
    rw [taken] at hfailure hnext
    have htaken : t.takeLine line = ((t.takeLine line).1, some cause) := Prod.ext rfl hfailure.symm
    rw [takeLines, htaken]
    exact ⟨rfl, hnext.stats⟩
  | meanwhile goesOn later ih => exact ih (halike.meanwhile _)

end LogTagger.LogStream
