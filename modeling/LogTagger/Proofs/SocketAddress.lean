import LogTagger.Proofs.Json.Numbers
import LogTagger.SocketAddress

/-!
# Addresses with and without a port

The listener of the metrics puts a colon and the port behind the text of an address and reads what comes
out as a socket address. `Host` is an address without a port, and `Host.ofText?` reads one: four decimal
numbers, or groups in brackets. **`ofText?_append_port`** says that the one reading succeeds where the other
does, whatever the text is and whatever the port, and that nothing but the port is added to the address. So
neither a name nor groups without brackets, nor an address that has a port already, ever becomes a socket
address.

The reason is that the readers stop in front of what is put behind the text (`StopsAt`): a reader of decimal
numbers in front of the colon, a reader of groups, for which a colon means something, in front of the bracket.
-/

namespace LogTagger

open Text (digitValue? numeral? numeral decimal)

namespace SocketAddress

/-! ### Readers that stop -/

/-- A reader stops in front of a character: what stands from there on makes no difference to what it reads, and
what it leaves is the end of the text. -/
structure StopsAt {α : Type} (stop : Char) (read : List Char → Option (α × List Char)) : Prop where
  /-- What stands behind is left. -/
  append : ∀ s t, read (s ++ stop :: t) = (read s).map fun r => (r.1, r.2 ++ stop :: t)
  /-- Nothing else is left. -/
  suffix : ∀ s a rest, read s = some (a, rest) → rest <:+ s

section StopsAt

variable {α β : Type} {mark stop : Char} {read : List Char → Option (α × List Char)}

/-- Whether a text begins with a mark does not depend on what stands behind the text. -/
theorem after?_append_of_ne_nil {s : List Char} (h : s ≠ []) (t : List Char) :
    after? mark (s ++ t) = (after? mark s).map (· ++ t) := by
  obtain ⟨c, s, rfl⟩ := List.exists_cons_of_ne_nil h
  by_cases hc : mark = c <;> simp [after?, hc]

/-- Nor does it if another character follows. -/
theorem after?_append (hmark : mark ≠ stop) (s t : List Char) :
    after? mark (s ++ stop :: t) = (after? mark s).map (· ++ stop :: t) := by
  cases s with
  | nil => simp [after?, hmark]
  | cons c s => exact after?_append_of_ne_nil (List.cons_ne_nil c s) _

theorem eq_cons_of_after? {s rest : List Char} (h : after? mark s = some rest) : s = mark :: rest := by
  cases s with
  | nil => cases h
  | cons c s =>
    by_cases hc : mark = c
    · simpa [after?, hc] using h
    · simp [after?, hc] at h

theorem after?_of_not_mem {s : List Char} (h : mark ∉ s) : after? mark s = none := by
  cases hafter : after? mark s with
  | none => rfl
  | some rest => exact absurd (eq_cons_of_after? hafter ▸ List.mem_cons_self) h

/-- One reader after the other. -/
theorem StopsAt.bind (h : StopsAt stop read) {later : α → List Char → Option (β × List Char)}
    (hlater : ∀ a, StopsAt stop (later a)) : StopsAt stop fun s => (read s).bind fun r => later r.1 r.2 where
  append s t := by
    simp only [h.append]
    cases read s with
    | none => rfl
    | some r => exact (hlater r.1).append r.2 t
  suffix s b rest hs := by
    obtain ⟨r, hr, hrest⟩ := Option.bind_eq_some_iff.mp hs
    exact ((hlater r.1).suffix _ _ _ hrest).trans (h.suffix _ _ _ hr)

theorem StopsAt.map (h : StopsAt stop read) (f : α → β) :
    StopsAt stop fun s => (read s).map fun r => (f r.1, r.2) where
  append s t := by
    simp only [h.append]
    cases read s <;> rfl
  suffix s b rest hs := by
    obtain ⟨r, hr, hrest⟩ := Option.map_eq_some_iff.mp hs
    cases hrest
    exact h.suffix _ _ _ hr

/-- Behind a mark. -/
theorem StopsAt.after (h : StopsAt stop read) (hmark : mark ≠ stop) :
    StopsAt stop fun s => (after? mark s).bind read where
  append s t := by
    simp only [after?_append hmark]
    cases after? mark s with
    | none => rfl
    | some rest => exact h.append rest t
  suffix s a rest hs := by
    obtain ⟨behind, hbehind, hread⟩ := Option.bind_eq_some_iff.mp hs
    rw [eq_cons_of_after? hbehind]
    exact (h.suffix behind a rest hread).trans (List.suffix_cons mark behind)

end StopsAt

/-! ### Numbers -/

section Numbers

variable {base greatest : Nat} {zeros : Bool} {stop : Char}

theorem takeWhile_append_cons {p : Char → Bool} (h : p stop = false) (s t : List Char) :
    (s ++ stop :: t).takeWhile p = s.takeWhile p := by
  induction s with
  | nil => simp [h]
  | cons c s ih => simp only [List.cons_append, List.takeWhile_cons, ih]

/-- How many digits are allowed makes no difference where the text is not longer. -/
theorem number?_of_length_le {width width' : Nat} {s : List Char} (h : s.length ≤ width) (h' : s.length ≤ width') :
    number? base width greatest zeros s = number? base width' greatest zeros s := by
  have hlength := (List.takeWhile_sublist (fun c => (digitValue? base c).isSome) (l := s)).length_le
  have hwide : ∀ w, s.length ≤ w → ¬ w < (s.takeWhile fun c => (digitValue? base c).isSome).length :=
    fun w hw => Nat.not_lt.mpr (Nat.le_trans hlength hw)
  simp only [number?, hwide width h, hwide width' h']

theorem stopsAt_number? (width : Nat) (h : digitValue? base stop = none) :
    StopsAt stop (number? base width greatest zeros) where
  append s t := by
    have hdigit : (digitValue? base stop).isSome = false := by rw [h, Option.isSome_none]
    have htake := takeWhile_append_cons (p := fun c => (digitValue? base c).isSome) hdigit s t
    have hlength := (List.takeWhile_sublist (fun c => (digitValue? base c).isSome) (l := s)).length_le
    simp only [number?, htake, List.drop_append_of_le_length hlength]
    split
    · rfl
    · cases numeral? base (s.takeWhile fun c => (digitValue? base c).isSome) with
      | none => rfl
      | some n =>
        rw [Option.bind_some, Option.bind_some]
        split <;> rfl
  suffix s n rest hs := by
    simp only [number?] at hs
    split at hs
    · cases hs
    · obtain ⟨n', -, hn⟩ := Option.bind_eq_some_iff.mp hs
      split at hn
      · cases hn
        exact List.drop_suffix _ s
      · cases hn

/-- A number with as many digits as there are. -/
theorem stopsAt_number?_length (h : digitValue? base stop = none) :
    StopsAt stop fun s => number? base s.length greatest zeros s where
  append s t := by
    have hlength : s.length ≤ (s ++ stop :: t).length := by simp
    rw [(stopsAt_number? _ h).append, number?_of_length_le hlength (Nat.le_refl _)]
  suffix s _ _ hs := (stopsAt_number? s.length h).suffix s _ _ hs

end Numbers

/-! ### Addresses -/

section Addresses

variable {stop : Char}

theorem stopsAt_octet? (h : digitValue? 10 stop = none) : StopsAt stop octet? :=
  (stopsAt_number? 3 h).map UInt8.ofNat

theorem octets?_eq (s : List Char) : octets? s =
    (octet? s).bind fun a => ((after? '.' a.2).bind octet?).bind fun b => ((after? '.' b.2).bind octet?).bind fun c =>
      ((after? '.' c.2).bind octet?).map fun d => (#v[a.1, b.1, c.1, d.1], d.2) := by
  simp only [octets?, Option.bind_assoc, Option.map_eq_bind, Option.bind_eq_bind, Function.comp_def]
  rfl

theorem stopsAt_octets? (h : digitValue? 10 stop = none) (hpoint : '.' ≠ stop) : StopsAt stop octets? := by
  have hoctet := stopsAt_octet? h
  have hdotted := hoctet.after hpoint
  rw [funext octets?_eq]
  exact hoctet.bind fun a => hdotted.bind fun b => hdotted.bind fun c => hdotted.map fun d => #v[a, b, c, d]

/-- Where the next group stands. -/
def lead (first : Bool) (s : List Char) : Option (List Char) := if first then some s else after? ':' s

theorem lead_append (hcolon : ':' ≠ stop) (first : Bool) (s t : List Char) :
    lead first (s ++ stop :: t) = (lead first s).map (· ++ stop :: t) := by
  cases first with
  | true => rfl
  | false => exact after?_append hcolon s t

theorem lead_suffix {first : Bool} {s rest : List Char} (h : lead first s = some rest) : rest <:+ s := by
  cases first with
  | true =>
    cases h
    exact List.suffix_refl s
  | false => exact eq_cons_of_after? h ▸ List.suffix_cons ':' rest

/-- Where four decimal numbers may end the groups. -/
def mixed? (limit : Nat) (s : List Char) : Option (Vector UInt8 4 × List Char) := if limit = 0 then none else octets? s

theorem groups_of_no_lead {limit : Nat} {first : Bool} {s : List Char} (h : lead first s = none) :
    groups (limit + 1) first s = ([], false, s) := by
  rw [lead] at h
  simp only [groups, h]

theorem groups_of_mixed {limit : Nat} {first : Bool} {s s' : List Char} {o : Vector UInt8 4} {rest : List Char}
    (hlead : lead first s = some s') (h : mixed? limit s' = some (o, rest)) :
    groups (limit + 1) first s =
      ([joinOctets (o.get 0) (o.get 1), joinOctets (o.get 2) (o.get 3)], true, rest) := by
  rw [lead] at hlead
  rw [mixed?] at h
  simp only [groups, hlead, h]
  rfl

theorem groups_of_number {limit : Nat} {first : Bool} {s s' rest : List Char} {n : Nat}
    (hlead : lead first s = some s') (hmixed : mixed? limit s' = none)
    (h : number? 16 4 0xFFFF true s' = some (n, rest)) :
    groups (limit + 1) first s =
      (UInt16.ofNat n :: (groups limit false rest).1, (groups limit false rest).2.1,
        (groups limit false rest).2.2) := by
  rw [lead] at hlead
  rw [mixed?] at hmixed
  simp only [groups, hlead, hmixed, h]

theorem groups_of_no_number {limit : Nat} {first : Bool} {s s' : List Char} (hlead : lead first s = some s')
    (hmixed : mixed? limit s' = none) (h : number? 16 4 0xFFFF true s' = none) :
    groups (limit + 1) first s = ([], false, s) := by
  rw [lead] at hlead
  rw [mixed?] at hmixed
  simp only [groups, hlead, hmixed, h]

/-- A character at which readers of groups stop: it is no digit, no point and no colon. -/
structure EndsGroups (stop : Char) : Prop where
  decimal : digitValue? 10 stop = none
  hexadecimal : digitValue? 16 stop = none
  point : '.' ≠ stop
  colon : ':' ≠ stop

theorem endsGroups_bracket : EndsGroups ']' := by
  constructor <;> decide

theorem stopsAt_mixed? (h : EndsGroups stop) (limit : Nat) : StopsAt stop (mixed? limit) := by
  by_cases hlimit : limit = 0
  · have hnone : mixed? limit = fun _ => none := by
      funext s
      rw [mixed?, if_pos hlimit]
    rw [hnone]
    exact ⟨fun _ _ => rfl, fun _ _ _ hs => by cases hs⟩
  · have hoctets : mixed? limit = octets? := by
      funext s
      rw [mixed?, if_neg hlimit]
    rw [hoctets]
    exact stopsAt_octets? h.decimal h.point

theorem groups_append (h : EndsGroups stop) (limit : Nat) (first : Bool) (s t : List Char) :
    groups limit first (s ++ stop :: t) =
      ((groups limit first s).1, (groups limit first s).2.1, (groups limit first s).2.2 ++ stop :: t) := by
  induction limit generalizing first s with
  | zero => rfl
  | succ limit ih =>
    have hlead := lead_append h.colon first s t
    cases hs : lead first s with
    | none =>
      rw [hs] at hlead
      rw [groups_of_no_lead hlead, groups_of_no_lead hs]
    | some s' =>
      rw [hs, Option.map_some] at hlead
      have hmixed := (stopsAt_mixed? h limit).append s' t
      cases hm : mixed? limit s' with
      | some r =>
        rw [hm, Option.map_some] at hmixed
        rw [groups_of_mixed hlead hmixed, groups_of_mixed hs hm]
      | none =>
        rw [hm, Option.map_none] at hmixed
        have hnumber : number? 16 4 0xFFFF true (s' ++ stop :: t) = _ :=
          (stopsAt_number? 4 h.hexadecimal).append s' t
        cases hn : number? 16 4 0xFFFF true s' with
        | none =>
          rw [hn, Option.map_none] at hnumber
          rw [groups_of_no_number hlead hmixed hnumber, groups_of_no_number hs hm hn]
        | some r =>
          rw [hn, Option.map_some] at hnumber
          rw [groups_of_number hlead hmixed hnumber, groups_of_number hs hm hn, ih]

theorem groups_suffix (h : EndsGroups stop) (limit : Nat) (first : Bool) (s : List Char) :
    (groups limit first s).2.2 <:+ s := by
  induction limit generalizing first s with
  | zero => exact List.suffix_refl s
  | succ limit ih =>
    cases hlead : lead first s with
    | none =>
      rw [groups_of_no_lead hlead]
    | some s' =>
      cases hmixed : mixed? limit s' with
      | some r =>
        rw [groups_of_mixed hlead hmixed]
        exact ((stopsAt_mixed? h limit).suffix _ _ _ hmixed).trans (lead_suffix hlead)
      | none =>
        cases hnumber : number? 16 4 0xFFFF true s' with
        | none =>
          rw [groups_of_no_number hlead hmixed hnumber]
        | some r =>
          rw [groups_of_number hlead hmixed hnumber]
          have hrest := (stopsAt_number? 4 h.hexadecimal).suffix _ _ _ hnumber
          exact ((ih false r.2).trans hrest).trans (lead_suffix hlead)

/-- The groups behind those that are left out, when so many stand in front. -/
def tail? (head : List UInt16) (s : List Char) : Option (Vector UInt16 8 × List Char) :=
  (eight? (head ++ List.replicate (8 - head.length - (groups (7 - head.length) true s).1.length) 0 ++
    (groups (7 - head.length) true s).1)).bind fun gs => some (gs, (groups (7 - head.length) true s).2.2)

theorem stopsAt_tail? (h : EndsGroups stop) (head : List UInt16) : StopsAt stop (tail? head) where
  append s t := by
    simp only [tail?, groups_append h]
    cases eight? _ <;> rfl
  suffix s gs rest hs := by
    obtain ⟨gs', -, hrest⟩ := Option.bind_eq_some_iff.mp hs
    cases hrest
    exact groups_suffix h _ true s

theorem address?_eq (s : List Char) : address? s =
    match eight? (groups 8 true s).1 with
    | some gs => some (gs, (groups 8 true s).2.2)
    | none =>
      if (groups 8 true s).2.1 then none
      else (after? ':' (groups 8 true s).2.2).bind fun rest => (after? ':' rest).bind (tail? (groups 8 true s).1) := by
  rw [address?]
  rcases groups 8 true s with ⟨head, mixed, rest⟩
  dsimp only
  cases eight? head with
  | some gs => rfl
  | none =>
    cases mixed with
    | true => rfl
    | false =>
      cases after? ':' rest with
      | none => rfl
      | some rest' => rfl

theorem stopsAt_address? (h : EndsGroups stop) : StopsAt stop address? where
  append s t := by
    rw [address?_eq, address?_eq, groups_append h]
    cases eight? (groups 8 true s).1 with
    | some gs => rfl
    | none =>
      simp only
      split
      · rfl
      · exact (((stopsAt_tail? h _).after h.colon).after h.colon).append _ t
  suffix s gs rest hs := by
    rw [address?_eq] at hs
    have hgroups := groups_suffix h 8 true s
    cases height : eight? (groups 8 true s).1 with
    | some gs =>
      simp only [height, Option.some.injEq, Prod.mk.injEq] at hs
      exact hs.2 ▸ hgroups
    | none =>
      simp only [height] at hs
      split at hs
      · cases hs
      · exact ((((stopsAt_tail? h _).after h.colon).after h.colon).suffix _ _ _ hs).trans hgroups

theorem stopsAt_scope? (h : EndsGroups stop) (hpercent : '%' ≠ stop) : StopsAt stop scope? := by
  have hnumber : StopsAt stop fun s => (number? 10 s.length (UInt32.size - 1) true s).map fun r =>
      (UInt32.ofNat r.1, r.2) := (stopsAt_number?_length h.decimal).map UInt32.ofNat
  have hmark := hnumber.after hpercent
  constructor
  · intro s t
    cases s with
    | nil => simp [scope?, hpercent.symm]
    | cons c s =>
      by_cases hc : '%' = c
      · subst hc
        exact hnumber.append s t
      · have hc' : c ≠ '%' := fun h => hc h.symm
        simp [scope?, hc']
  · intro s a rest hs
    rw [scope?.eq_def] at hs
    split at hs
    · exact (hnumber.suffix _ _ _ hs).trans (List.suffix_cons _ _)
    · cases hs
      exact List.suffix_refl s

/-- Groups with their scope. -/
def scoped? (s : List Char) : Option ((Vector UInt16 8 × UInt32) × List Char) :=
  (address? s).bind fun a => (scope? a.2).map fun b => ((a.1, b.1), b.2)

theorem stopsAt_scoped? (h : EndsGroups stop) (hpercent : '%' ≠ stop) : StopsAt stop scoped? :=
  (stopsAt_address? h).bind fun gs => (stopsAt_scope? h hpercent).map fun scope => (gs, scope)

/-- Groups with their scope and the closing bracket. -/
def bracketed? (s : List Char) : Option ((Vector UInt16 8 × UInt32) × List Char) :=
  (scoped? s).bind fun a => (after? ']' a.2).map fun rest => (a.1, rest)

theorem bracketed?_of_not_mem {s : List Char} (h : ']' ∉ s) : bracketed? s = none := by
  rw [bracketed?]
  cases hscoped : scoped? s with
  | none => rfl
  | some a =>
    have hsuffix := (stopsAt_scoped? endsGroups_bracket (by decide)).suffix _ _ _ hscoped
    have hrest : ']' ∉ a.2 := fun hmem => h (hsuffix.subset hmem)
    rw [Option.bind_some, after?_of_not_mem hrest, Option.map_none]

/-- What stands behind the text makes no difference, unless there is a closing bracket in it. -/
theorem bracketed?_append {t : List Char} (h : ']' ∉ t) (s : List Char) :
    bracketed? (s ++ t) = (bracketed? s).map fun r => (r.1, r.2 ++ t) := by
  by_cases hs : ']' ∈ s
  · obtain ⟨body, tail, rfl, -⟩ := List.eq_append_cons_of_mem hs
    have hstops := stopsAt_scoped? endsGroups_bracket (by decide)
    rw [List.append_assoc, List.cons_append, bracketed?, bracketed?, hstops.append, hstops.append]
    cases scoped? body with
    | none => rfl
    | some a =>
      -- Behind the groups there is still the bracket at least, so whether one follows them is decided there.
      have hne : a.2 ++ ']' :: tail ≠ [] := by simp
      have hafter : after? ']' (a.2 ++ ']' :: tail ++ t) = _ := after?_append_of_ne_nil hne t
      simp only [List.append_assoc, List.cons_append] at hafter
      simp only [Option.map_some, Option.bind_some, hafter, Option.map_map, Function.comp_def]
  · have hst : ']' ∉ s ++ t := by simp [hs, h]
    rw [bracketed?_of_not_mem hst, bracketed?_of_not_mem hs]
    rfl

end Addresses

/-! ### Ports -/

theorem digitValue?_of_isDigit {c : Char} (h : c.isDigit = true) : digitValue? 10 c = some (c.toNat - '0'.toNat) := by
  have hc : '0' ≤ c ∧ c ≤ '9' := by
    simp only [Char.isDigit, Bool.and_eq_true, decide_eq_true_eq] at h
    exact h
  have hlt : c.toNat - '0'.toNat < 10 := by
    have hle : c.toNat ≤ '9'.toNat := hc.2
    simp only [Char.reduceToNat] at hle ⊢
    omega
  simpa [digitValue?, Text.hexValue?, hc] using hlt

theorem mapM_eq_map {α β : Type} {f : α → Option β} {g : α → β} {l : List α} (h : ∀ a ∈ l, f a = some (g a)) :
    l.mapM f = some (l.map g) := by
  induction l with
  | nil => rfl
  | cons a l ih =>
    rw [List.forall_mem_cons] at h
    simp [List.mapM_cons, h.1, ih h.2]

/-- A number is read from its digits. -/
theorem number?_toDigits {width n greatest : Nat} (hwidth : (Nat.toDigits 10 n).length ≤ width) (h : n ≤ greatest) :
    number? 10 width greatest true (Nat.toDigits 10 n) = some (n, []) := by
  have hdigit : ∀ c ∈ Nat.toDigits 10 n, c.isDigit = true := fun c hc =>
    Nat.isDigit_of_mem_toDigits (by decide) (by decide) hc
  have htake : (Nat.toDigits 10 n).takeWhile (fun c => (digitValue? 10 c).isSome) = Nat.toDigits 10 n := by
    rw [List.takeWhile_eq_self_iff]
    intro c hc
    rw [digitValue?_of_isDigit (hdigit c hc)]
    rfl
  have hmap : (Nat.toDigits 10 n).mapM (digitValue? 10) =
      some ((Nat.toDigits 10 n).map fun c => c.toNat - '0'.toNat) :=
    mapM_eq_map fun c hc => digitValue?_of_isDigit (hdigit c hc)
  have hnumeral : numeral? 10 (Nat.toDigits 10 n) = some n := by
    have hdecimal := Json.Reader.decimal_toDigits n
    rw [decimal] at hdecimal
    rw [numeral?, if_neg (by simp [Nat.toDigits_ne_nil]), hmap, Option.map_some, hdecimal]
  simp [number?, htake, hnumeral, h, Nat.not_lt.mpr hwidth]

/-- A port is read where nothing stands in front of its colon. -/
theorem port?_append (rest : List Char) (port : UInt16) :
    port? (rest ++ ':' :: Nat.toDigits 10 port.toNat) = if rest.isEmpty then some port else none := by
  cases rest with
  | nil =>
    have hport : port.toNat ≤ 65535 := Nat.le_of_lt_succ port.toNat_lt
    have hnumber := number?_toDigits (Nat.le_succ (Nat.toDigits 10 port.toNat).length) hport
    simp [port?, after?, hnumber]
  | cons c rest =>
    by_cases hc : ':' = c
    · subst hc
      have hnumber : StopsAt ':' (number? 10 (':' :: (rest ++ ':' :: Nat.toDigits 10 port.toNat)).length 65535 true) :=
        stopsAt_number? _ (by decide)
      simp only [List.cons_append, port?, after?, if_true, Option.bind_some, Option.bind_eq_bind, hnumber.append]
      cases number? 10 _ 65535 true rest with
      | none => rfl
      | some r => simp
    · simp [port?, after?, hc]

end SocketAddress

/-! ### Addresses without a port -/

/-- An address without a port. -/
inductive Host where
  /-- Four octets. -/
  | v4 (octets : Vector UInt8 4)
  /-- Eight groups of sixteen bits, and the scope. -/
  | v6 (groups : Vector UInt16 8) (scope : UInt32)
  deriving DecidableEq

namespace Host

/-- The address with a port. -/
def withPort (port : UInt16) : Host → SocketAddress
  | v4 octets => .v4 octets port
  | v6 groups scope => .v6 groups scope port

/-- The address that a text writes: four decimal numbers, or groups in brackets. -/
def ofText? (s : String) : Option Host :=
  match s.toList with
  | '[' :: rest =>
    (SocketAddress.bracketed? rest).bind fun a => if a.2.isEmpty then some (.v6 a.1.1 a.1.2) else none
  | cs => (SocketAddress.octets? cs).bind fun o => if o.2.isEmpty then some (.v4 o.1) else none

theorem ofText?_of_bracket {s : String} {rest : List Char} (h : s.toList = '[' :: rest) : ofText? s =
    (SocketAddress.bracketed? rest).bind fun a => if a.2.isEmpty then some (.v6 a.1.1 a.1.2) else none := by
  simp only [ofText?, h]

theorem ofText?_of_no_bracket {s : String} (h : ∀ rest, s.toList ≠ '[' :: rest) : ofText? s =
    (SocketAddress.octets? s.toList).bind fun o => if o.2.isEmpty then some (.v4 o.1) else none := by
  rw [ofText?]
  split
  case h_1 rest hs => exact absurd hs (h rest)
  case h_2 => rfl

end Host

namespace SocketAddress

theorem ofText?_of_bracket {s : String} {rest : List Char} (h : s.toList = '[' :: rest) :
    ofText? s = (bracketed? rest).bind fun a => (port? a.2).map fun p => .v6 a.1.1 a.1.2 p := by
  simp only [ofText?, h, bracketed?, scoped?, Option.bind_assoc, Option.map_eq_bind, Option.bind_eq_bind,
    Option.bind_some, Function.comp_def]
  rfl

theorem ofText?_of_no_bracket {s : String} (h : ∀ rest, s.toList ≠ '[' :: rest) :
    ofText? s = (octets? s.toList).bind fun o => (port? o.2).map fun p => .v4 o.1 p := by
  rw [ofText?]
  split
  case h_1 rest hs => exact absurd hs (h rest)
  case h_2 =>
    simp only [Option.map_eq_bind]
    rfl

/-- **With a colon and a port behind it, the text of an address is that of a socket address**, and no other text is. -/
theorem ofText?_append_port (s : String) (port : UInt16) :
    ofText? (s ++ ":" ++ toString port.toNat) = (Host.ofText? s).map (·.withPort port) := by
  have hlist : (s ++ ":" ++ toString port.toNat).toList = s.toList ++ ':' :: Nat.toDigits 10 port.toNat := by
    simp [Nat.repr]
  have hbracket : ']' ∉ ':' :: Nat.toDigits 10 port.toNat := by
    rw [List.mem_cons, not_or]
    refine ⟨by decide, fun hmem => ?_⟩
    have hdigit := Nat.isDigit_of_mem_toDigits (by decide) (by decide) hmem
    cases hdigit
  have hoctets : StopsAt ':' octets? := stopsAt_octets? (by decide) (by decide)
  -- In front of the colon the groups are read up to their bracket, and the four numbers up to the colon itself.
  have hv6 : ∀ rest, (bracketed? (rest ++ ':' :: Nat.toDigits 10 port.toNat)).bind (fun a =>
      (port? a.2).map fun p => v6 a.1.1 a.1.2 p) = ((bracketed? rest).bind fun a =>
        if a.2.isEmpty then some (Host.v6 a.1.1 a.1.2) else none).map (·.withPort port) := by
    intro rest
    rw [bracketed?_append hbracket]
    cases bracketed? rest with
    | none => rfl
    | some a =>
      simp only [Option.map_some, Option.bind_some, port?_append]
      split <;> rfl
  have hv4 : ∀ cs, (octets? (cs ++ ':' :: Nat.toDigits 10 port.toNat)).bind (fun o =>
      (port? o.2).map fun p => v4 o.1 p) = ((octets? cs).bind fun o =>
        if o.2.isEmpty then some (Host.v4 o.1) else none).map (·.withPort port) := by
    intro cs
    rw [hoctets.append]
    cases octets? cs with
    | none => rfl
    | some o =>
      simp only [Option.map_some, Option.bind_some, port?_append]
      split <;> rfl
  by_cases hs : ∃ rest, s.toList = '[' :: rest
  · obtain ⟨rest, hs⟩ := hs
    have hfull : (s ++ ":" ++ toString port.toNat).toList = '[' :: (rest ++ ':' :: Nat.toDigits 10 port.toNat) := by
      rw [hlist, hs, List.cons_append]
    rw [ofText?_of_bracket hfull, Host.ofText?_of_bracket hs]
    exact hv6 rest
  · have hfull : ∀ rest, (s ++ ":" ++ toString port.toNat).toList ≠ '[' :: rest := by
      intro rest h
      rw [hlist] at h
      cases hcs : s.toList with
      | nil => rw [hcs] at h; cases h
      | cons c cs =>
        rw [hcs, List.cons_append, List.cons.injEq] at h
        exact hs ⟨cs, by rw [hcs, h.1]⟩
    rw [ofText?_of_no_bracket hfull, Host.ofText?_of_no_bracket fun rest h => hs ⟨rest, h⟩, hlist]
    exact hv4 s.toList

example : ofText? "[::1]:9464" = some (.v6 #v[0, 0, 0, 0, 0, 0, 0, 1] 0 9464) := by decide

end SocketAddress

end LogTagger
