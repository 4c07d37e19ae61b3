import LogTagger.Document
import Mathlib

/-!
# The limit of the size of documents

The size of a body is checked twice: by the length that is declared, if one is, and part by part while it arrives.
Both draw the same line, so it does not matter how a body arrives. A part is appended only if the limit is kept with
it (`Document.gather_eq`), and a run over some parts goes on from what the parts before them have left
(`Document.gather_append`); so nothing beyond the limit is held at any time.

**`Document.size_limited`**: whatever parts a whole body comes in, and whether its length is declared or not, a
successful answer is refused just if the body is larger than the limit, and is decoded as a whole otherwise. The
answers of honest servers are such, in whatever way they mark the end of the body.
-/

namespace LogTagger

/-! ### Parts of a body -/

namespace Http

/-- The parts behind some octets as one body behind them. -/
theorem foldl_append_eq (gathered : ByteArray) (chunks : List ByteArray) :
    chunks.foldl (· ++ ·) gathered = gathered ++ chunks.foldl (· ++ ·) .empty := by
  induction chunks generalizing gathered with
  | nil => exact ByteArray.append_empty.symm
  | cons chunk rest ih =>
    rw [List.foldl_cons, List.foldl_cons, ih, ih (.empty ++ chunk), ByteArray.empty_append, ByteArray.append_assoc]

theorem size_foldl_append (chunks : List ByteArray) :
    (chunks.foldl (· ++ ·) ByteArray.empty).size = (chunks.map ByteArray.size).sum := by
  induction chunks with
  | nil => rfl
  | cons chunk rest ih =>
    rw [List.foldl_cons, foldl_append_eq, ByteArray.size_append, ih, ByteArray.empty_append, List.map_cons,
      List.sum_cons]

/-- The body arrives to its end, and its length, if it is declared, is declared as it is. -/
structure Delivery.Whole (d : Delivery) : Prop where
  complete : d.complete = true
  declared : ∀ n, d.declared = some n → n = d.content.size

/-- A server sends a body to its end and declares its length, if at all, as it is. -/
structure Response.Honest (r : Response) : Prop where
  /-- The status is one with a body. -/
  body : Response.hasBody r.status = true
  length : ∀ n, r.framing = .length n → n = r.content.size
  closed : ∀ closed, r.framing = .chunked closed → closed = true

/-- What an honest server sends arrives as a whole, in whatever way the end is marked. -/
theorem Response.Honest.deliver {r : Response} (h : r.Honest) :
    r.deliver.Whole ∧ r.deliver.status = r.status ∧ r.deliver.content = r.content := by
  rw [Response.deliver, if_pos h.body]
  cases hframing : r.framing with
  | length n =>
    obtain rfl := h.length n hframing
    have hcontent : ([r.content.extract 0 r.content.size].foldl (· ++ ·) ByteArray.empty) = r.content := by
      rw [List.foldl_cons, List.foldl_nil, ByteArray.empty_append, ByteArray.extract_zero_size]
    refine ⟨⟨decide_eq_true (Nat.le_refl _), fun n hn => ?_⟩, rfl, hcontent⟩
    rw [Delivery.content, hcontent]
    exact (Option.some.inj hn).symm
  | chunked closed =>
    obtain rfl := h.closed closed hframing
    exact ⟨⟨rfl, fun n hn => by cases hn⟩, rfl, rfl⟩
  | close => exact ⟨⟨rfl, fun n hn => by cases hn⟩, rfl, ByteArray.empty_append⟩

end Http

/-! ### Gathering them -/

namespace Document

/-- What is gathered is the whole, unless that is too large. -/
theorem gather_eq {limit : Nat} {gathered : ByteArray} (h : gathered.size ≤ limit) (chunks : List ByteArray) :
    gather limit gathered chunks =
      if limit < gathered.size + (chunks.map ByteArray.size).sum then none
      else some (chunks.foldl (· ++ ·) gathered) := by
  induction chunks generalizing gathered with
  | nil => rw [gather, if_neg (by simpa using h)]; rfl
  | cons chunk rest ih =>
    rw [gather, List.map_cons, List.sum_cons, List.foldl_cons]
    by_cases hchunk : limit < gathered.size + chunk.size
    · rw [if_pos hchunk, if_pos (by omega)]
    · have hsize : (gathered ++ chunk).size = gathered.size + chunk.size := ByteArray.size_append
      rw [if_neg hchunk, ih (by omega), hsize, Nat.add_assoc]

/-- The parts are gathered one after the other. -/
theorem gather_append (limit : Nat) (gathered : ByteArray) (seen rest : List ByteArray) :
    gather limit gathered (seen ++ rest) =
      (gather limit gathered seen).bind fun held => gather limit held rest := by
  induction seen generalizing gathered with
  | nil => rfl
  | cons chunk others ih =>
    rw [List.cons_append, gather, gather]
    split
    · rfl
    · exact ih _

/-- What is held after some parts is within the limit, and it is those parts. -/
theorem held_of_gather {limit : Nat} {seen : List ByteArray} {held : ByteArray}
    (h : gather limit .empty seen = some held) : held.size ≤ limit ∧ held = seen.foldl (· ++ ·) .empty := by
  rw [gather_eq (Nat.zero_le limit)] at h
  split at h
  case isTrue => cases h
  case isFalse hsize =>
    obtain rfl := Option.some.inj h
    rw [Http.size_foldl_append]
    exact ⟨by simpa using hsize, rfl⟩

section Taking

variable {reason : ByteArray → String}

theorem ofOctets_ne_tooLarge (limit : Nat) (octets : ByteArray) : ofOctets reason octets ≠ .error (.tooLarge limit) := by
  rw [ofOctets]
  split
  · simp
  · split <;> simp

/-- A whole body is decoded if its size is within the limit, and refused otherwise. -/
theorem ofDelivery_of_whole {d : Http.Delivery} (h : d.Whole) (hsuccess : d.isSuccess = true) (limit : Nat) :
    ofDelivery reason limit d =
      if limit < d.content.size then .error (.tooLarge limit) else ofOctets reason d.content := by
  have hsize : (d.chunks.map ByteArray.size).sum = d.content.size := (Http.size_foldl_append d.chunks).symm
  have hgather : gather limit .empty d.chunks = if limit < d.content.size then none else some d.content := by
    rw [gather_eq (Nat.zero_le limit), hsize, ByteArray.size_empty, Nat.zero_add]
    rfl
  rw [ofDelivery, hsuccess, hgather, h.complete]
  by_cases hlarge : limit < d.content.size
  · -- The declared length may have told so before.
    rw [if_pos hlarge, if_pos hlarge, Bool.not_true, if_neg Bool.false_ne_true, ite_self]
  · have hdeclared : declaresMore limit d.declared = false := by
      rw [declaresMore, Option.any_eq_false]
      intro n hn
      rw [h.declared n hn, decide_eq_false hlarge]
    rw [if_neg hlarge, if_neg hlarge, hdeclared]
    rfl

/-- How an answer whose body arrives as a whole is taken. -/
structure Limited (reason : ByteArray → String) (limit : Nat) (d : Http.Delivery) : Prop where
  /-- Only answers of success count. -/
  status : ¬(200 ≤ d.status ∧ d.status < 300) → ofExchange reason limit (.ok d) = .error (.status d.status)
  /-- The size of the body is that of its parts together. -/
  size : d.content.size = (d.chunks.map ByteArray.size).sum
  /-- The answer is refused just if that is beyond the limit. -/
  tooLarge : 200 ≤ d.status → d.status < 300 →
    (ofExchange reason limit (.ok d) = .error (.tooLarge limit) ↔ limit < d.content.size)
  /-- Otherwise the whole body is decoded. -/
  decoded : 200 ≤ d.status → d.status < 300 → d.content.size ≤ limit →
    ofExchange reason limit (.ok d) = ofOctets reason d.content
  /-- So the answer is taken like any other with this status and this body. -/
  alike : ∀ other : Http.Delivery, other.Whole → other.status = d.status → other.content = d.content →
    ofExchange reason limit (.ok other) = ofExchange reason limit (.ok d)
  /-- What is held after some of the parts is these parts, no more than the limit, and the others are gathered to
  it. -/
  held : ∀ seen rest, d.chunks = seen ++ rest →
    (∀ held, gather limit .empty seen = some held → held.size ≤ limit ∧ held = seen.foldl (· ++ ·) .empty) ∧
      gather limit .empty d.chunks = (gather limit .empty seen).bind fun held => gather limit held rest

theorem isSuccess_eq_true_iff {d : Http.Delivery} : d.isSuccess = true ↔ 200 ≤ d.status ∧ d.status < 300 := by
  simp [Http.Delivery.isSuccess]

theorem ofExchange_of_failure {d : Http.Delivery} (h : d.isSuccess = false) (limit : Nat) :
    ofExchange reason limit (.ok d) = .error (.status d.status) := by
  rw [ofExchange, ofDelivery, h]
  rfl

theorem limited_of_whole {d : Http.Delivery} (h : d.Whole) (limit : Nat) : Limited reason limit d := by
  have hsuccess : 200 ≤ d.status → d.status < 300 → ofExchange reason limit (.ok d) =
      if limit < d.content.size then .error (.tooLarge limit) else ofOctets reason d.content :=
    fun hleast hgreatest => ofDelivery_of_whole h (isSuccess_eq_true_iff.mpr ⟨hleast, hgreatest⟩) limit
  constructor
  case status =>
    intro hstatus
    exact ofExchange_of_failure (Bool.eq_false_iff.mpr fun ht => hstatus (isSuccess_eq_true_iff.mp ht)) limit
  case size => exact Http.size_foldl_append d.chunks
  case tooLarge =>
    intro hleast hgreatest
    rw [hsuccess hleast hgreatest]
    split
    case isTrue hlarge => exact iff_of_true rfl hlarge
    case isFalse hsmall => exact iff_of_false (ofOctets_ne_tooLarge limit _) hsmall
  case decoded =>
    intro hleast hgreatest hsmall
    rw [hsuccess hleast hgreatest, if_neg (Nat.not_lt.mpr hsmall)]
  case alike =>
    intro other hother hstatus hcontent
    have hsame : other.isSuccess = d.isSuccess := by rw [Http.Delivery.isSuccess, Http.Delivery.isSuccess, hstatus]
    cases hd : d.isSuccess with
    | false => rw [ofExchange_of_failure hd, ofExchange_of_failure (hsame.trans hd), hstatus]
    | true =>
      rw [ofExchange, ofExchange, ofDelivery_of_whole h hd, ofDelivery_of_whole hother (hsame.trans hd), hcontent]
  case held =>
    rintro seen rest hchunks
    exact ⟨fun held => held_of_gather, hchunks ▸ gather_append limit .empty seen rest⟩

end Taking

/-- **The limit of the size does not depend on how a body arrives**, and the answers of honest servers arrive
whole. -/
theorem size_limited (reason : ByteArray → String) (limit : Nat) : (∀ d : Http.Delivery, d.Whole → Limited reason limit d) ∧
    ∀ r : Http.Response, r.Honest → r.deliver.Whole ∧ r.deliver.status = r.status ∧ r.deliver.content = r.content :=
  ⟨fun _ h => limited_of_whole h limit, fun _ h => h.deliver⟩

/-- An answer of seven octets in four parts, two of them empty. -/
def fragmented : Http.Response where
  chunks := [.empty, "\x7b\"a\"".toUTF8, .empty, ":1\x7d".toUTF8]
  framing := .chunked true

/-- A body of the greatest size is taken in parts, and one octet more is too much. -/
theorem fragmented_limited : fragmented.Honest ∧ fragmented.content.size = 7 ∧
    ∀ reason, ofExchange reason 6 (.ok fragmented.deliver) = .error (.tooLarge 6) ∧
      ofExchange reason 7 (.ok fragmented.deliver) = ofOctets reason fragmented.content := by
  have hhonest : fragmented.Honest :=
    ⟨rfl, fun _ hlength => Http.Framing.noConfusion hlength,
      fun _ hclosed => (Http.Framing.chunked.inj hclosed).symm⟩
  have hsize : fragmented.content.size = 7 := by decide +kernel
  refine ⟨hhonest, hsize, fun reason => ?_⟩
  obtain ⟨hwhole, hstatus, hcontent⟩ := (size_limited reason 7).2 fragmented hhonest
  have hsmaller := (size_limited reason 6).1 fragmented.deliver hwhole
  have hexact := (size_limited reason 7).1 fragmented.deliver hwhole
  constructor
  · refine (hsmaller.tooLarge (by decide) (by decide)).mpr ?_
    rw [hcontent, hsize]
    decide
  · rw [hexact.decoded (by decide) (by decide) (by rw [hcontent, hsize]), hcontent]

end Document

end LogTagger
