import Mathlib.Algebra.BigOperators.Group.List.Basic
import Mathlib.Algebra.Ring.Nat
import NestedSession.Proofs.Capture.Decoding
import NestedSession.Proofs.Capture.Growth

/-!
# Proofs/Capture/Readings — every read of a drain is accounted for

One read of an output gives octets, the end or a fault (`reading`), and a drain is a number of such
reads: it makes them until one tells it to stop or it has read enough, and makes no further one
(`Halted`).  What the reads gave decides all of it: the buffer, the status, and what stays unread
(`Buffer.drain_eq`).

Drain after drain takes an output to its end.  Each drain in front of the end reads enough, or uses
up one fault that says to wait, or is the one that reaches the end (`Buffer.drain_advances`).
-/

namespace NestedSession

/-! ## One read -/

/-- What one read gives. -/
inductive OneRead where
  /-- Some octets. -/
  | got (bs : Octets)
  /-- The end. -/
  | ended
  /-- A fault. -/
  | failed (fault : Fault)
  deriving DecidableEq

/-- The octets of a read. -/
def OneRead.octets : OneRead → Octets
  | got bs => bs
  | _ => []

/-- Whether no further read is made after this one.  An interrupted read is made again. -/
def OneRead.stops : OneRead → Bool
  | got _ => false
  | ended => true
  | failed fault => !fault.isInterrupted

/-- **One read**: what it gives, and what is there for the next.  Where nothing is there, there is
nothing yet. -/
def reading : List Piece → OneRead × List Piece
  | [] => (.failed (.plain .wouldBlock), [])
  | .ended :: rest => (.ended, .ended :: rest)
  | .failed fault :: rest => (.failed fault, rest)
  | .octets bs :: rest =>
    if bs = [] then reading rest
    else if bs.length ≤ chunkSize then (.got bs, rest)
    else (.got (bs.take chunkSize), .octets (bs.drop chunkSize) :: rest)

/-- **So many reads**, one after another: what they give, and what is there for the next. -/
def readings (pieces : List Piece) : ℕ → List OneRead × List Piece
  | 0 => ([], pieces)
  | n + 1 =>
    let next := readings (reading pieces).2 n
    ((reading pieces).1 :: next.1, next.2)

/-- The octets that reads gave. -/
def octetsRead (rs : List OneRead) : Octets := rs.flatMap OneRead.octets

@[simp] theorem octetsRead_nil : octetsRead [] = [] := rfl

@[simp] theorem octetsRead_cons (r : OneRead) (rs : List OneRead) :
    octetsRead (r :: rs) = r.octets ++ octetsRead rs := List.flatMap_cons

/-- **No further read is made**: enough was read, or the last read says to stop. -/
def Halted (total : ℕ) (rs : List OneRead) : Prop :=
  drainLimit ≤ total + (octetsRead rs).length ∨ ∃ r ∈ rs.getLast?, r.stops

/-- The reads after one that does not stop halt as they do by themselves. -/
theorem halted_cons {total : ℕ} {r : OneRead} {rs : List OneRead} (goes : r.stops = false) :
    Halted total (r :: rs) ↔ Halted (total + r.octets.length) rs := by
  unfold Halted
  rw [octetsRead_cons, List.length_append, Nat.add_assoc]
  cases rs with
  | nil => simp [goes]
  | cons r' rs => rw [List.getLast?_cons_cons]

/-- **The reads of one drain**: they halt, and none is made after some that halt. -/
structure Made (total : ℕ) (rs : List OneRead) : Prop where
  halted : Halted total rs
  needed : ∀ front r back, rs = front ++ r :: back → ¬ Halted total front

namespace Made

variable {total : ℕ} {r : OneRead} {rs : List OneRead}

theorem nil (enough : drainLimit ≤ total) : Made total [] :=
  ⟨.inl enough, fun front r back h => by simp at h⟩

theorem last (more : total < drainLimit) (stops : r.stops = true) : Made total [r] := by
  refine ⟨.inr ⟨r, rfl, stops⟩, fun front r' back h => ?_⟩
  obtain ⟨rfl, -⟩ | ⟨front', -, h⟩ := List.cons_eq_append_iff.mp h
  · simpa [Halted] using more
  · simp at h

theorem cons (more : total < drainLimit) (goes : r.stops = false)
    (h : Made (total + r.octets.length) rs) : Made total (r :: rs) := by
  refine ⟨(halted_cons goes).mpr h.halted, fun front r' back eq => ?_⟩
  obtain ⟨rfl, -⟩ | ⟨front', rfl, eq⟩ := List.cons_eq_append_iff.mp eq
  · simpa [Halted] using more
  · exact fun halted => h.needed front' r' back (List.cons.inj eq).2 ((halted_cons goes).mp halted)

theorem ne_nil (more : total < drainLimit) (h : Made total rs) : rs ≠ [] := by
  rintro rfl
  have enough : drainLimit ≤ total := by simpa [Halted] using h.halted
  omega

/-- Only the last read says to stop. -/
theorem getLast?_of_stops (h : Made total rs) (mem : r ∈ rs) (stops : r.stops = true) :
    rs.getLast? = some r := by
  obtain ⟨front, back, rfl⟩ := List.append_of_mem mem
  cases back with
  | nil => simp
  | cons r' back =>
    exact absurd (.inr ⟨r, by simp, stops⟩) (h.needed (front ++ [r]) r' back (by simp))

end Made

/-- **What a drain comes to** that made such reads and left such pieces. -/
def Buffer.account (b : Buffer) (total : ℕ) (rs : List OneRead) (unread : List Piece) : Drained :=
  let all := b.push (octetsRead rs)
  let count := total + (octetsRead rs).length
  match rs.getLast? with
  | some .ended => ⟨.ok (if count = 0 then .closed else .data count), all.close, unread⟩
  | some (.failed fault) =>
    ⟨if fault.isInterrupted || fault.isWouldBlock then .ok (.after count) else .error fault,
      all, unread⟩
  | _ => ⟨.ok (.after count), all, unread⟩

/-- A read that does not stop only adds its octets. -/
theorem Buffer.account_cons (b : Buffer) (total : ℕ) {r : OneRead} (rs : List OneRead)
    (unread : List Piece) (goes : r.stops = false) :
    b.account total (r :: rs) unread
      = (b.push r.octets).account (total + r.octets.length) rs unread := by
  unfold account
  rw [octetsRead_cons, List.length_append, ← Nat.add_assoc, Buffer.push_append]
  cases rs with
  | nil =>
    cases r with
    | got bs => rfl
    | ended => cases goes
    | failed fault => simp_all [OneRead.stops]
  | cons r' rs => rw [List.getLast?_cons_cons]

/-- **A drain is its reads.** -/
theorem Buffer.drain_eq (b : Buffer) (total : ℕ) (pieces : List Piece) :
    ∃ n, Made total (readings pieces n).1
      ∧ b.drain total pieces = b.account total (readings pieces n).1 (readings pieces n).2 := by
  fun_induction Buffer.drain b total pieces with
  | case1 b total pieces enough => exact ⟨0, .nil enough, rfl⟩
  | case2 b total more => exact ⟨1, .last (Nat.lt_of_not_le more) rfl, rfl⟩
  | case3 b total more rest => exact ⟨1, .last (Nat.lt_of_not_le more) rfl, rfl⟩
  | case4 b total more fault rest again ih =>
    obtain ⟨n, made, eq⟩ := ih
    have goes : (OneRead.failed fault).stops = false := by simp [OneRead.stops, again]
    exact ⟨n + 1, .cons (Nat.lt_of_not_le more) goes made,
      eq.trans (b.account_cons _ _ _ goes).symm⟩
  | case5 b total more fault rest again wait =>
    refine ⟨1, .last (Nat.lt_of_not_le more) ?_, ?_⟩
    · simpa [reading, OneRead.stops] using again
    · simp [readings, reading, account, wait]
      exact ⟨rfl, rfl⟩
  | case6 b total more fault rest again wait =>
    refine ⟨1, .last (Nat.lt_of_not_le more) ?_, ?_⟩
    · simpa [reading, OneRead.stops] using again
    · simp [readings, reading, account, wait, again]
      rfl
  | case7 b total more bs rest small ih =>
    obtain ⟨n, made, eq⟩ := ih
    by_cases none : bs = []
    · subst none
      obtain ⟨n, rfl⟩ : ∃ m, n = m + 1 :=
        Nat.exists_eq_succ_of_ne_zero fun zero => made.ne_nil (Nat.lt_of_not_le more) (zero ▸ rfl)
      exact ⟨n + 1, made, eq⟩
    · have next : reading (.octets bs :: rest) = (.got bs, rest) := by
        rw [reading, if_neg none, if_pos small]
      refine ⟨n + 1, ?_, ?_⟩
      · rw [readings, next]
        exact .cons (Nat.lt_of_not_le more) rfl made
      · rw [readings, next, b.account_cons total _ _ rfl]
        exact eq
  | case8 b total more bs rest large ih =>
    obtain ⟨n, made, eq⟩ := ih
    have size : (bs.take chunkSize).length = chunkSize := List.length_take_of_le (by omega)
    have next : reading (.octets bs :: rest)
        = (.got (bs.take chunkSize), .octets (bs.drop chunkSize) :: rest) := by
      rw [reading, if_neg (by rintro rfl; exact large (Nat.zero_le _)), if_neg large]
    refine ⟨n + 1, ?_, ?_⟩
    · rw [readings, next]
      exact .cons (Nat.lt_of_not_le more) rfl (by rwa [OneRead.octets, size])
    · rw [readings, next, b.account_cons total _ _ rfl, OneRead.octets, size]
      exact eq

/-! ## What the reads decide -/

/-- There is nothing yet: that is no interruption. -/
theorem Fault.isInterrupted_of_isWouldBlock {fault : Fault} (wait : fault.isWouldBlock = true) :
    fault.isInterrupted = false := by
  induction fault with
  | os errno =>
    obtain rfl : errno = .wouldBlock := eq_of_beq wait
    rfl
  | plain kind =>
    obtain rfl : kind = .wouldBlock := eq_of_beq wait
    rfl
  | atPath fault path ih => exact ih wait
  | notText | other => rfl

/-- One read takes at most a chunk. -/
theorem length_reading_le (pieces : List Piece) :
    (reading pieces).1.octets.length ≤ chunkSize := by
  fun_induction reading pieces with
  | case1 | case2 | case3 => exact Nat.zero_le _
  | case4 _ ih => exact ih
  | case5 _ _ _ small => exact small
  | case6 => exact List.length_take_le ..

theorem length_octets_le_of_mem_readings {pieces : List Piece} {n : ℕ} {r : OneRead}
    (mem : r ∈ (readings pieces n).1) : r.octets.length ≤ chunkSize := by
  induction n generalizing pieces with
  | zero => cases mem
  | succ n ih =>
    rcases List.mem_cons.mp mem with rfl | mem
    · exact length_reading_le pieces
    · exact ih mem

namespace Made

variable {rs : List OneRead}

/-- **Why no further read is made**: the end was read, or a read failed, or enough was read. -/
theorem reason (h : Made 0 rs) :
    rs.getLast? = some .ended
    ∨ (∃ fault, fault.isInterrupted = false ∧ rs.getLast? = some (.failed fault))
    ∨ drainLimit ≤ (octetsRead rs).length ∧ ∀ r ∈ rs, r.stops = false := by
  by_cases goes : ∀ r ∈ rs, r.stops = false
  · rcases h.halted with enough | ⟨r, last, stops⟩
    · exact .inr (.inr ⟨by simpa using enough, goes⟩)
    · simp [goes r (List.mem_of_getLast? last)] at stops
  · push Not at goes
    obtain ⟨r, mem, stops⟩ := goes
    have last := h.getLast?_of_stops mem (by simpa using stops)
    cases r with
    | got bs => exact absurd rfl stops
    | ended => exact .inl last
    | failed fault => exact .inr (.inl ⟨fault, by simpa [OneRead.stops] using stops, last⟩)

/-- A fault that was read is the last read, or an interruption. -/
theorem failed (h : Made 0 rs) {fault : Fault} (mem : .failed fault ∈ rs) :
    fault.isInterrupted = true ∨ rs.getLast? = some (.failed fault) := by
  cases again : fault.isInterrupted with
  | true => exact .inl rfl
  | false => exact .inr (h.getLast?_of_stops mem (by simp [OneRead.stops, again]))

/-- **Reads take too much by less than a chunk.** -/
theorem length_octetsRead_le (h : Made 0 rs) (small : ∀ r ∈ rs, r.octets.length ≤ chunkSize) :
    (octetsRead rs).length ≤ drainLimit + (chunkSize - 1) := by
  rcases List.eq_nil_or_concat' rs with rfl | ⟨front, r, rfl⟩
  · exact Nat.zero_le _
  · have before : (octetsRead front).length < drainLimit := by
      have := mt Or.inl (h.needed front r [] rfl)
      omega
    have last := small r (by simp)
    have all : (octetsRead (front ++ [r])).length
        = (octetsRead front).length + r.octets.length := by
      simp [octetsRead]
    simp only [chunkSize] at last ⊢
    omega

end Made

/-- **The status of a drain, from what its reads gave.** -/
inductive Verdict (rs : List OneRead) : Except Fault ReadStatus → Prop
  /-- The end, and no octets. -/
  | closed (ended : .ended ∈ rs) (none : octetsRead rs = []) : Verdict rs (.ok .closed)
  /-- No octets, and then nothing yet. -/
  | empty {fault : Fault} (none : octetsRead rs = []) (mem : .failed fault ∈ rs)
      (wait : fault.isWouldBlock = true) : Verdict rs (.ok .empty)
  /-- A fault that is neither an interruption nor a reason to wait. -/
  | failed {fault : Fault} (mem : .failed fault ∈ rs)
      (other : fault.isInterrupted = false ∧ fault.isWouldBlock = false) :
      Verdict rs (.error fault)
  /-- Octets, and no such fault. -/
  | data (some : octetsRead rs ≠ [])
      (sound : ∀ fault, .failed fault ∈ rs →
        fault.isInterrupted = true ∨ fault.isWouldBlock = true) :
      Verdict rs (.ok (.data (octetsRead rs).length))

/-- **It is one status only.** -/
theorem Verdict.unique {rs : List OneRead} (made : Made 0 rs) {r r' : Except Fault ReadStatus}
    (h : Verdict rs r) (h' : Verdict rs r') : r = r' := by
  have same {a b : OneRead} (ha : a ∈ rs) (hb : b ∈ rs) (stops : a.stops = true)
      (stops' : b.stops = true) : a = b :=
    Option.some.inj
      ((made.getLast?_of_stops ha stops).symm.trans (made.getLast?_of_stops hb stops'))
  have halts {fault : Fault} (again : fault.isInterrupted = false) :
      (OneRead.failed fault).stops = true := by
    simp [OneRead.stops, again]
  have waits {fault : Fault} (wait : fault.isWouldBlock = true) :=
    halts (Fault.isInterrupted_of_isWouldBlock wait)
  cases h with
  | closed ended none =>
    cases h' with
    | closed => rfl
    | empty _ mem wait => nomatch same ended mem rfl (waits wait)
    | failed mem other => nomatch same ended mem rfl (halts other.1)
    | data some => exact absurd none some
  | empty none mem wait =>
    cases h' with
    | closed ended => nomatch same ended mem rfl (waits wait)
    | empty => rfl
    | failed mem' other =>
      cases same mem mem' (waits wait) (halts other.1)
      simp [wait] at other
    | data some => exact absurd none some
  | failed mem other =>
    cases h' with
    | closed ended => nomatch same ended mem rfl (halts other.1)
    | empty _ mem' wait =>
      cases same mem mem' (halts other.1) (waits wait)
      simp [wait] at other
    | failed mem' other' =>
      cases same mem mem' (halts other.1) (halts other'.1)
      rfl
    | data _ sound => simpa [other] using sound _ mem
  | data some sound =>
    cases h' with
    | closed _ none | empty none => exact absurd none some
    | failed mem other => simpa [other] using sound _ mem
    | data => rfl

/-- **What a drain owes to its reads.** -/
structure Accounted (c : Capture) (s : Stream) (rs : List OneRead) (d : Capture.Drained) :
    Prop where
  /-- The octets are pushed as if at once; and exactly if the end was read, what waits for more is
  shown and the output is closed. -/
  drained : d.capture.buffer s =
    if .ended ∈ rs then ((c.buffer s).push (octetsRead rs)).close
    else (c.buffer s).push (octetsRead rs)
  /-- The other output is left alone. -/
  other : ∀ t ≠ s, d.capture.buffer t = c.buffer t
  result : ∀ r, d.result = r ↔ Verdict rs r
  most : (octetsRead rs).length ≤ drainLimit + (chunkSize - 1)
  /-- It stops of itself only when it has read enough. -/
  enough : (∀ r ∈ rs, r.stops = false) → drainLimit ≤ (octetsRead rs).length

/-- What the reads of a drain come to: its verdict and its buffer. -/
theorem Made.account {rs : List OneRead} (made : Made 0 rs) (b : Buffer) (unread : List Piece) :
    Verdict rs (b.account 0 rs unread).result
    ∧ (b.account 0 rs unread).buffer
      = if .ended ∈ rs then (b.push (octetsRead rs)).close else b.push (octetsRead rs) := by
  have length : (octetsRead rs).length = 0 ↔ octetsRead rs = [] := List.length_eq_zero_iff
  unfold Buffer.account ReadStatus.after
  rw [Nat.zero_add]
  rcases made.reason with last | ⟨fault, again, last⟩ | ⟨enough, goes⟩
  · have mem : .ended ∈ rs := List.mem_of_getLast? last
    have sound (fault : Fault) (read : .failed fault ∈ rs) : fault.isInterrupted = true := by
      simpa [last] using made.failed read
    simp only [last, if_pos mem, length, and_true]
    split
    · next none => exact .closed mem none
    · next some => exact .data some fun fault read => .inl (sound fault read)
  · have mem : .failed fault ∈ rs := List.mem_of_getLast? last
    have never : .ended ∉ rs := fun ended => by
      simpa [last] using made.getLast?_of_stops ended rfl
    simp only [last, if_neg never, length, again, Bool.false_or, and_true]
    by_cases wait : fault.isWouldBlock = true
    · rw [if_pos wait]
      split
      · next none => exact .empty none mem wait
      · next some =>
        refine .data some fun other read => (made.failed read).imp_right fun last' => ?_
        obtain rfl : fault = other := by simpa [last] using last'
        exact wait
    · rw [if_neg wait]
      exact .failed mem ⟨again, by simpa using wait⟩
  · have never : .ended ∉ rs := fun mem => nomatch goes _ mem
    have sound (fault : Fault) (read : .failed fault ∈ rs) : fault.isInterrupted = true := by
      simpa [OneRead.stops] using goes _ read
    have some : octetsRead rs ≠ [] := fun none => by simp [none, drainLimit] at enough
    have data : Verdict rs (.ok (.data (octetsRead rs).length)) :=
      .data some fun fault read => .inl (sound fault read)
    cases last : rs.getLast? with
    | none => simpa only [if_neg never, length, if_neg some, and_true] using data
    | some r =>
      cases r with
      | ended => exact absurd (List.mem_of_getLast? last) never
      | got bs => simpa only [if_neg never, length, if_neg some, and_true] using data
      | failed fault =>
        have again := sound fault (List.mem_of_getLast? last)
        simpa only [if_neg never, length, if_neg some, and_true, again, Bool.true_or, if_true]
          using data

/-- **The reads of a drain account for it.** -/
theorem Capture.accounted_drain (c : Capture) (s : Stream) (pieces : List Piece) :
    ∃ n, Made 0 (readings pieces n).1
      ∧ (c.drain s pieces).unread = (readings pieces n).2
      ∧ Accounted c s (readings pieces n).1 (c.drain s pieces) := by
  obtain ⟨n, made, eq⟩ := (c.buffer s).drain_eq 0 pieces
  obtain ⟨verdict, buffer⟩ := made.account (c.buffer s) (readings pieces n).2
  rw [← eq] at verdict buffer
  refine ⟨n, made, ?_, ?_⟩
  · rw [Capture.drain, eq, Buffer.account]
    split <;> rfl
  · exact {
      drained := by rwa [Capture.drain, Capture.buffer_set, if_pos rfl]
      other := fun t ht => c.buffer_drain_of_ne ht pieces
      result := fun r => ⟨fun same => same ▸ verdict, fun h => verdict.unique made h⟩
      most := made.length_octetsRead_le fun r => length_octets_le_of_mem_readings
      enough := fun goes => by
        rcases made.reason with last | ⟨fault, again, last⟩ | ⟨enough, -⟩
        · cases goes _ (List.mem_of_getLast? last)
        · simpa [OneRead.stops, again] using goes _ (List.mem_of_getLast? last)
        · exact enough }

/-! ## Interruptions -/

/-- Whether a piece only interrupts the reading. -/
def Piece.interrupts : Piece → Bool
  | failed fault => fault.isInterrupted
  | _ => false

/-- The pieces without the interruptions among them. -/
def unbroken (pieces : List Piece) : List Piece := pieces.filter fun p => !p.interrupts

/-- **Interruptions change nothing**: without them a drain goes the same way. -/
theorem Buffer.drain_unbroken (b : Buffer) (total : ℕ) (pieces : List Piece) :
    b.drain total (unbroken pieces) =
      { b.drain total pieces with unread := unbroken (b.drain total pieces).unread } := by
  fun_induction Buffer.drain b total pieces with
  | case1 b total pieces enough => rw [Buffer.drain.eq_def, if_pos enough]
  | case2 b total more => rw [unbroken, List.filter_nil, Buffer.drain, if_neg more]
  | case3 b total more rest =>
    rw [unbroken, List.filter_cons_of_pos rfl, Buffer.drain, if_neg more]
  | case4 b total more fault rest again ih =>
    rwa [unbroken, List.filter_cons_of_neg (by simpa [Piece.interrupts] using again)]
  | case5 b total more fault rest again wait =>
    rw [unbroken, List.filter_cons_of_pos (by simpa [Piece.interrupts] using again), Buffer.drain]
    simp only [if_neg more, if_neg again, if_pos wait, unbroken]
  | case6 b total more fault rest again wait =>
    rw [unbroken, List.filter_cons_of_pos (by simpa [Piece.interrupts] using again), Buffer.drain]
    simp only [if_neg more, if_neg again, if_neg wait, unbroken]
  | case7 b total more bs rest small ih =>
    rw [unbroken, List.filter_cons_of_pos rfl, Buffer.drain]
    simp only [if_neg more, if_pos small]
    exact ih
  | case8 b total more bs rest large ih =>
    rw [unbroken, List.filter_cons_of_pos rfl, Buffer.drain]
    simp only [if_neg more, if_neg large]
    rwa [unbroken, List.filter_cons_of_pos rfl] at ih

/-! ## Drain after drain, to the end -/

/-- Whether a piece says that there is nothing yet. -/
def Piece.waits : Piece → Bool
  | failed fault => fault.isWouldBlock
  | _ => false

/-- What stands in front of an end, with no fault in it that would fail a drain. -/
def Sound (front : List Piece) : Prop := ∀ p ∈ front, p ≠ .ended ∧ p.failure? = none

theorem Sound.tail {p : Piece} {front : List Piece} (h : Sound (p :: front)) : Sound front :=
  fun q mem => h q (List.mem_cons_of_mem p mem)

/-- What stands first in front of an end, if it is no end itself. -/
theorem exists_front {p : Piece} {tail front rest : List Piece} (more : p ≠ .ended)
    (here : p :: tail = front ++ .ended :: rest) :
    ∃ later, front = p :: later ∧ tail = later ++ .ended :: rest := by
  cases front with
  | nil => exact absurd (List.cons.inj here).1 more
  | cons q later =>
    obtain ⟨rfl, rfl⟩ := List.cons.inj here
    exact ⟨later, rfl, rfl⟩

/-- **How a drain goes on that has an end in front of it.** -/
inductive Advances (b : Buffer) (total : ℕ) (front rest : List Piece) : Drained → Prop
  /-- It takes some octets, and has read enough or used up one fault that says to wait. -/
  | goes {taken : Octets} {later : List Piece} (sound : Sound later)
      (split : octetsOf front = taken ++ octetsOf later)
      (waits : later.countP Piece.waits ≤ front.countP Piece.waits)
      (progress : drainLimit ≤ total + taken.length
        ∨ later.countP Piece.waits < front.countP Piece.waits) :
      Advances b total front rest
        ⟨.ok (.after (total + taken.length)), b.push taken, later ++ .ended :: rest⟩
  /-- It takes all, and sees the end. -/
  | arrives :
      Advances b total front rest
        ⟨.ok (if total + (octetsOf front).length = 0 then .closed
            else .data (total + (octetsOf front).length)),
          (b.push (octetsOf front)).close, .ended :: rest⟩

/-- One read more in front. -/
theorem Advances.read {b : Buffer} {total size : ℕ} {front later rest : List Piece} {now : Octets}
    {d : Drained} (h : Advances (b.push now) (total + size) later rest d)
    (length : now.length = size) (split : octetsOf front = now ++ octetsOf later)
    (waits : later.countP Piece.waits = front.countP Piece.waits) :
    Advances b total front rest d := by
  have count (taken : Octets) : total + size + taken.length = total + (now ++ taken).length := by
    rw [List.length_append, length, Nat.add_assoc]
  have reads (taken : Octets) : (b.push now).push taken = b.push (now ++ taken) :=
    (Buffer.push_append ..).symm
  cases h with
  | goes sound split' waits' progress =>
    rw [count, reads]
    refine .goes sound ?_ (waits ▸ waits') ?_
    · rw [split, split', List.append_assoc]
    · rwa [← count, ← waits]
  | arrives =>
    rw [count, reads, ← split]
    exact .arrives

/-- **A drain with an end in front of it advances.** -/
theorem Buffer.drain_advances (b : Buffer) (total : ℕ) {pieces front rest : List Piece}
    (sound : Sound front) (here : pieces = front ++ .ended :: rest) :
    Advances b total front rest (b.drain total pieces) := by
  fun_induction Buffer.drain b total pieces generalizing front with
  | case1 b total pieces enough =>
    subst here
    show Advances b total front rest ⟨.ok (.after (total + ([] : Octets).length)), b.push [], _⟩
    exact .goes sound rfl le_rfl (.inl enough)
  | case2 b total more => simp at here
  | case3 b total more tail =>
    cases front with
    | nil =>
      obtain rfl := (List.cons.inj here).2
      exact .arrives
    | cons p front => exact absurd (List.cons.inj here).1.symm (sound p List.mem_cons_self).1
  | case4 b total more fault tail again ih =>
    obtain ⟨later, rfl, rfl⟩ := exists_front (by simp) here
    have goes : Advances (b.push []) (total + 0) later rest (b.drain total _) := ih sound.tail rfl
    have wait : fault.isWouldBlock = false := Bool.eq_false_iff.mpr fun wait => by
      simp [Fault.isInterrupted_of_isWouldBlock wait] at again
    exact goes.read rfl rfl (by simp [Piece.waits, wait])
  | case5 b total more fault tail again wait =>
    obtain ⟨later, rfl, rfl⟩ := exists_front (by simp) here
    have fewer : later.countP Piece.waits < (Piece.failed fault :: later).countP Piece.waits := by
      simp [Piece.waits, wait]
    show Advances b total _ rest ⟨.ok (.after (total + ([] : Octets).length)), b.push [], _⟩
    exact .goes sound.tail rfl fewer.le (.inr fewer)
  | case6 b total more fault tail again wait =>
    obtain ⟨later, rfl, -⟩ := exists_front (by simp) here
    have none := (sound _ List.mem_cons_self).2
    simp [Piece.failure?, again, wait] at none
  | case7 b total more bs tail small ih =>
    obtain ⟨later, rfl, rfl⟩ := exists_front (by simp) here
    exact (ih sound.tail rfl).read rfl rfl (by simp [Piece.waits])
  | case8 b total more bs tail large ih =>
    obtain ⟨later, rfl, rfl⟩ := exists_front (by simp) here
    have sound' : Sound (.octets (bs.drop chunkSize) :: later) :=
      List.forall_mem_cons.mpr ⟨⟨by simp, rfl⟩, sound.tail⟩
    refine (ih sound' rfl).read (List.length_take_of_le (by omega)) ?_ (by simp [Piece.waits])
    rw [octetsOf_octets, octetsOf_octets, ← List.append_assoc, List.take_append_drop]

namespace Capture

variable {c : Capture} {s : Stream}

/-- **How drain after drain went**, so many of them. -/
def statuses (c : Capture) (s : Stream) (pieces : List Piece) : ℕ → List (Except Fault ReadStatus)
  | 0 => []
  | n + 1 => (c.drain s pieces).result
      :: (c.drain s pieces).capture.statuses s (c.drain s pieces).unread n

@[simp] theorem set_set (c : Capture) (s : Stream) (a b : Buffer) :
    (c.set s a).set s b = c.set s b := by
  cases s <;> rfl

theorem set_buffer (c : Capture) (s : Stream) : c.set s (c.buffer s) = c := by
  cases s <;> rfl

/-- Nothing changes any more where an output has ended and was closed. -/
theorem drain_ended {rest : List Piece} {b : Buffer} (shut : c.buffer s = b.close) :
    c.drain s (.ended :: rest) = ⟨.ok .closed, c, .ended :: rest⟩ := by
  have again : (c.buffer s).close = c.buffer s := by
    rw [shut, Buffer.close, Buffer.close, Decoder.flush, if_pos (by simp)]
  rw [drain, Buffer.drain, if_neg (by decide), again]
  simp only [if_true, set_buffer]

theorem drains_ended {rest : List Piece} {b : Buffer} (shut : c.buffer s = b.close) (n : ℕ) :
    c.statuses s (.ended :: rest) n = List.replicate n (.ok .closed)
    ∧ c.drainTimes s (.ended :: rest) n = (c, .ended :: rest) := by
  induction n with
  | zero => exact ⟨rfl, rfl⟩
  | succ n ih =>
    rw [statuses, drainTimes, drain_ended shut]
    exact ⟨congrArg (_ :: ·) ih.1, ih.2⟩

/-- **Drain after drain comes to the end**: some drains that count all octets between them, and from
then on each finds nothing but the end. -/
theorem exists_counts {front rest : List Piece} (sound : Sound front) :
    ∃ counts : List ℕ,
      counts.sum = octetCount front
      ∧ counts.length ≤ front.countP Piece.waits + octetCount front / drainLimit + 1
      ∧ ∀ n, c.statuses s (front ++ .ended :: rest) (counts.length + n)
          = counts.map (fun k => .ok (.after k)) ++ List.replicate n (.ok .closed)
        ∧ (c.drainTimes s (front ++ .ended :: rest) (counts.length + n + 1)).1
          = c.set s ((c.buffer s).push (octetsOf front)).close := by
  induction size : front.countP Piece.waits + octetCount front / drainLimit
    using Nat.strong_induction_on generalizing c front with
  | _ m ih =>
    subst m
    have advances := (c.buffer s).drain_advances 0 sound (rfl : front ++ .ended :: rest = _)
    generalize drained : (c.buffer s).drain 0 (front ++ .ended :: rest) = d at advances
    have drain : c.drain s (front ++ .ended :: rest) = ⟨d.result, c.set s d.buffer, d.unread⟩ := by
      rw [Capture.drain, drained]
    cases advances with
    | @goes taken later sound' split waits progress =>
      have all : octetCount front = taken.length + octetCount later := by
        rw [octetCount_eq, octetCount_eq, split, List.length_append]
      have less : later.countP Piece.waits + octetCount later / drainLimit
          < front.countP Piece.waits + octetCount front / drainLimit := by
        simp only [drainLimit] at progress ⊢
        omega
      obtain ⟨counts, sum, few, course⟩ :=
        ih _ less (c := c.set s ((c.buffer s).push taken)) sound' rfl
      refine ⟨taken.length :: counts, by rw [List.sum_cons, sum, all], ?_, fun n => ?_⟩
      · rw [List.length_cons]
        omega
      · obtain ⟨statuses, capture⟩ := course n
        have later : (taken.length :: counts).length + n = counts.length + n + 1 := by
          rw [List.length_cons, Nat.add_right_comm]
        rw [later, Capture.statuses, Capture.drainTimes, drain, Nat.zero_add]
        refine ⟨congrArg (_ :: ·) statuses, capture.trans ?_⟩
        rw [set_set, buffer_set, if_pos rfl, split, Buffer.push_append]
    | arrives =>
      generalize all : (c.buffer s).push (octetsOf front) = b at drain ⊢
      have shut : (c.set s b.close).buffer s = b.close := by rw [buffer_set, if_pos rfl]
      rw [Nat.zero_add, ← octetCount_eq] at drain
      by_cases none : octetCount front = 0
      · rw [if_pos none] at drain
        refine ⟨[], none.symm, Nat.zero_le _, fun n => ?_⟩
        rw [List.length_nil, Nat.zero_add, drainTimes, drain, (drains_ended shut n).2]
        refine ⟨?_, rfl⟩
        cases n with
        | zero => rfl
        | succ n =>
          rw [Capture.statuses, drain, (drains_ended shut n).1]
          rfl
      · rw [if_neg none] at drain
        refine ⟨[octetCount front], by simp, by simp, fun n => ?_⟩
        rw [List.length_singleton, Nat.add_comm 1 n, Capture.statuses, drainTimes, drain,
          (drains_ended shut n).1, (drains_ended shut (n + 1)).2]
        exact ⟨by simp [ReadStatus.after, none], rfl⟩

/-! ## All of it -/

/-- **Every read of a drain is accounted for**, whatever an output will give.

* A drain is so many reads and no more, and leaves what they leave; its status, its buffer and the
  most and the least it takes are those of its reads (`Accounted`).
* Interruptions change nothing.
* Where an end stands in front, and no fault that would fail a drain before it, drain after drain
  comes to it: some drains that count all octets between them, and then none but finds the end.  The
  output then holds all octets as if pushed at once, and is closed. -/
theorem drain_accounts (c : Capture) (s : Stream) (pieces : List Piece) :
    (∃ n, Made 0 (readings pieces n).1
      ∧ (c.drain s pieces).unread = (readings pieces n).2
      ∧ Accounted c s (readings pieces n).1 (c.drain s pieces))
    ∧ c.drain s (unbroken pieces)
      = { c.drain s pieces with unread := unbroken (c.drain s pieces).unread }
    ∧ ∀ front rest, pieces = front ++ .ended :: rest → Sound front →
      ∃ counts : List ℕ,
        counts.sum = octetCount front
        ∧ counts.length ≤ front.countP Piece.waits + octetCount front / drainLimit + 1
        ∧ ∀ n, c.statuses s pieces (counts.length + n)
            = counts.map (fun k => .ok (.after k)) ++ List.replicate n (.ok .closed)
          ∧ (c.drainTimes s pieces (counts.length + n + 1)).1
            = c.set s ((c.buffer s).push (octetsOf front)).close := by
  refine ⟨c.accounted_drain s pieces, ?_, fun front rest here sound => here ▸ exists_counts sound⟩
  rw [drain, drain, Buffer.drain_unbroken]

/-- A character in two parts, the second behind an interruption and a read that has to wait. -/
def twoParts : List Piece :=
  [.octets [0xE2, 0x82], .failed (.plain .interrupted), .failed (.plain .wouldBlock),
    .octets [0xAC]]

/-- The first drain waits, the second sees the end, and the third finds nothing else. -/
theorem drain_accounts_twoParts :
    Sound twoParts
    ∧ ∃ counts : List ℕ, counts.sum = 3 ∧ counts.length ≤ 2
      ∧ Capture.empty.statuses .stderr (twoParts ++ [.ended]) (counts.length + 1)
        = counts.map (fun k => .ok (.after k)) ++ [.ok .closed]
      ∧ (Capture.empty.drainTimes .stderr (twoParts ++ [.ended]) (counts.length + 2)).1.text .stderr
        = "€" := by
  have sound : Sound twoParts := by
    simp [Sound, twoParts, Piece.failure?, Fault.isInterrupted, Fault.isWouldBlock]
  obtain ⟨counts, sum, few, course⟩ :=
    (drain_accounts .empty .stderr (twoParts ++ [.ended])).2.2 twoParts [] rfl sound
  obtain ⟨statuses, capture⟩ := course 1
  exact ⟨sound, counts, sum, few, statuses, capture ▸ (by decide +kernel)⟩

end Capture

end NestedSession
