import NestedSession.Capture.Drain

/-!
# Proofs/Capture/Draining — what a drain takes, and why it stops

A drain reads pieces one after another.  What it took and what stays unread are together all that
was there (`Buffer.drain_takes`), and it stops for one of five reasons (`Drains`), each of which
says what stands next.
-/

namespace NestedSession

/-- The octets that pieces hold, in the order of reading. -/
def octetsOf : List Piece → Octets
  | [] => []
  | .octets bs :: rest => bs ++ octetsOf rest
  | _ :: rest => octetsOf rest

@[simp] theorem octetsOf_octets (bs : Octets) (rest : List Piece) :
    octetsOf (.octets bs :: rest) = bs ++ octetsOf rest := rfl

@[simp] theorem octetsOf_ended (rest : List Piece) :
    octetsOf (.ended :: rest) = octetsOf rest := rfl

@[simp] theorem octetsOf_failed (fault : Fault) (rest : List Piece) :
    octetsOf (.failed fault :: rest) = octetsOf rest := rfl

/-- They are as many as are counted. -/
theorem octetCount_eq : ∀ pieces : List Piece, octetCount pieces = (octetsOf pieces).length
  | [] => rfl
  | .octets bs :: rest => by
    rw [octetCount, octetsOf_octets, List.length_append, octetCount_eq rest]
  | .ended :: rest => octetCount_eq rest
  | .failed _ :: rest => octetCount_eq rest

/-- What makes a read fail: it was not merely interrupted, nor is there merely nothing yet. -/
def Piece.failure? : Piece → Option Fault
  | failed fault => if fault.isInterrupted || fault.isWouldBlock then none else some fault
  | _ => none

/-- **The reads that failed** while pieces were read down to a rest of them. -/
def faultsRead (pieces rest : List Piece) : List Fault :=
  (pieces.take (pieces.length - rest.length)).filterMap Piece.failure?

theorem faultsRead_append (front rest : List Piece) :
    faultsRead (front ++ rest) rest = front.filterMap Piece.failure? := by
  rw [faultsRead, List.length_append, Nat.add_sub_cancel, List.take_left]

/-- **How a drain that took some octets stopped.** -/
inductive Drains (b : Buffer) (total : Nat) (pieces : List Piece) (taken : Octets) :
    Drained → Prop
  /-- It had read enough. -/
  | full {unread : List Piece} (enough : drainLimit ≤ total + taken.length) :
      Drains b total pieces taken ⟨.ok (.after (total + taken.length)), b.push taken, unread⟩
  /-- There was nothing more. -/
  | dry : Drains b total pieces taken ⟨.ok (.after (total + taken.length)), b.push taken, []⟩
  /-- The output has ended. -/
  | ended {rest : List Piece} (next : .ended :: rest <:+ pieces) :
      Drains b total pieces taken
        ⟨.ok (if total + taken.length = 0 then .closed else .data (total + taken.length)),
          (b.push taken).close, .ended :: rest⟩
  /-- There was nothing more yet. -/
  | blocked {fault : Fault} {rest : List Piece} (next : .failed fault :: rest <:+ pieces)
      (wait : fault.isWouldBlock = true) :
      Drains b total pieces taken ⟨.ok (.after (total + taken.length)), b.push taken, rest⟩
  /-- A read failed. -/
  | failed {fault : Fault} {rest : List Piece} (next : .failed fault :: rest <:+ pieces)
      (other : fault.isInterrupted = false ∧ fault.isWouldBlock = false) :
      Drains b total pieces taken ⟨.error fault, b.push taken, rest⟩

/-- Whether a piece holds octets. -/
def Piece.isOctets : Piece → Bool
  | octets _ => true
  | _ => false

/-- A piece that holds no octets stands behind those in front that do. -/
theorem suffix_of_suffix_octets {p : Piece} (hp : p.isOctets = false) {bs : Octets}
    {more rest : List Piece} (h : p :: more <:+ .octets bs :: rest) : p :: more <:+ rest := by
  rcases List.suffix_cons_iff.mp h with eq | suffix
  · rw [(List.cons.inj eq).1] at hp
    cases hp
  · exact suffix

/-- **One read more in front**, of octets that pieces with the same marks behind them hold. -/
theorem Drains.read {b : Buffer} {total size : Nat} {pieces later : List Piece}
    {now taken : Octets} {d : Drained} (length : now.length = size)
    (h : Drains (b.push now) (total + size) later taken d)
    (marks : ∀ p more, p.isOctets = false → p :: more <:+ later → p :: more <:+ pieces) :
    Drains b total pieces (now ++ taken) d := by
  have count : total + size + taken.length = total + (now ++ taken).length := by
    rw [List.length_append, length, Nat.add_assoc]
  have reads : (b.push now).push taken = b.push (now ++ taken) := (Buffer.push_append ..).symm
  cases h with
  | full enough => exact count ▸ reads ▸ .full (count ▸ enough)
  | dry => exact count ▸ reads ▸ .dry
  | ended next => exact count ▸ reads ▸ .ended (marks _ _ rfl next)
  | blocked next wait => exact count ▸ reads ▸ .blocked (marks _ _ rfl next) wait
  | failed next other => exact reads ▸ .failed (marks _ _ rfl next) other

/-- **What a drain took and what stays unread is all that was there.** -/
theorem Buffer.drain_takes (b : Buffer) (total : Nat) (pieces : List Piece) :
    ∃ taken, octetsOf pieces = taken ++ octetsOf (b.drain total pieces).unread ∧
      Drains b total pieces taken (b.drain total pieces) := by
  fun_induction Buffer.drain b total pieces with
  | case1 b total pieces enough => exact ⟨[], rfl, .full enough⟩
  | case2 b total more => exact ⟨[], rfl, .dry⟩
  | case3 b total more rest => exact ⟨[], rfl, .ended List.suffix_rfl⟩
  | case4 b total more fault rest again ih =>
    obtain ⟨taken, split, drains⟩ := ih
    have nothing : Drains (b.push []) (total + 0) rest taken (b.drain total rest) := drains
    exact ⟨taken, split, nothing.read rfl fun p more _ h => h.trans (List.suffix_cons _ _)⟩
  | case5 b total more fault rest again wait => exact ⟨[], rfl, .blocked List.suffix_rfl wait⟩
  | case6 b total more fault rest again wait =>
    exact ⟨[], rfl, .failed List.suffix_rfl ⟨by simpa using again, by simpa using wait⟩⟩
  | case7 b total more bs rest small ih =>
    obtain ⟨taken, split, drains⟩ := ih
    refine ⟨bs ++ taken, ?_, drains.read rfl fun p more _ h => h.trans (List.suffix_cons _ _)⟩
    rw [octetsOf_octets, split, List.append_assoc]
  | case8 b total more bs rest large ih =>
    obtain ⟨taken, split, drains⟩ := ih
    have size : (bs.take chunkSize).length = chunkSize := List.length_take_of_le (by omega)
    refine ⟨bs.take chunkSize ++ taken, ?_, drains.read size fun p more hp h => ?_⟩
    · rw [List.append_assoc, ← split, octetsOf_octets, octetsOf_octets, ← List.append_assoc,
        List.take_append_drop]
    · exact (suffix_of_suffix_octets hp h).trans (List.suffix_cons _ _)

/-! ## What a drain says of its buffer -/

namespace Drains

variable {b : Buffer} {total : Nat} {pieces : List Piece} {taken : Octets} {d : Drained}

/-- A drain closes a buffer only where it sees the end. -/
theorem closed (h : Drains b total pieces taken d) (closed : d.buffer.closed = true) :
    b.closed = true ∨ ∃ rest, .ended :: rest <:+ pieces ∧ d.unread = .ended :: rest := by
  cases h with
  | ended next => exact .inr ⟨_, next, rfl⟩
  | full | dry | blocked | failed => exact .inl closed

/-- A drain opens no buffer again. -/
theorem closed_of_closed (h : Drains b total pieces taken d) (closed : b.closed = true) :
    d.buffer.closed = true := by
  cases h with
  | ended => rfl
  | full | dry | blocked | failed => exact closed

/-- A drain that found nothing but the end has closed its buffer. -/
theorem closed_of_result (h : Drains b total pieces taken d) (result : d.result = .ok .closed) :
    d.buffer.closed = true := by
  have after (n : Nat) : ReadStatus.after n ≠ .closed := by
    rw [ReadStatus.after]
    split <;> simp
  cases h with
  | ended => rfl
  | failed => nomatch result
  | full | dry | blocked => exact absurd (Except.ok.inj result) (after _)

/-- A drain fails only where a read does. -/
theorem ok (h : Drains b total pieces taken d) (unfailing : faultsRead pieces d.unread = []) :
    ∃ status, d.result = .ok status := by
  cases h with
  | full | dry | ended | blocked => exact ⟨_, rfl⟩
  | failed next other =>
    obtain ⟨front, rfl⟩ := next
    rw [List.append_cons, faultsRead_append, List.filterMap_append, List.append_eq_nil_iff]
      at unfailing
    simp [Piece.failure?, other] at unfailing

/-- **A drain takes all** if that is no more than it may take, no read fails, and nothing stands
behind what stops it. -/
theorem unread_eq_nil (h : Drains b 0 pieces taken d)
    (split : octetsOf pieces = taken ++ octetsOf d.unread)
    (small : octetCount pieces ≤ drainLimit) {status : ReadStatus} (read : d.result = .ok status)
    (ended_last : ∀ rest, .ended :: rest <:+ pieces → octetsOf rest = [])
    (blocked_last : ∀ fault rest, fault.isWouldBlock = true →
      .failed fault :: rest <:+ pieces → octetsOf rest = []) :
    octetsOf d.unread = [] := by
  rw [octetCount_eq, split, List.length_append] at small
  cases h with
  | full enough =>
    have none : taken.length + (octetsOf _).length ≤ drainLimit := small
    exact List.eq_nil_of_length_eq_zero (by omega)
  | dry => rfl
  | ended next => exact (octetsOf_ended _).trans (ended_last _ next)
  | blocked next wait => exact blocked_last _ _ wait next
  | failed => nomatch read

end Drains

end NestedSession
