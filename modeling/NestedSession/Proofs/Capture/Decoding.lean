import NestedSession.Proofs.Capture.Feeding

/-!
# Proofs/Capture/Decoding — an output decodes as a whole, however it was cut

What a capture shows in the end is what one decoding of all its octets gives, whatever pieces they
came in and whatever the other output was given in between (`Fed.text_flushed`).  What a drain
leaves unread is not lost by that: every drain leaves less work than it found
(`Buffer.drain_shrinks`), so enough drains take all there is (`Capture.exists_drainTimes`).
-/

namespace NestedSession

open Utf8

/-! ## Drain after drain -/

/-- **A drain leaves less work than it found**, unless it may read no more or stands at the end. -/
theorem Buffer.drain_shrinks (b : Buffer) (total : ℕ) (pieces : List Piece) :
    weights (b.drain total pieces).unread < weights pieces
      ∨ (b.drain total pieces).unread = pieces
        ∧ (drainLimit ≤ total ∨ pieces = [] ∨ ∃ rest, pieces = .ended :: rest) := by
  have further {front rest unread : List Piece} {P : Prop} (less : weights front < weights rest)
      (ih : weights unread < weights front ∨ unread = front ∧ P) :
      weights unread < weights rest := by
    rcases ih with lt | ⟨rfl, -⟩
    · exact lt.trans less
    · exact less
  fun_induction Buffer.drain b total pieces with
  | case1 _ _ _ enough => exact .inr ⟨rfl, .inl enough⟩
  | case2 => exact .inr ⟨rfl, .inr (.inl rfl)⟩
  | case3 _ _ _ rest => exact .inr ⟨rfl, .inr (.inr ⟨rest, rfl⟩)⟩
  | case4 _ _ _ _ _ _ ih => exact .inl (further (by simp [weights, Piece.weight]) ih)
  | case5 | case6 => exact .inl (by simp [weights, Piece.weight])
  | case7 _ _ _ bs _ _ ih => exact .inl (further (by simp [weights, Piece.weight]) ih)
  | case8 _ _ _ bs _ large ih =>
    refine .inl (further ?_ ih)
    simp only [weights, Piece.weight, List.length_drop, chunkSize] at large ⊢
    omega

/-- A drain moves no mark: where an end or a fault is unread, it was so before, with the same pieces
behind it. -/
theorem Buffer.suffix_of_suffix_drain {b : Buffer} {total : ℕ} {p : Piece}
    {pieces more : List Piece} (mark : p.isOctets = false)
    (next : p :: more <:+ (b.drain total pieces).unread) :
    p :: more <:+ pieces := by
  fun_induction Buffer.drain b total pieces with
  | case1 | case2 | case3 => exact next
  | case5 | case6 => exact next.trans (List.suffix_cons _ _)
  | case4 _ _ _ _ _ _ ih | case7 _ _ _ _ _ _ ih => exact (ih next).trans (List.suffix_cons _ _)
  | case8 _ _ _ _ _ _ ih =>
    exact (suffix_of_suffix_octets mark (ih next)).trans (List.suffix_cons _ _)

namespace Capture

variable {c : Capture} {s : Stream} {pieces : List Piece}

/-- **Nothing stands behind the end of an output**, be it seen already or still unread. -/
structure Orderly (c : Capture) (s : Stream) (pieces : List Piece) : Prop where
  seen : c.isClosed s = true → octetsOf pieces = []
  unread : ∀ rest, .ended :: rest <:+ pieces → octetsOf rest = []

/-- A drain keeps it so. -/
theorem Orderly.drain (h : c.Orderly s pieces) :
    (c.drain s pieces).capture.Orderly s (c.drain s pieces).unread := by
  refine ⟨fun closed => ?_, fun rest next =>
    h.unread rest (Buffer.suffix_of_suffix_drain rfl next)⟩
  obtain ⟨taken, split, drains⟩ := (c.buffer s).drain_takes 0 pieces
  rw [Capture.drain, isClosed, buffer_set, if_pos rfl] at closed
  rcases drains.closed closed with before | ⟨rest, next, unread⟩
  · exact (List.append_eq_nil_iff.mp (split.symm.trans (h.seen before))).2
  · rw [Capture.drain, unread, octetsOf_ended]
    exact h.unread rest next

/-- **Drain an output again and again**, so many times: the capture, and what is then unread. -/
def drainTimes (c : Capture) (s : Stream) (pieces : List Piece) : ℕ → Capture × List Piece
  | 0 => (c, pieces)
  | n + 1 => (c.drain s pieces).capture.drainTimes s (c.drain s pieces).unread n

/-- **Enough drains take all there is.** -/
theorem exists_drainTimes (h : c.Orderly s pieces) :
    ∃ n, octetsOf (c.drainTimes s pieces n).2 = [] := by
  induction work : weights pieces using Nat.strong_induction_on generalizing c pieces with
  | _ work ih =>
    subst work
    rcases (c.buffer s).drain_shrinks 0 pieces with less | ⟨-, never | rfl | ⟨rest, rfl⟩⟩
    · obtain ⟨n, nothing⟩ := ih _ less h.drain rfl
      exact ⟨n + 1, nothing⟩
    · exact absurd never (by decide)
    · exact ⟨0, rfl⟩
    · exact ⟨0, h.unread rest List.suffix_rfl⟩

end Capture

/-! ## What is shown in the end -/

/-- Octets for one output, one part and then another. -/
theorem feed_feed (given : Stream → Octets) (s : Stream) (as bs : Octets) :
    feed (feed given s as) s bs = feed given s (as ++ bs) := by
  funext t
  by_cases same : t = s <;> simp [feed, same]

namespace Fed

variable {c : Capture} {given : Stream → Octets}

/-- No octets for an output. -/
theorem nothing (h : Fed c given) (s : Stream) : Fed c (feed given s []) := by
  have same : feed given s [] = given := by
    funext t
    simp [feed]
  exact same.symm ▸ h

/-- **However often an output is drained**, what it took and what is unread is all there was. -/
theorem drainTimes (h : Fed c given) {s : Stream} {pieces : List Piece}
    (orderly : c.Orderly s pieces) (n : ℕ) :
    ∃ taken, octetsOf pieces = taken ++ octetsOf (c.drainTimes s pieces n).2
      ∧ Fed (c.drainTimes s pieces n).1 (feed given s taken) := by
  induction n generalizing c given pieces with
  | zero => exact ⟨[], rfl, h.nothing s⟩
  | succ n ih =>
    obtain ⟨now, split, -⟩ := (c.buffer s).drain_takes 0 pieces
    have drained : Fed (c.drain s pieces).capture (feed given s now) :=
      h.drain s pieces now split fun closed =>
        (List.append_eq_nil_iff.mp (split.symm.trans (orderly.seen closed))).1
    obtain ⟨later, split', fed⟩ := ih drained orderly.drain
    refine ⟨now ++ later, ?_, feed_feed given s now later ▸ fed⟩
    rw [List.append_assoc]
    exact split.trans (congrArg (now ++ ·) split')

theorem text_flush (h : Fed c given) (s : Stream) : c.flushed.text s = lossy (given s) := by
  rw [← (h.holds s).text_flush]
  cases s <;> rfl

/-- **However an output was cut, it decodes as a whole.**

* The texts in the end are those of all octets of each output, decoded at once.
* So they are the same for every other way in which the same octets come: cut elsewhere, in another
  order among the outputs, pushed or drained.
* And whatever is there to be read of an output will come: enough drains take it all, whether reads
  are interrupted, have to wait or fail in between, as long as nothing stands behind its end. -/
theorem text_flushed (h : Fed c given) :
    (∀ s, c.flushed.text s = lossy (given s))
    ∧ (∀ c', Fed c' given → ∀ s, c'.flushed.text s = c.flushed.text s)
    ∧ ∀ s pieces, c.Orderly s pieces → ∃ n, octetsOf (c.drainTimes s pieces n).2 = []
      ∧ ∀ t, (c.drainTimes s pieces n).1.flushed.text t
        = lossy (feed given s (octetsOf pieces) t) := by
  refine ⟨h.text_flush, fun c' h' s => (h'.text_flush s).trans (h.text_flush s).symm,
    fun s pieces orderly => ?_⟩
  obtain ⟨n, nothing⟩ := Capture.exists_drainTimes orderly
  obtain ⟨taken, split, fed⟩ := h.drainTimes orderly n
  rw [nothing, List.append_nil] at split
  exact ⟨n, nothing, fun t => split ▸ fed.text_flush t⟩

/-- A character in three parts, the second read after an interruption, and before the third a read
that has to wait; in between, standard error gets an octet that belongs to no character. -/
def threeParts : Capture :=
  (((Capture.empty.push .stdout [0xE2]).drain .stdout
    [.failed (.plain .interrupted), .octets [0x82], .failed (.plain .wouldBlock)]).capture.push
      .stderr [0xFF]).push .stdout [0xAC, 0xF0]

/-- The same octets, each output's at once and in the other order. -/
def atOnce : Capture := (Capture.empty.push .stderr [0xFF]).push .stdout [0xE2, 0x82, 0xAC, 0xF0]

/-- The rest of another character, behind a read that has to wait, and the end. -/
def lateRest : List Piece :=
  [.failed (.plain .wouldBlock), .octets [0x9D, 0x84, 0x9E], .ended]

/-- Both are shown alike, and what is still unread will come. -/
theorem text_flushed_threeParts :
    threeParts.flushed.text .stdout = "€\uFFFD"
    ∧ atOnce.flushed.text .stdout = threeParts.flushed.text .stdout
    ∧ ∃ n, octetsOf (threeParts.drainTimes .stdout lateRest n).2 = []
      ∧ (threeParts.drainTimes .stdout lateRest n).1.flushed.text .stdout = "€𝄞" := by
  have parts : Fed threeParts
      (feed (feed (feed (feed (fun _ => []) .stdout [0xE2]) .stdout [0x82]) .stderr [0xFF]) .stdout
        [0xAC, 0xF0]) :=
    .push (.push (.drain (.push .fresh .stdout _ (by decide)) .stdout _ _
      (by simp [Capture.drain, Capture.push, Buffer.drain, drainLimit, chunkSize,
        Fault.isInterrupted, Fault.isWouldBlock]) (by decide)) .stderr _ (by decide)) .stdout _
      (by decide +kernel)
  have whole : Fed atOnce
      (feed (feed (fun _ => []) .stderr [0xFF]) .stdout [0xE2, 0x82, 0xAC, 0xF0]) :=
    .push (.push .fresh .stderr _ (by decide)) .stdout _ (by decide)
  have orderly : threeParts.Orderly .stdout lateRest := by
    refine ⟨by decide +kernel, fun rest next => ?_⟩
    simp [lateRest, List.suffix_cons_iff] at next
    exact next ▸ rfl
  obtain ⟨n, nothing, texts⟩ := parts.text_flushed.2.2 .stdout _ orderly
  refine ⟨(parts.text_flushed.1 .stdout).trans (by decide +kernel), ?_, n, nothing,
    (texts .stdout).trans (by decide +kernel)⟩
  have same : feed (feed (fun _ => []) .stderr [0xFF]) .stdout [0xE2, 0x82, 0xAC, 0xF0]
      = feed (feed (feed (feed (fun _ => []) .stdout [0xE2]) .stdout [0x82]) .stderr [0xFF]) .stdout
        [0xAC, 0xF0] := by
    funext s
    cases s <;> rfl
  exact parts.text_flushed.2.1 _ (same ▸ whole) .stdout

end Fed

end NestedSession
