import NestedSession.Proofs.Capture.Draining
import NestedSession.Proofs.Text.Occurrence

/-!
# Proofs/Capture/Feeding — a capture knows its octets, and only those

A capture is fed piece by piece, one output or the other, by whole pushes or by drains that stop
where they like (`Fed`).  However that goes, each buffer is what one push of all its octets would
have made of it (`Fed.holds`); so a marker shows exactly if its octets are among them
(`Fed.contains_iff_encode_infix`).
-/

namespace NestedSession

open Utf8

/-! ## One buffer -/

/-- **A buffer that was given these octets**, at once or in pieces, and was closed behind them or
not at all. -/
def Buffer.Holds (b : Buffer) (given : Octets) : Prop :=
  b.decoder = if b.closed then (Decoder.empty.push given).flush else Decoder.empty.push given

namespace Buffer.Holds

variable {b : Buffer} {given : Octets}

theorem empty : Buffer.empty.Holds [] := rfl

theorem decoder_of_open (h : b.Holds given) (hc : b.closed = false) :
    b.decoder = Decoder.empty.push given := by rw [h, hc]; rfl

theorem decoder_of_closed (h : b.Holds given) (hc : b.closed = true) :
    b.decoder = (Decoder.empty.push given).flush := by rw [h, hc]; rfl

/-- Nothing is held back once the end was seen. -/
theorem pending_of_closed (h : b.Holds given) (hc : b.closed = true) : b.pending = [] := by
  rw [Buffer.pending, h.decoder_of_closed hc, Decoder.flush_pending]

/-- More octets, but none once the end was seen. -/
theorem push (h : b.Holds given) {bs : Octets} (hb : b.closed = true → bs = []) :
    (b.push bs).Holds (given ++ bs) := by
  by_cases hc : b.closed = true
  · rw [hb hc, List.append_nil]
    exact h
  · have hc : b.closed = false := by simpa using hc
    rw [Holds, Buffer.push, hc, Decoder.push_append, ← h.decoder_of_open hc]
    rfl

theorem close (h : b.Holds given) : b.close.Holds given := by
  rw [Holds, Buffer.close, if_pos rfl]
  cases hc : b.closed with
  | false => rw [h.decoder_of_open hc]
  | true => rw [h.decoder_of_closed hc, Decoder.flush_flush]

/-- **What a drain leaves in the buffer.** -/
theorem drains (h : b.Holds given) {total : Nat} {pieces : List Piece} {taken : Octets}
    {d : Drained} (hd : Drains b total pieces taken d) (ht : b.closed = true → taken = []) :
    d.buffer.Holds (given ++ taken) := by
  cases hd with
  | ended => exact (h.push ht).close
  | full | dry | blocked | failed => exact h.push ht

/-- **All that was given, and nothing else**, is shown in the end. -/
theorem text_flush (h : b.Holds given) : b.flush.text = lossy given := by
  rw [← Decoder.text_flush_push, Buffer.flush, Buffer.text]
  cases hc : b.closed with
  | false => rw [h.decoder_of_open hc]
  | true => rw [h.decoder_of_closed hc, Decoder.flush_flush]

/-- What is shown begins all that may be given, if nothing is given behind the end. -/
theorem prefix_text_lossy (h : b.Holds given) {rest : Octets}
    (open_ : b.closed = true → rest = []) :
    b.text.toList <+: (lossy (given ++ rest)).toList := by
  rw [← Decoder.text_flush_push, Decoder.push_append, Buffer.text]
  cases hc : b.closed with
  | false =>
    rw [h.decoder_of_open hc]
    exact (Decoder.prefix_text_push _ rest).trans (Decoder.prefix_text_flush _)
  | true =>
    rw [h.decoder_of_closed hc, open_ hc]
    exact List.prefix_rfl

/-- **It is all that is given in the end** exactly if it was given already, where that does not end
in the middle of a character. -/
theorem text_eq_lossy_iff (h : b.Holds given) {rest : Octets} (open_ : b.closed = true → rest = [])
    (whole : Decoder.EndsWhole (given ++ rest)) :
    b.text = lossy (given ++ rest) ↔ rest = [] := by
  rw [← whole.text_push, Decoder.push_append, Buffer.text]
  cases hc : b.closed with
  | false =>
    rw [h.decoder_of_open hc]
    refine ⟨fun same => by_contra fun some => ?_, fun none => by rw [none]; rfl⟩
    rw [Decoder.EndsWhole, Decoder.push_append] at whole
    exact absurd (congrArg (·.toList.length) same) (Decoder.length_text_lt_push some whole).ne
  | true =>
    obtain rfl := open_ hc
    rw [List.append_nil] at whole
    rw [h.decoder_of_closed hc, Decoder.flush, whole]
    exact iff_of_true rfl rfl

/-- **A marker shows exactly if it was given.** -/
theorem infix_text_iff (h : b.Holds given) {needle : String}
    (clear : replacement ∉ needle.toList) :
    needle.toList <:+: b.text.toList ↔ encode needle <:+: given := by
  rw [Buffer.text]
  cases hc : b.closed with
  | false =>
    rw [h.decoder_of_open hc]
    exact ⟨Decoder.infix_of_infix_text clear, fun hg => Decoder.infix_text_push hg _⟩
  | true =>
    rw [h.decoder_of_closed hc]
    refine ⟨Decoder.infix_of_infix_text_flush clear, fun hg => ?_⟩
    exact (Decoder.infix_text_push hg _).trans (Decoder.prefix_text_flush _).isInfix

/-- **No octet of a marker that was given is held back.** -/
theorem pending_suffix (h : b.Holds given) {needle : String} (nonempty : needle ≠ "")
    {before after : Octets} (split : given = before ++ encode needle ++ after) :
    b.pending <:+ after := by
  rw [Buffer.pending]
  cases hc : b.closed with
  | false =>
    rw [h.decoder_of_open hc, split]
    exact Decoder.pending_suffix_of_encode nonempty _
  | true =>
    rw [h.decoder_of_closed hc, Decoder.flush_pending]
    exact List.nil_suffix

end Buffer.Holds

/-! ## Both outputs -/

/-- What an output was given, after more for one of them. -/
def feed (given : Stream → Octets) (s : Stream) (bs : Octets) : Stream → Octets :=
  fun t => if t = s then given t ++ bs else given t

/-- **A capture that was fed, piece by piece**, from the empty one on.  Neither way of feeding gives
an output anything behind its end; a drain may stop for any reason, a fault among them. -/
inductive Fed : Capture → (Stream → Octets) → Prop
  | fresh : Fed .empty fun _ => []
  | push {c : Capture} {given : Stream → Octets} (h : Fed c given) (s : Stream) (bs : Octets)
      (before : c.isClosed s = true → bs = []) : Fed (c.push s bs) (feed given s bs)
  | drain {c : Capture} {given : Stream → Octets} (h : Fed c given) (s : Stream)
      (pieces : List Piece) (taken : Octets)
      (split : octetsOf pieces = taken ++ octetsOf (c.drain s pieces).unread)
      (before : c.isClosed s = true → taken = []) :
      Fed (c.drain s pieces).capture (feed given s taken)

namespace Fed

variable {c : Capture} {given : Stream → Octets}

/-- **However it was fed, each buffer holds all its octets.** -/
theorem holds (h : Fed c given) (t : Stream) : (c.buffer t).Holds (given t) := by
  induction h with
  | fresh => cases t <;> exact .empty
  | push h s bs before ih =>
    rw [Capture.push, Capture.buffer_set, feed]
    split
    · next eq => exact eq ▸ ih.push (eq ▸ before)
    · exact ih
  | drain h s pieces taken split before ih =>
    rw [Capture.drain, Capture.buffer_set, feed]
    split
    · next eq =>
      obtain ⟨taken', split', drains⟩ := Buffer.drain_takes (Capture.buffer _ s) 0 pieces
      have same : taken' = taken := List.append_cancel_right (split'.symm.trans split)
      rw [same] at drains
      exact eq ▸ ih.drains (eq ▸ drains) (eq ▸ before)
    · exact ih

/-- **A marker shows exactly if its octets were given**, however they were cut and whatever stands
around them; and none of its octets is held back. -/
theorem contains_iff_encode_infix (h : Fed c given) (s : Stream) {needle : String}
    (clear : replacement ∉ needle.toList) :
    (c.contains s needle = true ↔ encode needle <:+: given s) ∧
      (needle ≠ "" → ∀ before after, given s = before ++ encode needle ++ after →
        (c.buffer s).pending <:+ after) := by
  refine ⟨?_, fun nonempty before after split => (h.holds s).pending_suffix nonempty split⟩
  rw [Capture.contains, Text.contains, Text.occurs_iff]
  exact (h.holds s).infix_text_iff clear

/-- Standard output, cut inside a character between octets that belong to none, the second part
drained up to the end; standard error got the first part's other half. -/
def cutMarker : Capture :=
  (((Capture.empty.push .stdout [0xE2, 0xC3]).push .stderr [0xBC]).drain .stdout
    [.octets [0xBC, 0x21, 0xE2], .ended]).capture

/-- The character shows where it was cut, and not in the other output. -/
theorem contains_cutMarker :
    cutMarker.contains .stdout "ü!" = true ∧ ¬ cutMarker.contains .stderr "ü!" = true := by
  have fed : Fed cutMarker
      (feed (feed (feed (fun _ => []) .stdout [0xE2, 0xC3]) .stderr [0xBC]) .stdout
        [0xBC, 0x21, 0xE2]) :=
    .drain (.push (.push .fresh .stdout _ (by decide)) .stderr _ (by decide)) .stdout _ _
      (by simp [Capture.drain, Capture.push, Buffer.drain, drainLimit, chunkSize])
      (by decide)
  have clear : replacement ∉ "ü!".toList := by decide
  exact ⟨(fed.contains_iff_encode_infix .stdout clear).1.mpr (by decide),
    mt (fed.contains_iff_encode_infix .stderr clear).1.mp (by decide)⟩

end Fed

end NestedSession
