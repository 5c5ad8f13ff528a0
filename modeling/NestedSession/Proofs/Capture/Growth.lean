import Mathlib.Logic.Relation
import NestedSession.Proofs.Capture.Draining
import NestedSession.Proofs.Text.Incremental
import NestedSession.Text.Search

/-!
# Proofs/Capture/Growth — what was captured stays captured

Nothing is ever taken back from a capture: a drain leaves what each output showed, with more behind
it (`Capture.grows_drain`), whether it takes octets, sees the end or fails.  So a marker that shows
once shows from then on (`Capture.Grows.contains`).  Nor does a drain open an output again, or touch
the other one.  All this holds of many drains, one after the other (`Capture.Reads`).
-/

namespace NestedSession

/-- **A capture that has grown from another**: what an output showed, it shows still, and perhaps
more behind it. -/
def Capture.Grows (c d : Capture) : Prop := ∀ s, (c.text s).toList <+: (d.text s).toList

namespace Capture.Grows

variable {c d e : Capture}

theorem refl (c : Capture) : c.Grows c := fun _ => List.prefix_rfl

theorem trans (h : c.Grows d) (k : d.Grows e) : c.Grows e := fun s => (h s).trans (k s)

/-- **A marker that shows once shows from then on.** -/
theorem contains (h : c.Grows d) {s : Stream} {marker : String}
    (shown : c.contains s marker = true) : d.contains s marker = true := by
  rw [Capture.contains, Text.contains, Text.occurs_iff] at shown ⊢
  exact shown.trans (h s).isInfix

end Capture.Grows

/-- The end of an output shows what was held back, behind all the rest. -/
theorem Buffer.prefix_text_close (b : Buffer) : b.text.toList <+: b.close.text.toList :=
  b.decoder.prefix_text_flush

/-- **A drain only adds to its buffer**, however it stopped. -/
theorem Drains.prefix_text {b : Buffer} {total : ℕ} {pieces : List Piece} {taken : Octets}
    {d : Drained} (h : Drains b total pieces taken d) :
    b.text.toList <+: d.buffer.text.toList := by
  have pushed : b.text.toList <+: (b.push taken).text.toList := b.decoder.prefix_text_push taken
  cases h with
  | full | dry | blocked | failed => exact pushed
  | ended => exact pushed.trans (b.push taken).prefix_text_close

/-- **A drain of one output leaves what either showed.** -/
theorem Capture.grows_drain (c : Capture) (s : Stream) (pieces : List Piece) :
    c.Grows (c.drain s pieces).capture := by
  intro t
  rw [drain, text, text, buffer_set]
  split
  · next same =>
    subst same
    obtain ⟨_, -, drains⟩ := (c.buffer t).drain_takes 0 pieces
    exact drains.prefix_text
  · exact List.prefix_rfl

/-! ## Reading on and on -/

namespace Capture

variable {c d : Capture}

/-- **A capture that another becomes by reading alone**: drains, one after the other, each of
whichever output and however it stopped. -/
abbrev Reads : Capture → Capture → Prop :=
  Relation.ReflTransGen fun c d => ∃ s pieces, d = (c.drain s pieces).capture

/-- **A drain leaves the other output alone**: its text, what it holds back and whether its end was
seen. -/
theorem buffer_drain_of_ne (c : Capture) {s t : Stream} (other : t ≠ s) (pieces : List Piece) :
    (c.drain s pieces).capture.buffer t = c.buffer t := by
  rw [drain, buffer_set, if_neg other]

/-- **A drain opens no output again.** -/
theorem isClosed_drain (c : Capture) (s : Stream) (pieces : List Piece) {t : Stream}
    (closed : c.isClosed t = true) : (c.drain s pieces).capture.isClosed t = true := by
  by_cases same : t = s
  · subst same
    obtain ⟨_, -, drains⟩ := (c.buffer t).drain_takes 0 pieces
    rw [isClosed, drain, buffer_set, if_pos rfl]
    exact drains.closed_of_closed closed
  · rwa [isClosed, c.buffer_drain_of_ne same]

namespace Reads

theorem grows (h : c.Reads d) : c.Grows d := by
  induction h with
  | refl => exact .refl c
  | tail _ taken ih =>
    obtain ⟨s, pieces, rfl⟩ := taken
    exact ih.trans (grows_drain _ s pieces)

theorem isClosed (h : c.Reads d) {t : Stream} (closed : c.isClosed t = true) :
    d.isClosed t = true := by
  induction h with
  | refl => exact closed
  | tail _ taken ih =>
    obtain ⟨s, pieces, rfl⟩ := taken
    exact isClosed_drain _ s pieces ih

end Reads

end Capture

end NestedSession
