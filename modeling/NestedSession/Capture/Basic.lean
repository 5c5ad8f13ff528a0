import NestedSession.Stream
import NestedSession.Text.Decoder
import NestedSession.Text.Search

/-!
# Capture/Basic — what a child has written so far

A capture holds the text of both outputs.  It only ever grows: an output is pushed, and once it is
closed what was held back is shown.
-/

namespace NestedSession

/-- The text of one output, and whether its end was seen. -/
structure Buffer where
  decoder : Decoder
  closed : Bool
  deriving DecidableEq, Repr, Inhabited

namespace Buffer

/-- Nothing was written. -/
def empty : Buffer := ⟨.empty, false⟩

/-- The text so far, without octets that wait for more. -/
def text (b : Buffer) : String := b.decoder.text

/-- The octets that wait for more. -/
def pending (b : Buffer) : Octets := b.decoder.pending

/-- Some more output. -/
def push (b : Buffer) (bs : Octets) : Buffer := ⟨b.decoder.push bs, b.closed⟩

/-- What waits for more will get no more. -/
def flush (b : Buffer) : Buffer := ⟨b.decoder.flush, b.closed⟩

/-- The end of the output. -/
def close (b : Buffer) : Buffer := ⟨b.decoder.flush, true⟩

theorem push_append (b : Buffer) (as bs : Octets) : b.push (as ++ bs) = (b.push as).push bs := by
  simp [push, Decoder.push_append]

end Buffer

/-- The texts of both outputs. -/
structure Capture where
  stdout : Buffer
  stderr : Buffer
  deriving DecidableEq, Repr, Inhabited

namespace Capture

/-- Nothing was written. -/
def empty : Capture := ⟨.empty, .empty⟩

/-- The buffer of an output. -/
def buffer (c : Capture) : Stream → Buffer
  | .stdout => c.stdout
  | .stderr => c.stderr

/-- Replace the buffer of an output. -/
def set (c : Capture) : Stream → Buffer → Capture
  | .stdout, b => { c with stdout := b }
  | .stderr, b => { c with stderr := b }

/-- Some more output. -/
def push (c : Capture) (s : Stream) (bs : Octets) : Capture := c.set s ((c.buffer s).push bs)

/-- The text of an output. -/
def text (c : Capture) (s : Stream) : String := (c.buffer s).text

/-- Whether a marker shows in an output. -/
def contains (c : Capture) (s : Stream) (needle : String) : Bool := Text.contains (c.text s) needle

/-- The lines of an output that hold a marker. -/
def linesWith (c : Capture) (s : Stream) (marker : String) : List String :=
  Text.linesWith (c.text s) marker

/-- The graded lines of the log, which is standard error. -/
def graded (c : Capture) (severity : Severity) : List String :=
  c.linesWith .stderr severity.marker

/-- Whether the end of an output was seen. -/
def isClosed (c : Capture) (s : Stream) : Bool := (c.buffer s).closed

/-- **All that was written**, with what waits for more shown as what it is. -/
def flushed (c : Capture) : Capture := ⟨c.stdout.flush, c.stderr.flush⟩

@[simp] theorem buffer_set (c : Capture) (s t : Stream) (b : Buffer) :
    (c.set s b).buffer t = if t = s then b else c.buffer t := by
  cases s <;> cases t <;> rfl

end Capture

end NestedSession
