import NestedSession.Proofs.Capture.Growth
import NestedSession.Proofs.Session.SavedLogs

/-!
# Proofs/Session/Capturing — what was captured changes by reading alone

Whatever a session does, and however that ends, what it has captured changes by drains alone
(`Capture.Reads`): so it is in a pump, which may fail after one output was read, in every step of a
session (`Session.Step.reads`) and so all through its course, and when its child is ended
(`Watched.reads_of_terminate`).  The report is made from what was captured last, and shows what was
held back behind it.  So nothing that was captured is ever taken back.
-/

namespace NestedSession

variable {ω : Type} [Host ω]

/-! ## A child that is watched -/

namespace Watched

theorem capture_tryExit (a : Watched ω) : a.tryExit.2.capture = a.capture := by
  rcases a.tryExit_cases with ⟨_, -, eq⟩ | ⟨-, ⟨_, -, eq⟩ | ⟨-, eq⟩ | ⟨_, -, eq⟩⟩
  all_goals exact congrArg (·.2.capture) eq

theorem capture_wait (a : Watched ω) : a.wait.2.capture = a.capture := by
  rcases a.wait_cases with ⟨_, -, eq⟩ | ⟨-, ⟨_, -, eq⟩ | ⟨_, -, eq⟩⟩
  all_goals exact congrArg (·.2.capture) eq

theorem capture_signal (a : Watched ω) (sent : Signal) :
    (a.signal sent).2.capture = a.capture := by
  rcases a.signal_cases sent with eq | ⟨-, eq⟩
  all_goals exact (congrArg capture eq).trans a.capture_tryExit

/-- **A pump of one output leaves the other alone**, whether it fails or not. -/
theorem buffer_pumpStream_of_ne (a : Watched ω) {s t : Stream} (other : t ≠ s) :
    (a.pumpStream s).2.capture.buffer t = a.capture.buffer t := by
  rcases a.pumpStream_cases s with ⟨-, eq⟩ | ⟨_, -, eq⟩ | ⟨_, _, -, eq⟩ | ⟨-, eq⟩ <;> rw [eq]
  all_goals exact a.capture.buffer_drain_of_ne other (a.unread s)

/-- **A pump only reads**, whether it fails or not. -/
theorem reads_pump (a : Watched ω) : a.capture.Reads a.pump.2.capture :=
  pump_keeps (P := fun b => a.capture.Reads b.capture)
    (fun _ s read => pumpStream_keeps (P := fun b => a.capture.Reads b.capture)
      (fun b s read => read.tail ⟨s, b.unread s, rfl⟩) (fun _ _ read => read) read s) .refl

/-- **What was captured changes by reading alone** while a child is watched. -/
theorem keeps_reads (c : Capture) : Keeps fun a : Watched ω => c.Reads a.capture where
  tryExit a read := a.capture_tryExit.symm ▸ read
  pump a read := read.trans a.reads_pump
  pause _ _ read := read

/-- **A child that is ended** is read, and that is all that changes what was captured of it. -/
theorem reads_of_terminate {a b : Watched ω} {grace : Span} {answer : Option Exit × Bool}
    (ended : a.terminate grace = some (answer, b)) : a.capture.Reads b.capture := by
  have keeps := keeps_reads (ω := ω) a.capture
  exact terminate_keeps (P := fun b => a.capture.Reads b.capture)
    (fun b sent read => (b.capture_signal sent).symm ▸ read) keeps.pump
    (fun b read => b.capture_wait.symm ▸ read)
    (fun b => awaitEnd_keeps keeps.pump keeps.tryExit keeps.pause) .refl ended

end Watched

/-! ## A session -/

namespace Session

theorem reads_waitForOutput (s : Session) (w : ω) (request : WaitRequest) :
    s.capture.Reads (s.waitForOutput w request).2.2.capture := by
  cases has : s.child with
  | none =>
    rw [waitForOutput_of_none has]
  | some child =>
    obtain ⟨_, -, read⟩ := (Watched.keeps_reads s.capture).waitForOutput (w := w) (s := s)
      ⟨child, has, .refl⟩ request
    exact read

/-- **A step of a session only reads.** -/
theorem Step.reads {drift : ω → ω → Prop} {x y : ω × Session} (taken : Step drift x y) :
    x.2.capture.Reads y.2.capture := by
  cases taken with
  | @spawned w w' s s' ready =>
    obtain ⟨-, child, w₁, polls, -, waited⟩ := of_spawn ready
    have read := (s.having child).reads_waitForOutput w₁ s.readiness
    rwa [waited] at read
  | waited w s request => exact s.reads_waitForOutput w request
  | expected w s request =>
    rw [expectOutput_snd]
    exact s.reads_waitForOutput w request
  | polled w s =>
    cases has : s.child with
    | none =>
      rw [poll_of_none has]
    | some child =>
      obtain ⟨_, -, read⟩ :=
        (Watched.keeps_reads s.capture).poll (w := w) (s := s) ⟨child, has, .refl⟩
      exact read
  | drifted _ s => exact .refl

/-- **All through its course a session only reads.** -/
theorem reads_of_course {drift : ω → ω → Prop} {x y : ω × Session} (run : Course drift x y) :
    x.2.capture.Reads y.2.capture := by
  induction run with
  | refl => exact .refl
  | tail _ taken ih => exact ih.trans taken.reads

/-- **So does its end.** -/
theorem reads_of_lastCapture {s : Session} {w : ω} {c : Capture}
    (last : s.lastCapture? w = some c) : s.capture.Reads c := by
  rw [lastCapture?] at last
  cases has : s.child with
  | none =>
    rw [has, Option.elim_none, Option.some.injEq] at last
    exact last ▸ .refl
  | some child =>
    rw [has, Option.elim_some, Option.map_eq_some_iff] at last
    obtain ⟨⟨answer, b⟩, ended, rfl⟩ := last
    exact Watched.reads_of_terminate ended

/-- **The report is made from what was captured last**: it shows that, and behind it what was held
back. -/
theorem of_teardown {s : Session} {w w' : ω} {report : SessionReport}
    (torn : s.teardown w = some (report, w')) :
    ∃ c, s.lastCapture? w = some c ∧ ∀ t, report.text t = (c.buffer t).flush.text := by
  obtain ⟨s', w₁, exit, forced, last, concluded⟩ := conclude_of_teardown torn
  refine ⟨s'.capture, last, fun t => ?_⟩
  have text := s'.text_conclude w₁ exit forced t
  rwa [concluded] at text

/-- So it shows all that was captured. -/
theorem prefix_text_of_teardown {s : Session} {w w' : ω} {report : SessionReport}
    (torn : s.teardown w = some (report, w')) (t : Stream) :
    (s.capture.text t).toList <+: (report.text t).toList := by
  obtain ⟨c, last, text⟩ := of_teardown torn
  rw [text]
  exact ((reads_of_lastCapture last).grows t).trans (c.buffer t).decoder.prefix_text_flush

/-- **What was captured only grows.**

* Whatever a session does, however often and however it ends, and whatever happens in the world:
  the text of an output goes on as it was, a marker that shows in it still shows, and an output
  whose end was seen stays closed.
* So it is at the end of a session that has one: what was captured last goes on from what was
  captured before, and the report goes on from that.
* What is done to one output leaves the other as it is, with the octets it holds back and whether
  its end was seen: so it is with octets that are pushed, and with a drain and a pump, whether they
  fail or not. -/
theorem captured_only_grows :
    (∀ (drift : ω → ω → Prop) (x y : ω × Session), Course drift x y →
      (∀ t : Stream, (x.2.capture.text t).toList <+: (y.2.capture.text t).toList
        ∧ (∀ needle, x.2.capture.contains t needle = true → y.2.capture.contains t needle = true)
        ∧ (x.2.capture.isClosed t = true → y.2.capture.isClosed t = true))
      ∧ (∀ needle, x.2.hasWritten needle = true → y.2.hasWritten needle = true)
      ∧ ∀ report w', y.2.teardown y.1 = some (report, w') →
        ∃ c, y.2.lastCapture? y.1 = some c ∧ ∀ t : Stream,
          (y.2.capture.text t).toList <+: (c.text t).toList
          ∧ (c.text t).toList <+: (report.text t).toList
          ∧ (∀ needle, y.2.capture.contains t needle = true →
            Text.contains (report.text t) needle = true)
          ∧ (y.2.capture.isClosed t = true → c.isClosed t = true))
    ∧ ∀ s t : Stream, t ≠ s →
      (∀ (c : Capture) (bs : Octets), (c.push s bs).buffer t = c.buffer t)
      ∧ (∀ (c : Capture) (pieces : List Piece), (c.drain s pieces).capture.buffer t = c.buffer t)
      ∧ ∀ a : Watched ω, (a.pumpStream s).2.capture.buffer t = a.capture.buffer t := by
  refine ⟨fun drift x y run => ?_, fun s t other => ⟨fun c bs => ?_, fun c pieces =>
    c.buffer_drain_of_ne other pieces, fun a => a.buffer_pumpStream_of_ne other⟩⟩
  · have read := reads_of_course run
    refine ⟨fun t => ⟨read.grows t, fun needle => read.grows.contains, read.isClosed⟩,
      fun needle => read.grows.contains, fun report w' torn => ?_⟩
    obtain ⟨c, last, text⟩ := of_teardown torn
    have ending := reads_of_lastCapture last
    have shown (t : Stream) : (c.text t).toList <+: (report.text t).toList := by
      rw [text]
      exact (c.buffer t).decoder.prefix_text_flush
    refine ⟨c, last, fun t => ⟨ending.grows t, shown t, fun needle there => ?_, ending.isClosed⟩⟩
    have there := ending.grows.contains there
    rw [Capture.contains, Text.contains, Text.occurs_iff] at there
    rw [Text.contains, Text.occurs_iff]
    exact there.trans (shown t).isInfix
  · rw [Capture.push, Capture.buffer_set, if_neg other]

/-- A session whose child writes half a character, then the other half and closes that output, and
begins another character on the other. -/
def halved : Scripted × Session :=
  (.idle [[.write .stdout [0x78, 0xC3], .write .stderr [0x65]], [], [],
    [.write .stdout [0xBC], .close .stdout], [], [], [.write .stderr [0xE2]]],
    justBuilt.having (.fresh 7))

/-- After two polls the character is cut in half, after the third it is whole and its output is
closed, and the report has the other output with what it held back. -/
theorem captured_only_grows_halved : ∃ (x y : Scripted × Session) (report : SessionReport),
    Course (fun _ _ => False) halved x ∧ Course (fun _ _ => False) x y
    ∧ (y.2.teardown y.1).map Prod.fst = some report ∧ Stream.stderr ≠ Stream.stdout
    ∧ x.2.capture.text .stdout = "x" ∧ y.2.capture.text .stdout = "xü"
    ∧ y.2.capture.isClosed .stdout = true ∧ report.text .stderr = "e\uFFFD"
    ∧ x.2.hasWritten "x" = true ∧ y.2.hasWritten "x" = true
    ∧ Text.contains (report.text .stdout) "ü" = true
    ∧ (y.2.capture.text .stderr).toList <+: (report.text .stderr).toList
    ∧ ((⟨y.1, .fresh 7, y.2.capture⟩ : Watched Scripted).pumpStream .stdout).2.capture.buffer
      .stderr = y.2.capture.buffer .stderr := by
  obtain ⟨u, zeroth⟩ : ∃ u, u = (halved.2.poll halved.1).2 := ⟨_, rfl⟩
  obtain ⟨x, first⟩ : ∃ x, x = (u.2.poll u.1).2 := ⟨_, rfl⟩
  obtain ⟨y, second⟩ : ∃ y, y = (x.2.poll x.1).2 := ⟨_, rfl⟩
  have shown : (x.2.capture.text .stdout, y.2.capture.text .stdout, y.2.capture.isClosed .stdout,
      (y.2.teardown y.1).map fun r => r.1.text .stderr)
      = ("x", "xü", true, some "e\uFFFD") := by
    rw [second, first, zeroth]
    decide +kernel
  obtain ⟨before, after_, closed, last⟩ := by simpa only [Prod.mk.injEq] using shown
  obtain ⟨⟨report, w'⟩, torn, last⟩ := Option.map_eq_some_iff.mp last
  have polled (z : Scripted × Session) : Course (fun _ _ => False) z (z.2.poll z.1).2 :=
    .single (.polled z.1 z.2)
  have start : Course (fun _ _ => False) halved x :=
    (zeroth ▸ polled halved).trans (first ▸ polled u)
  have next : Course (fun _ _ => False) x y := second ▸ polled x
  have there : x.2.hasWritten "x" = true := by
    rw [hasWritten, Capture.contains, before]
    decide
  have found : y.2.capture.contains .stdout "ü" = true := by
    rw [Capture.contains, after_]
    decide
  obtain ⟨live, apart⟩ := captured_only_grows (ω := Scripted)
  obtain ⟨-, written, reported⟩ := live _ x y next
  obtain ⟨c, -, whole⟩ := reported report w' torn
  obtain ⟨-, -, pumped⟩ := apart .stdout .stderr (by decide)
  exact ⟨x, y, report, start, next, congrArg (Option.map Prod.fst) torn, by decide, before, after_,
    closed, last, there, written "x" there, (whole .stdout).2.2.1 "ü" found,
    (whole .stderr).1.trans (whole .stderr).2.1, pumped _⟩

end Session

end NestedSession
