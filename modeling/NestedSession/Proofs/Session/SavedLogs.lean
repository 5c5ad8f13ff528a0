import NestedSession.Proofs.Session.Output

/-!
# Proofs/Session/SavedLogs — the log files show what the report shows, but for octets held back

The log files of a session and its report are taken from one capture, the last of the session
(`Session.lastCapture?`).  A file gets the text as it stands, the report gets the text that a flush
leaves.  So an output's file and its report agree exactly if no octets of it were held back
(`Session.teardown_saved`).  Nothing is held back of an output whose end was seen
(`Played.pending_of_closed`).  But an output that others still hold open, when its writer ended in
the middle of a character, has one U+FFFD in the report and nothing in the file.
-/

namespace NestedSession

open Utf8

/-! ## What a flush adds -/

/-- A flush shows one U+FFFD for what is held back, if there is any. -/
theorem Decoder.text_flush (d : Decoder) :
    d.flush.text = if d.pending = [] then d.text else d.text.push replacement := by
  obtain ⟨text, _ | ⟨b, ts⟩⟩ := d <;> rfl

theorem Utf8.encode_push (text : String) (c : Char) :
    encode (text.push c) = encode text ++ String.utf8EncodeChar c := by
  simp [encode, String.toList_push, List.flatMap_append]

/-- **The text is spelled as before a flush exactly if nothing is held back.** -/
theorem Buffer.encode_text_flush_iff (b : Buffer) :
    encode b.text = encode b.flush.text ↔ b.pending = [] := by
  have flush : b.flush.text = if b.pending = [] then b.text else b.text.push replacement :=
    b.decoder.text_flush
  rw [flush]
  split
  · next nothing => exact iff_of_true rfl nothing
  · next held =>
    refine iff_of_false (fun same => ?_) held
    rw [encode_push, List.self_eq_append_right] at same
    exact absurd same (by decide)

/-! ## The names of the log files -/

/-- Different names in a directory are different paths. -/
theorem Path.join_inj {dir p q : Path} (hp : isAbsolute p = false) (hq : isAbsolute q = false) :
    join dir p = join dir q ↔ p = q := by
  simp only [join, hp, hq, Bool.false_eq_true, if_false]
  split <;> simp

/-- The path of an output's log file. -/
def SavedLogs.path (logs : SavedLogs) : Stream → Path
  | .stdout => logs.stdout
  | .stderr => logs.stderr

/-- The output as a report shows it. -/
def SessionReport.text (r : SessionReport) : Stream → String
  | .stdout => r.stdout
  | .stderr => r.stderr

theorem Path.logNames_ne (dir : Path) : dir.joinText "log.stdout" ≠ dir.joinText "log.stderr" :=
  fun same => absurd ((join_inj (by decide) (by decide)).mp same) (by decide)

/-! ## What is written to the log files -/

/-- **Log files that were saved**: the directory was made, and both files were written. -/
theorem saveLogs_of_ok {ω : Type} [Disk ω] {w w' : ω} {dir : Path} {c : Capture}
    {logs : SavedLogs} (saved : saveLogs w dir c = (.ok logs, w')) :
    logs.stdout ≠ logs.stderr ∧ ∃ w₁ w₂, Disk.makeDirs w dir = (.ok (), w₁)
      ∧ Disk.replace w₁ logs.stdout (encode (c.text .stdout)) = (.ok (), w₂)
      ∧ Disk.replace w₂ logs.stderr (encode (c.text .stderr)) = (.ok (), w') := by
  have distinct := dir.logNames_ne
  simp only [saveLogs] at saved
  -- the names are kept folded: only that they differ matters
  generalize dir.joinText "log.stdout" = out at distinct saved
  generalize dir.joinText "log.stderr" = err at distinct saved
  rcases made : Disk.makeDirs w dir with ⟨_ | _, w₁⟩
  all_goals simp only [made] at saved
  · cases saved
  rcases first : Disk.replace w₁ out (encode (c.text .stdout)) with ⟨_ | _, w₂⟩
  all_goals simp only [first] at saved
  · cases saved
  rcases second : Disk.replace w₂ err (encode (c.text .stderr)) with ⟨_ | _, w₃⟩
  all_goals simp only [second] at saved
  · cases saved
  · simp only [Prod.mk.injEq, Except.ok.injEq] at saved
    obtain ⟨rfl, rfl⟩ := saved
    exact ⟨distinct, w₁, w₂, rfl, first, second⟩

namespace Noted

variable {ω : Type} [Host ω] {n n' : Noted ω}

/-- **What was written to a file last**, as far as notes were taken. -/
def contentOf (n : Noted ω) (path : Path) : Option Octets := n.files.lookup path

theorem contentOf_replace {path : Path} {bs : Octets}
    (written : Disk.replace n path bs = (.ok (), n')) (p : Path) :
    n'.contentOf p = if p = path then some bs else n.contentOf p := by
  rcases eq : Disk.replace n.host path bs with ⟨_ | _, w⟩
  all_goals simp only [Disk.replace, eq, Prod.mk.injEq, reduceCtorEq, false_and, true_and]
    at written
  subst written
  rw [contentOf, List.lookup_cons]
  by_cases same : p = path
  · rw [if_pos same, beq_iff_eq.mpr same]
  · rw [if_neg same, beq_eq_false_iff_ne.mpr same]
    rfl

/-- **Log files hold the texts as they stand.** -/
theorem contentOf_saveLogs {dir : Path} {c : Capture} {logs : SavedLogs}
    (saved : saveLogs n dir c = (.ok logs, n')) (s : Stream) :
    n'.contentOf (logs.path s) = some (encode (c.text s)) := by
  obtain ⟨distinct, n₁, n₂, -, first, second⟩ := saveLogs_of_ok saved
  rw [contentOf_replace second]
  cases s with
  | stdout => rw [SavedLogs.path, if_neg distinct, contentOf_replace first, if_pos rfl]
  | stderr => rw [SavedLogs.path, if_pos rfl]

end Noted

namespace Session

variable {ω ω' : Type} [Host ω] [Host ω'] {s : Session} {w w' : ω} {report : SessionReport}

theorem text_conclude (s : Session) (w : ω) (exit : Option Exit) (forced : Bool) (t : Stream) :
    (s.conclude w exit forced).1.text t = (s.capture.buffer t).flush.text := by
  cases t with
  | stdout => exact s.stdout_conclude w exit forced
  | stderr => exact s.stderr_conclude w exit forced

theorem contentOf_conclude {n n' : Noted ω} {exit : Option Exit} {forced : Bool}
    {logs : SavedLogs} (concluded : s.conclude n exit forced = (report, n'))
    (saved : report.savedLogs = some logs) (t : Stream) :
    n'.contentOf (logs.path t) = some (encode (s.capture.text t)) := by
  rw [conclude] at concluded
  cases wanted : s.wantsLogs with
  | false =>
    rw [wanted] at concluded
    rw [← (Prod.mk.inj concluded).1] at saved
    cases saved
  | true =>
    rw [wanted] at concluded
    rcases written : saveLogs n (encode s.logs.dir) s.capture with ⟨_ | _, n₁⟩
    all_goals
      rw [written] at concluded
      obtain ⟨rfl, rfl⟩ := Prod.mk.inj concluded
    · cases saved
    · obtain rfl := Option.some.inj saved
      exact Noted.contentOf_saveLogs written t

/-! ## The end of a session -/

/-- **What a session has captured at its end**, if the clock can show the deadline for its child. -/
def lastCapture? (s : Session) (w : ω) : Option Capture :=
  s.child.elim (some s.capture) fun child =>
    ((⟨w, child, s.capture⟩ : Watched ω).terminate s.settings.shutdownTimeout).map
      fun r => r.2.capture

/-- It is the same on a host that mirrors another. -/
theorem lastCapture?_map {f : ω' → ω} (h : Host.Mirrors f) (s : Session) (w : ω') :
    s.lastCapture? (f w) = s.lastCapture? w := by
  cases known : s.child with
  | none => rw [lastCapture?, lastCapture?, known, Option.elim_none, Option.elim_none]
  | some child =>
    have same := Watched.terminate_map h ⟨w, child, s.capture⟩ s.settings.shutdownTimeout
    rw [Watched.map] at same
    rw [lastCapture?, lastCapture?, known, Option.elim_some, Option.elim_some, same,
      Option.map_map]
    exact congrArg (Option.map · _) (funext fun r => rfl)

/-- A session ends with its last capture, from which its report is made. -/
theorem conclude_of_teardown (ended : s.teardown w = some (report, w')) :
    ∃ (s' : Session) (w₁ : ω) (exit : Option Exit) (forced : Bool),
      s.lastCapture? w = some s'.capture ∧ s'.conclude w₁ exit forced = (report, w') := by
  cases known : s.child with
  | none =>
    rw [teardown_of_none known, Option.some.injEq] at ended
    exact ⟨s, w, none, false, by rw [lastCapture?, known, Option.elim_none], ended⟩
  | some child =>
    rw [teardown_of_child known, Option.map_eq_some_iff] at ended
    obtain ⟨⟨⟨exit, forced⟩, a⟩, terminated, concluded⟩ := ended
    refine ⟨s.after a, a.host, exit, forced, ?_, concluded⟩
    rw [lastCapture?, known, Option.elim_some, terminated, Option.map_some]
    rfl

/-- **The log files show what the report shows exactly if nothing was held back.**  Whenever a
session ends with log files, on a host of which notes are taken, an output's file holds the text
last captured as it stands, and the report shows that text with one U+FFFD behind it if octets were
held back. -/
theorem teardown_saved {logs : SavedLogs} (ended : s.teardown w = some (report, w'))
    (saved : report.savedLogs = some logs) :
    ∃ (n : Noted ω) (c : Capture),
      s.teardown (Noted.blank w) = some (report, n) ∧ n.host = w' ∧ s.lastCapture? w = some c
      ∧ ∀ t : Stream,
        n.contentOf (logs.path t) = some (encode (c.text t))
        ∧ report.text t =
          (if (c.buffer t).pending = [] then c.text t else (c.text t).push replacement)
        ∧ (n.contentOf (logs.path t) = some (encode (report.text t))
            ↔ (c.buffer t).pending = []) := by
  have mirrored := s.teardown_map Noted.mirrors (Noted.blank w)
  obtain ⟨⟨report', n⟩, noted, same⟩ := Option.map_eq_some_iff.mp (mirrored.symm.trans ended)
  obtain ⟨rfl, rfl⟩ : report' = report ∧ n.host = w' := Prod.mk.inj same
  obtain ⟨s', n₁, exit, forced, last, concluded⟩ := conclude_of_teardown noted
  refine ⟨n, s'.capture, noted, rfl, ?_, fun t => ?_⟩
  · exact (s.lastCapture?_map Noted.mirrors (Noted.blank w)).trans last
  · have content := contentOf_conclude concluded saved t
    have text := s'.text_conclude n₁ exit forced t
    rw [concluded] at text
    refine ⟨content, text.trans (s'.capture.buffer t).decoder.text_flush, ?_⟩
    rw [content, Option.some.injEq, text]
    exact (s'.capture.buffer t).encode_text_flush_iff

/-- The session of a process cut short: its standard output ends in the first octet of a character
and is held open by others, so the log file stops before that octet and the report does not. -/
theorem teardown_saved_cutShort :
    ∃ (s : Session) (w w' : Scripted) (report : SessionReport) (logs : SavedLogs)
      (n : Noted Scripted) (c : Capture),
      Played 7 w s ∧ s.teardown w = some (report, w') ∧ report.savedLogs = some logs
      ∧ s.teardown (Noted.blank w) = some (report, n)
      ∧ (c.buffer .stdout).pending = [0xE2]
      ∧ n.contentOf (logs.path .stdout) = some (encode "xü")
      ∧ report.text .stdout = "xü\uFFFD"
      ∧ n.contentOf (logs.path .stdout) ≠ some (encode (report.text .stdout)) := by
  have ready : (Session.cutShort?.map fun r =>
      ((r.1.teardown r.2).bind fun ended => ended.1.savedLogs,
        (r.1.lastCapture? r.2).map fun c => ((c.buffer .stdout).pending, c.text .stdout)))
      = some (some ⟨encode "logs/log.stdout", encode "logs/log.stderr"⟩,
          some ([0xE2], "xü")) := by decide +kernel
  obtain ⟨⟨s, w⟩, started, ready⟩ := Option.map_eq_some_iff.mp ready
  simp only [Prod.mk.injEq] at ready
  obtain ⟨saved, captured⟩ := ready
  obtain ⟨⟨report, w'⟩, ended, saved⟩ := Option.bind_eq_some_iff.mp saved
  obtain ⟨n, c, noted, -, last, agree⟩ := teardown_saved ended saved
  rw [last, Option.map_some, Option.some.injEq, Prod.mk.injEq] at captured
  obtain ⟨held, shown⟩ := captured
  obtain ⟨content, text, same⟩ := agree .stdout
  refine ⟨s, w, w', report, _, n, c, .cutShort started, ended, saved, noted, held,
    shown ▸ content, ?_, mt same.mp (by simp [held])⟩
  rw [text, held, shown]
  decide

end Session

/-! ## An output whose end was seen -/

/-- **Nothing is held back of an output whose end was seen**, however the session was played. -/
theorem Played.pending_of_closed {ω : Type} [Piped ω] [PipeLaws ω] {pid : Pid} {w : ω}
    {s : Session} (run : Played pid w s) {c : Capture} (last : s.lastCapture? w = some c)
    {t : Stream} (closed : c.isClosed t = true) : (c.buffer t).pending = [] := by
  obtain ⟨child, has, tracked⟩ := run.tracks
  rw [Session.lastCapture?, has, Option.elim_some, Option.map_eq_some_iff] at last
  obtain ⟨⟨answer, a⟩, terminated, rfl⟩ := last
  obtain ⟨given, holds, -⟩ := (tracked.terminate terminated).accounted.held t
  exact holds.pending_of_closed closed

end NestedSession
