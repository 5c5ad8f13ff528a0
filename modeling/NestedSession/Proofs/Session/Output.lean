import NestedSession.Proofs.Child.Ending
import NestedSession.Proofs.Session.Course
import NestedSession.Proofs.Session.Mirroring
import NestedSession.Proofs.System.Scripted

/-!
# Proofs/Session/Output — what a child writes in a session is what the report shows

A session is played (`Played`): it is built, its child is started and becomes ready, and then the
session waits for output, expects it or polls, as often and in whatever order it likes, while time
passes.  All through, its child is accounted for (`Played.tracks`).  At the end of the session
nothing is left unread, so the report shows all that the child wrote, in order and once
(`Played.teardown_text`).
-/

namespace NestedSession

open Utf8

variable {ω : Type} [Piped ω] {pid : Pid} {w : ω} {s : Session}

/-! ## The child of a session -/

/-- **A session whose child is accounted for.** -/
def Session.Tracks (pid : Pid) (w : ω) (s : Session) : Prop :=
  ∃ child, s.child = some child ∧ (⟨w, child, s.capture⟩ : Watched ω).Tracked pid

theorem Session.Tracks.later (h : s.Tracks pid w) {w' : ω} (l : Later w w' pid) :
    s.Tracks pid w' := by
  obtain ⟨child, has, tracked⟩ := h
  exact ⟨child, has, tracked.later l⟩

/-- **Whatever a session asks of its child keeps the account.** -/
theorem Watched.keeps_tracked [PipeLaws ω] (pid : Pid) :
    Watched.Keeps fun a : Watched ω => a.Tracked pid where
  tryExit _ h := h.tryExit
  pump _ h := h.pump
  pause _ _ h := h.later (PipeLaws.pause _ _ _)

/-! ## Its start -/

/-- A child that was just started is accounted for: nothing was read of what it wrote. -/
theorem Watched.Tracked.fresh
    (unread : ∀ s, octetsOf (Host.unread w pid s) = Piped.written w pid s) :
    (⟨w, .fresh pid, .empty⟩ : Watched ω).Tracked pid where
  pid := rfl
  accounted :=
    { held := fun s => ⟨[], by cases s <;> exact .empty, (unread s).symm⟩
      closed := fun s closed => by cases s <;> nomatch closed
      shut := fun s shut => by cases s <;> nomatch shut
      silent := fun known => absurd rfl known }

theorem Watched.Tracked.silent {a : Watched ω} (h : a.Tracked pid) {s : Stream}
    (silent : a.Silent s) : Piped.silent a.host pid s := by rwa [Silent, h.pid] at silent

/-- A child of which nothing is unread: its buffers show all that it wrote. -/
theorem Watched.Tracked.text_flush {a : Watched ω} (h : a.Tracked pid) {s : Stream}
    (nothing : octetsOf (a.unread s) = []) :
    (a.capture.buffer s).flush.text = lossy (Piped.written a.host pid s) := by
  obtain ⟨given, holds, written⟩ := h.accounted.held s
  rw [nothing, List.append_nil, Watched.written, h.pid] at written
  rw [holds.text_flush, written]

/-- A session starts without output. -/
theorem SessionPlan.capture_of_build {plan : SessionPlan}
    (built : (plan.build w).1 = .ok s) : s.capture = .empty := by
  rw [build] at built
  split at built
  · nomatch built
  · split at built
    · nomatch built
    · rw [← Except.ok.inj built]

variable [PipeLaws ω]

/-- **A child that was just started** is accounted for. -/
theorem Child.start_tracked {w' : ω} {call : Invocation} {program : String} {child : Child}
    (started : Child.start w call program = (.ok child, w')) :
    (⟨w', child, .empty⟩ : Watched ω).Tracked child.pid := by
  obtain ⟨w₁, spawned, fresh, unblocked⟩ := of_start started
  have given := PipeLaws.spawn w call child.pid (congrArg Prod.fst spawned)
  rw [spawned] at given
  have later : Later w₁ (unblockAll w₁ child.pid Stream.all).2 child.pid :=
    unblockAll_keeps (P := fun w' => Later w₁ w' child.pid)
      (fun w s later => later.trans (PipeLaws.unblock w child.pid s)) (.refl w₁ child.pid) _
  rw [unblocked] at later
  rw [fresh]
  exact (Watched.Tracked.fresh given).later later

/-- **A session that became ready** has its child accounted for. -/
theorem Session.tracks_of_spawn {w' : ω} {s s' : Session} (empty : s.capture = .empty)
    (ready : s.spawn w = some (.ok s', w')) : ∃ pid, s'.Tracks pid w' := by
  obtain ⟨-, child, w₁, polls, started, waited⟩ := of_spawn ready
  have tracks : (s.having child).Tracks child.pid w₁ :=
    ⟨child, rfl, empty ▸ Child.start_tracked started⟩
  have kept := (Watched.keeps_tracked child.pid).waitForOutput tracks s.readiness
  rw [waited] at kept
  exact ⟨child.pid, kept⟩

/-! ## A session is played -/

/-- **A session in the course of its play**, with the number of its child. -/
inductive Played (pid : Pid) : ω → Session → Prop
  /-- It was built, and its child became ready. -/
  | spawned {plan : SessionPlan} {w₀ w₁ w₂ : ω} {s₀ s : Session}
      (built : (plan.build w₀).1 = .ok s₀) (ready : s₀.spawn w₁ = some (.ok s, w₂))
      (number : s.child.map Child.pid = some pid) : Played pid w₂ s
  /-- Time passes. -/
  | meanwhile {w w' : ω} {s : Session} (run : Played pid w s) (later : Later w w' pid) :
      Played pid w' s
  /-- It waits for output, and goes on however that ended. -/
  | waited {w : ω} {s : Session} (run : Played pid w s) (request : WaitRequest) :
      Played pid (s.waitForOutput w request).2.1 (s.waitForOutput w request).2.2
  /-- It expects output. -/
  | expected {w : ω} {s : Session} (run : Played pid w s) (request : WaitRequest) :
      Played pid (s.expectOutput w request).2.1 (s.expectOutput w request).2.2
  /-- It polls. -/
  | polled {w : ω} {s : Session} (run : Played pid w s) :
      Played pid (s.poll w).2.1 (s.poll w).2.2

/-- **All through its play, the child is accounted for.** -/
theorem Played.tracks (run : Played pid w s) : s.Tracks pid w := by
  induction run with
  | spawned built ready number =>
    obtain ⟨pid', child, has, tracked⟩ :=
      Session.tracks_of_spawn (SessionPlan.capture_of_build built) ready
    rw [has, Option.map_some, Option.some.injEq] at number
    obtain rfl : pid' = pid := tracked.pid.symm.trans number
    exact ⟨child, has, tracked⟩
  | meanwhile _ later ih => exact ih.later later
  | waited _ request ih => exact (Watched.keeps_tracked pid).waitForOutput ih request
  | expected _ request ih => exact (Watched.keeps_tracked pid).expectOutput ih request
  | polled _ ih => exact (Watched.keeps_tracked pid).poll ih

/-! ## Its end -/

/-- The deadline that the end of a session sets for its child, if the clock can show it. -/
def Session.deadline? {ω : Type} [Host ω] (s : Session) (w : ω) : Option Moment :=
  s.child.bind fun child =>
    (Host.now ((⟨w, child, s.capture⟩ : Watched ω).signal .term).2.host).after?
      s.settings.shutdownTimeout

/-- **The notes that are taken when the end of a session ends its child**: which reads and waits
failed, and how much was unread of each output when it was first seen that the child had ended. -/
def Session.endNotes? {ω : Type} [Host ω] (s : Session) (w : ω) : Option (Noted ω) :=
  s.child.bind fun child =>
    (⟨w, child, s.capture⟩ : Watched ω).endNotes? s.settings.shutdownTimeout

/-- The last steps of a session read nothing. -/
theorem Session.later_conclude (s : Session) (w : ω) (exit : Option Exit) (forced : Bool)
    (pid : Pid) : Later w (s.conclude w exit forced).2 pid :=
  s.conclude_keeps (P := fun w' => Later w w' pid)
    (fun w' path later => later.trans (PipeLaws.makeDirs w' path pid))
    (fun w' path bs later => later.trans (PipeLaws.replace w' path bs pid))
    (fun w' path later => later.trans (PipeLaws.removeTree w' path pid)) (.refl w pid) exit forced

/-- The report shows what the session captured. -/
theorem Session.stdout_conclude {ω : Type} [Host ω] (s : Session) (w : ω) (exit : Option Exit)
    (forced : Bool) : (s.conclude w exit forced).1.stdout = (s.capture.buffer .stdout).flush.text :=
  rfl

theorem Session.stderr_conclude {ω : Type} [Host ω] (s : Session) (w : ω) (exit : Option Exit)
    (forced : Bool) : (s.conclude w exit forced).1.stderr = (s.capture.buffer .stderr).flush.text :=
  rfl

/-- **No output is lost, doubled or out of order.**  However a session was played: if the clock can
show the deadline for the child's end, no read fails and no wait for that end, and no more than one
drain may take was unread of either output when it was first seen that the child had ended, then the
session ends with a report that shows exactly what the child ever wrote. -/
theorem Played.teardown_text (run : Played pid w s) (shown : s.deadline? w ≠ none)
    (unfailing : ∀ notes ∈ s.endNotes? w, notes.faults = [])
    (small : ∀ notes ∈ s.endNotes? w, ∀ counts ∈ notes.told, ∀ stream,
      counts stream ≤ drainLimit) :
    ∃ report w', s.teardown w = some (report, w')
      ∧ report.stdout = lossy (Piped.written w' pid .stdout)
      ∧ report.stderr = lossy (Piped.written w' pid .stderr) := by
  obtain ⟨child, has, tracked⟩ := run.tracks
  rw [Session.deadline?, has, Option.bind_some] at shown
  rw [Session.endNotes?, has, Option.bind_some] at unfailing small
  obtain ⟨exit, forced, b, ended, tracked, last⟩ := tracked.terminate_eq shown unfailing small
  have later := (s.after b).later_conclude b.host (some exit) forced pid
  have stays (t : Stream) := later.written_eq (tracked.silent (last t).1)
  refine ⟨((s.after b).conclude b.host (some exit) forced).1,
    ((s.after b).conclude b.host (some exit) forced).2, ?_, ?_, ?_⟩
  · rw [Session.teardown_of_child has, ended, Option.map_some]
  · rw [Session.stdout_conclude, stays]
    exact tracked.text_flush (last .stdout).2
  · rw [Session.stderr_conclude, stays]
    exact tracked.text_flush (last .stderr).2

/-- A session that was just built, with log files wanted. -/
def Session.justBuilt : Session where
  sourceDir := []
  buildDir := encode "build"
  logs := { save := true, dir := "logs" }
  workDir := encode "build/phosh-itest-"
  socket := encode "build/phosh-itest-/wayland-socket"
  child := none
  capture := .empty

/-- The session of a process cut short, if it becomes ready. -/
def Session.cutShort? : Option (Session × Scripted) :=
  (justBuilt.spawn Scripted.cutShort).bind fun r => r.1.toOption.map fun s => (s, r.2)

theorem Played.cutShort {s : Session} {w : Scripted} (started : Session.cutShort? = some (s, w)) :
    Played 7 w s := by
  have built : (Session.justBuilt.toSessionPlan.build Scripted.cutShort).1
      = .ok Session.justBuilt := by decide +kernel
  have number : Session.cutShort?.map (fun r => r.1.child.map Child.pid) = some (some 7) := by
    decide +kernel
  rw [started, Option.map_some, Option.some.injEq] at number
  obtain ⟨⟨outcome, w'⟩, spawned, answer⟩ := Option.bind_eq_some_iff.mp started
  cases outcome with
  | error fault => cases answer
  | ok s' =>
    obtain ⟨rfl, rfl⟩ := Prod.mk.inj (Option.some.inj answer)
    exact .spawned built spawned number

/-- The failures that were noted, and what was unread of either output when an end was told. -/
def Noted.sighting {ω : Type} (n : Noted ω) : List Fault × List (ℕ × ℕ) :=
  (n.faults, n.told.map fun counts => (counts .stdout, counts .stderr))

/-- The session of a process cut short, after a poll between the halves of a character. -/
theorem Played.teardown_text_cutShort :
    ∃ (s : Session) (w : Scripted), Played 7 w s
      ∧ (s.endNotes? w).map Noted.sighting = some ([], [(2, 0)])
      ∧ ∃ report w', s.teardown w = some (report, w')
        ∧ report.stdout = lossy (Piped.written w' 7 .stdout)
        ∧ report.stderr = lossy (Piped.written w' 7 .stderr) := by
  have ready : (Session.cutShort?.map fun r =>
      (decide ((r.1.poll r.2).2.2.deadline? (r.1.poll r.2).2.1 ≠ none),
        ((r.1.poll r.2).2.2.endNotes? (r.1.poll r.2).2.1).map Noted.sighting))
      = some (true, some ([], [(2, 0)])) := by decide +kernel
  obtain ⟨⟨s, w⟩, started, ready⟩ := Option.map_eq_some_iff.mp ready
  simp only [Prod.mk.injEq, decide_eq_true_eq] at ready
  obtain ⟨shown, seen⟩ := ready
  have run : Played 7 (s.poll w).2.1 (s.poll w).2.2 := .polled (.cutShort started)
  have noted {notes : Noted Scripted}
      (ended : notes ∈ (s.poll w).2.2.endNotes? (s.poll w).2.1) :
      notes.faults = [] ∧ notes.told.map (fun counts => (counts .stdout, counts .stderr))
        = [(2, 0)] := by
    rw [Option.mem_def.mp ended, Option.map_some, Option.some.injEq] at seen
    exact Prod.mk.inj seen
  refine ⟨_, _, run, seen, run.teardown_text shown (fun notes ended => (noted ended).1) ?_⟩
  intro notes ended counts told stream
  have pair : (counts .stdout, counts .stderr) ∈ [(2, 0)] :=
    (noted ended).2 ▸ List.mem_map.mpr ⟨counts, told, rfl⟩
  obtain ⟨out, err⟩ := Prod.mk.inj (List.mem_singleton.mp pair)
  cases stream with
  | stdout => exact out.trans_le (by decide)
  | stderr => exact err.trans_le (by decide)

end NestedSession
