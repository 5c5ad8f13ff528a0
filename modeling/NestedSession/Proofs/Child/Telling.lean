import NestedSession.Proofs.Child.Ending
import NestedSession.Proofs.Session.Output

/-!
# Proofs/Child/Telling — the end of a child is told once

A child whose end is known is asked no more.  So on a host that takes notes its end is told once,
with so much unread of each output, and from then on no more is unread (`Watched.ToldOnce`).  All
that is asked of a child while it is watched keeps it so (`Watched.keeps_toldOnce`), from its start
on (`Child.toldOnce_of_start`).
-/

namespace NestedSession

namespace Watched

/-! ## Told once -/

section

variable {ω : Type} [Piped ω] {pid : Pid} {a : Watched (Noted ω)}

/-- **An end that is told once**: nothing was told before it is known, and then it was told. -/
structure ToldOnce (pid : Pid) (a : Watched (Noted ω)) : Prop extends Sighted pid a where
  unknown : a.child.exit = none → a.host.told = []
  known : a.child.exit ≠ none → ∃ counts, a.host.told = [counts]

namespace ToldOnce

theorem of_unknown (h : a.Tracked pid) (unknown : a.child.exit = none)
    (told : a.host.told = []) : a.ToldOnce pid :=
  ⟨.of_unknown h unknown, fun _ => told, fun known => absurd unknown known⟩

/-- Since it was told, no more is unread. -/
theorem exists_counts (h : a.ToldOnce pid) (known : a.child.exit ≠ none) :
    ∃ counts, a.host.told = [counts] ∧ ∀ s, octetCount (a.unread s) ≤ counts s := by
  obtain ⟨counts, told⟩ := h.known known
  obtain ⟨counts', noted, small⟩ := h.seen known
  rw [told, List.mem_singleton] at noted
  exact ⟨counts, told, noted ▸ small⟩

/-- A question whether it has ended that is answered by its end: that is noted at once. -/
theorem told_tryExit (h : a.ToldOnce pid) (unknown : a.child.exit = none) {exit : Exit}
    (told : a.tryExit.1 = .ok (some exit)) :
    a.tryExit.2.host.told = [fun s => octetCount (a.tryExit.2.unread s)] := by
  rcases a.tryExit_cases with ⟨_, known, -⟩ | ⟨-, ⟨_, -, eq⟩ | ⟨-, eq⟩ | ⟨_, answer, eq⟩⟩
  · nomatch unknown.symm.trans known
  · rw [eq] at told
    nomatch told
  · rw [eq] at told
    nomatch told
  · rw [eq, withHost, ended, Noted.tryWait_eq_tell _ answer, Noted.tell, h.unknown unknown]
    rfl

variable [PipeLaws ω]

theorem tryExit (h : a.ToldOnce pid) : a.tryExit.2.ToldOnce pid := by
  have sighted := h.toSighted.tryExit
  have telling {exit : Exit} (unknown : a.child.exit = none)
      (told : a.tryExit.1 = .ok (some exit)) := h.told_tryExit unknown told
  rcases a.tryExit_cases with ⟨_, -, eq⟩ | ⟨unknown, ⟨_, refused, eq⟩ | ⟨alive, eq⟩ | ⟨_, told, eq⟩⟩
  all_goals rw [eq] at sighted telling ⊢
  · exact h
  · refine of_unknown sighted.toTracked unknown ((Noted.told_tryWait _ fun _ => ?_).trans
      (h.unknown unknown))
    simp [refused]
  · refine of_unknown sighted.toTracked unknown ((Noted.told_tryWait _ fun _ => ?_).trans
      (h.unknown unknown))
    simp [alive]
  · exact ⟨sighted, nofun, fun _ => ⟨_, telling unknown rfl⟩⟩

theorem pump (h : a.ToldOnce pid) : a.pump.2.ToldOnce pid where
  toSighted := h.toSighted.pump
  unknown := by
    rw [exit_pump, told_pump]
    exact h.unknown
  known := by
    rw [exit_pump, told_pump]
    exact h.known

theorem pause (h : a.ToldOnce pid) (span : Span) :
    (a.withHost (Host.pause a.host span)).ToldOnce pid := by
  have later : Later a.host (Host.pause a.host span) pid := PipeLaws.pause _ _ _
  refine ⟨⟨h.toTracked.later later, fun known => ?_⟩, h.unknown, h.known⟩
  obtain ⟨counts, noted, small⟩ := h.seen known
  refine ⟨counts, noted, fun s => ?_⟩
  -- an output that is silent has no more to read than before
  obtain ⟨more, -, unread, stays⟩ := later s
  have silent : Piped.silent a.host pid s := h.toTracked.silent (h.accounted.silent known s)
  have same : octetsOf ((a.withHost (Host.pause a.host span)).unread s)
      = octetsOf (a.unread s) := by
    have number : (a.withHost (Host.pause a.host span)).child.pid = pid := h.pid
    rw [(stays silent).1, List.append_nil] at unread
    rw [Watched.unread, Watched.unread, number, h.pid]
    exact unread
  rw [octetCount_eq, same, ← octetCount_eq]
  exact small s

end ToldOnce

/-- **Whatever a session asks of its child**, its end is told once. -/
theorem keeps_toldOnce [PipeLaws ω] (pid : Pid) :
    Keeps fun a : Watched (Noted ω) => a.ToldOnce pid where
  tryExit _ h := h.tryExit
  pump _ h := h.pump
  pause _ span h := h.pause span

end

end Watched

/-- **A child that was just started** was not told to have ended. -/
theorem Child.toldOnce_of_start {ω : Type} [Piped ω] [PipeLaws ω] {n n' : Noted ω}
    {call : Invocation} {program : String} {child : Child} (untold : n.told = [])
    (started : start n call program = (.ok child, n')) :
    (⟨n', child, .empty⟩ : Watched (Noted ω)).ToldOnce child.pid := by
  obtain ⟨n₁, spawned, fresh, unblocked⟩ := of_start started
  have begun : n₁.told = n.told := (congrArg (·.2.told) spawned).symm
  have same : (unblockAll n₁ child.pid Stream.all).2.told = n₁.told :=
    unblockAll_keeps (P := fun n' : Noted ω => n'.told = n₁.told) (fun _ _ same => same) rfl _
  rw [unblocked] at same
  exact .of_unknown (start_tracked started) (congrArg exit fresh)
    (same.trans (begun.trans untold))

end NestedSession
