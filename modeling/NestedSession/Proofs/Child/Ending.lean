import NestedSession.Proofs.Child.Accounting
import NestedSession.Proofs.Child.Pairing

/-!
# Proofs/Child/Ending — a child that has ended leaves nothing unread

While a child is ended, it is asked and pumped in turn (`Watched.awaitEnd`), and at last ordered to
end and waited for.  Once its end is known, no more is unread than when it was told
(`Watched.Sighted`); and whichever way the end became known, a pump follows
(`Sighted.terminate_eq`).  So if nothing fails and a drain may take what was unread when the end was
told, nothing is left unread (`Sighted.octetsOf_unread_pump`).
-/

namespace NestedSession.Watched

/-! ## The same child -/

section

variable {ω : Type} [Piped ω] {pid : Pid} {a : Watched ω}

/-- **A child of this number, accounted for.** -/
structure Tracked (pid : Pid) (a : Watched ω) : Prop where
  pid : a.child.pid = pid
  accounted : a.Accounted

namespace Tracked

theorem later (h : a.Tracked pid) {w : ω} (l : Later a.host w pid) : (a.withHost w).Tracked pid :=
  ⟨h.pid, h.accounted.later (h.pid.symm ▸ l)⟩

variable [PipeLaws ω]

theorem tryExit (h : a.Tracked pid) : a.tryExit.2.Tracked pid :=
  ⟨a.pid_tryExit.trans h.pid, h.accounted.tryExit⟩

theorem signal (h : a.Tracked pid) (sent : Signal) : (a.signal sent).2.Tracked pid :=
  ⟨(a.pid_signal sent).trans h.pid, h.accounted.signal sent⟩

theorem wait (h : a.Tracked pid) : a.wait.2.Tracked pid :=
  ⟨a.pid_wait.trans h.pid, h.accounted.wait⟩

theorem pump (h : a.Tracked pid) : a.pump.2.Tracked pid :=
  ⟨a.pid_pump.trans h.pid, h.accounted.pump⟩

theorem awaitEnd (h : a.Tracked pid) (deadline : Moment) (left : Span) :
    (a.awaitEnd deadline left).2.Tracked pid :=
  awaitEnd_keeps (fun _ h => h.pump) (fun _ h => h.tryExit)
    (fun b span h => h.later (PipeLaws.pause b.host span pid)) deadline left h

/-- **However a child is ended**, it is accounted for. -/
theorem terminate (h : a.Tracked pid) {grace : Span} {answer : Option Exit × Bool} {b : Watched ω}
    (ended : a.terminate grace = some (answer, b)) : b.Tracked pid :=
  terminate_keeps (fun _ sent h => h.signal sent) (fun _ h => h.pump) (fun _ h => h.wait)
    (fun _ deadline left h => h.awaitEnd deadline left) h ended

end Tracked

end

/-! ## An end that is noted -/

variable {ω : Type} [Piped ω] {pid : Pid} {a : Watched (Noted ω)}

/-- Notes are no part of the account. -/
theorem tracked_map_host : (a.map Noted.host).Tracked pid ↔ a.Tracked pid :=
  ⟨fun ⟨pid, h⟩ => ⟨pid, h.held, h.closed, h.shut, h.silent⟩,
    fun ⟨pid, h⟩ => ⟨pid, h.held, h.closed, h.shut, h.silent⟩⟩

/-- A pump adds no notes. -/
theorem told_pump (a : Watched (Noted ω)) : a.pump.2.host.told = a.host.told :=
  pump_keeps (P := fun b : Watched (Noted ω) => b.host.told = a.host.told)
    (fun _ s h => pumpStream_keeps (P := fun b : Watched (Noted ω) => b.host.told = a.host.told)
      (fun _ _ h => h) (fun _ _ h => h) h s) rfl

/-- A pump that fails is noted. -/
theorem faults_pumpStream {s : Stream} {fault : SessionFault}
    (failed : (a.pumpStream s).1 = .error fault) : (a.pumpStream s).2.host.faults ≠ [] := by
  obtain ⟨drained, refused⟩ := pumpStream_error failed
  rw [drained]
  exact fun unfailing => refused (List.append_eq_nil_iff.mp unfailing).1

theorem pump_ok (unfailing : a.pump.2.host.faults = []) : ∃ n, a.pump.1 = .ok n := by
  rcases a.pump_cases with ⟨_, failed, eq⟩ | ⟨-, ⟨_, failed, eq⟩ | ⟨n, _, -, eq⟩⟩
  all_goals rw [eq] at unfailing ⊢
  · exact absurd unfailing (faults_pumpStream failed)
  · exact absurd unfailing (faults_pumpStream failed)
  · exact ⟨n, rfl⟩

/-- A wait that fails is noted. -/
theorem faults_wait {fault : SessionFault} (failed : a.wait.1 = .error fault) :
    a.wait.2.host.faults ≠ [] := by
  rcases a.wait_cases with ⟨_, -, eq⟩ | ⟨-, ⟨_, told, eq⟩ | ⟨_, -, eq⟩⟩
  all_goals rw [eq] at failed ⊢
  · nomatch failed
  · exact Noted.faults_wait _ told
  · nomatch failed

/-- **No more is unread than when the end was told**, if it is known. -/
structure Sighted (pid : Pid) (a : Watched (Noted ω)) : Prop extends Tracked pid a where
  seen : a.child.exit ≠ none →
    ∃ counts ∈ a.host.told, ∀ s, octetCount (a.unread s) ≤ counts s

namespace Sighted

theorem of_unknown (h : a.Tracked pid) (unknown : a.child.exit = none) : a.Sighted pid :=
  ⟨h, fun known => absurd unknown known⟩

variable [PipeLaws ω]

/-- What is told is noted at once. -/
theorem tryExit (h : a.Sighted pid) : a.tryExit.2.Sighted pid := by
  have tracked := h.toTracked.tryExit
  rcases a.tryExit_cases with ⟨_, -, eq⟩ | ⟨unknown, ⟨_, -, eq⟩ | ⟨-, eq⟩ | ⟨_, told, eq⟩⟩
  all_goals rw [eq] at tracked ⊢
  · exact h
  · exact of_unknown tracked unknown
  · exact of_unknown tracked unknown
  · refine ⟨tracked, fun _ => ?_⟩
    rw [withHost, ended, Noted.tryWait_eq_tell _ told]
    exact ⟨_, List.mem_cons_self, fun s => le_rfl⟩

theorem wait (h : a.Sighted pid) {exit : Exit} (answer : a.wait.1 = .ok exit) :
    a.wait.2.Sighted pid ∧ a.wait.2.child.exit = some exit := by
  have tracked := h.toTracked.wait
  rcases a.wait_cases with ⟨_, known, eq⟩ | ⟨-, ⟨_, -, eq⟩ | ⟨_, told, eq⟩⟩
  all_goals rw [eq] at answer tracked ⊢
  · exact ⟨h, known.trans (congrArg some (Except.ok.inj answer))⟩
  · nomatch answer
  · refine ⟨⟨tracked, fun _ => ?_⟩, congrArg some (Except.ok.inj answer)⟩
    rw [withHost, ended, Noted.wait_eq_tell _ told]
    exact ⟨_, List.mem_cons_self, fun s => le_rfl⟩

theorem signal (h : a.Sighted pid) (sent : Signal) : (a.signal sent).2.Sighted pid := by
  rcases a.signal_cases sent with eq | ⟨alive, eq⟩
  · rw [eq]
    exact h.tryExit
  · refine of_unknown (h.toTracked.signal sent) ?_
    rw [eq]
    exact exit_of_tryExit_none alive

/-- A pump leaves no more unread. -/
theorem pump (h : a.Sighted pid) : a.pump.2.Sighted pid := by
  refine ⟨h.toTracked.pump, fun known => ?_⟩
  rw [exit_pump] at known
  obtain ⟨counts, noted, small⟩ := h.seen known
  rw [told_pump]
  exact ⟨counts, noted, fun s =>
    (Ebbs.pump ⟨h.accounted.silent known s, small s⟩).2⟩

/-- **The loop that waits for the child's end**: it gives up, or the end is known and a pump
follows. -/
theorem awaitEnd_cases (h : a.Sighted pid) (deadline : Moment) (left : Span) :
    ∃ b : Watched (Noted ω), b.Sighted pid ∧ (a.awaitEnd deadline left = (none, b)
      ∨ ∃ exit, b.child.exit = some exit ∧ a.awaitEnd deadline left = (some exit, b.pump.2)) := by
  have look {a : Watched (Noted ω)} (h : a.Sighted pid) {answer : Except SessionFault (Option Exit)}
      {c : Watched (Noted ω)} (asked : a.pump.2.tryExit = (answer, c)) : c.Sighted pid := by
    have sighted := h.pump.tryExit
    rwa [asked] at sighted
  fun_induction awaitEnd a deadline left with
  | case1 a left b fault c asked => exact ⟨c, look h asked, .inl rfl⟩
  | case2 a left b exit c asked =>
    have known := exit_of_tryExit_some (congrArg Prod.fst asked)
    rw [asked] at known
    exact ⟨c, look h asked, .inr ⟨exit, known, rfl⟩⟩
  | case3 a left b c asked span spent => exact ⟨c, look h asked, .inl rfl⟩
  | case4 a left b c asked span more step ih =>
    have alive := exit_of_tryExit_none (congrArg Prod.fst asked)
    rw [asked] at alive
    have paused := (look h asked).toTracked.later (PipeLaws.pause c.host step pid)
    exact ih (of_unknown paused alive)

/-- **However a child is ended without a fault, its end becomes known, and a pump follows.** -/
theorem terminate_eq (h : a.Sighted pid) {grace : Span} {deadline : Moment}
    (shown : (Host.now (a.signal .term).2.host).after? grace = some deadline)
    (unfailing : ∀ r ∈ a.terminate grace, r.2.host.faults = []) :
    ∃ exit forced, ∃ b : Watched (Noted ω), b.Sighted pid ∧ b.child.exit = some exit
      ∧ a.terminate grace = some ((some exit, forced), b.pump.2) := by
  rw [terminate, shown] at unfailing ⊢
  obtain ⟨b, sighted, gaveUp | ⟨exit, known, ended⟩⟩ :=
    (h.signal .term).awaitEnd_cases deadline grace
  · simp only [gaveUp] at unfailing ⊢
    have killed := sighted.signal .kill
    rcases answer : b.kill.2.wait.1 with fault | exit
    · have waited : b.kill.2.wait = (.error fault, b.kill.2.wait.2) := Prod.ext answer rfl
      rw [waited] at unfailing
      exact absurd (unfailing _ rfl) (faults_wait answer)
    · have waited : b.kill.2.wait = (.ok exit, b.kill.2.wait.2) := Prod.ext answer rfl
      obtain ⟨ended, known⟩ := killed.wait answer
      refine ⟨exit, true, _, ended, known, ?_⟩
      rw [waited]
      rfl
  · simp only [ended]
    exact ⟨exit, false, b, sighted, known, rfl⟩

/-- **Nothing is left unread** after a pump without a fault, if no more than a drain may take was
unread whenever an end was told. -/
theorem octetsOf_unread_pump (h : a.Sighted pid) (unfailing : a.pump.2.host.faults = [])
    (known : a.child.exit ≠ none)
    (small : ∀ counts ∈ a.host.told, ∀ s, counts s ≤ drainLimit) (s : Stream) :
    octetsOf (a.pump.2.unread s) = [] := by
  obtain ⟨counts, noted, seen⟩ := h.seen known
  obtain ⟨n, read⟩ := pump_ok unfailing
  exact Watched.octetsOf_unread_pump h.accounted read (h.accounted.silent known)
    (fun t => (seen t).trans (small counts noted t)) s

end Sighted

/-! ## Taking notes of an end -/

section

variable {ω : Type} [Host ω]

/-- A child in a world with notes; if its end is known, it is noted what is unread now. -/
def noted (a : Watched ω) : Watched (Noted ω) :=
  ⟨{ host := a.host
     told := if a.child.exit.isSome then [fun s => octetCount (a.unread s)] else []
     faults := []
     files := [] }, a.child, a.capture⟩

/-- **The notes that are taken when a child is ended** with so much grace. -/
def endNotes? (a : Watched ω) (grace : Span) : Option (Noted ω) :=
  (a.noted.terminate grace).map fun r => r.2.host

end

theorem Tracked.noted {ω : Type} [Piped ω] {pid : Pid} {a : Watched ω} (h : a.Tracked pid) :
    a.noted.Sighted pid where
  toTracked := tracked_map_host.mp h
  seen known := by
    have isSome : a.child.exit.isSome = true := Option.isSome_iff_ne_none.mpr known
    refine ⟨fun s => octetCount (a.unread s), ?_, fun s => le_rfl⟩
    rw [Watched.noted, if_pos isSome]
    exact List.mem_cons_self

/-- **A child that is ended leaves nothing unread**, if its deadline can be shown, no read fails and
no wait, and no more than a drain may take was unread when its end was seen first. -/
theorem Tracked.terminate_eq {ω : Type} [Piped ω] [PipeLaws ω] {pid : Pid} {a : Watched ω}
    (h : a.Tracked pid) {grace : Span}
    (shown : (Host.now (a.signal .term).2.host).after? grace ≠ none)
    (unfailing : ∀ notes ∈ a.endNotes? grace, notes.faults = [])
    (small : ∀ notes ∈ a.endNotes? grace, ∀ counts ∈ notes.told, ∀ s, counts s ≤ drainLimit) :
    ∃ exit forced, ∃ b : Watched ω, a.terminate grace = some ((some exit, forced), b)
      ∧ b.Tracked pid ∧ ∀ s, b.Silent s ∧ octetsOf (b.unread s) = [] := by
  obtain ⟨deadline, shown⟩ := Option.ne_none_iff_exists'.mp shown
  have same : a.noted.map Noted.host = a := rfl
  have shown' : (Host.now (a.noted.signal .term).2.host).after? grace = some deadline := by
    rw [← shown, ← same, signal_map Noted.mirrors]
    rfl
  have noted {r : (Option Exit × Bool) × Watched (Noted ω)}
      (ended : r ∈ a.noted.terminate grace) : r.2.host ∈ a.endNotes? grace :=
    Option.mem_map_of_mem _ ended
  obtain ⟨exit, forced, b, sighted, known, ended⟩ :=
    h.noted.terminate_eq shown' fun r ended => unfailing _ (noted ended)
  have pumped := sighted.pump
  have known' : b.pump.2.child.exit ≠ none := by simp [exit_pump, known]
  refine ⟨exit, forced, b.pump.2.map Noted.host, ?_, tracked_map_host.mpr pumped.toTracked,
    fun s => ⟨?_, ?_⟩⟩
  · rw [← same, terminate_map Noted.mirrors, ended]
    rfl
  · exact pumped.accounted.silent known' s
  · exact sighted.octetsOf_unread_pump (unfailing _ (noted ended)) (by simp [known])
      (b.told_pump ▸ small _ (noted ended)) s

end NestedSession.Watched
