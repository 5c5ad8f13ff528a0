import NestedSession.Proofs.Child.Pairing
import NestedSession.Session.Ending

/-!
# Proofs/Session/Mirroring — the end of a session is the same on a host that mirrors another

Whatever the end of a session does with its child and its files, a host that answers as another is
led the same way (`Session.teardown_map`, `Session.abandon_map`). What no file operation changes,
the saving of the logs and the last steps keep too (`saveLogs_keeps`, `Session.conclude_keeps`).
-/

namespace NestedSession

variable {ω' ω : Type} [Host ω'] [Host ω] {f : ω' → ω}

/-- The end of a session with a child, step by step. -/
theorem Session.teardown_of_child {s : Session} {child : Child} (known : s.child = some child)
    (w : ω) :
    s.teardown w
      = ((⟨w, child, s.capture⟩ : Watched ω).terminate s.settings.shutdownTimeout).map
          fun r => (s.after r.2).conclude r.2.host r.1.1 r.1.2 := by
  -- the grace is hidden, for a count of nanoseconds is nothing to compute with
  obtain ⟨grace, same⟩ : ∃ grace, s.settings.shutdownTimeout = grace := ⟨_, rfl⟩
  rw [teardown, same, known]
  simp only
  cases (⟨w, child, s.capture⟩ : Watched ω).terminate grace <;> rfl

/-- The end of a session without one. -/
theorem Session.teardown_of_none {s : Session} (none : s.child = none) (w : ω) :
    s.teardown w = some (s.conclude w .none false) := by rw [teardown, none]

/-- A session with a child that is given up, step by step. -/
theorem Session.abandon_of_child {s : Session} {child : Child} (known : s.child = some child)
    (w : ω) :
    s.abandon w
      = ((⟨w, child, s.capture⟩ : Watched ω).terminate s.settings.shutdownTimeout).map
          fun r => (Disk.removeTree r.2.host s.workDir).2 := by
  obtain ⟨grace, same⟩ : ∃ grace, s.settings.shutdownTimeout = grace := ⟨_, rfl⟩
  rw [abandon, same, known]
  simp only
  cases (⟨w, child, s.capture⟩ : Watched ω).terminate grace <;> rfl

/-- A session without one that is given up. -/
theorem Session.abandon_of_none {s : Session} (none : s.child = none) (w : ω) :
    s.abandon w = some (Disk.removeTree w s.workDir).2 := by rw [abandon, none]

/-! ## What the last steps keep -/

/-- What the requests for one directory and the files in it keep, the writing of log files there
keeps. -/
theorem saveLogs_keeps_in {P : ω → Prop} {dir : Path}
    (makeDirs : ∀ w, P w → P (Disk.makeDirs w dir).2)
    (replace : ∀ w name bs, P w → P (Disk.replace w (dir.joinText name) bs).2) {w : ω} (held : P w)
    (c : Capture) : P (saveLogs w dir c).2 := by
  have first (w : ω) (bs : Octets) := replace w "log.stdout" bs
  have second (w : ω) (bs : Octets) := replace w "log.stderr" bs
  simp only [saveLogs]
  -- the names are kept folded: what they are does not matter here
  generalize dir.joinText "log.stdout" = out at first ⊢
  generalize dir.joinText "log.stderr" = err at second ⊢
  have made := makeDirs w held
  generalize Disk.makeDirs w dir = answer at made ⊢
  rcases answer with ⟨_ | _, w₁⟩
  · exact made
  · have first := first w₁ (Utf8.encode (c.text .stdout)) made
    simp only
    generalize Disk.replace w₁ out (Utf8.encode (c.text .stdout)) = answer at first ⊢
    rcases answer with ⟨_ | _, w₂⟩
    · exact first
    · have second := second w₂ (Utf8.encode (c.text .stderr)) first
      simp only
      generalize Disk.replace w₂ err (Utf8.encode (c.text .stderr)) = answer at second ⊢
      rcases answer with ⟨_ | _, w₃⟩ <;> exact second

section

variable {P : ω → Prop} (makeDirs : ∀ w path, P w → P (Disk.makeDirs w path).2)
  (replace : ∀ w path bs, P w → P (Disk.replace w path bs).2)
include makeDirs replace

/-- What the requests for files keep, the writing of log files keeps. -/
theorem saveLogs_keeps {w : ω} (held : P w) (dir : Path) (c : Capture) :
    P (saveLogs w dir c).2 :=
  saveLogs_keeps_in (fun w => makeDirs w dir) (fun w name => replace w (dir.joinText name)) held c

/-- **What the requests for files keep**, the last steps of a session keep. -/
theorem Session.conclude_keeps (removeTree : ∀ w path, P w → P (Disk.removeTree w path).2)
    {w : ω} (held : P w) (s : Session) (exit : Option Exit) (forced : Bool) :
    P (s.conclude w exit forced).2 := by
  rw [conclude]
  cases s.wantsLogs with
  | false => exact removeTree w s.workDir held
  | true => exact removeTree _ s.workDir (saveLogs_keeps makeDirs replace held _ s.capture)

end

/-! ## On a host that mirrors another -/

section

variable (h : Host.Mirrors f)
include h

theorem saveLogs_map (w : ω') (dir : Path) (c : Capture) :
    saveLogs (f w) dir c = Prod.map id f (saveLogs w dir c) := by
  simp only [saveLogs, h.makeDirs]
  -- the names are kept folded: what they are does not matter here
  generalize dir.joinText "log.stdout" = out
  generalize dir.joinText "log.stderr" = err
  rcases Disk.makeDirs w dir with ⟨_ | _, w⟩
  · rfl
  · simp only [Prod.map, id_eq, h.replace]
    rcases Disk.replace w out (Utf8.encode (c.text .stdout)) with ⟨_ | _, w⟩
    · rfl
    · simp only [h.replace]
      rcases Disk.replace w err (Utf8.encode (c.text .stderr)) with ⟨_ | _, w⟩ <;> rfl

theorem Session.conclude_map (s : Session) (w : ω') (exit : Option Exit) (forced : Bool) :
    s.conclude (f w) exit forced = Prod.map id f (s.conclude w exit forced) := by
  rw [conclude, conclude]
  cases s.wantsLogs with
  | false => simp only [Bool.false_eq_true, if_false, h.removeTree, Prod.map, id_eq]
  | true => simp only [if_true, saveLogs_map h, h.removeTree, Prod.map, id_eq]

/-- **The end of a session is the same** on both hosts. -/
theorem Session.teardown_map (s : Session) (w : ω') :
    s.teardown (f w) = (s.teardown w).map (Prod.map id f) := by
  cases known : s.child with
  | none => rw [teardown_of_none known, teardown_of_none known, s.conclude_map h, Option.map_some]
  | some child =>
    have same := Watched.terminate_map h ⟨w, child, s.capture⟩ s.settings.shutdownTimeout
    rw [Watched.map] at same
    rw [teardown_of_child known, teardown_of_child known, same, Option.map_map, Option.map_map]
    refine congrArg (Option.map · _) (funext fun r => ?_)
    exact (s.after r.2).conclude_map h r.2.host r.1.1 r.1.2

/-- **A session is given up the same way** on both hosts. -/
theorem Session.abandon_map (s : Session) (w : ω') : s.abandon (f w) = (s.abandon w).map f := by
  cases known : s.child with
  | none =>
    rw [abandon_of_none known, abandon_of_none known, h.removeTree]
    rfl
  | some child =>
    have same := Watched.terminate_map h ⟨w, child, s.capture⟩ s.settings.shutdownTimeout
    rw [Watched.map] at same
    rw [abandon_of_child known, abandon_of_child known, same, Option.map_map, Option.map_map]
    refine congrArg (Option.map · _) (funext fun r => ?_)
    exact congrArg Prod.snd (h.removeTree r.2.host s.workDir)

end

end NestedSession
