import NestedSession.Proofs.System.Pipes

/-!
# Proofs/System/Scripted — a host on which one process follows a script

The process of a scripted host writes, closes its outputs and ends as its script says, some of it
before each request is answered; when it ends, others may hold its outputs open, but they write
nothing.  Such hosts obey the laws of pipes (`Scripted.instPipeLaws`), whatever the script.
-/

namespace NestedSession

/-- What a process does of its own. -/
inductive Deed where
  | write (s : Stream) (bs : Octets)
  | close (s : Stream)
  /-- It ends, and some outputs are held open by others. -/
  | exit (status : Int32) (held : List Stream)

/-- An output: what was written to it, what of that is unread, and whether it was closed. -/
structure Conduit where
  written : Octets
  unread : Octets
  closed : Bool

/-- **A host on which one process follows a script**: what it does before each request is
answered. -/
structure Scripted where
  conduit : Stream → Conduit
  ended : Option Int32
  reaped : Bool
  script : List (List Deed)
  clock : Nat

namespace Scripted

/-- A host on which nothing was started yet. -/
def idle (script : List (List Deed)) : Scripted :=
  ⟨fun _ => ⟨[], [], false⟩, none, false, script, 0⟩

/-- Nothing more is written: the output is closed, or the process has ended. -/
def isSilent (w : Scripted) (s : Stream) : Bool := (w.conduit s).closed || w.ended.isSome

/-- The process does something; once it has ended it does nothing. -/
def perform (w : Scripted) : Deed → Scripted
  | .write s bs =>
    if w.isSilent s then w
    else { w with conduit := fun t => if t = s then
      { w.conduit s with
        written := (w.conduit s).written ++ bs
        unread := (w.conduit s).unread ++ bs }
      else w.conduit t }
  | .close s =>
    { w with conduit := fun t => { w.conduit t with closed := (w.conduit t).closed || t == s } }
  | .exit status held =>
    if w.ended.isSome then w
    else { w with
      ended := some status
      conduit := fun t =>
        { w.conduit t with closed := (w.conduit t).closed || !held.contains t } }

/-- A request comes: the process goes on before it is answered. -/
def advance (w : Scripted) : Scripted :=
  match w.script with
  | [] => w
  | deeds :: rest => deeds.foldl perform { w with script := rest }

/-- The process goes on to its end, by itself or by force. -/
def finish (w : Scripted) : Scripted :=
  (w.script.flatten ++ [Deed.exit 9 []]).foldl perform { w with script := [] }

/-- All of an output but this is read. -/
def keep (w : Scripted) (s : Stream) (kept : Octets) : Scripted :=
  { w with conduit := fun t => if t = s then { w.conduit s with unread := kept } else w.conduit t }

instance : Piped Scripted where
  content _ _ := .error (.os .noEntry)
  makeDirs w _ := (.ok (), w.advance)
  replace w _ _ := (.ok (), w.advance)
  makeWorkDir w dir name := (.ok (dir.joinText name), w)
  removeTree w _ := (.ok (), w.advance)
  spawn w _ := (.ok 7, { idle w.script with clock := w.clock })
  unblock w _ _ := (.ok (), w.advance)
  unread w _ s :=
    (if (w.conduit s).unread = [] then [] else [.octets (w.conduit s).unread])
      ++ (if (w.conduit s).closed then [.ended] else [])
  leave w _ s rest := (w.keep s (octetsOf rest)).advance
  tryWait w _ :=
    match w.advance.ended with
    | none => (.ok none, w.advance)
    | some status =>
      if w.advance.reaped then (.error (.os .noChild), w.advance)
      else (.ok (some status), { w.advance with reaped := true })
  wait w _ :=
    if w.reaped then (.error (.os .noChild), w)
    else (.ok (w.finish.ended.getD 0), { w.finish with reaped := true })
  kill w _ _ := (.ok (), w.advance)
  now w := ⟨w.clock⟩
  pause w span := advance { w with clock := w.clock + span }
  written w _ s := (w.conduit s).written
  silent w _ s := w.isSilent s = true

/-! ## Its laws -/

variable {w : Scripted} {pid : Pid} {s : Stream}

@[simp] theorem octetsOf_unread (w : Scripted) (pid : Pid) (s : Stream) :
    octetsOf (Host.unread w pid s) = (w.conduit s).unread := by
  simp only [Host.unread]
  by_cases empty : (w.conduit s).unread = [] <;> by_cases closed : (w.conduit s).closed = true <;>
    simp [empty, closed, octetsOf]

/-- What happens to the outputs alone. -/
theorem later_of {w' : Scripted}
    (grows : ∀ s, ∃ more, (w'.conduit s).written = (w.conduit s).written ++ more
      ∧ (w'.conduit s).unread = (w.conduit s).unread ++ more
      ∧ (w.isSilent s = true → more = [] ∧ w'.isSilent s = true)) : Later w w' pid := by
  intro s
  obtain ⟨more, written, unread, stays⟩ := grows s
  exact ⟨more, written, by rw [octetsOf_unread, octetsOf_unread, unread], stays⟩

/-- **Whatever the process does**, it only writes more, and nothing to a silent output. -/
theorem later_perform (w : Scripted) (pid : Pid) (deed : Deed) : Later w (w.perform deed) pid := by
  cases deed with
  | write s bs =>
    rw [perform]
    split
    · exact .refl w pid
    · next open_ =>
      refine later_of fun t => ⟨if t = s then bs else [], ?_⟩
      by_cases same : t = s
      · subst same
        simp [open_]
      · simp [same, isSilent]
  | close s =>
    refine later_of fun t => ⟨[], by simp [perform], by simp [perform], fun silent => ⟨rfl, ?_⟩⟩
    rcases Bool.or_eq_true_iff.mp silent with closed | ended
    · simp [perform, isSilent, closed]
    · simp [perform, isSilent, ended]
  | exit status held =>
    rw [perform]
    split
    · exact .refl w pid
    · exact later_of fun t => ⟨[], by simp [isSilent]⟩

theorem later_foldl (w : Scripted) (pid : Pid) (deeds : List Deed) :
    Later w (deeds.foldl perform w) pid := by
  induction deeds generalizing w with
  | nil => exact .refl w pid
  | cons deed rest ih => exact (w.later_perform pid deed).trans (ih _)

theorem later_rest (w : Scripted) (pid : Pid) (script : List (List Deed)) (clock : Nat) :
    Later w { w with script := script, clock := clock } pid :=
  later_of fun _ => ⟨[], by simp [isSilent]⟩

theorem later_advance (w : Scripted) (pid : Pid) : Later w w.advance pid := by
  rw [advance]
  split
  · exact .refl w pid
  · next deeds rest _ => exact (w.later_rest pid rest w.clock).trans (later_foldl _ pid deeds)

theorem later_finish (w : Scripted) (pid : Pid) : Later w w.finish pid :=
  (w.later_rest pid [] w.clock).trans (later_foldl _ pid _)

/-- An end has been reached once the script is finished. -/
theorem ended_finish (w : Scripted) : w.finish.ended.isSome = true := by
  rw [finish, List.foldl_append, List.foldl_cons, List.foldl_nil, perform]
  split
  · assumption
  · rfl

/-- Asked for its end, the process goes on first; the end is told once. -/
theorem tryWait_eq (w : Scripted) (pid : Pid) :
    Host.tryWait w pid = (.ok none, w.advance)
    ∨ Host.tryWait w pid = (.error (.os .noChild), w.advance)
    ∨ ∃ status, w.advance.ended = some status
      ∧ Host.tryWait w pid = (.ok (some status), { w.advance with reaped := true }) := by
  simp only [Host.tryWait]
  cases w.advance.ended with
  | none => exact .inl rfl
  | some status =>
    cases w.advance.reaped with
    | true => exact .inr (.inl rfl)
    | false => exact .inr (.inr ⟨status, rfl, rfl⟩)

/-- A process that is waited for is finished. -/
theorem wait_eq (w : Scripted) (pid : Pid) :
    Host.wait w pid = (.error (.os .noChild), w)
    ∨ ∃ status, Host.wait w pid = (.ok status, { w.finish with reaped := true }) := by
  simp only [Host.wait]
  cases w.reaped with
  | true => exact .inl rfl
  | false => exact .inr ⟨_, rfl⟩

/-- What is unread is octets, and the end behind them. -/
theorem suffix_unread {p : Piece} {rest : List Piece} (next : p :: rest <:+ Host.unread w pid s) :
    p.isOctets = true ∨ p = .ended ∧ rest = [] ∧ (w.conduit s).closed = true := by
  simp only [Host.unread] at next
  by_cases empty : (w.conduit s).unread = [] <;> by_cases closed : (w.conduit s).closed = true
  all_goals simp [empty, closed, List.suffix_cons_iff] at next
  · exact .inr ⟨next.1, next.2, closed⟩
  · rcases next with ⟨rfl, -⟩ | ⟨rfl, rfl⟩
    · exact .inl rfl
    · exact .inr ⟨rfl, rfl, closed⟩
  · exact .inl (next.1 ▸ rfl)

/-- **The laws of pipes hold, whatever the script.** -/
instance instPipeLaws : PipeLaws Scripted where
  makeDirs w _ pid := w.later_advance pid
  replace w _ _ pid := w.later_advance pid
  removeTree w _ pid := w.later_advance pid
  unblock w pid _ := w.later_advance pid
  kill w pid _ := w.later_advance pid
  pause w span pid :=
    (w.later_rest pid w.script (w.clock + span)).trans (later_advance _ pid)
  spawn w call pid _ := fun _ => octetsOf_unread _ _ _
  leave w pid s rest taken split t := by
    obtain ⟨more, written, unread, stays⟩ := later_advance (w.keep s (octetsOf rest)) pid t
    refine ⟨more, written.trans ?_, unread.trans ?_, fun silent => stays ?_⟩
    · by_cases same : t = s <;> simp [Piped.written, keep, same]
    · by_cases same : t = s <;> simp [keep, same]
    · by_cases same : t = s <;> simpa [Piped.silent, isSilent, keep, same] using silent
  tryWait w pid := by
    rcases w.tryWait_eq pid with eq | eq | ⟨_, -, eq⟩ <;> rw [eq] <;> exact w.later_advance pid
  tryWait_silent w pid status told s := by
    rcases w.tryWait_eq pid with eq | eq | ⟨_, ended, eq⟩ <;> rw [eq] at told ⊢
    · nomatch told
    · nomatch told
    · simp [Piped.silent, isSilent, ended]
  wait w pid := by
    rcases w.wait_eq pid with eq | ⟨_, eq⟩ <;> rw [eq]
    · exact .refl w pid
    · exact w.later_finish pid
  wait_silent w pid status told s := by
    rcases w.wait_eq pid with eq | ⟨_, eq⟩ <;> rw [eq] at told ⊢
    · nomatch told
    · simp [Piped.silent, isSilent, ended_finish]
  ended_silent w pid s seen := by
    obtain ⟨front, rest, split⟩ := List.append_of_mem seen
    rcases suffix_unread ⟨front, split.symm⟩ with octets | ⟨-, -, closed⟩
    · nomatch octets
    · simp [Piped.silent, isSilent, closed]
  ended_last w pid s rest next := by
    rcases suffix_unread next with octets | ⟨-, rfl, -⟩
    · nomatch octets
    · rfl
  blocked_last w pid s fault rest _ _ next := by
    rcases suffix_unread next with octets | ⟨ended, -⟩
    · nomatch octets
    · nomatch ended

/-! ## A process cut short -/

/-- A process that becomes ready, writes half a character before it is told to end and the other
half behind that, begins another character and ends, while others hold its standard output open. -/
def cutShort : Scripted :=
  idle
    [[.write .stderr (Utf8.encode "Phosh ready ")], [.write .stderr (Utf8.encode "after 1s")], [],
      [], [.write .stdout [0x78, 0xC3]], [], [], [],
      [.write .stdout [0xBC, 0xE2], .exit 0 [.stdout]]]

end Scripted

end NestedSession
