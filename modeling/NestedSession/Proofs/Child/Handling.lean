import NestedSession.Proofs.Child.Marking
import NestedSession.Proofs.Session.Course
import NestedSession.Proofs.Session.Mirroring
import NestedSession.Proofs.System.Calling
import NestedSession.Proofs.System.Scripted

/-!
# Proofs/Child/Handling — a child is left alone once its status is collected

A child is asked for its end, signalled, killed, waited for and pumped, in whatever order and as
often as its owner likes, while anything may happen in the world between (`Watched.Step`,
`Watched.Course`).  To end it is such a course, too, and so is all that a session does with its
child (`Watched.course_of_terminate`, `Watched.keeps_course`).

On a host that writes down its calls, the end of a child is known exactly if its status was
collected, and that was the last call of all (`Watched.Attended`).  So a number that may belong to
another process by now is never used.
-/

namespace NestedSession

namespace Watched

/-! ## What is done with a child -/

section

variable {ω : Type} [Host ω] {drift : ω → ω → Prop}

/-- **One dealing with a child**, in a world that may drift between two of them. -/
inductive Step (drift : ω → ω → Prop) : Watched ω → Watched ω → Prop
  /-- It is asked for its end. -/
  | asked (a : Watched ω) : Step drift a a.tryExit.2
  /-- It is sent a signal. -/
  | signalled (a : Watched ω) (sent : Signal) : Step drift a (a.signal sent).2
  /-- It is ordered to end. -/
  | killed (a : Watched ω) : Step drift a a.kill.2
  /-- It is waited for. -/
  | waited (a : Watched ω) : Step drift a a.wait.2
  /-- What it wrote is taken over. -/
  | pumped (a : Watched ω) : Step drift a a.pump.2
  /-- Something happens in the world. -/
  | drifted (a : Watched ω) {w : ω} (h : drift a.host w) : Step drift a (a.withHost w)

/-- **All that is done with a child**, one dealing after the other. -/
abbrev Course (drift : ω → ω → Prop) : Watched ω → Watched ω → Prop :=
  Relation.ReflTransGen (Step drift)

/-- **To end a child is to deal with it**, if letting time pass is something that may happen. -/
theorem course_of_terminate (pause : ∀ w span, drift w (Host.pause w span)) {a b : Watched ω}
    {grace : Span} {answer : Option Exit × Bool} (ended : a.terminate grace = some (answer, b)) :
    Course drift a b :=
  terminate_keeps (P := Course drift a) (fun b sent run => run.tail (.signalled b sent))
    (fun b run => run.tail (.pumped b)) (fun b run => run.tail (.waited b))
    (fun _ deadline left run => awaitEnd_keeps (fun b run => run.tail (.pumped b))
      (fun b run => run.tail (.asked b)) (fun b _ run => run.tail (.drifted b (pause _ _)))
      deadline left run)
    .refl ended

/-- **All that a session does with its child is to deal with it.** -/
theorem keeps_course (pause : ∀ w span, drift w (Host.pause w span)) (a : Watched ω) :
    Keeps (Course drift a) where
  tryExit b run := run.tail (.asked b)
  pump b run := run.tail (.pumped b)
  pause b _ run := run.tail (.drifted b (pause _ _))

end

/-- **What is done with a child can be done on a host that mirrors its own**, if the mirror drifts
as the host does. -/
theorem Course.lift {ω' ω : Type} [Host ω'] [Host ω] {f : ω' → ω} (h : Host.Mirrors f)
    {drift' : ω' → ω' → Prop} {drift : ω → ω → Prop}
    (drifts : ∀ n w, drift (f n) w → ∃ n', drift' n n' ∧ f n' = w) {a : Watched ω'} {b : Watched ω}
    (run : Course drift (a.map f) b) : ∃ b', Course drift' a b' ∧ b'.map f = b := by
  induction run with
  | refl => exact ⟨a, .refl, rfl⟩
  | tail _ taken ih =>
    obtain ⟨b, run, rfl⟩ := ih
    cases taken with
    | asked => exact ⟨_, run.tail (.asked b), by rw [tryExit_map h]; rfl⟩
    | signalled sent => exact ⟨_, run.tail (.signalled b sent), by rw [signal_map h]; rfl⟩
    | killed => exact ⟨_, run.tail (.killed b), by rw [kill, kill, signal_map h]; rfl⟩
    | waited => exact ⟨_, run.tail (.waited b), by rw [wait_map h]; rfl⟩
    | pumped => exact ⟨_, run.tail (.pumped b), by rw [pump_map h]; rfl⟩
    | drifted drifted =>
      obtain ⟨n, drifted', rfl⟩ := drifts _ _ drifted
      exact ⟨_, run.tail (.drifted b drifted'), rfl⟩

variable {ω : Type}

/-! ## The last call -/

/-- **A child whose end is known exactly if its status was collected**, and that with the last call
about it. -/
inductive Attended (pid : Pid) (a : Watched (Called ω)) : Prop
  /-- No end is known, and no call collected a status. -/
  | alive (number : a.child.pid = pid) (unknown : a.child.exit = none)
      (calls : ∀ call ∈ a.host.calls, call.pid = pid ∧ call.collected? = none)
  /-- The last call collected the status, and that is the end that is known. -/
  | reaped {last : Call} {earlier : List Call} {status : Int32}
      (known : a.child.exit = some (Exit.ofWaitStatus status))
      (ledger : a.host.calls = last :: earlier) (about : last.pid = pid)
      (collected : last.collected? = some status)
      (calls : ∀ call ∈ earlier, call.pid = pid ∧ call.collected? = none)

/-- **A child that is left alone**: its end is known, it is told whenever it is asked for, and no
call is made. -/
structure LeftAlone (exit : Exit) (calls : List Call) [Host ω] (a : Watched (Called ω)) : Prop where
  known : a.child.exit = some exit
  calls : a.host.calls = calls
  tryExit : a.tryExit = (.ok (some exit), a)
  wait : a.wait = (.ok exit, a)
  signal : ∀ sent, a.signal sent = (.ok (), a)
  kill : a.kill = (.ok (), a)

section

variable [Host ω] {pid : Pid} {a b : Watched (Called ω)}

/-- A child whose end is known is left alone. -/
theorem LeftAlone.of_known {exit : Exit} (known : a.child.exit = some exit) :
    a.LeftAlone exit a.host.calls := by
  have asked : a.tryExit = (.ok (some exit), a) := by rw [Watched.tryExit, known]
  have signalled (sent : Signal) : a.signal sent = (.ok (), a) := by rw [Watched.signal, asked]
  exact
    { known, calls := rfl, tryExit := asked, wait := by rw [Watched.wait, known]
      signal := signalled, kill := signalled .kill }

/-- A pump makes no calls about the process. -/
theorem calls_pump (a : Watched (Called ω)) : a.pump.2.host.calls = a.host.calls :=
  pump_keeps (P := fun b : Watched (Called ω) => b.host.calls = a.host.calls)
    (fun _ s same =>
      pumpStream_keeps (P := fun b : Watched (Called ω) => b.host.calls = a.host.calls)
        (fun _ _ same => same) (fun _ _ same => same) same s) rfl

/-- **A child that is left alone stays so**, whatever is done with it. -/
theorem LeftAlone.step {exit : Exit} {calls : List Call} (h : a.LeftAlone exit calls)
    (taken : Step Called.Idle a b) : b.LeftAlone exit calls := by
  cases taken with
  | asked => exact (congrArg Prod.snd h.tryExit).symm ▸ h
  | signalled sent => exact (congrArg Prod.snd (h.signal sent)).symm ▸ h
  | killed => exact (congrArg Prod.snd h.kill).symm ▸ h
  | waited => exact (congrArg Prod.snd h.wait).symm ▸ h
  | pumped => exact (a.calls_pump.trans h.calls) ▸ .of_known (a.exit_pump.trans h.known)
  | drifted idle => exact (idle.trans h.calls) ▸ .of_known (a := a.withHost _) h.known

theorem LeftAlone.course {exit : Exit} {calls : List Call} (h : a.LeftAlone exit calls)
    (run : Course Called.Idle a b) : b.LeftAlone exit calls := by
  induction run with
  | refl => exact h
  | tail _ taken ih => exact ih.step taken

namespace Attended

omit [Host ω] in
/-- A child that is alive after one more call about it. -/
theorem call (number : a.child.pid = pid) (unknown : a.child.exit = none)
    (calls : ∀ call ∈ a.host.calls, call.pid = pid ∧ call.collected? = none) {n : Called ω}
    {last : Call} (entered : n.calls = last :: a.host.calls) (about : last.pid = a.child.pid)
    (uncollected : last.collected? = none) : (a.withHost n).Attended pid := by
  refine .alive number unknown ?_
  rw [withHost, entered]
  exact List.forall_mem_cons.mpr ⟨⟨about.trans number, uncollected⟩, calls⟩

/-- **Asked for its end**: one call, unless it is known. -/
theorem tryExit (h : a.Attended pid) : a.tryExit.2.Attended pid := by
  cases h with
  | reaped known ledger about collected calls =>
    rw [(LeftAlone.of_known known).tryExit]
    exact .reaped known ledger about collected calls
  | alive number unknown calls =>
    have entered := a.host.calls_tryWait a.child.pid
    rcases a.tryExit_cases with ⟨_, known, -⟩ | ⟨-, ⟨_, told, eq⟩ | ⟨told, eq⟩ | ⟨_, told, eq⟩⟩
    · nomatch known.symm.trans unknown
    all_goals
      rw [told] at entered
      rw [eq]
    · exact call number unknown calls entered rfl rfl
    · exact call number unknown calls entered rfl rfl
    · exact .reaped rfl entered number rfl calls

/-- **Waited for**: one call, unless its end is known. -/
theorem wait (h : a.Attended pid) : a.wait.2.Attended pid := by
  cases h with
  | reaped known ledger about collected calls =>
    rw [(LeftAlone.of_known known).wait]
    exact .reaped known ledger about collected calls
  | alive number unknown calls =>
    have entered := a.host.calls_wait a.child.pid
    rcases a.wait_cases with ⟨_, known, -⟩ | ⟨-, ⟨_, told, eq⟩ | ⟨_, told, eq⟩⟩
    · nomatch known.symm.trans unknown
    all_goals
      rw [told] at entered
      rw [eq]
    · exact call number unknown calls entered rfl rfl
    · exact .reaped rfl entered number rfl calls

/-- **Signalled**: it is asked first, and sent the signal only if it is alive. -/
theorem signal (h : a.Attended pid) (sent : Signal) : (a.signal sent).2.Attended pid := by
  have asked := h.tryExit
  rcases a.signal_cases sent with eq | ⟨alive, eq⟩ <;> rw [eq]
  · exact asked
  · have unknown := exit_of_tryExit_none alive
    cases asked with
    | reaped known => nomatch known.symm.trans unknown
    | alive number _ calls =>
      exact call number unknown calls (Called.calls_kill _ _ sent) rfl rfl

omit [Host ω] in
/-- A dealing that makes no calls. -/
theorem of_same (h : a.Attended pid) (number : b.child.pid = a.child.pid)
    (exit : b.child.exit = a.child.exit) (ledger : b.host.calls = a.host.calls) :
    b.Attended pid := by
  cases h with
  | alive same unknown calls =>
    exact .alive (number.trans same) (exit.trans unknown) (ledger.symm ▸ calls)
  | reaped known last about collected calls =>
    exact .reaped (exit.trans known) (ledger.trans last) about collected calls

/-- **Whatever is done with a child**, its status is collected with the last call, if at all. -/
theorem step (h : a.Attended pid) (taken : Step Called.Idle a b) : b.Attended pid := by
  cases taken with
  | asked => exact h.tryExit
  | signalled sent => exact h.signal sent
  | killed => exact h.signal .kill
  | waited => exact h.wait
  | pumped => exact h.of_same a.pid_pump a.exit_pump a.calls_pump
  | drifted idle => exact h.of_same rfl rfl idle

theorem course (h : a.Attended pid) (run : Course Called.Idle a b) : b.Attended pid := by
  induction run with
  | refl => exact h
  | tail _ taken ih => exact ih.step taken

omit [Host ω] in
/-- **No call is made behind the one that collected the status.** -/
theorem orderly (h : a.Attended pid) : Orderly pid a.host.calls := by
  have silent {calls : List Call} (h : ∀ call ∈ calls, call.pid = pid ∧ call.collected? = none) :
      calls.Pairwise fun _ earlier => earlier.collected? = none :=
    List.pairwise_of_forall_mem_list fun _ _ call listed => (h call listed).2
  cases h with
  | alive _ _ calls => exact ⟨fun call listed => (calls call listed).1, silent calls⟩
  | reaped _ ledger about _ calls =>
    rw [ledger]
    exact ⟨List.forall_mem_cons.mpr ⟨about, fun call listed => (calls call listed).1⟩,
      .cons (fun call listed => (calls call listed).2) (silent calls)⟩

omit [Host ω] in
/-- **The end is known exactly if the status was collected.** -/
theorem exit_eq_some_iff (h : a.Attended pid) (exit : Exit) : a.child.exit = some exit
    ↔ ∃ call ∈ a.host.calls, ∃ status, call.collected? = some status
      ∧ Exit.ofWaitStatus status = exit := by
  cases h with
  | alive _ unknown calls =>
    rw [unknown]
    refine iff_of_false (fun known => nomatch known) ?_
    rintro ⟨call, listed, status, collected, -⟩
    exact nomatch (calls call listed).2.symm.trans collected
  | @reaped last earlier status known ledger _ collected calls =>
    rw [known, ledger, Option.some.injEq, List.exists_mem_cons_iff]
    constructor
    · exact fun same => .inl ⟨status, collected, same⟩
    · rintro (⟨again, collected', same⟩ | ⟨call, listed, again, collected', -⟩)
      · obtain rfl := Option.some.inj (collected.symm.trans collected')
        exact same
      · exact nomatch (calls call listed).2.symm.trans collected'

end Attended

end

end Watched

/-! ## The start of a child -/

namespace Child

variable {ω : Type} [Host ω] {n n' : Called ω} {call : Invocation} {program : String}

/-- Letting reads return at once is no call about the process. -/
theorem calls_unblockAll (n : Called ω) (pid : Pid) (streams : List Stream) :
    (unblockAll n pid streams).2.calls = n.calls :=
  unblockAll_keeps (P := fun n' : Called ω => n'.calls = n.calls) (fun _ _ same => same) rfl streams

/-- **A child that starts** is fresh, and no call about it was made. -/
theorem calls_of_start {child : Child} (started : start n call program = (.ok child, n')) :
    child = fresh child.pid ∧ n'.calls = n.calls := by
  obtain ⟨n₁, spawned, fresh, unblocked⟩ := of_start started
  have unblocked : n'.calls = n₁.calls :=
    (congrArg (·.2.calls) unblocked).symm.trans (calls_unblockAll n₁ child.pid Stream.all)
  exact ⟨fresh, unblocked.trans (congrArg (·.2.calls) spawned).symm⟩

/-- **A child that does not start** was not begun, or was killed and then waited for. -/
theorem orderly_of_start_error {fault : SessionFault} (blank : n.calls = [])
    (failed : start n call program = (.error fault, n')) : ∃ pid, Orderly pid n'.calls := by
  rcases of_start_error failed with ⟨why, spawned, -⟩ | ⟨pid, n₁, n₂, spawned, unblocked, rfl⟩
  all_goals have same := (congrArg (·.2.calls) spawned).symm.trans blank
  · exact ⟨0, same.symm ▸ ⟨List.forall_mem_nil _, .nil⟩⟩
  · have unblocked : n₂.calls = n₁.calls :=
      (congrArg (·.2.calls) unblocked).symm.trans (calls_unblockAll n₁ pid Stream.all)
    refine ⟨pid, ?_⟩
    rw [Called.calls_wait, Called.calls_kill, unblocked.trans same]
    constructor <;> simp [Call.pid, Call.collected?]

end Child

/-! ## The end of a session -/

namespace Session

variable {ω : Type} [Host ω] {n last : Called ω} {s : Session}

/-- **The report of a session** says of its child what the end of the child came to, and no calls
are made after that. -/
theorem exists_terminate_of_teardown {child : Child} {report : SessionReport}
    (has : s.child = some child) (ended : s.teardown n = some (report, last)) :
    ∃ b, (⟨n, child, s.capture⟩ : Watched (Called ω)).terminate s.settings.shutdownTimeout
        = some ((report.exit, report.forced), b)
      ∧ last.calls = b.host.calls ∧ report.clean = isCleanEnd report.exit report.forced := by
  rw [teardown_of_child has, Option.map_eq_some_iff] at ended
  obtain ⟨⟨⟨exit, forced⟩, b⟩, ended, concluded⟩ := ended
  cases concluded
  exact ⟨b, ended, conclude_keeps (P := fun n : Called ω => n.calls = b.host.calls)
    (fun _ _ same => same) (fun _ _ _ same => same) (fun _ _ same => same) rfl _ exit forced, rfl⟩

/-- **A session that ends**, torn down or dropped, ends its child and makes no calls after that. -/
theorem exists_terminate_of_ended {child : Child} (has : s.child = some child)
    (ended : (s.teardown n).map Prod.snd = some last ∨ s.abandon n = some last) :
    ∃ answer b, (⟨n, child, s.capture⟩ : Watched (Called ω)).terminate s.settings.shutdownTimeout
      = some (answer, b) ∧ last.calls = b.host.calls := by
  rcases ended with torn | dropped
  · obtain ⟨⟨report, _⟩, reported, rfl⟩ := Option.map_eq_some_iff.mp torn
    obtain ⟨b, ended, same, -⟩ := exists_terminate_of_teardown has reported
    exact ⟨_, b, ended, same⟩
  · rw [abandon_of_child has, Option.map_eq_some_iff] at dropped
    obtain ⟨⟨answer, b⟩, ended, rfl⟩ := dropped
    exact ⟨answer, b, ended, rfl⟩

end Session

/-- **A child is left alone once its status is collected.**  Of a child that is to be started, on a
host that writes down its calls:

* If it does not start, no call was made behind one that collected its status.
* If it starts, whatever is done with it on the host can be done on the one that writes down; and
  after all that is done with it, whatever happens in the world meanwhile, all calls were about it,
  and none was made behind one that collected its status.  Its end is known exactly if its status
  was collected.
* Once its end is known, it is known for ever: whatever is done with the child, it is told whenever
  it is asked or waited for, signals succeed, and no call is made any more.
* To end the child is nothing else; and so is all that a session does with it, to its own end. -/
theorem Watched.left_alone {ω : Type} [Host ω] (w : ω) (call : Invocation) (program : String) :
    (∀ fault n, Child.start (Called.blank w) call program = (.error fault, n) →
      ∃ pid, Orderly pid n.calls)
    ∧ ∀ child n, Child.start (Called.blank w) call program = (.ok child, n) → ∀ c,
      (∀ (drift : ω → ω → Prop) b, Course drift ⟨n.host, child, c⟩ b →
        ∃ a, Course Called.Idle ⟨n, child, c⟩ a ∧ a.map Called.host = b)
      ∧ ∀ a, Course Called.Idle ⟨n, child, c⟩ a →
        Orderly child.pid a.host.calls
        ∧ (∀ exit, a.child.exit = some exit ↔ ∃ call ∈ a.host.calls, ∃ status,
            call.collected? = some status ∧ Exit.ofWaitStatus status = exit)
        ∧ (∀ exit, a.child.exit = some exit →
            ∀ b, Course Called.Idle a b → b.LeftAlone exit a.host.calls)
        ∧ (∀ grace answer b, a.terminate grace = some (answer, b) → Course Called.Idle a b)
        ∧ ∀ s, s.Watches (· = a) a.host →
          ∀ n' s', Session.Course Called.Idle (a.host, s) (n', s') →
            s'.Watches (Course Called.Idle a) n'
            ∧ ∀ last, (s'.teardown n').map Prod.snd = some last ∨ s'.abandon n' = some last →
              ∃ b, Course Called.Idle a b ∧ last.calls = b.host.calls := by
  have pauses (n : Called ω) (span : Span) : Called.Idle n (Host.pause n span) := rfl
  refine ⟨fun fault n => Child.orderly_of_start_error rfl, fun child n started c => ⟨?_, ?_⟩⟩
  · intro drift b run
    exact Course.lift Called.echoes.toMirrors (a := (⟨n, child, c⟩ : Watched (Called ω)))
      (fun n w _ => ⟨⟨w, n.calls⟩, rfl, rfl⟩) run
  intro a run
  obtain ⟨fresh, blank⟩ := Child.calls_of_start started
  have unknown : child.exit = none := by rw [fresh]; rfl
  have attended : a.Attended child.pid := by
    refine Attended.course (.alive rfl unknown ?_) run
    rw [blank]
    exact List.forall_mem_nil _
  refine ⟨attended.orderly, attended.exit_eq_some_iff,
    fun exit known b more => (LeftAlone.of_known known).course more,
    fun grace answer b => course_of_terminate pauses, fun s held n' s' course => ?_⟩
  have watched : s'.Watches (Course Called.Idle a) n' := by
    obtain ⟨child, has, same⟩ := held
    exact (keeps_course pauses a).course
      (fun b n' idle run => run.tail (.drifted b idle)) course ⟨child, has, same ▸ .refl⟩
  refine ⟨watched, fun last ended => ?_⟩
  obtain ⟨child, has, more⟩ := watched
  obtain ⟨answer, b, terminated, same⟩ := Session.exists_terminate_of_ended has ended
  exact ⟨b, more.trans (course_of_terminate pauses terminated), same⟩

/-- A process that ignores the request to end: it is asked for its end, sent the request and waited
for; its end is then known, and a signal makes no fourth call. -/
theorem Watched.left_alone_stubborn :
    ∃ (n : Called Scripted) (a : Watched (Called Scripted)),
      Child.start (.blank (.idle [])) default "phoc" = (.ok (.fresh 7), n)
      ∧ a = ((⟨n, .fresh 7, .empty⟩ : Watched (Called Scripted)).signal .term).2.wait.2
      ∧ a.host.calls.length = 3 ∧ Orderly 7 a.host.calls
      ∧ (a.signal .kill).2.LeftAlone (.signaled 9) a.host.calls := by
  have started : (Child.start (Called.blank (Scripted.idle [])) default "phoc").1
      = .ok (.fresh 7) := by decide +kernel
  obtain ⟨-, going⟩ := Watched.left_alone (Scripted.idle []) default "phoc"
  obtain ⟨-, handled⟩ := going _ _ (Prod.ext started rfl) .empty
  have run (a : Watched (Called Scripted)) : Course Called.Idle a (a.signal .term).2.wait.2 :=
    .tail (.single (.signalled a .term)) (.waited _)
  obtain ⟨orderly, -, alone, -⟩ := handled _ (run _)
  exact ⟨_, _, Prod.ext started rfl, rfl, by decide +kernel, orderly,
    alone _ (by decide +kernel) _ (.single (.signalled _ .kill))⟩

end NestedSession
