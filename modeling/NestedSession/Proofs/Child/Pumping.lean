import NestedSession.Proofs.Capture.Readings
import NestedSession.Proofs.Child.Steps

/-!
# Proofs/Child/Pumping — no octet is lost however reads fail

What reads of two pipes will give is fixed (`Host.Replays`): octets, faults and the end, in any
order.  Pump after pump goes along both, and every pump may fail halfway.  The invariant is a log of
the reads made so far of each pipe (`Watched.Logged`): they are the first that its script gives, the
buffer is what all their octets decode to at once, and a pipe is given up only behind its end.  One
pump adds the reads it makes to the log and tells what came of them (`PumpMakes`); a run of pumps
goes along the scripts without leaving anything out (`Watched.pump_accounts`).
-/

namespace NestedSession

/-! ## Read after read -/

theorem readings_add (pieces : List Piece) (m n : ℕ) :
    readings pieces (m + n) = ((readings pieces m).1 ++ (readings (readings pieces m).2 n).1,
      (readings (readings pieces m).2 n).2) := by
  induction m generalizing pieces with
  | zero => rw [Nat.zero_add]; rfl
  | succ m ih => rw [Nat.succ_add, readings, ih, readings, List.cons_append]

/-- The end stays where it is read. -/
theorem eq_ended_of_reading {pieces : List Piece} (read : (reading pieces).1 = .ended) :
    ∃ rest, (reading pieces).2 = .ended :: rest := by
  fun_induction reading pieces with
  | case1 | case3 | case5 | case6 => cases read
  | case2 rest => exact ⟨rest, rfl⟩
  | case4 _ ih => exact ih read

/-- **Behind the end there is nothing but the end.** -/
theorem octets_of_mem_readings_ended {rest : List Piece} {n : ℕ} {r : OneRead}
    (mem : r ∈ (readings (.ended :: rest) n).1) : r = .ended := by
  induction n with
  | zero => cases mem
  | succ n ih =>
    rcases List.mem_cons.mp mem with rfl | mem
    · rfl
    · exact ih mem

/-- **Once the end was read**, reads give nothing but the end. -/
theorem unread_of_ended_mem {pieces : List Piece} {n : ℕ} (mem : .ended ∈ (readings pieces n).1) :
    ∃ rest, (readings pieces n).2 = .ended :: rest := by
  induction n generalizing pieces with
  | zero => cases mem
  | succ n ih =>
    rcases List.mem_cons.mp mem with first | mem
    · obtain ⟨rest, eq⟩ := eq_ended_of_reading first.symm
      have stays : (readings (.ended :: rest) n).2 = .ended :: rest := by
        clear ih mem
        induction n with
        | zero => rfl
        | succ n ih => exact ih
      exact ⟨rest, by rw [readings, eq, stays]⟩
    · exact ih mem

/-- **What reads come to**: all their octets decoded at once, and shown as they are if the end was
read. -/
def Buffer.ofReads (rs : List OneRead) : Buffer :=
  if .ended ∈ rs then (Buffer.empty.push (octetsRead rs)).close
  else Buffer.empty.push (octetsRead rs)

theorem octetsRead_append (rs rs' : List OneRead) :
    octetsRead (rs ++ rs') = octetsRead rs ++ octetsRead rs' := List.flatMap_append

theorem Buffer.close_close (b : Buffer) : b.close.close = b.close := by
  rw [close, close, Decoder.flush_flush]

/-- **Some reads, and more behind them**, which give no octets once the end was read. -/
theorem Buffer.ofReads_append {rs rs' : List OneRead}
    (last : .ended ∈ rs → octetsRead rs' = []) :
    ofReads (rs ++ rs') = if .ended ∈ rs' then ((ofReads rs).push (octetsRead rs')).close
      else (ofReads rs).push (octetsRead rs') := by
  unfold ofReads
  rw [octetsRead_append, push_append]
  by_cases before : .ended ∈ rs
  · have push_nil (b : Buffer) : b.push [] = b := rfl
    rw [last before, if_pos (List.mem_append_left _ before), if_pos before, push_nil, push_nil,
      close_close, ite_self]
  · simp only [List.mem_append, before, false_or, if_false]

/-- Once the end was read, an output is closed and nothing of it is held back. -/
theorem Buffer.ofReads_of_ended {rs : List OneRead} (mem : .ended ∈ rs) :
    (ofReads rs).closed = true ∧ (ofReads rs).pending = [] := by
  rw [ofReads, if_pos mem]
  exact ⟨rfl, Decoder.flush_pending _⟩

/-- With what is held back shown, it is the lossy text of all octets. -/
theorem Buffer.text_flush_ofReads (rs : List OneRead) :
    (ofReads rs).flush.text = Utf8.lossy (octetsRead rs) := by
  have text : ((Buffer.empty.push (octetsRead rs)).flush).text = Utf8.lossy (octetsRead rs) :=
    Decoder.text_flush_push _
  rw [ofReads]
  split
  · exact (congrArg Decoder.text (Decoder.flush_flush _)).trans text
  · exact text

/-- What makes a pump fail: a read that was not merely interrupted, and did not merely find nothing
yet. -/
def OneRead.failure? : OneRead → Option Fault
  | failed fault => if fault.isInterrupted || fault.isWouldBlock then none else some fault
  | _ => none

theorem OneRead.failure?_eq_some_iff {r : OneRead} {fault : Fault} :
    r.failure? = some fault ↔ r = .failed fault
      ∧ fault.isInterrupted = false ∧ fault.isWouldBlock = false := by
  cases r with
  | got | ended => simp [failure?]
  | failed why =>
    simp only [failure?, failed.injEq]
    constructor
    · intro h
      split at h
      · cases h
      · next other =>
        cases h
        exact ⟨rfl, by simpa using other⟩
    · rintro ⟨rfl, again, wait⟩
      simp [again, wait]

/-- What one drain tells of its reads: all of their octets, or the fault of the last. -/
inductive DrainTells (new : List OneRead) : Except SessionFault ℕ → Prop
  | counted (sound : ∀ r ∈ new, r.failure? = none) : DrainTells new (.ok (octetsRead new).length)
  | failed {r : OneRead} {fault : Fault} (last : new.getLast? = some r)
      (failure : r.failure? = some fault) : DrainTells new (.error (.system fault))

/-- The reads of a drain that does not fail are none that would make it fail. -/
theorem Verdict.failure?_eq_none {rs : List OneRead} (made : Made 0 rs) {status : ReadStatus}
    (verdict : Verdict rs (.ok status)) {r : OneRead} (mem : r ∈ rs) : r.failure? = none := by
  by_contra some_
  obtain ⟨fault, failure⟩ := Option.ne_none_iff_exists'.mp some_
  obtain ⟨rfl, other⟩ := OneRead.failure?_eq_some_iff.mp failure
  exact nomatch verdict.unique made (.failed mem other)

/-- A drain that does not fail tells all its octets. -/
theorem DrainTells.of_verdict {rs : List OneRead} (made : Made 0 rs) {status : ReadStatus}
    (verdict : Verdict rs (.ok status)) : DrainTells rs (.ok (octetsRead rs).length) :=
  .counted fun _ => verdict.failure?_eq_none made

/-! ## Pipes that follow scripts -/

/-- **A host whose pipes follow scripts**: what reads of a pipe will give changes by reading it
alone, and then it is what was not read. -/
structure Host.Replays (ω : Type) [Host ω] : Prop where
  leave : ∀ (w : ω) pid s rest t,
    Host.unread (Host.leave w pid s rest) pid t = if t = s then rest else Host.unread w pid t

namespace Watched

variable {ω : Type} [Host ω] {a : Watched ω} {s t : Stream}

/-- **The reads made so far of each output.** -/
structure Logged (a : Watched ω) (script : Stream → List Piece) (log : Stream → List OneRead) :
    Prop where
  /-- They are the first that the script gives, and what they leave is unread. -/
  reads : ∀ s, ∃ n, readings (script s) n = (log s, a.unread s)
  /-- All their octets are decoded as if at once. -/
  buffer : ∀ s, a.capture.buffer s = .ofReads (log s)
  /-- An output is given up only once its end was read. -/
  shut : ∀ s, a.child.isOpen s = false → .ended ∈ log s

/-- The reads that one pump makes of an output: those of one drain, or none if it was given up. -/
def Makes (a : Watched ω) (s : Stream) (new : List OneRead) : Prop :=
  if a.child.isOpen s = true then Made 0 new else new = []

/-- **What one pump makes and tells.** -/
inductive PumpMakes (a : Watched ω) (new : Stream → List OneRead) : Except SessionFault ℕ → Prop
  /-- Both outputs are read, and the octets of both are counted. -/
  | counted (made : ∀ s, a.Makes s (new s)) (sound : ∀ s, ∀ r ∈ new s, r.failure? = none) :
      PumpMakes a new
        (.ok ((octetsRead (new .stdout)).length + (octetsRead (new .stderr)).length))
  /-- The last read of standard output fails, and standard error is not read. -/
  | stdout {r : OneRead} {fault : Fault} (made : a.Makes .stdout (new .stdout))
      (last : (new .stdout).getLast? = some r) (failure : r.failure? = some fault)
      (none : new .stderr = []) : PumpMakes a new (.error (.system fault))
  /-- Standard output is read, and then the last read of standard error fails. -/
  | stderr {r : OneRead} {fault : Fault} (made : ∀ s, a.Makes s (new s))
      (sound : ∀ r ∈ new .stdout, r.failure? = none) (last : (new .stderr).getLast? = some r)
      (failure : r.failure? = some fault) : PumpMakes a new (.error (.system fault))

/-! ## One pump -/

/-- A pump of an output that was not given up is a drain, and what that tells. -/
theorem pumpStream_of_result {result : Except Fault ReadStatus} (isOpen : a.child.isOpen s = true)
    (drains : (a.capture.drain s (a.unread s)).result = result) :
    a.pumpStream s = match result with
      | .error fault => (.error (.system fault), a.drained s)
      | .ok (.data count) => (.ok count, a.drained s)
      | .ok .empty => (.ok 0, a.drained s)
      | .ok .closed => (.ok 0, (a.drained s).withoutStream s) := by
  rw [unread] at drains
  rw [pumpStream, if_pos isOpen]
  simp only [drains]
  rcases result with _ | _ | _ | _ <;> rfl

/-- A pump of an output that was given up does nothing. -/
theorem pumpStream_of_shut (shut : a.child.isOpen s = false) : a.pumpStream s = (.ok 0, a) := by
  simp [pumpStream, shut]

/-- A pump gives up no output but the one it reads. -/
theorem isOpen_pumpStream_of_ne (a : Watched ω) (other : t ≠ s) :
    (a.pumpStream s).2.child.isOpen t = a.child.isOpen t := by
  rcases a.pumpStream_cases s with ⟨-, eq⟩ | ⟨_, -, eq⟩ | ⟨_, _, -, eq⟩ | ⟨-, eq⟩ <;> rw [eq]
  · rfl
  · rfl
  · rw [withoutStream, Child.isOpen_shut, if_neg other]
    rfl

/-- An output that was given up stays so. -/
theorem isOpen_pump_of_shut (shut : a.child.isOpen s = false) :
    a.pump.2.child.isOpen s = false := by
  refine pump_keeps (P := fun b => b.child.isOpen s = false) (fun b t h => ?_) shut
  refine pumpStream_keeps (P := fun b => b.child.isOpen s = false) (fun _ _ h => h)
    (fun b t h => ?_) h t
  rw [withoutStream, Child.isOpen_shut, h, ite_self]

/-- A pump is one of standard output and, if that does not fail, one of standard error. -/
theorem pump_eq (a : Watched ω) :
    a.pump = match (a.pumpStream .stdout).1 with
      | .error fault => (.error fault, (a.pumpStream .stdout).2)
      | .ok n => (((a.pumpStream .stdout).2.pumpStream .stderr).1.map (n + ·),
          ((a.pumpStream .stdout).2.pumpStream .stderr).2) := by
  rw [pump]
  rcases a.pumpStream .stdout with ⟨fault | n, b⟩
  · rfl
  · dsimp only
    rcases b.pumpStream .stderr with ⟨fault | m, c⟩ <;> rfl

/-- The reads of one pump, by the output they are of. -/
def readsOf (out err : List OneRead) : Stream → List OneRead
  | .stdout => out
  | .stderr => err

/-- More reads of one output. -/
def logMore (log : Stream → List OneRead) (s : Stream) (new : List OneRead) :
    Stream → List OneRead := fun t => if t = s then log t ++ new else log t

theorem logMore_self (log : Stream → List OneRead) (s : Stream) (new : List OneRead) :
    logMore log s new s = log s ++ new := if_pos rfl

theorem logMore_of_ne (log : Stream → List OneRead) (new : List OneRead) (other : t ≠ s) :
    logMore log s new t = log t := if_neg other

theorem logMore_nil (log : Stream → List OneRead) (s : Stream) : logMore log s [] = log := by
  funext t
  rw [logMore, List.append_nil, ite_self]

namespace Logged

variable {script : Stream → List Piece} {log : Stream → List OneRead}

/-- An output is given up behind its end. -/
theorem withoutStream (h : a.Logged script log) (ended : .ended ∈ log s) :
    (a.withoutStream s).Logged script log := by
  refine ⟨fun t => ?_, h.buffer, fun t shut => ?_⟩
  · rw [unread, Watched.withoutStream, Child.pid_shut]
    exact h.reads t
  · rw [Watched.withoutStream, Child.isOpen_shut] at shut
    split at shut
    · next same => exact same ▸ ended
    · exact h.shut t shut

/-- Once the end was read, no more octets come. -/
theorem octetsRead_of_ended (h : a.Logged script log) (ended : .ended ∈ log s) (n : ℕ) :
    octetsRead (readings (a.unread s) n).1 = [] := by
  obtain ⟨m, eq⟩ := h.reads s
  have read : .ended ∈ (readings (script s) m).1 := eq ▸ ended
  obtain ⟨rest, next⟩ := unread_of_ended_mem read
  have unread : a.unread s = .ended :: rest := by rwa [eq] at next
  rw [octetsRead, List.flatMap_eq_nil_iff, unread]
  intro r mem
  rw [octets_of_mem_readings_ended mem]
  rfl

/-- **A drain adds its reads to the log.** -/
theorem drained (replays : Host.Replays ω) (h : a.Logged script log) (s : Stream) :
    ∃ new, Made 0 new ∧ Verdict new (a.capture.drain s (a.unread s)).result
      ∧ (a.drained s).Logged script (logMore log s new) := by
  obtain ⟨n, made, left, accounted⟩ := a.capture.accounted_drain s (a.unread s)
  have unread (t : Stream) : (a.drained s).unread t
      = if t = s then (readings (a.unread s) n).2 else a.unread t :=
    left ▸ replays.leave a.host a.child.pid s _ t
  refine ⟨_, made, (accounted.result _).mp rfl, fun t => ?_, fun t => ?_, fun t shut => ?_⟩
  · obtain ⟨m, eq⟩ := h.reads t
    rw [unread]
    by_cases same : t = s
    · subst same
      rw [if_pos rfl, logMore_self]
      exact ⟨m + n, by rw [readings_add, eq]⟩
    · rw [if_neg same, logMore_of_ne _ _ same]
      exact ⟨m, eq⟩
  · by_cases same : t = s
    · subst same
      rw [logMore_self, Buffer.ofReads_append fun ended => h.octetsRead_of_ended ended n,
        ← h.buffer]
      exact accounted.drained
    · rw [logMore_of_ne _ _ same]
      exact (accounted.other t same).trans (h.buffer t)
  · have before : .ended ∈ log t := h.shut t shut
    rw [logMore]
    split
    · exact List.mem_append_left _ before
    · exact before

/-- **A pump of one output adds its reads to the log**, and tells what came of them. -/
theorem pumpStream (replays : Host.Replays ω) (h : a.Logged script log) (s : Stream) :
    ∃ new, a.Makes s new ∧ DrainTells new (a.pumpStream s).1
      ∧ (a.pumpStream s).2.Logged script (logMore log s new) := by
  cases isOpen : a.child.isOpen s with
  | false =>
    rw [pumpStream_of_shut isOpen]
    exact ⟨[], by simp [Makes, isOpen], .counted (by simp), (logMore_nil log s).symm ▸ h⟩
  | true =>
    obtain ⟨new, made, verdict, drained⟩ := h.drained replays s
    have makes : a.Makes s new := by rwa [Makes, if_pos isOpen]
    refine ⟨new, makes, ?_⟩
    generalize result : (a.capture.drain s (a.unread s)).result = status at verdict
    rw [pumpStream_of_result isOpen result]
    cases verdict with
    | closed ended nothing =>
      have tells := DrainTells.of_verdict made (.closed ended nothing)
      rw [nothing] at tells
      refine ⟨tells, drained.withoutStream ?_⟩
      rw [logMore_self]
      exact List.mem_append_right _ ended
    | empty nothing waits wait =>
      have tells := DrainTells.of_verdict made (.empty nothing waits wait)
      rw [nothing] at tells
      exact ⟨tells, drained⟩
    | data some_ sound =>
      exact ⟨.of_verdict made (.data some_ sound), drained⟩
    | @failed fault mem other =>
      refine ⟨.failed (made.getLast?_of_stops mem ?_)
        (OneRead.failure?_eq_some_iff.mpr ⟨rfl, other⟩), drained⟩
      simp [OneRead.stops, other.1]

/-- **A pump adds its reads to the log**, and tells what came of them. -/
theorem pump (replays : Host.Replays ω) (h : a.Logged script log) :
    ∃ new, PumpMakes a new a.pump.1 ∧ a.pump.2.Logged script fun s => log s ++ new s := by
  obtain ⟨out, made, tells, logged⟩ := h.pumpStream replays .stdout
  rw [pump_eq]
  generalize (a.pumpStream .stdout).1 = first at tells ⊢
  cases tells with
  | failed last failure =>
    refine ⟨readsOf out [], .stdout made last failure rfl, ?_⟩
    convert logged using 2 with s
    cases s
    · rfl
    · exact List.append_nil _
  | counted sound =>
    obtain ⟨err, made', tells', logged'⟩ := logged.pumpStream replays .stderr
    have makes (s : Stream) : a.Makes s (readsOf out err s) := by
      cases s
      · exact made
      · rwa [Makes, isOpen_pumpStream_of_ne a (by decide)] at made'
    refine ⟨readsOf out err, ?_, ?_⟩
    · dsimp only
      generalize ((a.pumpStream .stdout).2.pumpStream .stderr).1 = second at tells' ⊢
      cases tells' with
      | failed last failure => exact .stderr makes sound last failure
      | counted sound' => exact .counted makes (by rintro (_ | _); exacts [sound, sound'])
    · convert logged' using 2 with s
      cases s <;> rfl

end Logged

/-! ## Pump after pump -/

/-- A child that was pumped so many times. -/
def pumped (a : Watched ω) : ℕ → Watched ω
  | 0 => a
  | k + 1 => (a.pumped k).pump.2

/-- A child that was just started, nothing of which was read. -/
def unpumped (w : ω) (pid : Pid) : Watched ω := ⟨w, .fresh pid, .empty⟩

theorem logged_unpumped (w : ω) (pid : Pid) :
    (unpumped w pid).Logged (Host.unread w pid) fun _ => [] where
  reads _ := ⟨0, rfl⟩
  buffer s := by cases s <;> rfl
  shut s shut := by cases s <;> cases shut

/-- An output that was given up stays so, pump after pump. -/
theorem isOpen_pumped_of_shut {k j : ℕ} (le : k ≤ j) (shut : (a.pumped k).child.isOpen s = false) :
    (a.pumped j).child.isOpen s = false := by
  induction j, le using Nat.le_induction with
  | base => exact shut
  | succ j _ ih => exact isOpen_pump_of_shut ih

/-- With both outputs given up, a pump does nothing. -/
theorem pump_of_shut (shut : ∀ s, a.child.isOpen s = false) : a.pump = (.ok 0, a) := by
  rw [pump_eq, pumpStream_of_shut (shut .stdout)]
  dsimp only
  rw [pumpStream_of_shut (shut .stderr)]
  rfl

/-- **The logs of a run**: each pump adds to the log of the one before what it makes. -/
theorem exists_log {script : Stream → List Piece} {start : Stream → List OneRead}
    (replays : Host.Replays ω) (h : a.Logged script start) :
    ∃ log : ℕ → Stream → List OneRead, log 0 = start ∧ ∀ k, (a.pumped k).Logged script (log k)
      ∧ ∃ new, log (k + 1) = (fun s => log k s ++ new s)
        ∧ PumpMakes (a.pumped k) new (a.pumped k).pump.1 := by
  choose! new makes logged using
    fun (b : Watched ω) log (h : b.Logged script log) => h.pump replays
  let log : ℕ → Stream → List OneRead :=
    Nat.rec start fun k log s => log s ++ new (a.pumped k) log s
  have all (k : ℕ) : (a.pumped k).Logged script (log k) := by
    induction k with
    | zero => exact h
    | succ k ih => exact logged _ _ ih
  exact ⟨log, rfl, fun k => ⟨all k, new (a.pumped k) (log k), rfl, makes _ _ (all k)⟩⟩

/-- **No octet is lost**, however the reads of a child's two outputs go and however often it is
pumped.

* Every pump adds some reads to a log, which is empty at first, and tells what it made of them.  It
  fails with the last read it makes, and then keeps what it read before (`PumpMakes`).
* The log holds the first reads that the scripts give, and what they leave is what the next pump
  reads.  Their octets, decoded at once and closed behind the end, are what is captured (`Logged`);
  with what is held back shown, they read as if all had been decoded together.
* An output is given up behind its end only.  It stays so, closed and with nothing held back.
* With both given up a pump does nothing. -/
theorem pump_accounts (replays : Host.Replays ω) (w : ω) (pid : Pid) :
    ∃ log : ℕ → Stream → List OneRead, log 0 = (fun _ => []) ∧ ∀ k,
      let a := (unpumped w pid).pumped k
      a.Logged (Host.unread w pid) (log k)
      ∧ (∃ new, log (k + 1) = (fun s => log k s ++ new s) ∧ PumpMakes a new a.pump.1)
      ∧ (∀ s, (a.capture.buffer s).flush.text = Utf8.lossy (octetsRead (log k s)))
      ∧ (∀ s, a.child.isOpen s = false → ∀ j ≥ k,
          let b := (unpumped w pid).pumped j
          b.child.isOpen s = false ∧ .ended ∈ log j s
            ∧ b.capture.isClosed s = true ∧ (b.capture.buffer s).pending = [])
      ∧ ((∀ s, a.child.isOpen s = false) → a.pump = (.ok 0, a)) := by
  obtain ⟨log, none, course⟩ := exists_log replays (logged_unpumped w pid)
  refine ⟨log, none, fun k => ⟨(course k).1, (course k).2, fun s => ?_, fun s shut j le => ?_,
    pump_of_shut⟩⟩
  · rw [(course k).1.buffer, Buffer.text_flush_ofReads]
  · have shut : ((unpumped w pid).pumped j).child.isOpen s = false := isOpen_pumped_of_shut le shut
    have ended : .ended ∈ log j s := (course j).1.shut s shut
    have closed := Buffer.ofReads_of_ended ended
    rw [← (course j).1.buffer] at closed
    exact ⟨shut, ended, closed⟩

end Watched

/-! ## Pipes alone -/

/-- A host that has two pipes and nothing else. -/
structure Taped where
  tape : Stream → List Piece

namespace Taped

instance : Host Taped where
  content _ _ := .error (.os .noEntry)
  makeDirs w _ := (.error (.os .noEntry), w)
  replace w _ _ := (.error (.os .noEntry), w)
  makeWorkDir w _ _ := (.error (.os .noEntry), w)
  removeTree w _ := (.error (.os .noEntry), w)
  spawn w _ := (.error (.os .noEntry), w)
  unblock w _ _ := (.ok (), w)
  unread w _ s := w.tape s
  leave w _ s rest := ⟨fun t => if t = s then rest else w.tape t⟩
  tryWait w _ := (.ok none, w)
  wait w _ := (.error (.os .noChild), w)
  kill w _ _ := (.error .noProcess, w)
  now _ := ⟨0⟩
  pause w _ := w

/-- Such a host follows its scripts. -/
theorem replays : Host.Replays Taped := ⟨fun _ _ _ _ _ => rfl⟩

/-- On one pipe a character in two parts, between which reads are interrupted and have to wait, and
then a fault; on the other a letter and the end. -/
def broken : Taped where
  tape
    | .stdout => [.octets [0xC3], .failed (.plain .interrupted), .failed (.plain .wouldBlock),
        .octets [0xA9], .failed (.os .badDescriptor), .octets [0x21], .ended]
    | .stderr => [.octets [0x65], .ended]

end Taped

namespace Watched

/-- A child behind these pipes, pumped so many times. -/
def brokenAfter (k : ℕ) : Watched Taped := (unpumped Taped.broken 7).pumped k

/-- The second pump fails and keeps the rest of the character; the fifth does nothing. -/
theorem pump_accounts_broken :
    Host.Replays Taped
    ∧ (∃ new, PumpMakes (brokenAfter 1) new (.error (.system (.os .badDescriptor))))
    ∧ (brokenAfter 2).capture.text .stdout = "é"
    ∧ (brokenAfter 4).pump = (.ok 0, brokenAfter 4)
    ∧ (brokenAfter 4).capture.text .stdout = "é!" := by
  obtain ⟨log, -, course⟩ := pump_accounts Taped.replays Taped.broken 7
  obtain ⟨-, ⟨new, -, makes⟩, -⟩ := course 1
  have fails : (brokenAfter 1).pump.1 = .error (.system (.os .badDescriptor)) := by decide +kernel
  have shut (s : Stream) : (brokenAfter 4).child.isOpen s = false := by
    cases s <;> decide +kernel
  exact ⟨Taped.replays, ⟨new, fails ▸ makes⟩, by decide +kernel, (course 4).2.2.2.2 shut,
    by decide +kernel⟩

end Watched

end NestedSession
