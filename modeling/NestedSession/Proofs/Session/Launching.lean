import NestedSession.Proofs.Environment.Nesting
import NestedSession.Proofs.Session.Course
import NestedSession.Proofs.Session.Output
import NestedSession.Proofs.System.Scripted
import NestedSession.Proofs.Text.Occurrence

/-!
# Proofs/Session/Launching — what a child is told when it is started

A child is told three paths in its words, and its backend in a variable.  All four are octets that
the session has from elsewhere, and all four go through a text on their way.  So a child is told
what the session has exactly where that spells a text: a path (`Launch.told_eq_iff`), and with it the
whole command (`Launch.words_eq_meant_iff`); and the word for a backend that is named
(`Variables.named?_layered`).  What spells none arrives with U+FFFD in it, and the child looks for
its files, or listens, where nobody else does.
-/

namespace NestedSession

open Utf8

/-! ## Words that are handed over -/

/-- A word is handed over as it is unless an octet of zero would end it early. -/
theorem Invocation.passed_eq_iff {bs : Octets} : passed bs = bs ↔ 0 ∉ bs := by
  rw [passed, isPassable]
  by_cases zero : (0 : UInt8) ∈ bs
  · rw [if_neg (by simpa using zero)]
    refine iff_of_false (fun same => ?_) (not_not_intro zero)
    exact absurd (same ▸ zero) (by decide)
  · simp [zero]

/-- All words of a call, the program first. -/
def Invocation.words (call : Invocation) : List Octets := call.program :: call.arguments

namespace Launch

/-- **The words of a launch reach the system in order**, none more and none less. -/
theorem words_invocation {l : Launch} (some : l.argv ≠ []) (vars : Variables) :
    (l.invocation vars).words = l.argv.map fun word => Invocation.passed (encode word) := by
  obtain ⟨first, rest, split⟩ := List.exists_cons_of_ne_nil some
  simp [invocation, Invocation.of, Invocation.words, program, arguments, split]

/-- The words of a launch that tell no path. -/
def plainWords (s : SessionSettings) : List String :=
  s.wrapper ++ [s.compositor] ++ if s.xwayland then [] else ["--no-xwayland"]

/-- What a child is told of a path: its text. -/
def told (p : Path) : Octets := Invocation.passed (encode p.shown)

/-- **A child is told a path as it is** exactly if that spells a text without an octet of zero. -/
theorem told_eq_iff {p : Path} : told p = p ↔ IsText p ∧ 0 ∉ p := by
  rw [← encode_lossy_eq_iff, ← Invocation.passed_eq_iff, told, Path.shown]
  constructor
  · intro same
    by_cases zero : (0 : UInt8) ∈ encode (lossy p)
    · -- the note in its place spells a text, so the path would be the note, without a zero
      have note : Invocation.passed (encode (lossy p)) = Invocation.spoiledWord := by
        rw [Invocation.passed, Invocation.isPassable, if_neg (by simpa using zero)]
      rw [← same, note] at zero
      exact absurd zero (by decide +kernel)
    · rw [Invocation.passed_eq_iff.mpr zero] at same
      exact ⟨same, Invocation.passed_eq_iff.mpr (same ▸ zero)⟩
  · rintro ⟨text, passable⟩
    rw [text, passable]

section

variable (s : SessionSettings) (sourceDir buildDir socket : Path)

/-- The words that tell the paths, each path by what is made of it. -/
def pathWords (tell : Path → Octets) : List Octets :=
  [encode "-C", tell (sourceDir.joinText s.compositorConfig), encode "--socket", tell socket,
    encode "-E", tell (buildDir.joinText s.launcher)]

/-- **The words that a launch is meant to have**: each path octet by octet. -/
def meant : List Octets :=
  (plainWords s).map encode ++ pathWords s sourceDir buildDir socket id

/-- **The words that the child of a session gets.** -/
theorem words_ofSettings (vars : Variables) :
    ((ofSettings s sourceDir buildDir socket).invocation vars).words
      = (plainWords s).map (fun word => Invocation.passed (encode word))
        ++ pathWords s sourceDir buildDir socket told := by
  have some : (ofSettings s sourceDir buildDir socket).argv ≠ [] := by simp [ofSettings]
  have constant : ["-C", "--socket", "-E"].map (fun word => Invocation.passed (encode word))
      = ["-C", "--socket", "-E"].map encode := by decide +kernel
  obtain ⟨c, k, e⟩ : _ ∧ _ ∧ _ := by simpa using constant
  rw [words_invocation some, ofSettings, List.map_append, ← plainWords]
  simp only [List.map_cons, List.map_nil, c, k, e, pathWords, told]

/-- **They are the words that are meant** exactly if none of these has an octet of zero and all
paths spell texts. -/
theorem words_eq_meant_iff (vars : Variables) :
    ((ofSettings s sourceDir buildDir socket).invocation vars).words
        = meant s sourceDir buildDir socket
      ↔ (∀ word ∈ meant s sourceDir buildDir socket, 0 ∉ word)
        ∧ IsText (sourceDir.joinText s.compositorConfig) ∧ IsText socket
        ∧ IsText (buildDir.joinText s.launcher) := by
  have constant : ∀ word ∈ ["-C", "--socket", "-E"].map encode, (0 : UInt8) ∉ word := by
    decide +kernel
  obtain ⟨c, k, e⟩ : _ ∧ _ ∧ _ := by simpa using constant
  have plain : (plainWords s).map (fun word => Invocation.passed (encode word))
        = (plainWords s).map encode ↔ ∀ word ∈ (plainWords s).map encode, 0 ∉ word := by
    rw [List.map_inj_left, List.forall_mem_map]
    exact forall₂_congr fun _ _ => Invocation.passed_eq_iff
  rw [words_ofSettings, meant, List.append_eq_append_iff_of_size_eq_left (by simp), plain,
    List.forall_mem_append]
  simp only [pathWords, List.cons.injEq, told_eq_iff, id_eq, List.forall_mem_cons, c, k, e,
    not_false_eq_true, true_and, and_true, List.not_mem_nil, false_implies, implies_true]
  tauto

end

end Launch

/-- A session that was built listens in its work directory. -/
theorem SessionPlan.socket_of_build {ω : Type} [Disk ω] {plan : SessionPlan} {w w' : ω}
    {s : Session} (built : plan.build w = (.ok s, w')) :
    s.socket = s.workDir.joinText "wayland-socket" := by
  rw [build] at built
  split at built
  · cases built
  · split at built
    · cases built
    · obtain rfl := Except.ok.inj (congrArg Prod.fst built)
      rfl

/-- **What the child of a session is told in its words**, whatever the settings, the directories and
the socket are.

* Its command is the wrapper, the compositor, `--no-xwayland` unless an X server is wanted, and the
  six words that tell the paths, none more and none less.
* A path is told as it is exactly if it spells a text and has no octet of zero; what spells none is
  told with a U+FFFD in it.
* A path that starts at the root stays what it is, seen from any directory.  Any other spells a text
  exactly if the directory does.
* So the whole command is what it is meant to be exactly if it has no octet of zero, the socket
  spells a text, and each of the two directories does, unless what is looked for in it starts at
  the root.
* This is what the child of every session is started with; so it is told the socket that its session
  has exactly if the work directory spells a text, but for an octet of zero. -/
theorem Launch.words_told {ω : Type} [Host ω] :
    (∀ s sourceDir buildDir socket vars,
      ((ofSettings s sourceDir buildDir socket).invocation vars).words
        = (plainWords s).map (fun word => Invocation.passed (encode word))
          ++ pathWords s sourceDir buildDir socket told)
    ∧ (∀ p : Path, (told p = p ↔ IsText p ∧ 0 ∉ p)
      ∧ (¬ IsText p → replacement ∈ p.shown.toList))
    ∧ (∀ (dir : Path) (p : String),
      (Path.isAbsolute (encode p) = true → dir.joinText p = encode p)
      ∧ (IsText (dir.joinText p) ↔ Path.isAbsolute (encode p) = true ∨ IsText dir))
    ∧ (∀ s sourceDir buildDir socket vars,
      ((ofSettings s sourceDir buildDir socket).invocation vars).words
          = meant s sourceDir buildDir socket
        ↔ (∀ word ∈ meant s sourceDir buildDir socket, 0 ∉ word)
          ∧ (Path.isAbsolute (encode s.compositorConfig) = true ∨ IsText sourceDir)
          ∧ IsText socket ∧ (Path.isAbsolute (encode s.launcher) = true ∨ IsText buildDir))
    ∧ ∀ s : Session, (∀ w : ω, s.childStart w = Child.start w
        ((ofSettings s.settings s.sourceDir s.buildDir s.socket).invocation s.childVariables)
        s.launch.program)
      ∧ ∀ (plan : SessionPlan) (w w' : ω), plan.build w = (.ok s, w') →
        s.socket = s.workDir.joinText "wayland-socket"
        ∧ (told s.socket = s.socket ↔ IsText s.workDir ∧ 0 ∉ s.socket) := by
  refine ⟨words_ofSettings, fun p => ⟨told_eq_iff, replacement_mem_lossy⟩,
    fun dir p => ⟨Path.join_of_isAbsolute, Path.isText_joinText_iff⟩,
    fun s sourceDir buildDir socket vars => ?_, fun s => ⟨fun w => rfl, fun plan w w' built => ?_⟩⟩
  · rw [words_eq_meant_iff, Path.isText_joinText_iff, Path.isText_joinText_iff]
  · have place := SessionPlan.socket_of_build built
    have relative : ¬ Path.isAbsolute (encode "wayland-socket") = true := by decide
    refine ⟨place, told_eq_iff.trans (and_congr_left fun _ => ?_)⟩
    rw [place, Path.isText_joinText_iff, or_iff_right relative]

/-- A build directory whose name is no text: the octets of `b` and one that spells nothing. -/
def SessionPlan.foreign : SessionPlan where
  sourceDir := encode "src"
  buildDir := [0x62, 0xFF]

/-- Its session has its socket there, and the child is told to have it elsewhere; the compositor's
own settings are told as they are. -/
theorem Launch.words_told_foreign : ∃ s w',
    SessionPlan.foreign.build (Scripted.idle []) = (.ok s, w')
    ∧ s.socket = [0x62, 0xFF] ++ encode "/phosh-itest-/wayland-socket"
    ∧ told s.socket = encode "b\uFFFD/phosh-itest-/wayland-socket"
    ∧ told s.socket ≠ s.socket
    ∧ (s.launch.invocation s.childVariables).words
      ≠ meant s.settings s.sourceDir s.buildDir s.socket
    ∧ told (s.sourceDir.joinText s.settings.compositorConfig)
      = s.sourceDir.joinText s.settings.compositorConfig := by
  obtain ⟨-, paths, -, commands, sessions⟩ := words_told (ω := Scripted)
  have built : (SessionPlan.foreign.build (Scripted.idle [])).1.toOption.map
      (fun s => (s.toSessionPlan, s.workDir, s.socket))
      = some (.foreign, [0x62, 0xFF] ++ encode "/phosh-itest-",
        [0x62, 0xFF] ++ encode "/phosh-itest-/wayland-socket") := by decide +kernel
  rcases made : SessionPlan.foreign.build (Scripted.idle []) with ⟨_ | s, w'⟩
  · rw [made] at built
    nomatch built
  rw [made] at built
  obtain ⟨plan, place, socket⟩ := by
    simpa only [Except.toOption, Option.map_some, Option.some.injEq, Prod.mk.injEq] using built
  obtain ⟨-, socket_told⟩ := (sessions s).2 _ _ _ made
  have foreign : ¬ IsText s.workDir := by
    rw [place]
    decide +kernel
  have source : told (Path.joinText (encode "src") "data/phoc.ini")
      = Path.joinText (encode "src") "data/phoc.ini" := (paths _).1.mpr (by decide +kernel)
  refine ⟨s, w', rfl, socket, ?_, fun same => foreign (socket_told.mp same).1, fun same => ?_, ?_⟩
  · rw [socket]
    decide +kernel
  · obtain ⟨-, -, text, -⟩ := (commands ..).mp same
    rw [socket] at text
    exact absurd text (by decide +kernel)
  · have settings : s.settings = {} := congrArg SessionPlan.settings plan
    have sourceDir : s.sourceDir = encode "src" := congrArg SessionPlan.sourceDir plan
    rw [settings, sourceDir]
    exact source

/-! ## The word for the backend -/

/-- **The word for the backend reaches the child** unless the caller has another. -/
theorem Variables.named?_layered (ambient : Variables) (buildDir : Path) (backend : Backend)
    {overrides : Variables} (silent : overrides.named? "WLR_BACKENDS" = none) :
    (ambient.layered buildDir backend overrides).named? "WLR_BACKENDS"
      = some (encode backend.token) := by
  rw [named?, layered, get?_insertAll_of_unnamed _ silent, insertText, get?_insert, if_pos rfl]

/-- **What the child of a session is told of a backend that is named**, where the caller names no
other: the text of its name, which is the name exactly if that spells a text, and has a U+FFFD in it
if not.  These variables are what the child is started with. -/
theorem Session.backend_told {ω : Type} [Host ω] (s : Session) {name : Octets}
    (named : s.ambient.named? "WLR_BACKENDS" = some name) (there : name ≠ [])
    (silent : s.overrides.named? "WLR_BACKENDS" = none) :
    s.backend = .explicit (lossy name)
    ∧ s.childVariables.named? "WLR_BACKENDS" = some (encode (lossy name))
    ∧ (s.childVariables.named? "WLR_BACKENDS" = some name ↔ IsText name)
    ∧ (¬ IsText name → replacement ∈ (lossy name).toList)
    ∧ ∃ call : Invocation, call.vars = s.childVariables
      ∧ ∀ w : ω, s.childStart w = Child.start w call s.launch.program := by
  have explicit : s.backend = .explicit (lossy name) := Variables.backend_of_named named there
  have told : s.childVariables.named? "WLR_BACKENDS" = some (encode (lossy name)) := by
    rw [childVariables, Variables.named?_layered _ _ _ silent, explicit, Backend.token]
  refine ⟨explicit, told, ?_, replacement_mem_lossy, s.launch.invocation s.childVariables, rfl,
    fun w => rfl⟩
  rw [told, Option.some.injEq, encode_lossy_eq_iff]

/-- A session around which a backend is named by no text: the octets of `q` and one that spells
nothing. -/
def Session.foreignBackend : Session :=
  { justBuilt with ambient := Variables.empty.insert (encode "WLR_BACKENDS") [0x71, 0xFF] }

/-- Its child is told of another backend. -/
theorem Session.backend_told_foreign :
    Session.foreignBackend.childVariables.named? "WLR_BACKENDS" = some (encode "q\uFFFD")
    ∧ Session.foreignBackend.childVariables.named? "WLR_BACKENDS" ≠ some [0x71, 0xFF] := by
  have named : foreignBackend.ambient.named? "WLR_BACKENDS" = some [0x71, 0xFF] := by
    decide +kernel
  obtain ⟨-, told, verbatim, -⟩ := backend_told (ω := Scripted) foreignBackend named (by decide)
    (by decide +kernel)
  refine ⟨told.trans (by decide +kernel), fun same => ?_⟩
  exact absurd (verbatim.mp same) (by decide +kernel)

end NestedSession
