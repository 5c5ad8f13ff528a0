import NestedSession.Proofs.CommandLine.Gathering
import NestedSession.Proofs.Session.Course
import NestedSession.Proofs.Session.Marking
import NestedSession.Proofs.System.Scripted

/-!
# Proofs/CommandLine/Precedence — from the command line to the variables of the child

What a child finds a variable set to is said by `Variables.settingFor`: the first of six cases that
applies, from what the command line says down to what is around the program.
`RunRequest.settings_reach_child` follows every name from the words of the command line to the call
that starts the child.
-/

namespace NestedSession

open Word

namespace Variables

/-- What a variable is set to; one that is not set is empty. -/
def content (vars : Variables) (name : String) : Octets := (vars.named? name).getD []

/-- The word for the backend: what `WLR_BACKENDS` says, as a text, unless that is empty; else the
display that there is. -/
def backendWord (vars : Variables) : Octets :=
  if vars.content "WLR_BACKENDS" ≠ [] then Utf8.encode (Utf8.lossy (vars.content "WLR_BACKENDS"))
  else if vars.content "WAYLAND_DISPLAY" ≠ [] then Utf8.encode "wayland"
  else if vars.content "DISPLAY" ≠ [] then Utf8.encode "x11"
  else Utf8.encode "headless"

/-- **What a child finds a variable set to**, given what is around the program, the build directory,
and the values of the command line: the log domains, and those that set variables. -/
def settingFor (ambient : Variables) (buildDir : Path) (domains values : List Octets)
    (name : Octets) : Option Octets :=
  match lastSetting values name with
  | some setting => some setting
  | none =>
    if name = Utf8.encode "G_MESSAGES_DEBUG" ∧ domains ≠ [] then some ([0x20].intercalate domains)
    else if name = Utf8.encode "WLR_BACKENDS" then some ambient.backendWord
    else if name = Utf8.encode "XDG_RUNTIME_DIR" ∧ ambient.content "XDG_RUNTIME_DIR" = [] then
      some buildDir
    else if name = Utf8.encode "GSETTINGS_BACKEND" then some (Utf8.encode "memory")
    else ambient.get? name

theorem namedNonEmpty?_eq (vars : Variables) (name : String) :
    vars.namedNonEmpty? name
      = if vars.content name = [] then none else some (vars.content name) := by
  rw [namedNonEmpty?, getNonEmpty?, content, named?]
  cases vars.get? (Utf8.encode name) with
  | none => rfl
  | some value => cases value <;> simp

theorem encode_token_backend (vars : Variables) :
    Utf8.encode vars.backend.token = vars.backendWord := by
  rw [backend, backendWord]
  simp only [namedNonEmpty?_eq]
  by_cases named : vars.content "WLR_BACKENDS" = []
  · by_cases wayland : vars.content "WAYLAND_DISPLAY" = []
    · by_cases display : vars.content "DISPLAY" = [] <;>
        simp [named, wayland, display, Backend.token]
    · simp [named, wayland, Backend.token]
  · simp [named, Backend.token]

theorem runtimeDir?_eq_none_iff (vars : Variables) :
    vars.runtimeDir? = none ↔ vars.content "XDG_RUNTIME_DIR" = [] := by
  rw [runtimeDir?, namedNonEmpty?_eq]
  simp

end Variables

/-- **The variables of the child of a run** are what the values of its command line say. -/
theorem RunRequest.get?_childVariables {ω : Type} [Host ω] {r : RunRequest}
    {values domains : List Octets} (assigned : Assigned values r.assignments)
    (listed : Texts domains r.debugDomains) {settings : Settings} {ambient : Variables}
    {w w' : ω} {s : Session} (built : (r.plan settings ambient).build w = (.ok s, w'))
    {drift : ω → ω → Prop} {p : ω × Session} (run : Session.Course drift (w', s) p)
    (name : Octets) :
    p.2.childVariables.get? name = ambient.settingFor r.buildDir domains values name := by
  have planned : s.toSessionPlan = r.plan settings ambient := (SessionPlan.of_build built).2.2
  have same : p.2.childVariables = ambient.layered r.buildDir ambient.backend r.overrides := by
    have kept : p.2.frame.childVariables = s.frame.childVariables :=
      congrArg Session.childVariables (Session.frame_eq_of_course run)
    have start : s.childVariables
        = s.toSessionPlan.ambient.layered s.toSessionPlan.buildDir s.toSessionPlan.ambient.backend
          s.toSessionPlan.overrides := rfl
    rw [planned] at start
    exact kept.trans start
  rw [same, Variables.get?_layered r.sorted_overrides, r.get?_overrides assigned listed,
    Variables.settingFor]
  cases last : lastSetting values name with
  | some setting => rfl
  | none =>
    simp only [Option.none_or, Variables.encode_token_backend, Variables.runtimeDir?_eq_none_iff]
    split <;> rfl

/-! ## From the command line to the child -/

/-- **From the command line to the variables of the child.**  Let switches of a run be spelled in
whatever way.

* A value is accepted exactly if it is a text, has a `=`, and has something before that.
* A run that is told its directories and is else asked for variables and log domains alone is
  accepted exactly if all values that set variables are, and all log domains are texts.
* Whatever a run is asked for: with any settings, in any environment and at any time, the call that
  starts the child of its session sets each name to what `settingFor` says of the values on the
  command line. -/
theorem RunRequest.settings_reach_child {ω : Type} [Host ω] (caller : Octets)
    {words : List Octets} {asked : List Ask} (spelled : SpellAll words asked) (vars : Variables) :
    (∀ value, (∃ setting, Switch.assignment.readAssignment value = .ok setting)
      ↔ IsAssignment value)
    ∧ (∀ sourceDir buildDir others, sourceDir ≠ [] → buildDir ≠ [] →
      asked = (.sourceDir, some sourceDir) :: (.buildDir, some buildDir) :: others →
      (∀ ask ∈ others, ask.1 = .assignment ∨ ask.1 = .debugDomain) →
      ((∃ q, ProgramRequest.ofWords (caller :: Utf8.encode "run" :: words) vars = .ok q)
        ↔ (∀ value ∈ valuesOf .assignment others, IsAssignment value)
          ∧ ∀ value ∈ valuesOf .debugDomain others, ∃ text, Utf8.decode? value = some text))
    ∧ ∀ q, ProgramRequest.ofWords (caller :: Utf8.encode "run" :: words) vars = .ok q →
      ∃ r, q.command = .run r
        ∧ ∀ (settings : Settings) (ambient : Variables) (w w' : ω) (s : Session),
          (r.plan settings ambient).build w = (.ok s, w') →
          ∀ drift p, Session.Course drift (w', s) p →
          ∃ call, (∀ w : ω, p.2.childStart w = Child.start w call p.2.launch.program)
            ∧ ∀ name, call.vars.get? name = ambient.settingFor r.buildDir
              (valuesOf .debugDomain asked) (valuesOf .assignment asked) name := by
  refine ⟨fun value => Switch.exists_readAssignment_iff, ?_, fun q read => ?_⟩
  · rintro sourceDir buildDir others source build rfl kinds
    exact ProgramRequest.exists_ofWords_iff source build spelled kinds
  · obtain ⟨r, asked_for, assigned, listed⟩ := ProgramRequest.gathered spelled read
    refine ⟨r, asked_for, fun settings ambient w w' s built drift p run => ?_⟩
    exact ⟨p.2.launch.invocation p.2.childVariables, fun w => rfl, fun name =>
      get?_childVariables assigned listed built run name⟩

/-- A run that sets a variable twice, in different spellings, under an X11 session with an empty
`WLR_BACKENDS` and a home that is no text. -/
theorem RunRequest.settings_reach_child_twice :
    ∃ q r, ProgramRequest.ofWords (["phosh-itest", "run", "--source-dir=src", "--build-dir=_build",
        "-e", "A=1", "--debug-domain=x", "-eA=2=3"].map Utf8.encode) .empty = .ok q
      ∧ q.command = .run r
      ∧ ∃ s w' call, (r.plan {} (.ofList [(Utf8.encode "WLR_BACKENDS", []),
          (Utf8.encode "DISPLAY", [0x3A, 0x30]), (Utf8.encode "HOME", [0xFF])])).build
          (Scripted.idle []) = (.ok s, w')
        ∧ s.childStart w' = Child.start w' call s.launch.program
        ∧ call.vars.get? (Utf8.encode "A") = some (Utf8.encode "2=3")
        ∧ call.vars.get? (Utf8.encode "G_MESSAGES_DEBUG") = some (Utf8.encode "x")
        ∧ call.vars.get? (Utf8.encode "WLR_BACKENDS") = some (Utf8.encode "x11")
        ∧ call.vars.get? (Utf8.encode "HOME") = some [0xFF] := by
  have spelled : SpellAll ([ofLong .sourceDir ++ equals :: Utf8.encode "src"]
      ++ ([ofLong .buildDir ++ equals :: Utf8.encode "_build"]
      ++ ([ofShort 'e', Utf8.encode "A=1"] ++ ([ofLong .debugDomain ++ equals :: Utf8.encode "x"]
      ++ ([ofShort 'e' ++ 0x41 :: Utf8.encode "=2=3"] ++ [])))))
      [(.sourceDir, some (Utf8.encode "src")), (.buildDir, some (Utf8.encode "_build")),
        (.assignment, some (Utf8.encode "A=1")), (.debugDomain, some (Utf8.encode "x")),
        (.assignment, some (0x41 :: Utf8.encode "=2=3"))] :=
    .cons (.long rfl) (by decide) <| .cons (.long rfl) (by decide) <|
    .cons (.shortApart rfl rfl (by decide)) (by decide) <| .cons (.long rfl) (by decide) <|
    .cons (.shortAtOnce rfl rfl (by decide)) (by decide) .nil
  obtain ⟨-, accepted, reached⟩ :=
    @settings_reach_child Scripted _ (Utf8.encode "phosh-itest") _ _ spelled .empty
  obtain ⟨q, read⟩ := (accepted _ _ _ (by decide) (by decide) rfl (by decide)).mpr
    ⟨by
      rintro value there
      rcases (by simpa [valuesOf] using there : value = _ ∨ value = _) with rfl | rfl
      · exact ⟨⟨"A=1", by decide +kernel⟩, by decide, by decide⟩
      · exact ⟨⟨"A=2=3", by decide +kernel⟩, by decide, by decide⟩,
    by
      rintro value there
      obtain rfl : value = _ := by simpa [valuesOf] using there
      exact ⟨"x", by decide +kernel⟩⟩
  obtain ⟨r, asked, started⟩ := reached q read
  obtain ⟨s, w', built⟩ : ∃ s w', (r.plan {} (.ofList [(Utf8.encode "WLR_BACKENDS", []),
      (Utf8.encode "DISPLAY", [0x3A, 0x30]), (Utf8.encode "HOME", [0xFF])])).build
      (Scripted.idle []) = (.ok s, w') := by
    have accepted : ({} : Settings).session.check = .ok () := by decide +kernel
    rw [SessionPlan.build, plan]
    simp only [accepted]
    exact ⟨_, _, rfl⟩
  obtain ⟨call, starts, sets⟩ := started {} _ _ _ _ built Eq _ .refl
  refine ⟨q, r, read, asked, s, w', call, built, starts w', ?_, ?_, ?_, ?_⟩ <;> rw [sets] <;> rfl

end NestedSession
