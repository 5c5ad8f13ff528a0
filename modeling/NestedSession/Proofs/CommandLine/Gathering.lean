import NestedSession.Proofs.CommandLine.Assignments
import NestedSession.Proofs.CommandLine.Spelling

/-!
# Proofs/CommandLine/Gathering — what a run gathers from its command line

Of all switches of a run, one adds to the variables and one to the log domains, each at the end
(`Given.Gathers.enter`).  So the request that a command line comes to has what was read of their
values, in the order of the command line (`ProgramRequest.gathered`).
-/

namespace NestedSession

open Word

/-- The values that a switch is given, in order. -/
def valuesOf (s : Switch) (asked : List Ask) : List Octets :=
  asked.filterMap fun ask => if ask.1 = s then ask.2 else none

namespace Given

variable {g g' : Given} {asked : List Ask}

/-- **From one reading to a later one** what was read of some switches was added. -/
structure Gathers (g : Given) (asked : List Ask) (g' : Given) : Prop where
  assignments : ∃ more, g'.assignments = g.assignments ++ more
    ∧ Assigned (valuesOf .assignment asked) more
  domains : ∃ more, g'.debugDomains = g.debugDomains ++ more
    ∧ Texts (valuesOf .debugDomain asked) more

/-- Nothing is added by what gathers nothing. -/
theorem Gathers.of_same (no_assignment : valuesOf .assignment asked = [])
    (no_domain : valuesOf .debugDomain asked = []) (assignments : g'.assignments = g.assignments)
    (domains : g'.debugDomains = g.debugDomains) : Gathers g asked g' :=
  ⟨⟨[], by simp [assignments], no_assignment ▸ .nil⟩, ⟨[], by simp [domains], no_domain ▸ .nil⟩⟩

theorem Gathers.trans {g₁ g₂ g₃ : Given} {first second : List Ask} (h : Gathers g₁ first g₂)
    (h' : Gathers g₂ second g₃) : Gathers g₁ (first ++ second) g₃ := by
  obtain ⟨⟨as, added, read⟩, ⟨ds, listed, texts⟩⟩ := h
  obtain ⟨⟨as', added', read'⟩, ⟨ds', listed', texts'⟩⟩ := h'
  refine ⟨⟨as ++ as', ?_, ?_⟩, ⟨ds ++ ds', ?_, ?_⟩⟩
  · rw [added', added, List.append_assoc]
  · rw [valuesOf, List.filterMap_append]
    exact List.rel_append read read'
  · rw [listed', listed, List.append_assoc]
  · rw [valuesOf, List.filterMap_append]
    exact List.rel_append texts texts'

/-- Taking in a value of another switch adds nothing. -/
theorem take_keeps {s : Switch} {value : Octets} (taken : g.take s value = .ok g')
    (no_assignment : s ≠ .assignment) (no_domain : s ≠ .debugDomain) :
    g'.assignments = g.assignments ∧ g'.debugDomains = g.debugDomains := by
  cases s
  case assignment => exact absurd rfl no_assignment
  case debugDomain => exact absurd rfl no_domain
  all_goals
    simp only [take, bind, Except.bind, pure, Except.pure] at taken
    first
    | cases taken
    | split at taken <;> cases taken
      exact ⟨rfl, rfl⟩

/-- Flipping a switch adds nothing. -/
theorem flip_keeps {s : Switch} (flipped : g.flip s = .ok g') :
    g'.assignments = g.assignments ∧ g'.debugDomains = g.debugDomains := by
  cases s
  all_goals
    simp only [flip, bind, Except.bind, pure, Except.pure] at flipped
    first
    | cases flipped
    | split at flipped <;> cases flipped
      exact ⟨rfl, rfl⟩

/-- The directories that the environment gives add nothing. -/
theorem takeVariable_keeps {vars : Variables} {s : Switch} {name : String} {given : Bool}
    (taken : g.takeVariable vars s name given = .ok g') (no_assignment : s ≠ .assignment)
    (no_domain : s ≠ .debugDomain) :
    g'.assignments = g.assignments ∧ g'.debugDomains = g.debugDomains := by
  rw [takeVariable] at taken
  split at taken
  · split at taken
    · cases taken
      exact ⟨rfl, rfl⟩
    · exact take_keeps taken no_assignment no_domain
  · cases taken
    exact ⟨rfl, rfl⟩

theorem takeDirectories_keeps {vars : Variables} (taken : g.takeDirectories vars = .ok g') :
    g'.assignments = g.assignments ∧ g'.debugDomains = g.debugDomains := by
  rw [takeDirectories] at taken
  cases first : g.takeVariable vars .sourceDir "TOPSRCDIR" g.sourceDir.isSome with
  | error why => simp [first, bind, Except.bind] at taken
  | ok g₁ =>
    simp only [first, bind, Except.bind] at taken
    obtain ⟨assignments, domains⟩ := takeVariable_keeps first (by decide) (by decide)
    obtain ⟨assignments', domains'⟩ := takeVariable_keeps taken (by decide) (by decide)
    exact ⟨assignments'.trans assignments, domains'.trans domains⟩

/-- **A switch that is taken in** adds what was read of its value, if it is one of the two that
add. -/
theorem Gathers.enter {ask : Ask} (entered : g.enter ask = .ok g') : Gathers g [ask] g' := by
  obtain ⟨s, _ | value⟩ := ask
  · obtain ⟨assignments, domains⟩ := flip_keeps entered
    refine .of_same ?_ ?_ assignments domains <;> simp [valuesOf]
  · change g.take s value = .ok g' at entered
    by_cases sets : s = .assignment
    · subst sets
      cases read : Switch.assignment.readAssignment value with
      | error why => simp [take, read, bind, Except.bind] at entered
      | ok setting =>
        simp only [take, read, bind, Except.bind, pure, Except.pure, Except.ok.injEq] at entered
        subst entered
        exact ⟨⟨[setting], rfl, .cons read .nil⟩, ⟨[], by simp, .nil⟩⟩
    by_cases lists : s = .debugDomain
    · subst lists
      cases read : Switch.readText value with
      | error why => simp [take, read, bind, Except.bind] at entered
      | ok text =>
        simp only [take, read, bind, Except.bind, pure, Except.pure, Except.ok.injEq] at entered
        subst entered
        exact ⟨⟨[], by simp, .nil⟩, ⟨[text], rfl, .cons read .nil⟩⟩
    · obtain ⟨assignments, domains⟩ := take_keeps entered sets lists
      refine .of_same ?_ ?_ assignments domains <;> simp [valuesOf, sets, lists]

theorem Gathers.foldlM (entered : asked.foldlM Given.enter g = .ok g') : Gathers g asked g' := by
  induction asked generalizing g with
  | nil =>
    cases entered
    exact .of_same rfl rfl rfl rfl
  | cons ask asked ih =>
    rw [List.foldlM_cons] at entered
    cases first : g.enter ask with
    | error why => simp [first, bind, Except.bind] at entered
    | ok g₁ =>
      simp only [first, bind, Except.bind] at entered
      exact (Gathers.enter first).trans (ih entered)

end Given

/-! ## The request -/

/-- **What a run is asked for is what was gathered** behind `run`. -/
theorem Scope.finish_run {name : String} {vars : Variables} {g g' : Given}
    {request : CommandRequest} (finished : run.finish name vars ⟨g, none⟩ = .ok (request, g')) :
    ∃ r, request = .run r ∧ r.assignments = g.assignments ∧ r.debugDomains = g.debugDomains := by
  simp only [finish, Reading.settle_given, bind, Except.bind] at finished
  cases taken : g.takeDirectories vars with
  | error why => simp [taken] at finished
  | ok g₁ =>
    obtain ⟨assignments, domains⟩ := Given.takeDirectories_keeps taken
    simp only [taken] at finished
    split at finished
    · cases finished
      exact ⟨_, rfl, assignments, domains⟩
    · cases finished

theorem Given.within_nothing (g : Given) : g.within {} = g := by
  simp [within]

/-- A command line of a run is read behind `run`. -/
theorem ProgramRequest.ofWords_run (caller : Octets) (words : List Octets) (vars : Variables) :
    ofWords (caller :: Utf8.encode "run" :: words) vars
      = Scope.run.read vars
          (Scope.callerWith ((Path.fileName? caller).bind Utf8.decode?) (Utf8.encode "run")) {} words
        >>= fun p => pure {
          settings := p.2.settings.getD (Utf8.encode "phosh-itest.toml")
          logLevel := p.2.logLevel
          output := p.2.output.getD .text
          command := p.1 } := by
  have command : Scope.program.command? (Utf8.encode "run") = some .run := by decide
  have owed : Reading.owed? {} = none := rfl
  rw [ofWords, List.tail_cons, Scope.read.eq_def]
  simp only [owed, command]
  have outer : Reading.settle {} = .ok {} := rfl
  simp only [bind_assoc, outer, List.head?_cons, Option.bind_some]
  congr 1
  funext p
  simp only [bind, Except.bind, pure, Except.pure, Given.within_nothing]

namespace ProgramRequest

variable {caller : Octets} {words : List Octets} {asked : List Ask} {vars : Variables}

/-- **A command line of a run comes to a run** with what was read of its values, in order. -/
theorem gathered (spelled : SpellAll words asked) {q : ProgramRequest}
    (read : ofWords (caller :: Utf8.encode "run" :: words) vars = .ok q) :
    ∃ r, q.command = .run r ∧ Assigned (valuesOf .assignment asked) r.assignments
      ∧ Texts (valuesOf .debugDomain asked) r.debugDomains := by
  have outer : Reading.settle {} = .ok {} := rfl
  rw [ofWords_run, Scope.read_run spelled {} rfl, outer] at read
  cases entered : asked.foldlM Given.enter {} with
  | error why => simp [entered, bind, Except.bind] at read
  | ok g =>
    simp only [entered, bind, Except.bind] at read
    split at read
    · cases read
    · next p finished =>
      obtain ⟨r, asked_for, assignments, domains⟩ := Scope.finish_run finished
      obtain ⟨⟨more, added, assigned⟩, ⟨listed, domains', texts⟩⟩ := Given.Gathers.foldlM entered
      cases read
      refine ⟨r, asked_for, ?_, ?_⟩
      · rwa [assignments, added]
      · rwa [domains, domains']

end ProgramRequest

/-! ## Which values are accepted -/

theorem mem_valuesOf {s : Switch} {asked : List Ask} {value : Octets} :
    value ∈ valuesOf s asked ↔ (s, some value) ∈ asked := by
  simp only [valuesOf, List.mem_filterMap, Option.ite_none_right_eq_some, Prod.exists]
  constructor
  · rintro ⟨_, _, there, rfl, rfl⟩
    exact there
  · exact fun there => ⟨_, _, there, rfl, rfl⟩

/-- Values of which something was read set variables. -/
theorem Assigned.isAssignment {values : List Octets} {assignments : List (String × String)}
    (read : Assigned values assignments) : ∀ value ∈ values, IsAssignment value := by
  induction read with
  | nil => exact List.forall_mem_nil _
  | cons first _ ih => exact List.forall_mem_cons.mpr ⟨(Switch.of_readAssignment first).1, ih⟩

theorem Texts.isText {values : List Octets} {texts : List String} (read : Texts values texts) :
    ∀ value ∈ values, ∃ text, Utf8.decode? value = some text := by
  induction read with
  | nil => exact List.forall_mem_nil _
  | @cons value text _ _ first _ ih =>
    refine List.forall_mem_cons.mpr ⟨?_, ih⟩
    rw [Switch.readText] at first
    split at first
    · next decoded => exact ⟨_, decoded⟩
    · cases first

/-- A switch of a run that takes a value was spelled with one. -/
theorem Word.SpellAll.exists_value {words : List Octets} {asked : List Ask}
    (spelled : SpellAll words asked) {ask : Ask} (there : ask ∈ asked)
    (takes : ask.1.valueName?.isSome = true) : ∃ value, ask.2 = some value := by
  induction spelled with
  | nil => exact absurd there List.not_mem_nil
  | cons first _ _ ih =>
    rcases List.mem_cons.mp there with rfl | later
    · cases first with
      | alone none => simp [none] at takes
      | long | longApart | short | shortAtOnce | shortApart => exact ⟨_, rfl⟩
    · exact ih later

namespace Given

/-- A value that can be read is taken in, and the directories stay. -/
theorem exists_take {g : Given} {s : Switch} {value : Octets}
    (readable : s = .assignment ∧ IsAssignment value
      ∨ s = .debugDomain ∧ ∃ text, Utf8.decode? value = some text) :
    ∃ g', g.take s value = .ok g' ∧ g'.sourceDir = g.sourceDir ∧ g'.buildDir = g.buildDir := by
  rcases readable with ⟨rfl, sets⟩ | ⟨rfl, text, decoded⟩
  · obtain ⟨setting, read⟩ := (Switch.exists_readAssignment_iff (s := .assignment)).mpr sets
    refine ⟨{ g with assignments := g.assignments ++ [setting] }, ?_, rfl, rfl⟩
    simp only [take, read, bind, Except.bind, pure, Except.pure]
  · refine ⟨{ g with debugDomains := g.debugDomains ++ [text] }, ?_, rfl, rfl⟩
    simp only [take, Switch.readText, decoded, bind, Except.bind, pure, Except.pure]

/-- Switches whose values can be read are all taken in, and the directories stay. -/
theorem exists_foldlM {asked : List Ask} (readable : ∀ ask ∈ asked, ∃ value, ask.2 = some value ∧
      (ask.1 = .assignment ∧ IsAssignment value
        ∨ ask.1 = .debugDomain ∧ ∃ text, Utf8.decode? value = some text)) (g : Given) :
    ∃ g', asked.foldlM Given.enter g = .ok g' ∧ g'.sourceDir = g.sourceDir
      ∧ g'.buildDir = g.buildDir := by
  induction asked generalizing g with
  | nil => exact ⟨g, rfl, rfl, rfl⟩
  | cons ask asked ih =>
    obtain ⟨⟨value, given, fits⟩, rest⟩ := List.forall_mem_cons.mp readable
    obtain ⟨g₁, taken, source, build⟩ := exists_take (g := g) fits
    obtain ⟨g₂, later, source', build'⟩ := ih rest g₁
    refine ⟨g₂, ?_, source'.trans source, build'.trans build⟩
    have entered : g.enter ask = .ok g₁ := by rw [enter, given]; exact taken
    rw [List.foldlM_cons, entered]
    exact later

/-- Directories that are given are not looked for. -/
theorem takeDirectories_of_given {g : Given} {sourceDir buildDir : Path}
    (source : g.sourceDir = some sourceDir) (build : g.buildDir = some buildDir)
    (vars : Variables) : g.takeDirectories vars = .ok g := by
  have taken (s : Switch) (name : String) : g.takeVariable vars s name true = .ok g := by
    rw [takeVariable]
    split <;> rfl
  simp only [takeDirectories, source, build, Option.isSome_some, taken, bind, Except.bind]

end Given

/-- **What else than the directories a run is asked for** is accepted exactly if it can be read:
what sets a variable does so, and log domains are texts. -/
theorem ProgramRequest.exists_ofWords_iff {caller : Octets} {words : List Octets}
    {asked : List Ask} {vars : Variables} {sourceDir buildDir : Path} (source : sourceDir ≠ [])
    (build : buildDir ≠ [])
    (spelled : SpellAll words
      ((.sourceDir, some sourceDir) :: (.buildDir, some buildDir) :: asked))
    (kinds : ∀ ask ∈ asked, ask.1 = .assignment ∨ ask.1 = .debugDomain) :
    (∃ q, ofWords (caller :: Utf8.encode "run" :: words) vars = .ok q)
      ↔ (∀ value ∈ valuesOf .assignment asked, IsAssignment value)
        ∧ ∀ value ∈ valuesOf .debugDomain asked, ∃ text, Utf8.decode? value = some text := by
  constructor
  · rintro ⟨q, read⟩
    obtain ⟨r, -, assigned, texts⟩ := gathered spelled read
    exact ⟨assigned.isAssignment, texts.isText⟩
  · rintro ⟨assignments, domains⟩
    have readable : ∀ ask ∈ asked, ∃ value, ask.2 = some value ∧
        (ask.1 = .assignment ∧ IsAssignment value
          ∨ ask.1 = .debugDomain ∧ ∃ text, Utf8.decode? value = some text) := by
      rintro ⟨s, given⟩ there
      rcases kinds _ there with rfl | rfl
      all_goals
        obtain ⟨value, rfl⟩ := spelled.exists_value
          (List.mem_cons_of_mem _ (List.mem_cons_of_mem _ there)) rfl
        refine ⟨value, rfl, ?_⟩
      · exact .inl ⟨rfl, assignments value (mem_valuesOf.mpr there)⟩
      · exact .inr ⟨rfl, domains value (mem_valuesOf.mpr there)⟩
    obtain ⟨g, entered, source', build'⟩ := Given.exists_foldlM readable
      { sourceDir := some sourceDir, buildDir := some buildDir }
    have all : ((.sourceDir, some sourceDir) :: (.buildDir, some buildDir) :: asked).foldlM
        Given.enter {} = .ok g := by
      obtain ⟨a, as, rfl⟩ := List.exists_cons_of_ne_nil source
      obtain ⟨b, bs, rfl⟩ := List.exists_cons_of_ne_nil build
      exact entered
    have outer : Reading.settle {} = .ok {} := rfl
    rw [ofWords_run, Scope.read_run spelled {} rfl, outer]
    simp only [all, bind, Except.bind, Scope.finish, Reading.settle_given,
      Given.takeDirectories_of_given source' build', source', build']
    exact ⟨_, rfl⟩

end NestedSession
