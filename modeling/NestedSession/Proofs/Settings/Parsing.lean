import Mathlib.Data.List.Nodup
import Mathlib.Data.List.Perm.Basic
import NestedSession.Proofs.Settings.Overlaying
import NestedSession.Proofs.Settings.RoundTrip
import NestedSession.Proofs.Toml.Keys

/-!
# Proofs/Settings/Parsing — a document is laid over the defaults

A table has parts that do not get in each other's way (`Inlet.Cover`), and each entry is read into
the part of its name.  So a part is what its entry is read as, or stays as it was, in whatever order
the entries stand and whatever others there are (`Inlet.Cover.readTable_eq_ok_iff`).  This is used
twice: for the sections of a document, and for the settings of a section (`Chapter`).  So a setting
becomes what the document gives, or else the default (`Knob.Becomes`), and nothing else of the
document counts (`Settings.parse_knobwise`).
-/

namespace NestedSession

open Toml

variable {σ : Type}

/-! ## Tables -/

/-- **A part of `σ` that the entries of one name are read into.** -/
structure Inlet (σ : Type) where
  name : String
  Value : Type
  read : Nat → Tree → Except ReadFault Value
  get : σ → Value
  set : Value → σ → σ

/-- The part as a setting. -/
def Inlet.field (i : Inlet σ) : Field σ :=
  ⟨i.name, fun place v s => (i.read place v).map (i.set · s)⟩

/-- **Parts that do not get in each other's way** and are all of `σ`. -/
structure Inlet.Cover (is : List (Inlet σ)) : Prop where
  distinct : (is.map Inlet.name).Nodup
  get_set : ∀ i ∈ is, ∀ x s, i.get (i.set x s) = x
  apart : ∀ i ∈ is, ∀ j ∈ is, j.name ≠ i.name → ∀ x s, j.get (i.set x s) = j.get s
  whole : ∀ s t, (∀ i ∈ is, i.get s = i.get t) → s = t

/-- **What a table makes of a part**: what its entry is read as, or else what the part was. -/
def Inlet.Takes (i : Inlet σ) (es : Entries) (start s : σ) : Prop :=
  (∀ place v, (i.name, place, v) ∈ es → i.read place v = .ok (i.get s))
    ∧ (i.name ∉ es.map Prod.fst → i.get s = i.get start)

/-- Entries of other names hold numbers that fit somewhere. -/
def Inlet.RestFits (is : List (Inlet σ)) (es : Entries) : Prop :=
  ∀ e ∈ es, e.1 ∉ is.map Inlet.name → inRange e.2.2 = true

namespace Inlet

variable {i : Inlet σ} {es : Entries} {start s : σ}

/-- The entry of a part is read; no other has its name. -/
theorem takes_of_mem (distinct : (es.map Prod.fst).Nodup) {place : Nat} {v : Tree}
    (there : (i.name, place, v) ∈ es) : i.Takes es start s ↔ i.read place v = .ok (i.get s) := by
  constructor
  · exact fun h => h.1 place v there
  · refine fun read => ⟨fun place' v' there' => ?_, fun absent => ?_⟩
    · cases List.inj_on_of_nodup_map distinct there there' rfl
      exact read
    · exact absurd (List.mem_map.mpr ⟨_, there, rfl⟩) absent

/-- Without an entry a part stays as it was. -/
theorem takes_of_absent (absent : i.name ∉ es.map Prod.fst) :
    i.Takes es start s ↔ i.get s = i.get start := by
  have none (place : Nat) (v : Tree) : (i.name, place, v) ∉ es := fun there =>
    absent (List.mem_map.mpr ⟨_, there, rfl⟩)
  simp [Takes, absent, none]

/-- An entry of another name goes by. -/
theorem takes_cons_of_ne {e : String × Nat × Tree} (other : i.name ≠ e.1) :
    i.Takes (e :: es) start s ↔ i.Takes es start s := by
  have there (place : Nat) (v : Tree) : (i.name, place, v) ∈ e :: es ↔ (i.name, place, v) ∈ es := by
    rw [List.mem_cons, or_iff_right]
    rintro rfl
    exact other rfl
  have absent : i.name ∉ (e :: es).map Prod.fst ↔ i.name ∉ es.map Prod.fst := by
    rw [List.map_cons, List.mem_cons, not_or, and_iff_right other]
  simp only [Takes, there, absent]

end Inlet

theorem entriesInRange_iff {es : Entries} :
    entriesInRange es = true ↔ ∀ e ∈ es, inRange e.2.2 = true := by
  induction es with
  | nil => simp [entriesInRange]
  | cons e es ih =>
    obtain ⟨name, place, v⟩ := e
    rw [entriesInRange, Bool.and_eq_true, ih, List.forall_mem_cons]

theorem Inlet.RestFits.of_entriesInRange {is : List (Inlet σ)} {es : Entries}
    (fits : entriesInRange es = true) : RestFits is es :=
  fun e there _ => entriesInRange_iff.mp fits e there

/-- The entries of a table inside a table. -/
theorem Inlet.RestFits.of_mem {is : List (Inlet σ)} {es sub : Entries} {name : String}
    {place : Nat} {origin : Origin} (fits : entriesInRange es = true)
    (there : (name, place, .table origin sub) ∈ es) : RestFits is sub := by
  have inner := entriesInRange_iff.mp fits _ there
  rw [inRange] at inner
  exact .of_entriesInRange inner

namespace Inlet.Cover

variable {is : List (Inlet σ)}

theorem find?_field (cover : Cover is) {i : Inlet σ} (there : i ∈ is) :
    (is.map field).find? (·.name == i.name) = some i.field := by
  have names : ((is.map field).map Field.name).Nodup := by
    rw [List.map_map]
    exact cover.distinct
  exact NestedSession.find?_field names (List.mem_map_of_mem there)

theorem readEntry_of_known (cover : Cover is) {i : Inlet σ} (there : i ∈ is) (start : σ)
    (place : Nat) (v : Tree) : readEntry (is.map field) start (i.name, place, v)
      = (i.read place v).map (i.set · start) := by
  rw [readEntry, cover.find?_field there]
  rfl

theorem readEntry_of_unknown {name : String} (unknown : name ∉ is.map Inlet.name) (start : σ)
    (place : Nat) (v : Tree) : readEntry (is.map field) start (name, place, v)
      = if inRange v then .ok start else .error .malformed := by
  have none : (is.map field).find? (·.name == name) = none := by
    simpa [List.find?_eq_none, field] using unknown
  rw [readEntry, none]

section Cons

variable {es : Entries} {start s : σ} {name : String} {place : Nat} {v : Tree}

theorem restFits_cons_of_known {i : Inlet σ} (there : i ∈ is) :
    RestFits is ((i.name, place, v) :: es) ↔ RestFits is es := by
  have known : i.name ∈ is.map Inlet.name := List.mem_map_of_mem there
  rw [RestFits, List.forall_mem_cons, and_iff_right fun unknown => absurd known unknown]
  rfl

theorem restFits_cons_of_unknown (unknown : name ∉ is.map Inlet.name) :
    RestFits is ((name, place, v) :: es) ↔ inRange v = true ∧ RestFits is es := by
  rw [RestFits, List.forall_mem_cons, imp_iff_right unknown]
  rfl

/-- The entry of a part is put in place, and the parts go on from there. -/
theorem takes_cons_of_known (cover : Cover is) {i : Inlet σ} (there : i ∈ is)
    (distinct : (((i.name, place, v) :: es).map Prod.fst).Nodup) {x : i.Value}
    (read : i.read place v = .ok x) : (∀ j ∈ is, j.Takes ((i.name, place, v) :: es) start s)
      ↔ ∀ j ∈ is, j.Takes es (i.set x start) s := by
  refine forall₂_congr fun j here => ?_
  by_cases same : j.name = i.name
  · obtain rfl := List.inj_on_of_nodup_map cover.distinct here there same
    rw [takes_of_mem distinct List.mem_cons_self, takes_of_absent (List.nodup_cons.mp distinct).1,
      cover.get_set j here, read, Except.ok.injEq, eq_comm]
  · rw [takes_cons_of_ne same, Takes, Takes, cover.apart i there j here same]

theorem takes_cons_of_unknown (unknown : name ∉ is.map Inlet.name) :
    (∀ i ∈ is, i.Takes ((name, place, v) :: es) start s) ↔ ∀ i ∈ is, i.Takes es start s := by
  refine forall₂_congr fun i there => takes_cons_of_ne ?_
  rintro rfl
  exact unknown (List.mem_map_of_mem there)

end Cons

/-- **Entry by entry.** -/
theorem foldlM_eq_ok_iff (cover : Cover is) {es : Entries} (distinct : (es.map Prod.fst).Nodup)
    {start s : σ} : es.foldlM (readEntry (is.map field)) start = .ok s
      ↔ RestFits is es ∧ ∀ i ∈ is, i.Takes es start s := by
  induction es generalizing start with
  | nil =>
    have same : start = s ↔ ∀ i ∈ is, i.get s = i.get start :=
      ⟨fun eq _ _ => by rw [eq], fun h => (cover.whole s start h).symm⟩
    simpa [RestFits, Takes, pure, Except.pure] using same
  | cons e es ih =>
    obtain ⟨name, place, v⟩ := e
    have others : (es.map Prod.fst).Nodup := (List.nodup_cons.mp distinct).2
    rw [List.foldlM_cons]
    by_cases known : ∃ i ∈ is, i.name = name
    · obtain ⟨i, there, rfl⟩ := known
      rw [cover.readEntry_of_known there, restFits_cons_of_known there]
      cases read : i.read place v with
      | error why =>
        refine iff_of_false nofun fun h => ?_
        rw [(takes_of_mem distinct List.mem_cons_self).mp (h.2 i there)] at read
        cases read
      | ok x =>
        rw [cover.takes_cons_of_known there distinct read]
        exact ih others
    · have unknown : name ∉ is.map Inlet.name := by simpa using known
      rw [readEntry_of_unknown unknown, restFits_cons_of_unknown unknown,
        takes_cons_of_unknown unknown]
      cases fits : inRange v with
      | false => exact iff_of_false nofun fun h => nomatch h.1.1
      | true =>
        rw [and_iff_right rfl]
        exact ih others

/-- A table can be read if each of its entries can. -/
theorem exists_foldlM (cover : Cover is) {es : Entries} (fits : RestFits is es)
    (reads : ∀ i ∈ is, ∀ place v, (i.name, place, v) ∈ es → ∃ x, i.read place v = .ok x)
    (start : σ) : ∃ s, es.foldlM (readEntry (is.map field)) start = .ok s := by
  induction es generalizing start with
  | nil => exact ⟨start, rfl⟩
  | cons e es ih =>
    obtain ⟨name, place, v⟩ := e
    obtain ⟨first, fits⟩ := List.forall_mem_cons.mp fits
    have next := ih fits fun i there place v mem =>
      reads i there place v (List.mem_cons_of_mem _ mem)
    rw [List.foldlM_cons]
    by_cases known : ∃ i ∈ is, i.name = name
    · obtain ⟨i, there, rfl⟩ := known
      obtain ⟨x, read⟩ := reads i there place v List.mem_cons_self
      rw [cover.readEntry_of_known there, read]
      exact next _
    · have unknown : name ∉ is.map Inlet.name := by simpa using known
      rw [readEntry_of_unknown unknown, if_pos (first unknown)]
      exact next _

/-- **What a table is read as**, in whatever order its entries stand. -/
theorem readTable_eq_ok_iff (cover : Cover is) {es : Entries}
    (distinct : (es.map Prod.fst).Nodup) {start s : σ} :
    readTable (is.map field) start es = .ok s
      ↔ RestFits is es ∧ ∀ i ∈ is, i.Takes es start s := by
  have sorted : (sortedEntries es).Perm es := List.mergeSort_perm es _
  have distinct' := (sorted.map Prod.fst).nodup_iff.mpr distinct
  rw [readTable, cover.foldlM_eq_ok_iff distinct']
  simp only [RestFits, Takes, sorted.mem_iff, (sorted.map Prod.fst).mem_iff]

theorem exists_readTable (cover : Cover is) {es : Entries} (fits : RestFits is es)
    (reads : ∀ i ∈ is, ∀ place v, (i.name, place, v) ∈ es → ∃ x, i.read place v = .ok x)
    (start : σ) : ∃ s, readTable (is.map field) start es = .ok s := by
  have sorted : (sortedEntries es).Perm es := List.mergeSort_perm es _
  refine cover.exists_foldlM (fun e there => fits e (sorted.mem_iff.mp there)) ?_ start
  exact fun i there place v mem => reads i there place v (sorted.mem_iff.mp mem)

end Inlet.Cover

/-! ## Values -/

namespace Kind

/-- **What a value of a document holds** where a value of a kind is wanted: a text, a truth value, a
whole number from zero to below `2 ^ 64`, or an array of texts. -/
def Holds : (κ : Kind) → Tree → κ.Value → Prop
  | text, v, t => v = .text t
  | truth, v, b => v = .boolean b
  | count, v, n => v = .integer n.toNat
  | words, v, ws => ∃ items, (v = .array items ∨ v = .tables items)
      ∧ items.map Prod.snd = ws.map Tree.text

/-- What is read from a value. -/
def readAt : (κ : Kind) → Nat → Tree → Except ReadFault κ.Value
  | text => textAt
  | truth => truthAt
  | count => countAt
  | words => textsAt

theorem notA_ne_ok {α : Type} {expected : String} {place : Nat} {v : Tree} {x : α} :
    notA expected place v ≠ .ok x := by
  rw [notA.eq_def]
  split <;> nofun

variable {place : Nat} {v : Tree}

theorem textAt_eq_ok_iff {t : String} : textAt place v = .ok t ↔ v = .text t := by
  fun_cases textAt place v with
  | case1 => simp
  | case2 _ other => exact iff_of_false notA_ne_ok (other t)

theorem truthAt_eq_ok_iff {b : Bool} : truthAt place v = .ok b ↔ v = .boolean b := by
  fun_cases truthAt place v with
  | case1 => simp
  | case2 _ other => exact iff_of_false notA_ne_ok (other b)

theorem countAt_eq_ok_iff {n : UInt64} : countAt place v = .ok n ↔ v = .integer n.toNat := by
  refine ⟨fun read => ?_, fun is => is ▸ countAt_toNat place n⟩
  rw [countAt.eq_def] at read
  split at read
  · next m =>
    split at read
    · next fits =>
      obtain ⟨positive, small⟩ : 0 ≤ m ∧ m < UInt64.size := by simpa using fits
      cases read
      have small : m.toNat < UInt64.size := by omega
      rw [UInt64.toNat_ofNat_of_lt' small, Int.toNat_of_nonneg positive]
    · split at read <;> cases read
  · exact absurd read notA_ne_ok

theorem map_snd_of_mapM_textAt {items : List (Nat × Tree)} {ws : List String}
    (read : items.mapM (fun (place, v) => textAt place v) = .ok ws) :
    items.map Prod.snd = ws.map Tree.text := by
  induction items generalizing ws with
  | nil =>
    cases read
    rfl
  | cons item items ih =>
    obtain ⟨place, v⟩ := item
    rw [List.mapM_cons] at read
    cases first : textAt place v with
    | error why => simp [first, bind, Except.bind] at read
    | ok t =>
      cases others : items.mapM (fun (place, v) => textAt place v) with
      | error why => simp [first, others, bind, Except.bind] at read
      | ok ts =>
        simp only [first, others, bind, Except.bind, pure, Except.pure] at read
        cases read
        rw [List.map_cons, List.map_cons, ih others, textAt_eq_ok_iff.mp first]

theorem textsAt_eq_ok_iff {ws : List String} : textsAt place v = .ok ws
    ↔ ∃ items, (v = .array items ∨ v = .tables items)
      ∧ items.map Prod.snd = ws.map Tree.text := by
  constructor
  · intro read
    rw [textsAt.eq_def] at read
    split at read
    · exact ⟨_, .inl rfl, map_snd_of_mapM_textAt read⟩
    · exact ⟨_, .inr rfl, map_snd_of_mapM_textAt read⟩
    · exact absurd read notA_ne_ok
  · rintro ⟨items, rfl | rfl, texts⟩
    · exact textsAt_array texts place
    · exact textsAt_array texts place

/-- **What a value holds is what is read from it.** -/
theorem readAt_eq_ok_iff {κ : Kind} {x : κ.Value} : κ.readAt place v = .ok x ↔ κ.Holds v x :=
  match κ with
  | text => textAt_eq_ok_iff
  | truth => truthAt_eq_ok_iff
  | count => countAt_eq_ok_iff
  | words => textsAt_eq_ok_iff

end Kind

/-! ## What a document says -/

namespace Knob

/-- **The value of a document for a setting**, in the table of its section. -/
def Told (k : Knob) (es : Entries) (v : Tree) : Prop :=
  ∃ place origin sub, (k.section_, place, .table origin sub) ∈ es
    ∧ ∃ place', (k.name, place', v) ∈ sub

/-- A document has no value for a setting. -/
def IsOmitted (k : Knob) (es : Entries) : Prop := ∀ v, ¬ k.Told es v

/-- A document gives a setting its value. -/
def Gives (k : Knob) (es : Entries) (x : k.kind.Value) : Prop := ∃ v, k.Told es v ∧ k.kind.Holds v x

/-- A document has a value for a setting that is not of its kind. -/
def IsMistold (k : Knob) (es : Entries) : Prop := ∃ v, k.Told es v ∧ ∀ x, ¬ k.kind.Holds v x

/-- **What a document makes of a setting**: what it gives, or else the default. -/
def Becomes (k : Knob) (es : Entries) (x : k.kind.Value) : Prop :=
  k.Gives es x ∨ k.IsOmitted es ∧ x = k.get {}

variable {k : Knob} {es : Entries} {v v' : Tree}

theorem Told.unique (distinct : es.Distinct) (told : k.Told es v) (told' : k.Told es v') :
    v = v' := by
  obtain ⟨place, origin, sub, there, at_, value⟩ := told
  obtain ⟨place', origin', sub', there', at', value'⟩ := told'
  cases List.inj_on_of_nodup_map distinct.nodup there there' rfl
  have nodup := (distinct.value there origin sub rfl).nodup
  cases List.inj_on_of_nodup_map nodup value value' rfl
  rfl

theorem becomes_of_told (distinct : es.Distinct) (told : k.Told es v) {x : k.kind.Value} :
    k.Becomes es x ↔ k.kind.Holds v x := by
  constructor
  · rintro (⟨v', told', holds⟩ | ⟨omitted, -⟩)
    · exact told.unique distinct told' ▸ holds
    · exact absurd told (omitted v)
  · exact fun holds => .inl ⟨v, told, holds⟩

theorem becomes_of_omitted (omitted : k.IsOmitted es) {x : k.kind.Value} :
    k.Becomes es x ↔ x = k.get {} := by
  constructor
  · rintro (⟨v, told, -⟩ | ⟨-, eq⟩)
    · exact absurd told (omitted v)
    · exact eq
  · exact fun eq => .inr ⟨omitted, eq⟩

end Knob

/-! ## Sections -/

/-- A slot is read as its kind is. -/
def Slot.inlet (slot : Slot σ) : Inlet σ :=
  ⟨slot.name, slot.kind.Value, slot.kind.readAt, slot.get, slot.set⟩

/-- **A section**: the slots that it consists of, and how it stands among all settings. -/
structure Chapter (σ : Type) where
  name : String
  /-- What is wanted where something else stands in its place. -/
  title : String
  slots : List (Slot σ)
  part : Settings → σ
  set : σ → Settings → Settings
  cover : Inlet.Cover (slots.map Slot.inlet)

namespace Chapter

variable (c : Chapter σ)

/-- The settings of a section among all settings. -/
def knobs : List Knob := c.slots.map (Slot.knob c.name c.part)

/-- How a section is read. -/
def read (place : Nat) (v : Tree) : Except ReadFault σ :=
  readSection c.title ((c.slots.map Slot.inlet).map Inlet.field) (c.part {}) place v

/-- A section as a part of all settings. -/
def inlet : Inlet Settings := ⟨c.name, σ, c.read, c.part, c.set⟩

variable {c} {es : Entries} {place : Nat} {origin : Origin} {sub : Entries}

/-- What is told about a setting of a section that is there. -/
theorem told_iff (distinct : es.Distinct) (there : (c.name, place, .table origin sub) ∈ es)
    {slot : Slot σ} {v : Tree} :
    (slot.knob c.name c.part).Told es v ↔ ∃ place', (slot.name, place', v) ∈ sub := by
  constructor
  · rintro ⟨place', origin', sub', there', value⟩
    cases List.inj_on_of_nodup_map distinct.nodup there there' rfl
    exact value
  · exact fun value => ⟨place, origin, sub, there, value⟩

/-- **What a table makes of a slot** is what the document makes of the setting. -/
theorem takes_iff_becomes (distinct : es.Distinct)
    (there : (c.name, place, .table origin sub) ∈ es) (slot : Slot σ) (s : Settings) :
    slot.inlet.Takes sub (c.part {}) (c.part s)
      ↔ (slot.knob c.name c.part).Becomes es ((slot.knob c.name c.part).get s) := by
  have nodup := (distinct.value there origin sub rfl).nodup
  by_cases present : slot.name ∈ sub.map Prod.fst
  · obtain ⟨⟨name, at_, v⟩, value, same⟩ := List.mem_map.mp present
    obtain rfl : name = slot.name := same
    have told : (slot.knob c.name c.part).Told es v := (told_iff distinct there).mpr ⟨at_, value⟩
    rw [Inlet.takes_of_mem (i := slot.inlet) nodup value, Knob.becomes_of_told distinct told]
    exact Kind.readAt_eq_ok_iff
  · have omitted : (slot.knob c.name c.part).IsOmitted es := fun v told => by
      obtain ⟨at_, value⟩ := (told_iff distinct there).mp told
      exact present (List.mem_map.mpr ⟨_, value, rfl⟩)
    rw [Inlet.takes_of_absent (i := slot.inlet) present, Knob.becomes_of_omitted omitted]
    rfl

theorem read_table (c : Chapter σ) (place : Nat) (origin : Origin) (sub : Entries) :
    c.read place (.table origin sub)
      = readTable ((c.slots.map Slot.inlet).map Inlet.field) (c.part {}) sub := rfl

/-- **A section that is there** holds what the document gives. -/
theorem becomes_of_read (distinct : es.Distinct)
    (there : (c.name, place, .table origin sub) ∈ es) {s : Settings}
    (read : c.read place (.table origin sub) = .ok (c.part s)) :
    ∀ k ∈ c.knobs, k.Becomes es (k.get s) := by
  have nodup := (distinct.value there origin sub rfl).nodup
  rw [read_table, c.cover.readTable_eq_ok_iff nodup, List.forall_mem_map] at read
  refine List.forall_mem_map.mpr fun slot here => ?_
  exact (takes_iff_becomes distinct there slot s).mp (read.2 slot here)

/-- What stands in the place of a section is a table. -/
def IsTable (c : Chapter σ) (es : Entries) : Prop :=
  ∀ place v, (c.name, place, v) ∈ es → ∃ origin sub, v = .table origin sub

/-- **What a document makes of a section.** -/
theorem takes_iff (distinct : es.Distinct) (fits : entriesInRange es = true)
    (table : c.IsTable es) (s : Settings) :
    c.inlet.Takes es {} s ↔ ∀ k ∈ c.knobs, k.Becomes es (k.get s) := by
  by_cases present : c.name ∈ es.map Prod.fst
  · obtain ⟨⟨name, place, v⟩, there, same⟩ := List.mem_map.mp present
    obtain rfl : name = c.name := same
    obtain ⟨origin, sub, rfl⟩ := table place v there
    rw [Inlet.takes_of_mem (i := c.inlet) distinct.nodup there]
    refine ⟨becomes_of_read distinct there, fun becomes => ?_⟩
    have nodup := (distinct.value there origin sub rfl).nodup
    refine (c.cover.readTable_eq_ok_iff nodup).mpr ⟨.of_mem fits there, List.forall_mem_map.mpr ?_⟩
    intro slot here
    exact (takes_iff_becomes distinct there slot s).mpr (List.forall_mem_map.mp becomes slot here)
  · have omitted (slot : Slot σ) : (slot.knob c.name c.part).IsOmitted es :=
      fun v ⟨_, _, _, there, _⟩ => present (List.mem_map.mpr ⟨_, there, rfl⟩)
    have becomes : (∀ k ∈ c.knobs, k.Becomes es (k.get s))
        ↔ ∀ slot ∈ c.slots, slot.get (c.part s) = slot.get (c.part {}) := by
      rw [knobs, List.forall_mem_map]
      exact forall₂_congr fun slot _ => Knob.becomes_of_omitted (omitted slot)
    rw [Inlet.takes_of_absent (i := c.inlet) present, becomes]
    refine ⟨fun eq slot _ => congrArg slot.get eq, fun same => ?_⟩
    exact c.cover.whole _ _ (List.forall_mem_map.mpr same)

/-- A section can be read if it is a table and no value in it is of a wrong kind. -/
theorem exists_read (distinct : es.Distinct) (fits : entriesInRange es = true)
    (table : c.IsTable es) (sound : ∀ k ∈ c.knobs, ¬ k.IsMistold es) (place : Nat) (v : Tree)
    (there : (c.name, place, v) ∈ es) : ∃ x, c.read place v = .ok x := by
  obtain ⟨origin, sub, rfl⟩ := table place v there
  refine c.cover.exists_readTable (.of_mem fits there) (List.forall_mem_map.mpr ?_) _
  intro slot here place' v value
  by_contra none
  refine List.forall_mem_map.mp sound slot here
    ⟨v, (told_iff distinct there).mpr ⟨place', value⟩, fun x holds => none ⟨x, ?_⟩⟩
  exact Kind.readAt_eq_ok_iff.mpr holds

/-- A section that was read has no value of a wrong kind. -/
theorem not_isMistold_of_takes (distinct : es.Distinct) {s : Settings}
    (takes : c.inlet.Takes es {} s) {k : Knob} (here : k ∈ c.knobs) : ¬ k.IsMistold es := by
  rintro ⟨v, told, none⟩
  obtain ⟨slot, -, rfl⟩ := List.mem_map.mp here
  obtain ⟨place, origin, sub, there, -⟩ := id told
  have becomes := becomes_of_read distinct there (takes.1 place _ there) _ here
  exact none _ ((Knob.becomes_of_told distinct told).mp becomes)

end Chapter

/-! ## All settings -/

/-- The section of the program itself. -/
def generalChapter : Chapter GeneralSettings where
  name := "general"
  title := "struct GeneralConfig"
  slots := generalSlots
  part := Settings.general
  set x s := { s with general := x }
  cover := by
    refine ⟨by decide, ?_, ?_, ?_⟩
    · simp [generalSlots, Slot.inlet]
    · simp [generalSlots, Slot.inlet]
    · rintro ⟨_, _⟩ ⟨_, _⟩
      simp [generalSlots, Slot.inlet]

/-- The section of the nested session. -/
def sessionChapter : Chapter SessionSettings where
  name := "session"
  title := "struct SessionConfig"
  slots := sessionSlots
  part := Settings.session
  set x s := { s with session := x }
  cover := by
    refine ⟨by decide, ?_, ?_, ?_⟩
    · simp [sessionSlots, Slot.inlet]
    · simp [sessionSlots, Slot.inlet]
    · rintro ⟨_, _, _, _, _, _, _, _, _, _⟩ ⟨_, _, _, _, _, _, _, _, _, _⟩
      simp [sessionSlots, Slot.inlet]

/-- The section of the log files. -/
def logChapter : Chapter LogSettings where
  name := "logs"
  title := "struct LogsConfig"
  slots := logSlots
  part := Settings.logs
  set x s := { s with logs := x }
  cover := by
    refine ⟨by decide, ?_, ?_, ?_⟩
    · simp [logSlots, Slot.inlet]
    · simp [logSlots, Slot.inlet]
    · rintro ⟨_, _⟩ ⟨_, _⟩
      simp [logSlots, Slot.inlet]

namespace Settings

/-- The sections as parts of all settings. -/
def chapters : List (Inlet Settings) :=
  [generalChapter.inlet, sessionChapter.inlet, logChapter.inlet]

theorem cover_chapters : Inlet.Cover chapters := by
  refine ⟨by decide, ?_, ?_, ?_⟩
  · simp [chapters, Chapter.inlet, generalChapter, sessionChapter, logChapter]
  · simp [chapters, Chapter.inlet, generalChapter, sessionChapter, logChapter]
  · rintro ⟨_, _, _⟩ ⟨_, _, _⟩
    simp [chapters, Chapter.inlet, generalChapter, sessionChapter, logChapter]

theorem knobs_eq : knobs = generalChapter.knobs ++ sessionChapter.knobs ++ logChapter.knobs := rfl

/-- They are the fields that a document is read with. -/
theorem map_field_chapters : chapters.map Inlet.field = sectionFields := by
  have same {α : Type} (x : Except ReadFault α) (f : α → Settings) :
      x.map f = (do return f (← x)) := by
    cases x <;> rfl
  simp only [chapters, List.map_cons, List.map_nil, Inlet.field, same]
  rfl

variable {es : Entries} {s : Settings}

theorem ofEntries_eq_readTable (es : Entries) :
    ofEntries es = readTable (chapters.map Inlet.field) {} es := by
  rw [ofEntries, map_field_chapters]

/-- Each section that is there is a table. -/
def InTables (es : Entries) : Prop :=
  generalChapter.IsTable es ∧ sessionChapter.IsTable es ∧ logChapter.IsTable es

/-- **What the tables of a document make of all settings.** -/
theorem ofEntries_eq_ok_iff (distinct : es.Distinct) (fits : entriesInRange es = true)
    (tables : InTables es) : ofEntries es = .ok s ↔ ∀ k ∈ knobs, k.Becomes es (k.get s) := by
  obtain ⟨general, session, logs⟩ := tables
  rw [ofEntries_eq_readTable, cover_chapters.readTable_eq_ok_iff distinct.nodup,
    and_iff_right (.of_entriesInRange fits), knobs_eq, List.forall_mem_append,
    List.forall_mem_append, ← Chapter.takes_iff distinct fits general s,
    ← Chapter.takes_iff distinct fits session s, ← Chapter.takes_iff distinct fits logs s]
  simp [chapters, and_assoc]

/-- They make some, if no value is of a wrong kind. -/
theorem exists_ofEntries (distinct : es.Distinct) (fits : entriesInRange es = true)
    (tables : InTables es) (sound : ∀ k ∈ knobs, ¬ k.IsMistold es) :
    ∃ s, ofEntries es = .ok s := by
  obtain ⟨general, session, logs⟩ := tables
  rw [knobs_eq, List.forall_mem_append, List.forall_mem_append] at sound
  rw [ofEntries_eq_readTable]
  refine cover_chapters.exists_readTable (.of_entriesInRange fits) ?_ {}
  simp only [chapters, List.forall_mem_cons]
  exact ⟨Chapter.exists_read distinct fits general sound.1.1,
    Chapter.exists_read distinct fits session sound.1.2,
    Chapter.exists_read distinct fits logs sound.2, nofun⟩

/-- A value of a wrong kind spoils the document. -/
theorem ofEntries_ne_ok (distinct : es.Distinct) {k : Knob} (there : k ∈ knobs)
    (mistold : k.IsMistold es) : ofEntries es ≠ .ok s := by
  intro read
  rw [ofEntries_eq_readTable, cover_chapters.readTable_eq_ok_iff distinct.nodup] at read
  simp only [chapters, List.forall_mem_cons] at read
  obtain ⟨-, general, session, logs, -⟩ := read
  rw [knobs_eq, List.mem_append, List.mem_append] at there
  rcases there with (there | there) | there
  · exact Chapter.not_isMistold_of_takes distinct general there mistold
  · exact Chapter.not_isMistold_of_takes distinct session there mistold
  · exact Chapter.not_isMistold_of_takes distinct logs there mistold

theorem parse_eq {source : String} (read : document? source.toList = some es) :
    parse source
      = (ofEntries es).mapError fun fault => .unreadable (fault.reason source.toList) := by
  simp only [parse, read]

theorem parse_eq_ok_iff {source : String} (read : document? source.toList = some es) :
    parse source = .ok s ↔ ofEntries es = .ok s := by
  rw [parse_eq read]
  cases ofEntries es <;> simp [Except.mapError]

/-- **A document is laid over the defaults**, setting by setting.

* If a value for a setting is of a wrong kind, the document is refused as unreadable, whatever else
  it holds.
* Let every number of the document fit some format, and let what stands in the place of a section
  be a table, however it is written.  Then the settings that are read are those in which each
  setting is what the document gives, or else the default; and there are such settings unless a
  value is of a wrong kind.
* Nothing else of the document counts: any other document of this shape that gives and omits the
  same is read as the same. -/
theorem parse_knobwise {source : String} {es : Entries}
    (read : document? source.toList = some es) :
    ((∃ k ∈ knobs, k.IsMistold es) → ∃ reason, parse source = .error (.unreadable reason))
    ∧ (entriesInRange es = true → InTables es →
      (∀ s, parse source = .ok s ↔ ∀ k ∈ knobs, k.Becomes es (k.get s))
      ∧ ((∀ k ∈ knobs, ¬ k.IsMistold es) → ∃ s, parse source = .ok s)
      ∧ ∀ source' es', document? source'.toList = some es' → entriesInRange es' = true
        → InTables es'
        → (∀ k ∈ knobs, (∀ x, k.Gives es' x ↔ k.Gives es x) ∧ (k.IsOmitted es' ↔ k.IsOmitted es))
        → ∀ s, parse source' = .ok s ↔ parse source = .ok s) := by
  have distinct := distinct_of_document? read
  refine ⟨fun ⟨k, there, mistold⟩ => ?_, fun fits tables => ⟨fun s => ?_, fun sound => ?_,
    fun source' es' read' fits' tables' same s => ?_⟩⟩
  · rw [parse_eq read]
    cases outcome : ofEntries es with
    | error why => exact ⟨_, rfl⟩
    | ok s => exact absurd outcome (ofEntries_ne_ok distinct there mistold)
  · rw [parse_eq_ok_iff read, ofEntries_eq_ok_iff distinct fits tables]
  · simpa only [parse_eq_ok_iff read] using exists_ofEntries distinct fits tables sound
  · rw [parse_eq_ok_iff read, parse_eq_ok_iff read', ofEntries_eq_ok_iff distinct fits tables,
      ofEntries_eq_ok_iff (distinct_of_document? read') fits' tables']
    refine forall₂_congr fun k there => ?_
    rw [Knob.Becomes, Knob.Becomes, (same k there).1, (same k there).2]

/-- A document that gives one setting, under a header. -/
def underHeader : Entries := [("logs", 15, .table .header [("dir", 4, .text "x")])]

/-- The same by a dotted key, behind an unknown one. -/
def dottedKey : Entries := [("a", 15, .text ""), ("logs", 12, .table .dotted [("dir", 3, .text "x")])]

/-- Both are read as the same, and a text is no truth value. -/
theorem parse_knobwise_logs :
    (∃ s, parse "[logs]\ndir='x'\n" = .ok s ∧ parse "a=''\nlogs.dir='x'" = .ok s
      ∧ s.logs.dir = "x" ∧ s.logs.save = false)
    ∧ ∃ reason, parse "logs.save='x'" = .error (.unreadable reason) := by
  have header : document? "[logs]\ndir='x'\n".toList = some underHeader := rfl
  have dotted : document? "a=''\nlogs.dir='x'".toList = some dottedKey := rfl
  have wrong : document? "logs.save='x'".toList
      = some [("logs", 13, .table .dotted [("save", 3, .text "x")])] := rfl
  have tables : InTables underHeader := by
    simp [InTables, Chapter.IsTable, underHeader, generalChapter, sessionChapter, logChapter]
  have tables' : InTables dottedKey := by
    simp [InTables, Chapter.IsTable, dottedKey, generalChapter, sessionChapter, logChapter]
  have becomes : ∀ k ∈ knobs, k.Becomes underHeader (k.get { logs := { dir := "x" } }) := by
    simp [knobs, generalSlots, sessionSlots, logSlots, Slot.knob, Knob.Becomes, Knob.Gives,
      Knob.IsOmitted, Knob.Told, Kind.Holds, underHeader]
  have alike : ∀ k ∈ knobs, (∀ x, k.Gives dottedKey x ↔ k.Gives underHeader x)
      ∧ (k.IsOmitted dottedKey ↔ k.IsOmitted underHeader) := by
    simp [knobs, generalSlots, sessionSlots, logSlots, Slot.knob, Knob.Gives,
      Knob.IsOmitted, Knob.Told, Kind.Holds, underHeader, dottedKey]
  obtain ⟨laid, -, same⟩ := (parse_knobwise header).2 rfl tables
  have read := (laid _).mpr becomes
  refine ⟨⟨_, read, (same _ _ dotted rfl tables' alike _).mpr read, rfl, rfl⟩,
    (parse_knobwise wrong).1 ⟨⟨"logs", "save", .truth, (·.logs.save)⟩,
      List.mem_of_getElem? (i := 12) rfl, .text "x", ?_, fun _ eq => by cases eq⟩⟩
  exact ⟨_, _, _, List.mem_singleton_self _, _, List.mem_singleton_self _⟩

end Settings

end NestedSession
