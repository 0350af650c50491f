import Gatehouse.Proofs.Store.Reachable
import Gatehouse.Proofs.Template.Failure
import Gatehouse.Scenario.File

/-!
# What is in a library

A library keeps one scenario a name, so a scenario that is put in hides the one that had its name
and no other (`Library.find?_put`), and of the scenarios of one name that are put in one after the
other the last is found (`Library.find?_foldl_put`).

Of the four ways to come by scenarios only two look at them: taking them in one by one and reading
them from a file.  The built-in ones and those of another library go in unseen.  Yet nothing is ever
wrong with what is in a library (`Library.Made.inOrder`): the built-in scenarios happen to be in
order, and the other library was made in the same ways.
-/

set_option autoImplicit false

namespace Gatehouse

open Std

namespace Library

variable {l other : Library} {sc : Scenario} {name : String}

/-! ## Finding scenarios -/

theorem byName_eq_iff {x : Scenario} : Scenario.byName sc x = .eq ↔ sc.name = x.name := by
  rw [Scenario.byName, compareOn, LawfulEqCmp.compare_eq_iff_eq]

theorem find?_eq_some_iff : l.find? name = some sc ↔ sc ∈ l.toList ∧ sc.name = name := by
  rw [find?, Table.find?_eq_some_iff, beq_iff_eq, Table.mem_def, toList]
  intro x hsc hx
  rw [beq_iff_eq] at hsc hx
  exact byName_eq_iff.2 (hsc.trans hx.symm)

theorem mem_names_iff : name ∈ l.names ↔ ∃ sc, l.find? name = some sc := by
  simp only [names, List.mem_map, find?_eq_some_iff]

theorem get_eq_ok_iff : l.get name = .ok sc ↔ sc ∈ l.toList ∧ sc.name = name := by
  rw [← find?_eq_some_iff, get]
  cases l.find? name <;> simp

/-- What is not found is told to be missing. -/
theorem eq_of_get_eq_error {e : Error} (h : l.get name = .error e) :
    e = .notFound (.scenario name) := by
  rw [get] at h
  split at h <;> cases h
  rfl

theorem ascending_names (l : Library) : Ascending compare l.names :=
  List.pairwise_map.2 l.scenarios.ascending

/-! ## Putting scenarios in -/

/-- Puts a scenario in, whatever is wrong with it. -/
def put (l : Library) (sc : Scenario) : Library := ⟨l.scenarios.insert sc⟩

theorem mem_put {x : Scenario} :
    x ∈ (l.put sc).toList ↔ x = sc ∨ x ∈ l.toList ∧ sc.name ≠ x.name := by
  rw [toList, ← Table.mem_def, put, Table.mem_insert, ne_eq, byName_eq_iff, Table.mem_def, toList]

theorem find?_put :
    (l.put sc).find? name = if sc.name = name then some sc else l.find? name := by
  refine Option.ext fun x => ?_
  rw [find?_eq_some_iff, mem_put]
  by_cases h : sc.name = name
  · rw [if_pos h, Option.some.injEq]
    constructor
    · rintro ⟨rfl | ⟨-, hne⟩, hname⟩
      · rfl
      · exact absurd (h.trans hname.symm) hne
    · rintro rfl
      exact ⟨.inl rfl, h⟩
  · rw [if_neg h, find?_eq_some_iff]
    constructor
    · rintro ⟨rfl | ⟨hx, -⟩, hname⟩
      · exact absurd hname h
      · exact ⟨hx, hname⟩
    · rintro ⟨hx, hname⟩
      exact ⟨.inr ⟨hx, fun hsame => h (hsame.trans hname)⟩, hname⟩

theorem get_put :
    (l.put sc).get name = if sc.name = name then .ok sc else l.get name := by
  rw [get, find?_put, get]
  by_cases h : sc.name = name <;> simp [h]

/-- Of the scenarios of one name that are put in the last is found. -/
theorem find?_foldl_put (l : Library) (scs : List Scenario) :
    (scs.foldl put l).find? name =
      (scs.reverse.find? (·.name == name)).or (l.find? name) := by
  induction scs generalizing l with
  | nil => rfl
  | cons sc rest ih =>
    rw [List.foldl_cons, ih, find?_put, List.reverse_cons, List.find?_append, Option.or_assoc]
    by_cases h : sc.name = name <;> simp [h]

theorem foldl_put_eq (l : Library) (scs : List Scenario) :
    scs.foldl put l = ⟨scs.foldl Table.insert l.scenarios⟩ := by
  induction scs generalizing l with
  | nil => rfl
  | cons sc rest ih => exact ih (l.put sc)

theorem merge_eq_foldl (l other : Library) : l.merge other = other.toList.foldl put l :=
  (foldl_put_eq l other.toList).symm

theorem builtIn_eq_foldl : builtIn = Scenario.builtIn.foldl put empty :=
  (foldl_put_eq empty Scenario.builtIn).symm

/-- A library is searched alike from either end. -/
theorem find?_reverse_toList : l.toList.reverse.find? (·.name == name) = l.find? name := by
  refine Option.ext fun sc => ?_
  rw [find?_eq_some_iff]
  constructor
  · intro h
    exact ⟨List.mem_reverse.1 (List.mem_of_find?_eq_some h), by simpa using List.find?_some h⟩
  · rintro ⟨hsc, hname⟩
    cases h : l.toList.reverse.find? (·.name == name) with
    | none =>
      have hnone := List.find?_eq_none.1 h sc (List.mem_reverse.2 hsc)
      exact absurd (beq_iff_eq.2 hname) hnone
    | some x =>
      have hx : x ∈ l.toList := List.mem_reverse.1 (List.mem_of_find?_eq_some h)
      have hxName : x.name = name := by simpa using List.find?_some h
      rw [← find?_eq_some_iff.2 ⟨hx, hxName⟩, find?_eq_some_iff.2 ⟨hsc, hname⟩]

theorem find?_merge : (l.merge other).find? name = (other.find? name).or (l.find? name) := by
  rw [merge_eq_foldl, find?_foldl_put, find?_reverse_toList]

/-- Of two libraries of which one is laid over the other, the upper one is asked first. -/
theorem get_merge :
    (l.merge other).get name = if name ∈ other.names then other.get name else l.get name := by
  by_cases h : name ∈ other.names
  · obtain ⟨sc, hsc⟩ := mem_names_iff.1 h
    rw [if_pos h, get, get, find?_merge, hsc]
    rfl
  · have hnone : other.find? name = none :=
      Option.eq_none_iff_forall_ne_some.2 fun sc hsc => h (mem_names_iff.2 ⟨sc, hsc⟩)
    rw [if_neg h, get, get, find?_merge, hnone]
    rfl

/-! ## Nothing is wrong -/

/-- Nothing is wrong with any scenario in the library. -/
def InOrder (l : Library) : Prop := ∀ sc ∈ l.toList, sc.check = .ok ()

theorem InOrder.put (hl : l.InOrder) (hsc : sc.check = .ok ()) : (l.put sc).InOrder := by
  intro x hx
  rcases mem_put.1 hx with rfl | ⟨hx, -⟩
  · exact hsc
  · exact hl x hx

theorem InOrder.foldl_put (hl : l.InOrder) {scs : List Scenario}
    (hscs : ∀ sc ∈ scs, sc.check = .ok ()) : (scs.foldl Library.put l).InOrder := by
  induction scs generalizing l with
  | nil => exact hl
  | cons sc rest ih =>
    exact ih (hl.put (hscs sc List.mem_cons_self)) fun x hx => hscs x (List.mem_cons_of_mem sc hx)

theorem inOrder_empty : empty.InOrder := by
  intro sc hsc
  cases hsc

theorem inOrder_builtIn : builtIn.InOrder := by
  have hproblems : ∀ sc ∈ Scenario.builtIn, sc.problems = [] := by decide +kernel
  rw [builtIn_eq_foldl]
  refine inOrder_empty.foldl_put fun sc hsc => ?_
  rw [Scenario.check, hproblems sc hsc]

theorem InOrder.merge (hl : l.InOrder) (hother : other.InOrder) : (l.merge other).InOrder := by
  rw [merge_eq_foldl]
  exact hl.foldl_put hother

theorem insert_eq_ok_iff {l' : Library} :
    l.insert sc = .ok l' ↔ sc.check = .ok () ∧ l.put sc = l' := by
  rw [insert, except_bind_eq_ok_iff]
  constructor
  · rintro ⟨⟨⟩, hcheck, hput⟩
    exact ⟨hcheck, Except.ok.inj hput⟩
  · rintro ⟨hcheck, rfl⟩
    exact ⟨(), hcheck, rfl⟩

theorem InOrder.insertAll (hl : l.InOrder) {scs : List Scenario} {l' : Library}
    (h : l.insertAll scs = .ok l') : l'.InOrder := by
  induction scs generalizing l with
  | nil =>
    cases h
    exact hl
  | cons sc rest ih =>
    rw [Library.insertAll, List.foldlM_cons, except_bind_eq_ok_iff] at h
    obtain ⟨l₁, hinsert, hrest⟩ := h
    obtain ⟨hcheck, rfl⟩ := insert_eq_ok_iff.1 hinsert
    exact ih (hl.put hcheck) hrest

theorem inOrder_ofFile {files : Files} {path : String} (h : ofFile files path = .ok l) :
    l.InOrder := by
  obtain ⟨scs, -, hinsert⟩ := except_bind_eq_ok_iff.1 h
  exact inOrder_empty.insertAll hinsert

/-- What is loaded is the built-in library or has a file laid over it. -/
theorem load_some (files : Files) (path : String) :
    load files (some path) = match ofFile files path with
      | .error e => .error e
      | .ok file => .ok (builtIn.merge file) := by
  rw [load]
  cases ofFile files path <;> rfl

theorem inOrder_load {files : Files} {path : Option String}
    (h : load files path = .ok l) : l.InOrder := by
  cases path with
  | none =>
    cases h
    exact inOrder_builtIn
  | some path =>
    rw [load_some] at h
    split at h <;> cases h
    rename_i hfile
    exact inOrder_builtIn.merge (inOrder_ofFile hfile)

/-! ## How libraries are made -/

/-- Takes a scenario into a library in place: first it is looked at, then it is put in. -/
def insertion (sc : Scenario) : Action Library Unit := do
  Action.lift sc.check
  Action.update fun l => ((), l.put sc)

/-- Taking a scenario in in place is taking it in, or leaving the library as it is. -/
theorem run_insertion (sc : Scenario) (l : Library) :
    (insertion sc).run l = match l.insert sc with
      | .ok l' => (.ok (), l')
      | .error e => (.error e, l) := by
  rw [insertion, Action.run_bind, Action.run_lift, insert]
  cases sc.check <;> rfl

/-- The library was made from libraries that come with the program or from files, by laying one
over another and by taking in scenarios, even if some were refused. -/
inductive Made : Library → Prop
  /-- No scenarios. -/
  | empty : Made empty
  /-- The scenarios that come with the program. -/
  | builtIn : Made builtIn
  /-- A scenario was to be taken in. -/
  | insertion {l : Library} (made : Made l) (sc : Scenario) : Made ((insertion sc).run l).2
  /-- A second library was laid over a first one. -/
  | merge {l other : Library} (made : Made l) (made' : Made other) : Made (l.merge other)
  /-- The library was read from a file. -/
  | ofFile {l : Library} {files : Files} {path : String}
      (read : ofFile files path = .ok l) : Made l
  /-- The library was loaded, with a file or without one. -/
  | load {l : Library} {files : Files} {path : Option String}
      (read : load files path = .ok l) : Made l

theorem Made.inOrder (hl : l.Made) : l.InOrder := by
  induction hl with
  | empty => exact inOrder_empty
  | builtIn => exact inOrder_builtIn
  | @insertion l _ sc ih =>
    rw [run_insertion]
    rcases h : l.insert sc with e | l'
    · exact ih
    · obtain ⟨hcheck, rfl⟩ := insert_eq_ok_iff.1 h
      exact ih.put hcheck
  | merge _ _ ih ih' => exact ih.merge ih'
  | ofFile read => exact inOrder_ofFile read
  | load read => exact inOrder_load read

/-! ## What may be relied on -/

/-- What may be relied on in a library. -/
structure Sound (l : Library) : Prop where
  /-- Nothing is wrong with any scenario. -/
  inOrder : l.InOrder
  /-- Each scenario is kept under its own name and no other one. -/
  get_iff : ∀ name sc, l.get name = .ok sc ↔ sc ∈ l.toList ∧ sc.name = name
  /-- A scenario is got for the names listed. -/
  get_isOk_iff : ∀ name, (∃ sc, l.get name = .ok sc) ↔ name ∈ l.names
  /-- Any other name is told to be missing. -/
  missing : ∀ name, name ∉ l.names → l.get name = .error (.notFound (.scenario name))
  /-- The scenarios come in the order of their names, one a name. -/
  ascending : Ascending Scenario.byName l.toList
  /-- The names come in order, each once. -/
  names : Ascending compare l.names
  /-- A scenario that something is wrong with is refused, and the library stays as it is. -/
  refused : ∀ sc e l', (insertion sc).run l = (.error e, l') → sc.check = .error e ∧ l' = l
  /-- Any other scenario is taken in and found by its name, and nothing else changes. -/
  taken : ∀ sc, sc.check = .ok () → ∃ l', (insertion sc).run l = (.ok (), l') ∧
    ∀ name, l'.get name = if sc.name = name then .ok sc else l.get name
  /-- A library that is laid over this one is asked first. -/
  overlaid : ∀ (other : Library) (name : String), (l.merge other).get name =
    if name ∈ other.names then other.get name else l.get name

theorem InOrder.sound (hl : l.InOrder) : l.Sound where
  inOrder := hl
  get_iff _ _ := get_eq_ok_iff
  get_isOk_iff name := by simp only [mem_names_iff, get_eq_ok_iff, find?_eq_some_iff]
  missing name h := by
    cases hget : l.get name with
    | ok sc => exact absurd (mem_names_iff.2 ⟨sc, find?_eq_some_iff.2 (get_eq_ok_iff.1 hget)⟩) h
    | error e => rw [eq_of_get_eq_error hget]
  ascending := l.scenarios.ascending
  names := l.ascending_names
  refused sc e l' h := by
    rw [insertion, Action.run_bind, Action.run_lift] at h
    cases hcheck : sc.check with
    | error e' =>
      rw [hcheck] at h
      cases h
      exact ⟨rfl, rfl⟩
    | ok u =>
      rw [hcheck] at h
      cases h
  taken sc hcheck := by
    refine ⟨l.put sc, ?_, fun name => get_put⟩
    rw [run_insertion, insert_eq_ok_iff.2 ⟨hcheck, rfl⟩]
  overlaid _ _ := get_merge

/-- A backend that does not complain about scenarios is not made to by one from the library. -/
theorem InOrder.apply_failsOnly (hl : l.InOrder) {σ τ : Type} {b : Backend σ τ}
    (hb : b.FailsOnly fun e => ¬e.AboutScenario) (run name role : String) :
    ((b.apply l run name).FailsOnly fun e => ¬e.AboutScenario) ∧
      ((b.resetRole l run name role).FailsOnly fun e => ¬e.AboutScenario) ∧
        (b.diff l name).FailsOnly fun e => ¬e.AboutScenario := by
  have hget : ∀ e, l.get name = .error e → ¬e.AboutScenario := by
    intro e h
    rw [eq_of_get_eq_error h]
    exact Error.not_aboutScenario_notFound _
  have hcheck : ∀ sc, l.get name = .ok sc → sc.check = .ok () := fun sc hsc =>
    hl sc (get_eq_ok_iff.1 hsc).1
  exact ⟨hb.apply hget hcheck run,
    hb.resetRole hget hcheck (fun _ => Error.not_aboutScenario_notFound _) run, hb.diff hget⟩

end Library

/-- **Whatever a library was made from, its scenarios are in order and are found by their names.**
A file that is loaded goes before the built-in scenarios, name by name.  And applying a scenario by
its name, resetting a role of it or comparing it with a store never fails because something is wrong
with the scenario. -/
theorem made_is_sound {l : Library} (hl : l.Made) :
    l.Sound ∧
    (∀ files : Files, Library.load files none = .ok .builtIn ∧
      ∀ path file, Library.ofFile files path = .ok file →
        ∃ loaded, Library.load files (some path) = .ok loaded ∧
          ∀ name, loaded.get name =
            if name ∈ file.names then file.get name else Library.builtIn.get name) ∧
    (∀ (σ τ : Type) (b : Backend σ τ), (b.FailsOnly fun e => ¬e.AboutScenario) →
      ∀ run name role, ((b.apply l run name).FailsOnly fun e => ¬e.AboutScenario) ∧
        ((b.resetRole l run name role).FailsOnly fun e => ¬e.AboutScenario) ∧
          (b.diff l name).FailsOnly fun e => ¬e.AboutScenario) ∧
    ∀ now, (Backend.memory now).FailsOnly fun e => ¬e.AboutScenario := by
  refine ⟨hl.inOrder.sound, fun files => ⟨rfl, fun path file hfile => ?_⟩,
    fun σ τ b hb run name role => hl.inOrder.apply_failsOnly hb run name role,
    Backend.failsOnly_memory⟩
  exact ⟨_, by rw [Library.load_some, hfile], fun name => Library.get_merge⟩

/-- A scenario that has the name of a built-in one. -/
def house : Scenario where
  name := "default"
  roles := [{ name := "readers", lines := [{ area := "news", action := "see" }] }]

/-- A scenario without a name. -/
def untitled : Scenario where
  name := ""
  roles := []

/-- The built-in scenarios, with the other default laid over them. -/
def houseLibrary : Library := Library.builtIn.merge ((Library.insertion house).run .empty).2

/-- The other default hides the built-in one, the scenario without a name is refused and leaves all
names as they were, and applying the other default to the teams has nothing to complain about. -/
theorem made_is_sound_house :
    houseLibrary.Made ∧ houseLibrary.get "default" = .ok house ∧
      houseLibrary.get "read-only" = Library.builtIn.get "read-only" ∧
      (∃ e, (Library.insertion untitled).run houseLibrary = (.error e, houseLibrary)) ∧
      ∀ e t, ((Backend.memory newYear).apply houseLibrary "1" "default").run teams = (.error e, t) →
        ¬e.AboutScenario := by
  have hover : Library.Made ((Library.insertion house).run .empty).2 := .insertion .empty house
  have hmade : houseLibrary.Made := .merge .builtIn hover
  obtain ⟨hbuiltIn, -⟩ := made_is_sound Library.Made.builtIn
  obtain ⟨hsound, -, hcomplains, hmemory⟩ := made_is_sound hmade
  have hnames : ((Library.insertion house).run .empty).2.names = ["default"] := by decide +kernel
  have hget : ((Library.insertion house).run .empty).2.get "default" = .ok house := by rfl
  refine ⟨hmade, ?_, ?_, ?_, ?_⟩
  · rw [houseLibrary, hbuiltIn.overlaid, hnames, if_pos (by decide), hget]
  · rw [houseLibrary, hbuiltIn.overlaid, hnames, if_neg (by decide)]
  · have hfailed : ((Library.insertion untitled).run houseLibrary).1.isOk = false := by
      decide +kernel
    rcases hrun : (Library.insertion untitled).run houseLibrary with ⟨e | ⟨⟩, l'⟩
    · exact ⟨e, by rw [(hsound.refused untitled e l' hrun).2]⟩
    · rw [hrun] at hfailed
      cases hfailed
  · exact (hcomplains _ _ _ (hmemory newYear) "1" "default" "readers").1 teams

end Gatehouse
