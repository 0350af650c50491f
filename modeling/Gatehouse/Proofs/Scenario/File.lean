import Gatehouse.Proofs.Scenario.Library
import Gatehouse.Proofs.Setting
import Gatehouse.Record.Writer

/-!
# Files of scenarios are read back

Scenarios that are written into a JSON file, in a list under the key `scenarios`, are read from it
as they were (`ofFile_written`), although a file is read as loosely typed settings: nothing that was
written is of another kind than is wanted, and an item that is not set, one without a name and any
other one are kept apart.
-/

set_option autoImplicit false

namespace Gatehouse

open Setting
open Json (Plain)

/-! ## Records -/

section Read

variable (origin : Option String)

theorem GrantLine.ofSetting_normal (l : GrantLine) :
    ofSetting (Setting.ofJson origin l.toJson.normal) = .ok l := by
  have hkeys : ["section", "item", "action", "item_id"].Nodup := by decide
  simp only [toJson, Json.normal, Json.normalMembers, ofSetting, Layout.take_normal,
    List.map_cons, List.map_nil, hkeys]
  simp [Field.required, Field.defaulted, Json.lookup_cons_eq_ite, toOption_ofText?,
    toOption_ofInt32?]
  rfl

theorem RoleTemplate.ofSetting_normal (t : RoleTemplate) :
    ofSetting (Setting.ofJson origin t.toJson.normal) = .ok t := by
  have hkeys : ["name", "can_login", "is_admin", "description", "grants"].Nodup := by decide
  simp only [toJson, Json.normal, Json.normalMembers, ofSetting, Layout.take_normal,
    List.map_cons, List.map_nil, hkeys]
  simp [Field.required, Field.defaulted, Json.lookup_cons_eq_ite,
    toList_array (GrantLine.ofSetting_normal origin)]
  rfl

theorem Scenario.ofSetting_normal (sc : Scenario) :
    ofSetting (Setting.ofJson origin sc.toJson.normal) = .ok sc := by
  have hkeys : ["name", "description", "roles"].Nodup := by decide
  simp only [toJson, Json.normal, Json.normalMembers, ofSetting, Layout.take_normal,
    List.map_cons, List.map_nil, hkeys]
  simp [Field.required, Field.defaulted, Json.lookup_cons_eq_ite,
    toList_array (RoleTemplate.ofSetting_normal origin)]
  rfl

end Read

section Write

variable {room : Nat}

theorem GrantLine.plain_toJson (l : GrantLine) : Plain (room + 1) l.toJson := by
  refine .object ?_
  simp [Plain.text, Plain.ofText?, Plain.ofInt32?]

theorem RoleTemplate.plain_toJson (t : RoleTemplate) : Plain (room + 3) t.toJson := by
  have hlines : Plain (room + 2) (.array (t.lines.map (·.toJson))) :=
    .array_map GrantLine.plain_toJson _
  refine .object ?_
  simp [Plain.text, Plain.bool, hlines]

theorem Scenario.plain_toJson (sc : Scenario) : Plain (room + 5) sc.toJson := by
  have hroles : Plain (room + 4) (.array (sc.roles.map (·.toJson))) :=
    .array_map RoleTemplate.plain_toJson _
  refine .object ?_
  simp [Plain.text, hroles]

end Write

/-! ## Files -/

/-- The JSON form of a file of scenarios. -/
def fileJson (scs : List Scenario) : Json := .object
  [("scenarios", .array (scs.map (·.toJson)))]

theorem plain_fileJson {room : Nat} (scs : List Scenario) : Plain (room + 7) (fileJson scs) := by
  have hscenarios : Plain (room + 6) (.array (scs.map (·.toJson))) :=
    .array_map Scenario.plain_toJson _
  refine .object ?_
  simp [hscenarios]

/-- The text is the JSON form of a file of scenarios, in one of the two layouts. -/
def Writes (text : String) (scs : List Scenario) : Prop :=
  text = (fileJson scs).compact ∨ text = (fileJson scs).pretty

theorem Writes.read {text : String} {scs : List Scenario} (h : Writes text scs) :
    Json.read text =
      some (.object [("scenarios", .array (Json.normalItems (scs.map (·.toJson))))]) := by
  have hplain : Plain Json.depthLimit (fileJson scs) := plain_fileJson scs
  rcases h with rfl | rfl
  · exact hplain.read_compact
  · exact hplain.read_pretty

/-- The text starts with a brace. -/
theorem Writes.withoutMark {text : String} {scs : List Scenario} (h : Writes text scs) :
    Setting.withoutMark text = text := by
  rcases h with rfl | rfl <;> exact withoutMark_ofList (by decide) _

/-- The scenarios that such a text defines are those that went into it. -/
theorem Writes.scenariosOf {path text : String} {scs : List Scenario} (h : Writes text scs) :
    (do Gatehouse.scenariosOf (← ofText path .json text)) = .ok scs := by
  have hkey : pathOf "scenarios" = [.name "scenarios"] := by decide +kernel
  have hlist := toList_array (Scenario.ofSetting_normal (some (shownPath path))) scs
  rw [ofText_eq_ok h.withoutMark h.read hkey]
  simp only [bind, Except.bind, Gatehouse.scenariosOf, Layout.take, Field.defaulted,
    List.lookup_cons_self, hlist]
  rfl

namespace Library

theorem insertAll_eq_ok {l : Library} {scs : List Scenario} (h : ∀ sc ∈ scs, sc.check = .ok ()) :
    l.insertAll scs = .ok (scs.foldl put l) := by
  induction scs generalizing l with
  | nil => rfl
  | cons sc rest ih =>
    have hinsert : l.insert sc = .ok (l.put sc) :=
      insert_eq_ok_iff.2 ⟨h sc List.mem_cons_self, rfl⟩
    rw [insertAll, List.foldlM_cons, hinsert]
    exact ih fun x hx => h x (List.mem_cons_of_mem sc hx)

theorem ofFile_eq_ok {files : Files} {path text : String} {scs : List Scenario}
    (hscs : ∀ sc ∈ scs, sc.check = .ok ()) (hpath : formatOf? path = some .json)
    (hfile : files path = some text) (htext : Writes text scs) :
    ofFile files path = .ok (scs.foldl put empty) := by
  have hlocate : locate files path = .ok (path, .json, text) := by rw [locate, hfile, hpath]
  have hread : Setting.ofFile files path = ofText path .json text := by
    rw [Setting.ofFile, hlocate]
    rfl
  rw [ofFile, hread, htext.scenariosOf]
  exact insertAll_eq_ok hscs

end Library

/-- **Scenarios in order that are written into a file are read from it as they were.**  Of several
with one name the last is found, and a file that is loaded is laid over the built-in scenarios. -/
theorem ofFile_written {files : Files} {path text : String} {scs : List Scenario}
    (hscs : ∀ sc ∈ scs, sc.check = .ok ()) (hpath : formatOf? path = some .json)
    (hfile : files path = some text) (htext : Writes text scs) :
    ∃ lib, Library.ofFile files path = .ok lib ∧
      (∀ name, lib.find? name = scs.reverse.find? (·.name == name)) ∧
      (∀ name, name ∈ lib.names ↔ ∃ sc ∈ scs, sc.name = name) ∧
      Library.load files (some path) = .ok (Library.builtIn.merge lib) ∧
      ∀ name, (Library.builtIn.merge lib).find? name =
        (lib.find? name).or (Library.builtIn.find? name) := by
  have hofFile := Library.ofFile_eq_ok hscs hpath hfile htext
  have hfind : ∀ name, (scs.foldl Library.put .empty).find? name =
      scs.reverse.find? (·.name == name) := by
    intro name
    rw [Library.find?_foldl_put]
    exact Option.or_none
  refine ⟨_, hofFile, hfind, fun name => ?_, by rw [Library.load_some, hofFile],
    fun name => Library.find?_merge⟩
  rw [Library.mem_names_iff, hfind, ← Option.isSome_iff_exists, List.find?_isSome]
  simp

/-- Two scenarios of one name; the lines of the second one are on no item, on the one without a
name, and on an instance of another one. -/
def townScenarios : List Scenario :=
  [{ name := "town", roles := [{ name := "keepers" }] },
    { name := "town", description := "Say \"hello\"",
      roles := [{ name := "readers", canLogin := true, lines :=
        [{ area := "news", action := "see" }, { area := "news", item := some "", action := "see" },
          { area := "news", item := some "draft", action := "see", itemId := some 4 }] }] }]

/-- The file of these scenarios, and no other one. -/
def townFiles : Files := fun path =>
  if path = "etc/town.json" then some (fileJson townScenarios).pretty else none

/-- The second scenario is found in the file, with each of its lines as it was. -/
theorem ofFile_written_town :
    (∀ sc ∈ townScenarios, sc.check = .ok ()) ∧ formatOf? "etc/town.json" = some .json ∧
      townFiles "etc/town.json" = some (fileJson townScenarios).pretty ∧
      Writes (fileJson townScenarios).pretty townScenarios ∧
      ∃ lib, Library.ofFile townFiles "etc/town.json" = .ok lib ∧
        lib.find? "town" = townScenarios[1]? ∧
        Library.load townFiles (some "etc/town.json") = .ok (Library.builtIn.merge lib) := by
  have hscs : ∀ sc ∈ townScenarios, sc.check = .ok () := by
    have hproblems : ∀ sc ∈ townScenarios, sc.problems = [] := by decide +kernel
    intro sc hsc
    rw [Scenario.check, hproblems sc hsc]
  have hpath : formatOf? "etc/town.json" = some .json := by decide +kernel
  have hfile : townFiles "etc/town.json" = some (fileJson townScenarios).pretty := if_pos rfl
  obtain ⟨lib, hread, hfind, -, hload, -⟩ := ofFile_written hscs hpath hfile (.inr rfl)
  exact ⟨hscs, hpath, hfile, .inr rfl, lib, hread, (hfind "town").trans rfl, hload⟩

end Gatehouse
