import Gatehouse.Export.Basic
import Gatehouse.Proofs.Export.Csv
import Gatehouse.Proofs.Record
import Mathlib.Data.List.Forall2

/-!
# Exports are read back from their texts

Nothing of an export is lost in its texts, whatever characters the names in it are made of
(`RoleExport.render_read_back`): its JSON form is read back as the export itself, and its lines are
those of its groups, with lists of actions in JSON inside quoted fields.
-/

set_option autoImplicit false

namespace Gatehouse

open Record
open Json (Plain)

/-! ## The JSON form -/

/-- Reads an action of an export. -/
def ExportAction.ofJson (v : Json) : Except ReadError ExportAction :=
  let l : Layout := ⟨"ExportAction", 2⟩
  l.read v fun s =>
    Parts.of ExportAction.mk
      |>.and (l.take s (.required 0 "action" Json.toText))
      |>.and (l.take s (.required 1 "unsupported" Json.toBool))

/-- Reads a group of an export. -/
def GrantGroup.ofJson (v : Json) : Except ReadError GrantGroup :=
  let l : Layout := ⟨"GrantGroup", 7⟩
  l.read v fun s =>
    Parts.of (fun area item itemId held disabled available unsupported =>
        GrantGroup.mk ⟨area, item, itemId⟩ held disabled available unsupported)
      |>.and (l.take s (.required 0 "section" Json.toText))
      |>.and (l.take s (.optional 1 "item" Json.toText))
      |>.and (l.take s (.optional 2 "item_id" Json.toInt32))
      |>.and (l.take s (.required 3 "have" (Json.toList ExportAction.ofJson)))
      |>.and (l.take s (.required 4 "disabled" (Json.toList ExportAction.ofJson)))
      |>.and (l.take s (.required 5 "available" (Json.toList ExportAction.ofJson)))
      |>.and (l.take s (.required 6 "unsupported" Json.toBool))

/-- Reads an export. -/
def RoleExport.ofJson (v : Json) : Except ReadError RoleExport :=
  let l : Layout := ⟨"RoleExport", 6⟩
  l.read v fun s =>
    Parts.of (fun id name canLogin isAdmin privateLabels groups =>
        RoleExport.mk id name ⟨canLogin, isAdmin, privateLabels⟩ groups)
      |>.and (l.take s (.required 0 "id" RoleId.ofJson))
      |>.and (l.take s (.required 1 "name" Json.toText))
      |>.and (l.take s (.required 2 "can_login" Json.toBool))
      |>.and (l.take s (.required 3 "is_admin" Json.toBool))
      |>.and (l.take s (.required 4 "private_labels" Json.toBool))
      |>.and (l.take s (.required 5 "groups" (Json.toList GrantGroup.ofJson)))

theorem ExportAction.ofJson_normal (a : ExportAction) : ofJson a.toJson.normal = .ok a := by
  have hkeys : ["action", "unsupported"].Nodup := by decide
  simp only [toJson, Json.normal, Json.normalMembers, ofJson, Layout.read, Layout.take_arranged,
    List.map_cons, List.map_nil, hkeys]
  simp [Layout.take, Layout.ranked, Field.required, Json.member?, Json.lookup_cons_eq_ite,
    Json.toText, Json.toBool]
  rfl

theorem GrantGroup.ofJson_normal (g : GrantGroup) : ofJson g.toJson.normal = .ok g := by
  have hkeys : ["section", "item", "item_id", "have", "disabled", "available",
    "unsupported"].Nodup := by decide
  simp only [toJson, Json.normal, Json.normalMembers, ofJson, Layout.read, Layout.take_arranged,
    List.map_cons, List.map_nil, hkeys]
  simp [Layout.take, Layout.ranked, Field.required, Field.optional, Json.member?,
    Json.lookup_cons_eq_ite, Json.toText, Json.toBool, Json.orNull_toText, Json.orNull_toInt32,
    Json.toList_normalItems ExportAction.ofJson_normal]
  rfl

theorem RoleExport.ofJson_normal (e : RoleExport) : ofJson e.toJson.normal = .ok e := by
  have hkeys : ["id", "name", "can_login", "is_admin", "private_labels", "groups"].Nodup := by
    decide
  simp only [toJson, Json.normal, Json.normalMembers, ofJson, Layout.read, Layout.take_arranged,
    List.map_cons, List.map_nil, hkeys]
  simp [Layout.take, Layout.ranked, Field.required, Json.member?, Json.lookup_cons_eq_ite,
    Json.toText, Json.toBool, RoleId.ofJson_normal,
    Json.toList_normalItems GrantGroup.ofJson_normal]
  rfl

theorem ExportAction.plain_toJson {room : Nat} (a : ExportAction) : Plain (room + 1) a.toJson := by
  refine .object ?_
  simp [Plain.text, Plain.bool]

theorem GrantGroup.plain_toJson {room : Nat} (g : GrantGroup) : Plain (room + 3) g.toJson := by
  have hactions : ∀ as : List ExportAction, Plain (room + 2) (.array (as.map (·.toJson))) :=
    .array_map ExportAction.plain_toJson
  refine .object ?_
  simp [Plain.text, Plain.bool, Plain.ofText?, Plain.ofInt32?, hactions]

theorem RoleExport.plain_toJson {room : Nat} (e : RoleExport) : Plain (room + 5) e.toJson := by
  have hgroups : Plain (room + 4) (.array (e.groups.map (·.toJson))) :=
    .array_map GrantGroup.plain_toJson _
  refine .object ?_
  simp [Plain.text, Plain.bool, RoleId.toJson, Plain.ofInt32, hgroups]

/-! ## The lines -/

namespace RoleExport

/-- The field is an array of the names of these actions. -/
def Names (field : String) (actions : List ExportAction) : Prop :=
  Json.read field = some (.ofTexts (actions.map (·.action)))

theorem names_actionsField (actions : List ExportAction) :
    Names (actionsField actions) actions := by
  have hread := (Plain.ofTexts (actions.map (·.action))).read_compact
  have hnormal : (Json.ofTexts (actions.map (·.action))).normal =
      .ofTexts (actions.map (·.action)) := by
    simp [Json.ofTexts, Json.normal, Json.normalItems_eq_map]
  rwa [hnormal] at hread

/-- The line tells what the export says about a group of it. -/
def Tells (e : RoleExport) (g : GrantGroup) (line : List String) : Prop :=
  ∃ held disabled available : String,
    line = [e.id.text, e.name, truthText e.flags.canLogin, truthText e.flags.isAdmin,
      truthText e.flags.privateLabels, g.key.area, g.key.item.getD "",
      (g.key.itemId.map showInt32).getD "", held, disabled, available, truthText g.unsupported] ∧
    Names held g.held ∧ Names disabled g.disabled ∧ Names available g.available

theorem tells_record (e : RoleExport) (g : GrantGroup) : e.Tells g (e.record g) :=
  ⟨_, _, _, rfl, names_actionsField _, names_actionsField _, names_actionsField _⟩

/-- The lines of an export are read back as they were before they were written. -/
theorem read?_render_csv (e : RoleExport) : Csv.read? (e.render .csv) = some e.records := by
  refine Csv.read?_text fun fields hfields => ?_
  rcases List.mem_cons.1 hfields with rfl | hfields
  · exact List.cons_ne_nil _ _
  · obtain ⟨g, -, rfl⟩ := List.mem_map.1 hfields
    exact List.cons_ne_nil _ _

/-- **An export is read back from its texts, whatever characters its names are made of.**  The lines
are a header of twelve columns and one line for each group, in order; the JSON form is read back as
the export itself. -/
theorem render_read_back (e : RoleExport) :
    (∃ lines, Csv.read? (e.render .csv) = some (header :: lines) ∧ header.length = 12 ∧
      List.Forall₂ e.Tells e.groups lines) ∧
    ∃ v, Json.read (e.render .json) = some v ∧ ofJson v = .ok e := by
  refine ⟨⟨e.groups.map e.record, e.read?_render_csv, rfl, ?_⟩, e.toJson.normal, ?_,
    e.ofJson_normal⟩
  · rw [List.forall₂_map_right_iff]
    exact List.forall₂_same.2 fun g _ => e.tells_record g
  · exact Plain.read_pretty e.plain_toJson

end RoleExport

end Gatehouse
