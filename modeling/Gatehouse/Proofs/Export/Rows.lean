import Gatehouse.Proofs.Export.Group
import Gatehouse.Proofs.Export.Text
import Mathlib.Data.List.Nodup

/-!
# Which lines of an export look alike

A line shows its scope in three columns, with nothing in the column of a part that is not set.  Two
scopes look alike only if one of them is a whole section and the other the item of this section that
has no name (`GroupKey.columns_eq_iff`), since numbers are never written as nothing and an instance
always comes with an item.

So the lines of an export tell their scopes apart unless the role has both kinds of grants in one
section (`nodup_scopeColumns_iff`).  Nothing keeps them out of a store: lines of templates take an
item without a name for none, and so does the list of known permissions, but a grant may be stored
with it.
-/

set_option autoImplicit false

namespace Gatehouse

/-- A scope as its columns show it. -/
def GroupKey.columns (k : GroupKey) : List String :=
  [k.area, k.item.getD "", (k.itemId.map showInt32).getD ""]

/-- The columns of a line that show the scope. -/
def scopeColumns (line : List String) : List String := (line.drop 5).take 3

namespace GroupKey

/-- The first scope is a section and the second one its item without a name. -/
structure Shadows (k l : GroupKey) : Prop where
  /-- They are in one section. -/
  area : k.area = l.area
  /-- The first one is the whole section. -/
  whole : k.item = none
  /-- The second one is on the item without a name. -/
  nameless : l.item = some ""
  /-- It is on all its instances. -/
  anyInstance : l.itemId = none

/-- Numbers are told apart by their columns, also from none. -/
theorem itemId_column_inj {m n : Option Int32} :
    (m.map showInt32).getD "" = (n.map showInt32).getD "" ↔ m = n := by
  cases m <;> cases n <;> simp [showInt32_inj, showInt32_ne_empty, (showInt32_ne_empty _).symm]

theorem item_column_eq_iff {i j : Option String} :
    i.getD "" = j.getD "" ↔ i = j ∨ i = none ∧ j = some "" ∨ i = some "" ∧ j = none := by
  cases i <;> cases j <;> simp [eq_comm]

/-- Scopes look alike if they are one, or if one of them shadows the other. -/
theorem columns_eq_iff {k l : GroupKey} (hk : k.Proper) (hl : l.Proper) :
    k.columns = l.columns ↔ k = l ∨ k.Shadows l ∨ l.Shadows k := by
  have hcolumns : k.columns = l.columns ↔
      k.area = l.area ∧ k.item.getD "" = l.item.getD "" ∧ k.itemId = l.itemId := by
    simp only [columns, List.cons.injEq, itemId_column_inj, and_true]
  rw [hcolumns, item_column_eq_iff]
  constructor
  · rintro ⟨harea, hitem | ⟨hwhole, hnameless⟩ | ⟨hnameless, hwhole⟩, hid⟩
    · obtain ⟨area, item, id⟩ := k
      obtain rfl : area = l.area := harea
      obtain rfl : item = l.item := hitem
      obtain rfl : id = l.itemId := hid
      exact .inl rfl
    · exact .inr (.inl ⟨harea, hwhole, hnameless, hid.symm.trans (itemId_eq_none hk hwhole)⟩)
    · exact .inr (.inr ⟨harea.symm, hwhole, hnameless, hid.trans (itemId_eq_none hl hwhole)⟩)
  · rintro (rfl | h | h)
    · exact ⟨rfl, .inl rfl, rfl⟩
    · exact ⟨h.area, .inr (.inl ⟨h.whole, h.nameless⟩),
        (itemId_eq_none hk h.whole).trans h.anyInstance.symm⟩
    · exact ⟨h.area.symm, .inr (.inr ⟨h.nameless, h.whole⟩),
        h.anyInstance.trans (itemId_eq_none hl h.whole).symm⟩

theorem Shadows.ne {k l : GroupKey} (h : k.Shadows l) : k ≠ l := by
  rintro rfl
  have hitem := h.nameless
  rw [h.whole] at hitem
  cases hitem

/-- Different scopes have different columns if none of them shadows another one. -/
theorem nodup_columns_iff {ks : List GroupKey} (hks : ks.Nodup) (hproper : ∀ k ∈ ks, k.Proper) :
    (ks.map columns).Nodup ↔ ∀ k ∈ ks, ∀ l ∈ ks, ¬ k.Shadows l := by
  rw [List.nodup_map_iff_inj_on hks]
  constructor
  · intro h k hk l hl hshadows
    refine hshadows.ne (h k hk l hl ?_)
    exact (columns_eq_iff (hproper k hk) (hproper l hl)).2 (.inr (.inl hshadows))
  · intro h k hk l hl hcolumns
    rcases (columns_eq_iff (hproper k hk) (hproper l hl)).1 hcolumns with hkl | hkl | hkl
    · exact hkl
    · exact absurd hkl (h k hk l hl)
    · exact absurd hkl (h l hl k hk)

end GroupKey

namespace Store

/-- The lines of the groups of a role show the scopes of its grants. -/
theorem map_scopeColumns_record (s : Store) (role : Role) :
    ((s.roleExport role).groups.map (s.roleExport role).record).map scopeColumns =
      (groupKeys (s.grantsOfRole role.id)).map GroupKey.columns := by
  rw [← RoleExport.map_key_groups role, List.map_map, List.map_map]
  rfl

end Store

/-- **The lines of an export tell their scopes apart exactly if the role has no two grants in one
section of which one is on the whole section and the other on the item without a name.** -/
theorem nodup_scopeColumns_iff (now : Stamp) {s : Store} (hs : s.Reachable) {role : Role}
    (hrole : role ∈ s.roles) :
    ∃ text lines, ((Backend.memory now).exportText role.name .csv).run s = (.ok text, s) ∧
      Csv.read? text = some (RoleExport.header :: lines) ∧
      ((lines.map scopeColumns).Nodup ↔
        ∀ g ∈ s.grants, ∀ g' ∈ s.grants, g.owner = .role role.id → g'.owner = .role role.id →
          ¬ g.groupKey.Shadows g'.groupKey) := by
  refine ⟨_, _, hs.coherent.run_exportText hrole now .csv, RoleExport.read?_render_csv _, ?_⟩
  rw [Store.map_scopeColumns_record, GroupKey.nodup_columns_iff (nodup_groupKeys _)
    fun k => hs.coherent.proper_of_mem_groupKeys]
  simp only [Store.mem_groupKeys_grantsOfRole]
  constructor
  · intro h g hg g' hg' howner howner'
    exact h _ ⟨g, hg, howner, rfl⟩ _ ⟨g', hg', howner', rfl⟩
  · rintro h _ ⟨g, hg, howner, rfl⟩ _ ⟨g', hg', howner', rfl⟩
    exact h g hg g' hg' howner howner'

/-- No item of the teams is without a name, so the lines of the writers differ in their scopes. -/
theorem nodup_scopeColumns_writers :
    teams.Reachable ∧ ⟨⟨1⟩, "writers", ⟨false, false, false⟩, some newYear⟩ ∈ teams.roles ∧
      ∃ text lines,
        ((Backend.memory newYear).exportText "writers" .csv).run teams = (.ok text, teams) ∧
        Csv.read? text = some (RoleExport.header :: lines) ∧ (lines.map scopeColumns).Nodup := by
  have hteams : teams.Reachable := reachableInRange_teams.reachable
  have hrole : ⟨⟨1⟩, "writers", ⟨false, false, false⟩, some newYear⟩ ∈ teams.roles := by
    decide +kernel
  have hnamed : ∀ g ∈ teams.grants.rows, g.item ≠ some "" := by decide +kernel
  obtain ⟨text, lines, hrun, hread, hnodup⟩ := nodup_scopeColumns_iff newYear hteams hrole
  exact ⟨hteams, hrole, text, lines, hrun, hread,
    hnodup.2 fun _ _ g' hg' _ _ hshadows => hnamed g' hg' hshadows.nameless⟩

/-- Calls that let helpers search a section, and see its item without a name. -/
def helperCalls : List Operation :=
  [.createRole { name := "helpers" }, .createGrant (.new (.role ⟨1⟩) "faq" "search"),
    .createGrant ((Draft.new (.role ⟨1⟩) "faq" "see").onItem "")]

/-- The store after these calls. -/
def helpers : Store := Store.empty.afterAll newYear helperCalls

theorem reachableInRange_helpers : helpers.ReachableInRange :=
  ReachableBy.empty.afterAll
    ⟨trivial, by decide, .new _ _ _, by decide, (Draft.Made.new _ _ _).onItem _, by decide, trivial⟩

/-- Two lines of the helpers show one scope. -/
theorem lines_not_told_apart :
    ¬ ∀ (s : Store) (role : Role) (text : String) (lines : List (List String)),
      s.ReachableInRange → role ∈ s.roles →
        ((Backend.memory newYear).exportText role.name .csv).run s = (.ok text, s) →
          Csv.read? text = some (RoleExport.header :: lines) → (lines.map scopeColumns).Nodup := by
  intro h
  have hrole : ⟨⟨1⟩, "helpers", ⟨false, false, false⟩, some newYear⟩ ∈ helpers.roles := by
    decide +kernel
  have hnodup := h helpers _ _ _ reachableInRange_helpers hrole
    (reachableInRange_helpers.coherent.run_exportText hrole newYear .csv)
    (RoleExport.read?_render_csv _)
  rw [Store.map_scopeColumns_record] at hnodup
  exact absurd hnodup (by decide +kernel)

end Gatehouse
