import Gatehouse.Proofs.Action
import Gatehouse.Proofs.Environment.Guess
import Gatehouse.Proofs.Setting.Path
import Gatehouse.Settings

/-!
# Settings that are texts

The address of the database and the path of the file with further scenarios are texts, and each is
made by a variable of the environment.  The value of the variable is guessed at and written out
again before it is a text, so not every text arrives: `007` comes as `7`, `TRUE` as `true` and
`1.50` as `1.5` (`leading_zeros_are_lost`).  `text_settings_arrive` says which do.

Variables are known by their names in lower case, and two of them may name one setting, as
`authz_database__url` and `AUTHZ_DATABASE__URL` do, or a part of the settings that the other one
is in.  Only one of two such values can stand in the end, so the theorem is about a variable whose
place no other one is written in (`TextSetting.displacedBy`).
-/

set_option autoImplicit false

namespace Gatehouse

open Setting

/-! ## Reading along a path -/

namespace Setting

variable {α : Type}

theorem mapError_eq_ok_iff {x : Except Fault α} {f : Fault → Fault} {a : α} :
    x.mapError f = .ok a ↔ x = .ok a := by
  cases x <;> simp [Except.mapError]

/-- What stands at a path of two names. -/
theorem at?_pair_eq_some {n m : String} {s w : Setting} :
    at? [n, m] s = some w ↔
      ∃ t, s.membersOf.lookup n = some t ∧ t.membersOf.lookup m = some w := by
  simp [at?, Option.bind_eq_some_iff]

/-- What is taken from a table is read off the member with the name of the field. -/
theorem Layout.read_of_take {l : Layout} {s v : Setting} {f : Field α} {a : α}
    (hv : s.membersOf.lookup f.name = some v) (h : l.take s f = .ok a) : f.read v = .ok a := by
  cases s with
  | scalar origin x => cases hv
  | list origin items => cases hv
  | table origin members =>
    rw [membersOf] at hv
    rw [take, hv] at h
    exact mapError_eq_ok_iff.1 h

theorem toOption_of_toText {w : Setting} {text : String} (h : toText w = .ok text) :
    toOption toText w = .ok (some text) := by
  unfold toOption
  split
  · cases h
  · rw [h]
    rfl

/-- A text is read off single values only. -/
theorem isSingle_of_toOption {w : Setting} {text : Option String}
    (h : toOption toText w = .ok text) : w.isSingle = true := by
  cases w with
  | scalar origin x => rfl
  | list origin items => cases h
  | table origin members => cases h

end Setting

/-! ## The settings -/

/-- The settings that are any texts. -/
inductive TextSetting where
  /-- Where the database is. -/
  | databaseUrl
  /-- The file with further scenarios. -/
  | templatesPath
deriving DecidableEq, Repr

namespace TextSetting

/-- The variable that a setting is made by. -/
def varName : TextSetting → String
  | databaseUrl => "AUTHZ_DATABASE__URL"
  | templatesPath => "AUTHZ_TEMPLATES__PATH"

/-- Where it stands among the settings. -/
def path : TextSetting → List String
  | databaseUrl => ["database", "url"]
  | templatesPath => ["templates", "path"]

/-- Its value. -/
def of (s : Settings) : TextSetting → Option String
  | databaseUrl => s.database.url
  | templatesPath => s.templates

/-- Whether a variable is written in the place of a setting. -/
def displacedBy (k : TextSetting) (name : String) : Bool :=
  (Environment.keyOf? name).any fun key => displaces (pathOf key) k.path

variable {k : TextSetting}

theorem exists_key (k : TextSetting) :
    ∃ key, Environment.keyOf? k.varName = some key ∧ pathOf key = k.path.map .name := by
  cases k with
  | databaseUrl =>
    refine ⟨"database.url", ?_, by decide +kernel⟩
    rw [varName, Environment.keyOf?, lowercase_eq_map (by decide)]
    decide +kernel
  | templatesPath =>
    refine ⟨"templates.path", ?_, by decide +kernel⟩
    rw [varName, Environment.keyOf?, lowercase_eq_map (by decide)]
    decide +kernel

/-- The setting is read off what stands at its path. -/
theorem read_of_ofSetting {t w : Setting} {s : Settings} (hw : at? k.path t = some w)
    (h : Settings.ofSetting t = .ok s) : toOption toText w = .ok (k.of s) := by
  simp only [Settings.ofSetting, except_bind_eq_ok_iff] at h
  obtain ⟨d, hd, l, -, p, hp, hs⟩ := h
  cases hs
  cases k with
  | databaseUrl =>
    obtain ⟨table, htable, hv⟩ := at?_pair_eq_some.1 hw
    have hread := Layout.read_of_take htable hd
    simp only [Field.required, DatabaseSettings.ofSetting, except_bind_eq_ok_iff] at hread
    obtain ⟨url, hurl, _, -, _, -, _, -, _, -, _, -, hd⟩ := hread
    cases hd
    exact Layout.read_of_take hv hurl
  | templatesPath =>
    obtain ⟨table, htable, hv⟩ := at?_pair_eq_some.1 hw
    exact Layout.read_of_take hv (Layout.read_of_take htable hp)

/-- The value of the variable stands at the path of the setting, unless a table or a list does. -/
theorem kept_settings {text : String} {e : Environment} (hset : (k.varName, text) ∈ e)
    (hothers : ∀ v ∈ e, v ≠ (k.varName, text) → k.displacedBy v.1 = false) (s : Setting) :
    Kept k.path (.scalar (some Environment.origin) (Environment.guess text))
      (s.putAll e.settings) := by
  obtain ⟨key, hkey, hpath⟩ := k.exists_key
  have hsetting : Environment.setting? (k.varName, text) =
      some (key, .scalar (some Environment.origin) (Environment.guess text)) := by
    rw [Environment.setting?, hkey, Option.map_some]
  refine kept_putAll hpath (fun m hm => ?_) (.inl (List.mem_filterMap.2 ⟨_, hset, hsetting⟩))
  obtain ⟨v, hv, hm⟩ := List.mem_filterMap.1 hm
  by_cases heq : v = (k.varName, text)
  · left
    rw [heq, hsetting] at hm
    exact (Option.some.inj hm).symm
  · right
    obtain ⟨other, hother, rfl⟩ := Option.map_eq_some_iff.1 hm
    have hfree := hothers v hv heq
    rwa [displacedBy, hother, Option.any_some] at hfree

end TextSetting

/-- What is read where the value of a variable stands: what arrives of the value. -/
theorem exists_arrives_of_kept {q : List String} {t : Setting} {text : String}
    {origin shown : Option String} (hkept : Kept q (.scalar origin (Environment.guess text)) t)
    (h : ∀ w, at? q t = some w → toOption toText w = .ok shown) :
    ∃ s, shown = some s ∧ Arrives text s := by
  obtain ⟨w, hw, hkept⟩ := hkept
  have hread := h w hw
  rcases hkept with rfl | hmany
  · obtain ⟨s, hs⟩ := exists_arrives text
    rw [toOption_of_toText (toText_guess hs)] at hread
    exact ⟨s, (Except.ok.inj hread).symm, hs⟩
  · rw [isSingle_of_toOption hread] at hmany
    cases hmany

/-- **What arrives of a setting that is a text.**  Whenever the settings can be loaded from an
environment with the variable of the setting, and no other variable takes its place, the setting is
there, and it is the value of the variable or what that looks like, written out again.  It is the
value itself exactly if the value stays: addresses and paths do, once they have a mark and a
character that no number has. -/
theorem text_settings_arrive {k : TextSetting} {e : Environment} {isFile : String → Bool}
    {s : Settings} {text : String} (hset : (k.varName, text) ∈ e)
    (hothers : ∀ v ∈ e, v ≠ (k.varName, text) → k.displacedBy v.1 = false)
    (h : Settings.load e isFile = .ok s) :
    (∃ shown, k.of s = some shown ∧ Arrives text shown) ∧
      (k.of s = some text ↔ Stays text) ∧
      ((∃ c ∈ text.toList, c ∈ marks) → (∃ c ∈ text.toList, isNumeral c = false) →
        k.of s = some text) := by
  have hread : Settings.ofEnvironment e = .ok s := by
    simp only [Settings.load, except_bind_eq_ok_iff] at h
    obtain ⟨r, hr, -, -, hs⟩ := h
    cases hs
    exact hr
  obtain ⟨shown, hshown, harrives⟩ := exists_arrives_of_kept (k.kept_settings hset hothers _)
    fun w hw => TextSetting.read_of_ofSetting hw hread
  have hstays : k.of s = some text ↔ Stays text := by
    rw [hshown, Option.some_inj, ← arrives_self_iff]
    exact ⟨fun heq => heq ▸ harrives, harrives.unique⟩
  refine ⟨⟨shown, hshown, harrives⟩, hstays, fun hmark hother => ?_⟩
  exact hstays.2 (.bare (isBareText_of_mark hmark hother))

/-- The address of a database arrives as it stands: it has a slash and a letter, so it is neither a
number nor a word for something else. -/
theorem text_settings_arrive_postgres :
    let e := [("AUTHZ_LOGGING__LEVEL", "WARN"), ("AUTHZ_DATABASE__URL", "postgres://db")]
    let s : Settings :=
      ⟨⟨some "postgres://db", 4, 1, 10, 300, 1800⟩, ⟨"WARN", "compact"⟩, none⟩
    Settings.load e (fun _ => false) = .ok s ∧
      TextSetting.databaseUrl.of s = some "postgres://db" := by
  intro e s
  have h : Settings.load e (fun _ => false) = .ok s := by decide +kernel
  have hset : (TextSetting.databaseUrl.varName, "postgres://db") ∈ e := by decide
  have harrives := text_settings_arrive hset (by decide +kernel) h
  exact ⟨h, harrives.2.2 ⟨'/', by decide, by decide⟩ ⟨'p', by decide, by decide⟩⟩

/-- Not every text arrives, even if no name occurs twice. -/
theorem leading_zeros_are_lost :
    ¬∀ (k : TextSetting) (e : Environment) (isFile : String → Bool) (s : Settings) (text : String),
      (e.map Prod.fst).Nodup → (k.varName, text) ∈ e → Settings.load e isFile = .ok s →
        k.of s = some text := by
  intro h
  have hshort := h .databaseUrl [("AUTHZ_DATABASE__URL", "007")] (fun _ => false)
    ⟨⟨some "7", 4, 1, 10, 300, 1800⟩, ⟨"info", "compact"⟩, none⟩ "007" (by decide) (by decide)
    (by decide +kernel)
  revert hshort
  decide

end Gatehouse
