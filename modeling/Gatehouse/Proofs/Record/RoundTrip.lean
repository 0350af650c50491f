import Gatehouse.Proofs.Record
import Gatehouse.Proofs.Stamp

/-!
# Records are read back from their JSON forms

Writing a record and reading it are two tables of fields that nothing ties together: names, places,
what may be null or missing, what stands for a missing field.  Here they are compared, record by
record (`records_are_read_back`).

An encoder lists the members of an object as the record declares them, and the reader of texts puts
them in the order of their keys.  So the lemma for a record is about both at once: it takes what is
written for the record through a map that changes nothing but the order of members
(`Json.Reorders`).  The lemmas for nested records are used on the same map.
-/

set_option autoImplicit false

namespace Gatehouse

open Std Record

namespace Json

/-! ## Members in another order -/

/-- Where keys differ, their order does not matter to look-ups. -/
theorem member?_perm {ms ms' : List (String × Json)} (hperm : ms.Perm ms')
    (h : (ms.map Prod.fst).Nodup) (key : String) : member? key ms = member? key ms' := by
  induction hperm with
  | nil => rfl
  | cons m _ ih =>
    rw [member?, member?, lookup_cons_eq_ite, lookup_cons_eq_ite]
    rw [List.map_cons, List.nodup_cons] at h
    exact ite_congr rfl (fun _ => rfl) fun _ => ih h.2
  | swap m m' ms =>
    have hne : m'.1 ≠ m.1 := by
      simp only [List.map_cons, List.nodup_cons, List.mem_cons, not_or] at h
      exact h.1.1
    simp only [member?, lookup_cons_eq_ite]
    split_ifs <;> simp_all
  | trans hperm _ ih ih' =>
    exact (ih h).trans (ih' ((hperm.map Prod.fst).nodup_iff.1 h))

/-- Of a key that is new, the member goes in between the others. -/
theorem putMember_perm {key : String} {v : Json} {ms : List (String × Json)}
    (h : key ∉ ms.map Prod.fst) : (putMember key v ms).Perm ((key, v) :: ms) := by
  induction ms with
  | nil => exact .refl _
  | cons m ms ih =>
    obtain ⟨k, w⟩ := m
    rw [List.map_cons, List.mem_cons, not_or] at h
    rw [putMember]
    split
    · exact .refl _
    · rename_i heq
      exact absurd (LawfulEqCmp.eq_of_compare heq) h.1
    · exact ((ih h.2).cons _).trans (.swap _ _ _)

/-- Where keys differ, the ordered members are the members in another order. -/
theorem arranged_perm {ms : List (String × Json)} (h : (ms.map Prod.fst).Nodup) :
    (arranged ms).Perm ms := by
  suffices hfold : ∀ done : List (String × Json), ((ms ++ done).map Prod.fst).Nodup →
      (ms.foldl (fun done m => putMember m.1 m.2 done) done).Perm (ms ++ done) by
    have hall := hfold [] (by simpa using h)
    rwa [List.append_nil] at hall
  clear h
  induction ms with
  | nil => exact fun done _ => .refl _
  | cons m ms ih =>
    intro done hdone
    have hput : (putMember m.1 m.2 done).Perm (m :: done) := by
      refine putMember_perm fun hm => ?_
      rw [List.cons_append, List.map_cons, List.nodup_cons, List.map_append] at hdone
      exact hdone.1 (List.mem_append_right _ hm)
    have hmove : (ms ++ putMember m.1 m.2 done).Perm (m :: ms ++ done) :=
      (hput.append_left ms).trans List.perm_middle
    exact (ih _ ((hmove.map Prod.fst).nodup_iff.2 hdone)).trans hmove

/-! ## Forms of a value -/

/-- The map changes nothing but the order of the members of objects. -/
structure Reorders (f : Json → Json) : Prop where
  /-- Null stays null. -/
  null : f .null = .null
  /-- Truth values stay. -/
  bool : ∀ b, f (.bool b) = .bool b
  /-- Integers stay. -/
  int : ∀ n, f (.int n) = .int n
  /-- Texts stay. -/
  text : ∀ s, f (.text s) = .text s
  /-- The items of an array stay in their places. -/
  array : ∀ vs, f (.array vs) = .array (vs.map f)
  /-- Where keys differ, an object has the same members. -/
  object : ∀ ms : List (String × Json), (ms.map Prod.fst).Nodup →
    ∃ ms', f (.object ms) = .object ms' ∧ ms'.Perm (ms.map fun m => (m.1, f m.2))

theorem reorders_id : Reorders id where
  null := rfl
  bool _ := rfl
  int _ := rfl
  text _ := rfl
  array vs := by simp
  object ms _ := ⟨ms, rfl, by simp⟩

theorem reorders_normal : Reorders normal where
  null := rfl
  bool _ := rfl
  int _ := rfl
  text _ := rfl
  array vs := by rw [normal, normalItems_eq_map]
  object ms h := by
    refine ⟨arranged (normalMembers ms), rfl, ?_⟩
    rw [normalMembers_eq_map]
    refine arranged_perm ?_
    rwa [List.map_map]

namespace Reorders

variable {f : Json → Json} {α : Type} {read : Json → Except ReadError α} {write : α → Json}

/-- Members are found in an object with other order as in the one that was written. -/
theorem members (hf : Reorders f) {ms : List (String × Json)} (h : (ms.map Prod.fst).Nodup) :
    ∃ ms', f (.object ms) = .object ms' ∧ ∀ key, member? key ms' = (ms.lookup key).map f := by
  obtain ⟨ms', hobject, hperm⟩ := hf.object ms h
  have hkeys : ((ms.map fun m => (m.1, f m.2)).map Prod.fst).Nodup := by rwa [List.map_map]
  refine ⟨ms', hobject, fun key => ?_⟩
  rw [member?_perm hperm ((hperm.map Prod.fst).nodup_iff.2 hkeys), member?]
  clear hkeys hperm hobject h
  induction ms with
  | nil => rfl
  | cons m ms ih =>
    rw [List.map_cons, lookup_cons_eq_ite, lookup_cons_eq_ite, ih]
    split <;> rfl

/-- A record is read from an object in another order if its fields are there. -/
theorem read_object (hf : Reorders f) {ms : List (String × Json)} (h : (ms.map Prod.fst).Nodup)
    {l : Layout} {build : Source → Parts α} {a : α}
    (hbuild : ∀ ms', (∀ key, member? key ms' = (ms.lookup key).map f) →
      build (.members ms') = .ok a) :
    l.read (f (.object ms)) build = .ok a := by
  obtain ⟨ms', hobject, hmember⟩ := hf.members h
  rw [hobject, Layout.read, hbuild ms' hmember]
  rfl

theorem single (hf : Reorders f) (key : String) (v : Json) :
    f (.object [(key, v)]) = .object [(key, f v)] := by
  obtain ⟨ms', hobject, hperm⟩ := hf.object [(key, v)] (by simp)
  rw [hobject, List.perm_singleton.1 hperm]

theorem toText (hf : Reorders f) (s : String) : Json.toText (f (.text s)) = .ok s := by
  rw [hf.text, Json.toText]

theorem toBool (hf : Reorders f) (b : Bool) : Json.toBool (f (.bool b)) = .ok b := by
  rw [hf.bool, Json.toBool]

theorem toInt32 (hf : Reorders f) (n : Int32) : Json.toInt32 (f (.ofInt32 n)) = .ok n := by
  rw [ofInt32, hf.int, Json.toInt32, int32?_toInt]

theorem orNull_toText (hf : Reorders f) (s : Option String) :
    orNull Json.toText (f (.ofText? s)) = .ok s := by
  cases s with
  | none => rw [ofText?, hf.null, orNull]
  | some s => rw [ofText?, hf.text]; rfl

theorem orNull_toInt32 (hf : Reorders f) (n : Option Int32) :
    orNull Json.toInt32 (f (.ofInt32? n)) = .ok n := by
  cases n with
  | none => rw [ofInt32?, hf.null, orNull]
  | some n => simp [ofInt32?, hf.int, orNull, Json.toInt32, Except.map]

theorem orNull_toStamp (hf : Reorders f) (t : Option Stamp) :
    orNull Json.toStamp (f (Stamp.toJson? t)) = .ok t := by
  cases t with
  | none => rw [Stamp.toJson?, hf.null, orNull]
  | some t =>
    simp [Stamp.toJson?, hf.text, orNull, Json.toStamp, Stamp.read_text, Except.map,
      Except.mapError]

/-- Lists are read back if their items are. -/
theorem toList (hf : Reorders f) (h : ∀ a, read (f (write a)) = .ok a) (as : List α) :
    Json.toList read (f (.array (as.map write))) = .ok as := by
  rw [hf.array]
  exact toList_map h as

end Reorders

end Json

open Json (Reorders)

/-! ## Records -/

section Records

variable {f : Json → Json}

theorem RoleId.ofJson_toJson (hf : Reorders f) (id : RoleId) : ofJson (f id.toJson) = .ok id := by
  rw [ofJson, toJson, hf.toInt32, Except.map]

theorem UserId.ofJson_toJson (hf : Reorders f) (id : UserId) : ofJson (f id.toJson) = .ok id := by
  rw [ofJson, toJson, hf.toInt32, Except.map]

theorem GrantId.ofJson_toJson (hf : Reorders f) (id : GrantId) : ofJson (f id.toJson) = .ok id := by
  rw [ofJson, toJson, hf.toInt32, Except.map]

theorem Rule.ofJson_toJson (hf : Reorders f) (r : Rule) : ofJson (f r.toJson) = .ok r := by
  rw [toJson, hf.text]
  cases r <;> rfl

theorem Owner.ofJson_toJson (hf : Reorders f) (o : Owner) : ofJson (f o.toJson) = .ok o := by
  cases o with
  | role id =>
    have hid := RoleId.ofJson_toJson hf id
    rw [toJson, hf.single]
    simp [ofJson, Json.toChoice, bind, Except.bind, hid]
    rfl
  | user id =>
    have hid := UserId.ofJson_toJson hf id
    rw [toJson, hf.single]
    simp [ofJson, Json.toChoice, bind, Except.bind, hid]
    rfl

theorem Role.ofJson_toJson (hf : Reorders f) (r : Role) : ofJson (f r.toJson) = .ok r := by
  simp only [ofJson, toJson]
  refine hf.read_object ?_ fun ms hmember => ?_
  · simp
  simp [Layout.take, Layout.ranked, Field.required, Field.optional, hmember,
    Json.lookup_cons_eq_ite, RoleId.ofJson_toJson hf, hf.toText, hf.toBool, hf.orNull_toStamp]
  rfl

theorem Link.ofJson_toJson (hf : Reorders f) (l : Link) : ofJson (f l.toJson) = .ok l := by
  simp only [ofJson, toJson]
  refine hf.read_object ?_ fun ms hmember => ?_
  · simp
  simp [Layout.take, Layout.ranked, Field.required, hmember, Json.lookup_cons_eq_ite,
    UserId.ofJson_toJson hf, RoleId.ofJson_toJson hf]
  rfl

theorem Grant.ofJson_toJson (hf : Reorders f) (g : Grant) : ofJson (f g.toJson) = .ok g := by
  simp only [ofJson, toJson]
  refine hf.read_object ?_ fun ms hmember => ?_
  · simp
  simp [Layout.take, Layout.ranked, Field.required, Field.optional, hmember,
    Json.lookup_cons_eq_ite, GrantId.ofJson_toJson hf, Owner.ofJson_toJson hf,
    Rule.ofJson_toJson hf, hf.toText, hf.toBool, hf.orNull_toText, hf.orNull_toInt32]
  rfl

theorem GrantLine.ofJson_toJson (hf : Reorders f) (l : GrantLine) :
    ofJson (f l.toJson) = .ok l := by
  simp only [ofJson, toJson]
  refine hf.read_object ?_ fun ms hmember => ?_
  · simp
  simp [Layout.take, Layout.ranked, Field.required, Field.defaulted, hmember,
    Json.lookup_cons_eq_ite, hf.toText, hf.orNull_toText, hf.orNull_toInt32]
  rfl

theorem RoleTemplate.ofJson_toJson (hf : Reorders f) (t : RoleTemplate) :
    ofJson (f t.toJson) = .ok t := by
  have hlines := hf.toList (GrantLine.ofJson_toJson hf) t.lines
  simp only [ofJson, toJson]
  refine hf.read_object ?_ fun ms hmember => ?_
  · simp
  simp [Layout.take, Layout.ranked, Field.required, Field.defaulted, hmember,
    Json.lookup_cons_eq_ite, hf.toText, hf.toBool, hlines]
  rfl

theorem Scenario.ofJson_toJson (hf : Reorders f) (s : Scenario) : ofJson (f s.toJson) = .ok s := by
  have hroles := hf.toList (RoleTemplate.ofJson_toJson hf) s.roles
  simp only [ofJson, toJson]
  refine hf.read_object ?_ fun ms hmember => ?_
  · simp
  simp [Layout.take, Layout.ranked, Field.required, Field.defaulted, hmember,
    Json.lookup_cons_eq_ite, hf.toText, hroles]
  rfl

end Records

/-- What is written for a value is read as this value. -/
structure ReadBack {α : Type} (write : α → Json) (read : Json → Except ReadError α) : Prop where
  /-- It is, with the members of objects in the order in which they are written. -/
  written : ∀ a, read (write a) = .ok a
  /-- It is, with the members of objects in the order of their keys. -/
  arranged : ∀ a, read (write a).normal = .ok a
  /-- What is written for a value that was read is read as this value again. -/
  again : ∀ v, (do read (write (← read v))) = read v

theorem ReadBack.of_reorders {α : Type} {write : α → Json} {read : Json → Except ReadError α}
    (h : ∀ f, Reorders f → ∀ a, read (f (write a)) = .ok a) : ReadBack write read where
  written := h id Json.reorders_id
  arranged := h Json.normal Json.reorders_normal
  again v := by
    cases hread : read v with
    | error e => rfl
    | ok a => exact h id Json.reorders_id a

/-- **Records are read back from their JSON forms.**  Roles, links, grants, owners, rules, and the
lines, roles and scenarios of templates are read as what was written, whatever their texts, numbers
and lists are and whichever fields are not set; so a value that can be read at all settles after it
has been read and written once. -/
theorem records_are_read_back :
    ReadBack Role.toJson Role.ofJson ∧ ReadBack Link.toJson Link.ofJson ∧
      ReadBack Grant.toJson Grant.ofJson ∧ ReadBack Owner.toJson Owner.ofJson ∧
      ReadBack Rule.toJson Rule.ofJson ∧ ReadBack GrantLine.toJson GrantLine.ofJson ∧
      ReadBack RoleTemplate.toJson RoleTemplate.ofJson ∧
      ReadBack Scenario.toJson Scenario.ofJson :=
  ⟨.of_reorders fun _ => Role.ofJson_toJson, .of_reorders fun _ => Link.ofJson_toJson,
    .of_reorders fun _ => Grant.ofJson_toJson, .of_reorders fun _ => Owner.ofJson_toJson,
    .of_reorders fun _ => Rule.ofJson_toJson, .of_reorders fun _ => GrantLine.ofJson_toJson,
    .of_reorders fun _ => RoleTemplate.ofJson_toJson, .of_reorders fun _ => Scenario.ofJson_toJson⟩

end Gatehouse
