import Gatehouse.Proofs.Json.Spelling

/-!
# What is written is read back

Both layouts of a value spell it, up to the order of the members of its objects, which the reader
puts into the order of their keys: `Json.normal` is the value with all its objects in that order.
So a value that is `Plain`, without numbers that are no integers of 64 bits and not nested too deep,
is read back from either layout as its normal form (`Plain.read_compact`, `Plain.read_pretty`).

The order is nothing to whoever looks members up by their keys: where keys differ,
`member?_arranged` finds in the ordered members what is in the members as they were written.
-/

set_option autoImplicit false

namespace Gatehouse

open Std

namespace Json

open Machine (Blank SpeltItem SpeltMember itemsText entriesText)

/-! ## Normal form -/

mutual

/-- The value with the members of its objects in the order of their keys. -/
def normal : Json → Json
  | .null => .null
  | .bool b => .bool b
  | .int n => .int n
  | .real x => .real x
  | .text s => .text s
  | .array vs => .array (normalItems vs)
  | .object ms => .object (arranged (normalMembers ms))

@[inherit_doc normal] def normalItems : List Json → List Json
  | [] => []
  | v :: vs => normal v :: normalItems vs

@[inherit_doc normal] def normalMembers : List (String × Json) → List (String × Json)
  | [] => []
  | (k, v) :: ms => (k, normal v) :: normalMembers ms

end

theorem normalItems_eq_map (vs : List Json) : normalItems vs = vs.map normal := by
  induction vs with
  | nil => rfl
  | cons v vs ih => rw [normalItems, ih, List.map_cons]

theorem normalMembers_eq_map (ms : List (String × Json)) :
    normalMembers ms = ms.map fun m => (m.1, m.2.normal) := by
  induction ms with
  | nil => rfl
  | cons m ms ih => rw [normalMembers, ih, List.map_cons]

@[simp] theorem normal_ofText? (s : Option String) : (ofText? s).normal = ofText? s := by
  cases s <;> rfl

@[simp] theorem normal_ofInt32? (n : Option Int32) : (ofInt32? n).normal = ofInt32? n := by
  cases n <;> rfl

/-! ## Plain values -/

/-- The value has no numbers but integers of 64 bits, and its arrays and objects are nested at most
`room` deep. -/
inductive Plain : Nat → Json → Prop
  | null {room : Nat} : Plain room .null
  | bool {room : Nat} (b : Bool) : Plain room (.bool b)
  | int {room : Nat} {n : Int} (word : IsWord n) : Plain room (.int n)
  | text {room : Nat} (s : String) : Plain room (.text s)
  | array {room : Nat} {vs : List Json} (plain : ∀ v ∈ vs, Plain room v) :
      Plain (room + 1) (.array vs)
  | object {room : Nat} {ms : List (String × Json)} (plain : ∀ m ∈ ms, Plain room m.2) :
      Plain (room + 1) (.object ms)

theorem isWord_toInt (n : Int32) : IsWord n.toInt := by
  have hlow := n.le_toInt
  have hhigh := n.toInt_lt
  rw [IsWord, int64Low, uint64High]
  omega

theorem Plain.ofInt32 {room : Nat} (n : Int32) : Plain room (.ofInt32 n) := .int (isWord_toInt n)

theorem Plain.ofInt32? {room : Nat} (n : Option Int32) : Plain room (.ofInt32? n) := by
  cases n with
  | none => exact .null
  | some n => exact .int (isWord_toInt n)

theorem Plain.ofText? {room : Nat} (s : Option String) : Plain room (.ofText? s) := by
  cases s with
  | none => exact .null
  | some s => exact .text s

/-- A list is plain if its items are. -/
theorem Plain.array_map {α : Type} {room : Nat} {write : α → Json} (h : ∀ a, Plain room (write a))
    (as : List α) : Plain (room + 1) (.array (as.map write)) := by
  refine .array fun v hv => ?_
  obtain ⟨a, -, rfl⟩ := List.mem_map.1 hv
  exact h a

theorem Plain.ofTexts {room : Nat} (xs : List String) : Plain (room + 1) (.ofTexts xs) :=
  .array_map Plain.text xs

/-! ## The two layouts -/

/-- What is put together with commas is the texts of the parts with a comma between them. -/
theorem eq_intercalate {α : Type} {whole : List α → List Char} {part : α → List Char}
    (hnil : whole [] = []) (hone : ∀ a, whole [a] = part a)
    (hcons : ∀ a b rest, whole (a :: b :: rest) = part a ++ ',' :: whole (b :: rest))
    (xs : List α) : whole xs = [','].intercalate (xs.map part) := by
  induction xs with
  | nil => exact hnil
  | cons a xs ih =>
    cases xs with
    | nil => simp [hone]
    | cons b xs => rw [hcons, ih]; simp [List.intercalate_cons_cons]

theorem compactItems_eq (vs : List Json) :
    compactItems vs = [','].intercalate (vs.map compactChars) :=
  eq_intercalate rfl (fun _ => rfl) (fun _ _ _ => rfl) vs

theorem compactMembers_eq (ms : List (String × Json)) :
    compactMembers ms =
      [','].intercalate (ms.map fun m => [] ++ (stringText m.1 ++ ':' :: compactChars m.2)) :=
  eq_intercalate rfl (fun _ => rfl) (fun _ _ _ => by simp [compactMembers]) ms

theorem prettyItems_eq (level : Nat) (vs : List Json) :
    prettyItems level vs =
      [','].intercalate (vs.map fun v => lineStart level ++ prettyChars level v) :=
  eq_intercalate rfl (fun _ => rfl) (fun _ _ _ => rfl) vs

theorem prettyMembers_eq (level : Nat) (ms : List (String × Json)) :
    prettyMembers level ms = [','].intercalate (ms.map fun m =>
      lineStart level ++ (stringText m.1 ++ ':' :: ([' '] ++ prettyChars level m.2))) :=
  eq_intercalate rfl (fun _ => by simp [prettyMembers]) (fun _ _ _ => by simp [prettyMembers]) ms

theorem blank_nil : Blank [] := fun _ h => by cases h

theorem blank_space : Blank [' '] := fun c hc => by
  rw [List.mem_singleton.1 hc]
  rfl

theorem blank_lineStart (level : Nat) : Blank (lineStart level) := by
  intro c hc
  rcases List.mem_cons.1 hc with rfl | hc
  · rfl
  · rw [(List.mem_replicate.1 hc).2]
    rfl

section Layout

variable {room : Nat} (part : Json → List Char) {gap last : List Char}

theorem Spells.indented {cs : List Char} {v : Json} (h : Spells room cs v) (hgap : Blank gap) :
    Spells room (gap ++ cs) v := by simpa using h.padded hgap blank_nil

theorem spells_bool (b : Bool) : Spells room (scalarText (.bool b)) (.bool b) := by
  cases b with
  | true => exact .yes
  | false => exact .no

/-- If items are spelled, so is the array of them. -/
theorem spells_array {vs : List Json} (h : ∀ v ∈ vs, Spells room (part v) v.normal)
    (hlast : Blank last) :
    Spells (room + 1) ('[' :: ([','].intercalate (vs.map part) ++ (last ++ [']'])))
      (normal (.array vs)) := by
  have hitems : ∀ x ∈ vs.map fun v => SpeltItem.mk (part v) v.normal,
      Spells room x.text x.value := by
    intro x hx
    obtain ⟨v, hv, rfl⟩ := List.mem_map.1 hx
    exact h v hv
  have harray := Spells.array hitems hlast
  simpa [itemsText, List.map_map, Function.comp_def, normal, normalItems_eq_map] using harray

/-- If the values of members are spelled, so is the object of them. -/
theorem spells_object {ms : List (String × Json)}
    (h : ∀ m ∈ ms, Spells room (part m.2) m.2.normal) (hgap : Blank gap) (hlast : Blank last) :
    Spells (room + 1)
      ('\x7b' :: ([','].intercalate (ms.map fun m => gap ++ (stringText m.1 ++ ':' :: part m.2)) ++
        (last ++ ['\x7d'])))
      (normal (.object ms)) := by
  have hentries : ∀ e ∈ ms.map fun m => SpeltMember.mk gap m.1 (part m.2) m.2.normal,
      Blank e.gap ∧ Spells room e.text e.value := by
    intro e he
    obtain ⟨m, hm, rfl⟩ := List.mem_map.1 he
    exact ⟨hgap, h m hm⟩
  have hobject := Spells.object (fun e he => (hentries e he).1)
    (fun e he => (hentries e he).2) hlast
  simpa [entriesText, SpeltMember.chars, SpeltMember.member, List.map_map, Function.comp_def,
    normal, normalMembers_eq_map] using hobject

end Layout

theorem Plain.spells_compact {room : Nat} {v : Json} (h : Plain room v) :
    Spells room (compactChars v) v.normal := by
  induction h with
  | null => exact .null
  | bool b => exact spells_bool b
  | int word => exact .int word
  | text s => exact .text s
  | @array room vs _ ih =>
    have harray := spells_array _ ih blank_nil
    rwa [← compactItems_eq] at harray
  | @object room ms _ ih =>
    have hobject := spells_object _ ih blank_nil blank_nil
    rwa [← compactMembers_eq] at hobject

theorem Plain.spells_pretty {room : Nat} {v : Json} (h : Plain room v) (level : Nat) :
    Spells room (prettyChars level v) v.normal := by
  induction h generalizing level with
  | null => exact .null
  | bool b => exact spells_bool b
  | int word => exact .int word
  | text s => exact .text s
  | @array room vs _ ih =>
    cases vs with
    | nil => exact Plain.spells_compact (.array (List.forall_mem_nil _))
    | cons v vs =>
      have hitem : ∀ w ∈ v :: vs, Spells room
          (lineStart (level + 1) ++ prettyChars (level + 1) w) w.normal := fun w hw =>
        (ih w hw (level + 1)).indented (blank_lineStart _)
      have harray := spells_array _ hitem (blank_lineStart level)
      rwa [← prettyItems_eq, ← List.append_assoc] at harray
  | @object room ms _ ih =>
    cases ms with
    | nil => exact Plain.spells_compact (.object (List.forall_mem_nil _))
    | cons m ms =>
      have hvalue : ∀ n ∈ m :: ms, Spells room
          ([' '] ++ prettyChars (level + 1) n.2) n.2.normal := fun n hn =>
        (ih n hn (level + 1)).indented blank_space
      have hobject := spells_object (fun v => [' '] ++ prettyChars (level + 1) v) hvalue
        (blank_lineStart (level + 1)) (blank_lineStart level)
      rwa [← prettyMembers_eq, ← List.append_assoc] at hobject

theorem Plain.read_compact {v : Json} (h : Plain depthLimit v) :
    Json.read v.compact = some v.normal := h.spells_compact.read

theorem Plain.read_pretty {v : Json} (h : Plain depthLimit v) :
    Json.read v.pretty = some v.normal := (h.spells_pretty 0).read

/-! ## Members of objects -/

theorem lookup_cons_eq_ite (key : String) (m : String × Json) (ms : List (String × Json)) :
    (m :: ms).lookup key = if key = m.1 then some m.2 else ms.lookup key := by
  obtain ⟨k, v⟩ := m
  by_cases h : key = k
  · simp [h]
  · have hbeq : (key == k) = false := beq_eq_false_iff_ne.2 h
    simp [List.lookup_cons, hbeq, h]

theorem lookup_putMember (key k : String) (v : Json) (ms : List (String × Json)) :
    (putMember k v ms).lookup key = if key = k then some v else ms.lookup key := by
  induction ms with
  | nil => rw [putMember, lookup_cons_eq_ite]
  | cons m ms ih =>
    obtain ⟨k', v'⟩ := m
    rw [putMember]
    split
    · rw [lookup_cons_eq_ite]
    · rename_i heq
      obtain rfl : k = k' := LawfulEqCmp.eq_of_compare heq
      by_cases hkey : key = k <;> simp [lookup_cons_eq_ite, hkey]
    · rename_i hgt
      have hne : k' ≠ k := by
        rintro rfl
        have hself : compare k' k' = .eq := ReflCmp.compare_self
        rw [hself] at hgt
        cases hgt
      rw [lookup_cons_eq_ite, lookup_cons_eq_ite, ih]
      by_cases hkey : key = k' <;> simp [hkey, hne]

/-- Of several members with one key the last one is found in the ordered members. -/
theorem lookup_arranged (key : String) (ms : List (String × Json)) :
    (arranged ms).lookup key = ms.reverse.lookup key := by
  suffices h : ∀ done : List (String × Json),
      (ms.foldl (fun done m => putMember m.1 m.2 done) done).lookup key =
        (ms.reverse.lookup key).or (done.lookup key) from (h []).trans Option.or_none
  induction ms with
  | nil => simp
  | cons m ms ih =>
    intro done
    rw [List.foldl_cons, ih, lookup_putMember, List.reverse_cons, List.lookup_append,
      Option.or_assoc, lookup_cons_eq_ite]
    by_cases hkey : key = m.1 <;> simp [hkey]

theorem lookup_reverse {ms : List (String × Json)} (h : (ms.map Prod.fst).Nodup) (key : String) :
    ms.reverse.lookup key = ms.lookup key := by
  induction ms with
  | nil => rfl
  | cons m ms ih =>
    obtain ⟨hm, hms⟩ := List.nodup_cons.1 h
    rw [List.reverse_cons, List.lookup_append, ih hms, lookup_cons_eq_ite, lookup_cons_eq_ite]
    by_cases hkey : key = m.1
    · have hnone : ms.lookup m.1 = none := by
        refine List.lookup_eq_none_iff.2 fun m' hm' => ?_
        have hne : m.1 ≠ m'.1 := fun heq => hm (heq ▸ List.mem_map_of_mem hm')
        simpa using hne
      rw [hkey, hnone]
      simp
    · simp [hkey]

/-- Where keys differ, their order does not matter to look-ups. -/
theorem member?_arranged {ms : List (String × Json)} (h : (ms.map Prod.fst).Nodup) (key : String) :
    member? key (arranged ms) = member? key ms := by
  rw [member?, lookup_arranged, lookup_reverse h, member?]

end Json

end Gatehouse
