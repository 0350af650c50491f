import Gatehouse.Export.Csv

/-!
# Comma-separated values are read back

Whatever characters its fields hold, a list of records is read back from its text, so long as every
record has a field (`Csv.read?_text`).

A field without quotes is not known to be over until the character after it comes.  `Reader.Holds`
says where the reader may be by then: whichever way the field was written, a separator ends it.
-/

set_option autoImplicit false

namespace Gatehouse

namespace Csv

namespace Reader

/-- Takes characters one after another. -/
def run? (r : Reader) (cs : List Char) : Option Reader := cs.foldlM step? r

theorem run?_append (r : Reader) (cs ds : List Char) :
    r.run? (cs ++ ds) = (r.run? cs).bind fun r => r.run? ds := List.foldlM_append

theorem run?_cons (r : Reader) (c : Char) (cs : List Char) :
    r.run? (c :: cs) = (r.step? c).bind fun r => r.run? cs := List.foldlM_cons

theorem run?_cons_of_step? {r r' : Reader} {c : Char} (h : r.step? c = some r') (cs : List Char) :
    r.run? (c :: cs) = r'.run? cs := by rw [run?_cons, h, Option.bind_some]

/-! ## Fields -/

/-- The reader has taken a field, whose end is still to come, in the record and after the records of
`r`. -/
structure Holds (r' r : Reader) (field : String) : Prop where
  /-- The field may end here. -/
  phase : r'.phase = .start true ∨ r'.phase = .start false ∨ r'.phase = .plain ∨ r'.phase = .quote
  /-- The field has been taken. -/
  field : r'.field = field.toList.reverse
  /-- The fields before it are as they were. -/
  fields : r'.fields = r.fields
  /-- The records are as they were. -/
  records : r'.records = r.records

/-- A comma or a line end that may end a field does so. -/
theorem Holds.step? {r' r w : Reader} {field : String} {c : Char} (h : r'.Holds r field)
    (hw : r'.separator? c = some w) : r'.step? c = some w := by
  have hc : c ≠ '"' := by
    rintro rfl
    cases hw
  unfold Reader.step?
  rcases h.phase with hp | hp | hp | hp <;> simp [hp, hc, begin?, hw]

theorem needsQuotes_eq_false_iff {c : Char} :
    needsQuotes c = false ↔ c ≠ ',' ∧ c ≠ '"' ∧ c ≠ '\n' ∧ c ≠ '\r' := by
  simp [needsQuotes, and_assoc]

theorem separator?_of_needsQuotes {r : Reader} {c : Char} (h : needsQuotes c = false) :
    r.separator? c = none := by
  obtain ⟨hcomma, -, hline, hreturn⟩ := needsQuotes_eq_false_iff.1 h
  simp [separator?, hcomma, hline, hreturn]

/-- Characters that need no quotes are taken as they are. -/
theorem run?_plain {r : Reader} (hr : r.phase = .plain) {cs : List Char}
    (hcs : ∀ c ∈ cs, needsQuotes c = false) :
    r.run? cs = some { r with field := cs.reverse ++ r.field } := by
  induction cs generalizing r with
  | nil => rfl
  | cons c cs ih =>
    have hc := hcs c List.mem_cons_self
    have hstep : r.step? c = some { r with field := c :: r.field } := by
      simp [Reader.step?, hr, (needsQuotes_eq_false_iff.1 hc).2.1, separator?_of_needsQuotes hc]
    have hrest := ih (r := { r with field := c :: r.field }) hr fun d hd =>
      hcs d (List.mem_cons_of_mem c hd)
    rw [run?_cons_of_step? hstep, hrest, List.reverse_cons, List.append_assoc,
      List.singleton_append]

/-- Between quotes all characters are taken as they are, and of two quotes one. -/
theorem run?_doubled {r : Reader} (hr : r.phase = .inside) (cs : List Char) :
    r.run? (doubled cs) = some { r with field := cs.reverse ++ r.field } := by
  induction cs generalizing r with
  | nil => rfl
  | cons c cs ih =>
    have hc : r.run? (if c = '"' then ['"', '"'] else [c]) =
        some { r with field := c :: r.field } := by
      split
      · rename_i hquote
        simp [run?, Reader.step?, hr, hquote]
      · rename_i hquote
        simp [run?, Reader.step?, hr, hquote]
    have hrest := ih (r := { r with field := c :: r.field }) hr
    rw [doubled] at hrest
    rw [doubled, List.flatMap_cons, run?_append, hc, Option.bind_some, hrest, List.reverse_cons,
      List.append_assoc, List.singleton_append]

/-- A field is taken as it was before it was written. -/
theorem run?_fieldChars {r : Reader} {first : Bool} (hr : r.phase = .start first)
    (hfield : r.field = []) (field : String) :
    ∃ r', r.run? (fieldChars field) = some r' ∧ r'.Holds r field := by
  cases hquotes : field.toList.any needsQuotes with
  | true =>
    have hchars : fieldChars field = '"' :: doubled field.toList ++ ['"'] := if_pos hquotes
    have hopen : r.step? '"' = some { r with phase := .inside } := by
      simp [Reader.step?, hr, begin?]
    have hclose : ∀ r' : Reader, r'.phase = .inside →
        r'.run? ['"'] = some { r' with phase := .quote } := by
      intro r' hr'
      simp [run?, Reader.step?, hr']
    refine ⟨{ r with phase := .quote, field := field.toList.reverse }, ?_,
      ⟨.inr (.inr (.inr rfl)), rfl, rfl, rfl⟩⟩
    rw [hchars, List.cons_append, run?_cons_of_step? hopen, run?_append, run?_doubled rfl,
      Option.bind_some, hclose _ rfl, hfield, List.append_nil]
  | false =>
    have hcs : ∀ c ∈ field.toList, needsQuotes c = false := by
      simpa using List.any_eq_false.1 hquotes
    have hsame : fieldChars field = field.toList :=
      if_neg fun h => absurd (hquotes.symm.trans h) Bool.false_ne_true
    rw [hsame]
    cases hchars : field.toList with
    | nil =>
      refine ⟨r, rfl, ?_, by rw [hfield, hchars]; rfl, rfl, rfl⟩
      cases first with
      | true => exact .inl hr
      | false => exact .inr (.inl hr)
    | cons c cs =>
      rw [hchars] at hcs
      have hc := hcs c List.mem_cons_self
      have hstep : r.step? c = some { r with phase := .plain, field := [c] } := by
        simp [Reader.step?, hr, begin?, (needsQuotes_eq_false_iff.1 hc).2.1,
          separator?_of_needsQuotes hc]
      refine ⟨{ r with phase := .plain, field := cs.reverse ++ [c] }, ?_,
        ⟨.inr (.inr (.inl rfl)), by simp [hchars], rfl, rfl⟩⟩
      rw [run?_cons_of_step? hstep, run?_plain rfl fun d hd => hcs d (List.mem_cons_of_mem c hd)]

/-! ## Records -/

theorem Holds.closed {r' r : Reader} {field : String} (h : r'.Holds r field) :
    r'.closed = r.fields.reverse ++ [field] := by
  rw [Reader.closed, h.field, h.fields, List.reverse_reverse, String.ofList_toList,
    List.reverse_cons]

/-- The fields of a record are taken up to its line end. -/
theorem run?_recordChars {r : Reader} {first : Bool} (hr : r.phase = .start first)
    (hfield : r.field = []) (field : String) (rest : List String) :
    r.run? (recordChars (field :: rest)) =
      some ⟨.start true, [], [], (r.fields.reverse ++ field :: rest) :: r.records⟩ := by
  obtain ⟨r', hrun, hholds⟩ := run?_fieldChars hr hfield field
  induction rest generalizing r r' first field with
  | nil =>
    have hline : r'.step? '\n' = some (r'.endRecord (.start true)) := hholds.step? rfl
    rw [recordChars, fieldsChars, run?_append, hrun, Option.bind_some, run?_cons_of_step? hline,
      endRecord, hholds.closed, hholds.records]
    rfl
  | cons next rest ih =>
    have hcomma : r'.step? ',' = some r'.endField := hholds.step? rfl
    obtain ⟨w, hnext, hholds'⟩ := run?_fieldChars (r := r'.endField) rfl rfl next
    rw [recordChars, fieldsChars, List.append_assoc, run?_append, hrun, Option.bind_some,
      List.cons_append, run?_cons_of_step? hcomma, ← recordChars,
      ih rfl rfl next w hnext hholds', endField, hholds.field, hholds.fields, hholds.records,
      List.reverse_reverse, String.ofList_toList]
    simp

end Reader

/-- **Records are read back from their text, whatever characters are in their fields.** -/
theorem read?_text {records : List (List String)} (h : ∀ fields ∈ records, fields ≠ []) :
    read? (text records) = some records := by
  have hrun : ∀ done : List (List String), Reader.run? ⟨.start true, [], [], done⟩
      (records.flatMap recordChars) = some ⟨.start true, [], [], records.reverse ++ done⟩ := by
    induction records with
    | nil => exact fun done => rfl
    | cons fields records ih =>
      intro done
      cases fields with
      | nil => exact absurd rfl (h [] List.mem_cons_self)
      | cons field rest =>
        rw [List.flatMap_cons, Reader.run?_append, Reader.run?_recordChars rfl rfl,
          Option.bind_some, ih fun fields hfields => h fields (List.mem_cons_of_mem _ hfields)]
        simp
  have hwhole : (records.flatMap recordChars).foldlM Reader.step? Reader.initial =
      some ⟨.start true, [], [], records.reverse ++ []⟩ := hrun []
  rw [read?, text, String.toList_ofList, hwhole, Option.bind_some, List.append_nil,
    Reader.finish?, List.reverse_reverse]

end Csv

end Gatehouse
