import Gatehouse.Proofs.Json.Machine

/-!
# Texts that spell a JSON value

`Json.Spells room cs v` is the grammar of JSON texts: the characters `cs` spell the value `v`, in
which arrays and objects are nested at most `room` deep.  Blanks may stand around a value, before a
key and before a closing bracket.  Strings are spelled as they are written here, and numbers are
integers of 64 bits.

The reader accepts every such text and gives the value that it spells (`Json.Spells.read`).  What a
rule of the grammar makes of the machine is one lemma for each rule, `Delivers.array` and its like,
which says nothing about characters inside a value.
-/

set_option autoImplicit false

namespace Gatehouse

namespace Json

namespace Machine

/-! ## What the rules of the grammar do -/

/-- Where a value may come, and there is room for it, the characters lead to where the machine is
once the value has been delivered. -/
def Delivers (room : Nat) (cs : List Char) (v : Json) : Prop :=
  ∀ m w : Machine, m.scan = .between → m.wantsValue = true →
    m.stack.length + room ≤ depthLimit → deliver m.stack v = some w → Reaches m cs w

variable {room : Nat}

theorem Delivers.text (s : String) : Delivers room (stringText s) (.text s) :=
  fun _ _ hm hwants _ hw => .of_run (run_stringText_value hm hwants hw) (scan_of_deliver hw)

/-- Characters that a lexeme goes on with are collected. -/
theorem run_collect {m : Machine} (scan : List Char → Scan) {cs : List Char}
    (hstep : ∀ c ∈ cs, ∀ done, step { m with scan := scan done } c =
      some { m with scan := scan (c :: done) }) (done : List Char) :
    run { m with scan := scan done } cs = some { m with scan := scan (cs.reverse ++ done) } := by
  induction cs generalizing done with
  | nil => rfl
  | cons c cs ih =>
    rw [run_cons_of_step (hstep c List.mem_cons_self done),
      ih (fun d hd => hstep d (List.mem_cons_of_mem c hd)), List.reverse_cons, List.append_assoc,
      List.singleton_append]

theorem Delivers.word {c : Char} {cs : List Char} {v : Json} (hc : c = 'n' ∨ c = 't' ∨ c = 'f')
    (hcs : cs.all Char.isAlpha = true)
    (hv : ∀ m : Machine, endWord m (c :: cs).reverse = deliver m.stack v) :
    Delivers room (c :: cs) v := by
  intro m w hm hwants _ hw
  have hbegin : m.step c = some { m with scan := .word [c] } := by
    rw [step, hm]
    rcases hc with rfl | rfl | rfl <;> simp [stepBetween, isSpace, isDigit, hwants]
  refine .of_step hbegin ⟨_, run_collect .word ?_ [c], ?_⟩
  · intro d hd done
    simp [step, List.all_eq_true.1 hcs d hd]
  · rw [settled, ← List.reverse_cons]
    exact (hv _).trans hw

/-- An integer starts with a minus or a digit and goes on with digits. -/
theorem intText_eq_cons (n : Int) : ∃ c cs, intText n = c :: cs ∧
    (c = '-' ∨ isDigit c = true) ∧ ∀ d ∈ cs, isDigit d = true := by
  cases n with
  | ofNat n =>
    cases h : natText n with
    | nil => exact absurd h (natText_ne_nil n)
    | cons c cs =>
      have hdigits : ∀ d ∈ c :: cs, isDigit d = true := fun d hd =>
        isDigit_of_mem_natText (h ▸ hd)
      exact ⟨c, cs, h, .inr (hdigits c List.mem_cons_self),
        fun d hd => hdigits d (List.mem_cons_of_mem c hd)⟩
  | negSucc n => exact ⟨'-', natText (n + 1), rfl, .inl rfl, fun d => isDigit_of_mem_natText⟩

theorem stepBetween_number {m : Machine} {c : Char} (hwants : m.wantsValue = true)
    (hc : c = '-' ∨ isDigit c = true) : m.stepBetween c = some { m with scan := .number [c] } := by
  have hne : ∀ d : Char, d ≠ '-' → isDigit d = false → c ≠ d := by
    rintro d hminus hdigit rfl
    rcases hc with hc | hc
    · exact hminus hc
    · rw [hdigit] at hc
      cases hc
  have hspace : isSpace c = false := by
    simp [isSpace, hne ' ' (by decide) rfl, hne '\n' (by decide) rfl, hne '\t' (by decide) rfl,
      hne '\r' (by decide) rfl]
  have hnumber : (isDigit c || decide (c = '-')) = true := by
    rcases hc with hc | hc <;> simp [hc]
  rw [stepBetween, if_neg (by simp [hspace]), if_neg (hne _ (by decide) rfl),
    if_neg (hne _ (by decide) rfl), if_neg (hne _ (by decide) rfl),
    if_neg (hne _ (by decide) rfl), if_neg (hne _ (by decide) rfl),
    if_neg (hne _ (by decide) rfl), if_neg (hne _ (by decide) rfl), if_neg (by simp [hwants]),
    if_pos hnumber]

theorem Delivers.int {n : Int} (h : IsWord n) : Delivers room (intText n) (.int n) := by
  intro m w hm hwants _ hw
  obtain ⟨c, cs, htext, hc, hcs⟩ := intText_eq_cons n
  have hbegin : m.step c = some { m with scan := .number [c] } := by
    rw [step, hm]
    exact stepBetween_number hwants hc
  rw [htext]
  refine .of_step hbegin ⟨_, run_collect .number ?_ [c], ?_⟩
  · intro d hd done
    simp [step, inNumber, hcs d hd]
  · have hread : number? (c :: cs) = some (.int n) := by rw [← htext, number?_intText h]
    simpa [settled, endNumber, hread] using hw

/-! ## Arrays and objects -/

/-- A value with a text for it. -/
structure SpeltItem where
  /-- The text. -/
  text : List Char
  /-- The value. -/
  value : Json

/-- The texts of items with a comma between them. -/
def itemsText (items : List SpeltItem) : List Char := [','].intercalate (items.map SpeltItem.text)

theorem breaks_comma : Breaks ',' := ⟨by decide, by decide⟩

theorem Delivers.items {items : List SpeltItem} (h : ∀ x ∈ items, Delivers room x.text x.value)
    (hne : items ≠ []) {m : Machine} {done : List Json} {below : List Frame}
    (hm : m.scan = .between) (hwants : m.wantsValue = true)
    (hstack : m.stack = .items done :: below) (hroom : below.length + 1 + room ≤ depthLimit) :
    Reaches m (itemsText items)
      ⟨.items ((items.map SpeltItem.value).reverse ++ done) :: below, .after, .between⟩ := by
  induction items generalizing m done with
  | nil => exact absurd rfl hne
  | cons x rest ih =>
    have hx : Reaches m x.text ⟨.items (x.value :: done) :: below, .after, .between⟩ :=
      h x List.mem_cons_self m _ hm hwants (by simpa [hstack] using hroom) (by rw [hstack]; rfl)
    cases rest with
    | nil => simpa [itemsText] using hx
    | cons y rest =>
      have hrest := ih (fun z hz => h z (List.mem_cons_of_mem x hz)) (List.cons_ne_nil y rest)
        (m := ⟨.items (x.value :: done) :: below, .value, .between⟩) rfl rfl rfl
      have hcomma : step ⟨.items (x.value :: done) :: below, .after, .between⟩ ',' =
          some ⟨.items (x.value :: done) :: below, .value, .between⟩ := rfl
      have htext : itemsText (x :: y :: rest) = x.text ++ ',' :: itemsText (y :: rest) := by
        simp [itemsText, List.intercalate_cons_cons]
      rw [htext]
      simpa using hx.append breaks_comma (.of_step hcomma hrest)

/-- Items between brackets are an array, with any blanks before the closing one. -/
theorem Delivers.array {items : List SpeltItem} (h : ∀ x ∈ items, Delivers room x.text x.value)
    {gap : List Char} (hgap : Blank gap) :
    Delivers (room + 1) ('[' :: (itemsText items ++ (gap ++ [']'])))
      (.array (items.map SpeltItem.value)) := by
  intro m w hm hwants hroom hw
  have hlt : m.stack.length < depthLimit := by omega
  have hopen : m.step '[' = some ⟨.items [] :: m.stack, .firstItem, .between⟩ := by
    simp [step, hm, stepBetween, isSpace, push, hwants, hlt]
  refine .of_step hopen ?_
  cases items with
  | nil =>
    have hclose : step ⟨.items [] :: m.stack, .firstItem, .between⟩ ']' = some w := hw
    show Reaches _ (gap ++ [']']) w
    exact .blank rfl hgap (.of_step hclose (.refl (scan_of_deliver hw)))
  | cons x rest =>
    have hitems := Delivers.items h (List.cons_ne_nil x rest)
      (m := ⟨.items [] :: m.stack, .firstItem, .between⟩) rfl rfl rfl (by omega)
    rw [List.append_nil] at hitems
    have hclose : step ⟨.items ((x :: rest).map SpeltItem.value).reverse :: m.stack, .after,
        .between⟩ ']' = some w := by
      show deliver m.stack (.array ((x :: rest).map SpeltItem.value).reverse.reverse) = some w
      rw [List.reverse_reverse, hw]
    exact hitems.append_blank hgap ⟨by decide, by decide⟩
      (.of_step hclose (.refl (scan_of_deliver hw)))

/-- A key with a text for the value that belongs to it, and the blanks before it. -/
structure SpeltMember where
  /-- The blanks before the key. -/
  gap : List Char
  /-- The key. -/
  key : String
  /-- The text of the value. -/
  text : List Char
  /-- The value. -/
  value : Json

/-- The text of a member of an object. -/
def SpeltMember.chars (e : SpeltMember) : List Char := e.gap ++ (stringText e.key ++ ':' :: e.text)

/-- The member of an object. -/
def SpeltMember.member (e : SpeltMember) : String × Json := (e.key, e.value)

/-- The texts of members with a comma between them. -/
def entriesText (entries : List SpeltMember) : List Char :=
  [','].intercalate (entries.map SpeltMember.chars)

theorem Delivers.entry {e : SpeltMember} (h : Delivers room e.text e.value) (hgap : Blank e.gap)
    {m : Machine} {done : List (String × Json)} {below : List Frame} (hm : m.scan = .between)
    (hwants : m.phase = .firstKey ∨ m.phase = .key) (hstack : m.stack = .members done :: below)
    (hroom : below.length + 1 + room ≤ depthLimit) :
    Reaches m e.chars ⟨.members (e.member :: done) :: below, .after, .between⟩ := by
  have hvalue : Reaches ⟨.member done e.key :: below, .value, .between⟩ e.text
      ⟨.members (e.member :: done) :: below, .after, .between⟩ :=
    h _ _ rfl rfl hroom rfl
  have hcolon : step ⟨.members done :: below, .colon e.key, .between⟩ ':' =
      some ⟨.member done e.key :: below, .value, .between⟩ := rfl
  have hkey : m.run (stringText e.key) = some ⟨.members done :: below, .colon e.key, .between⟩ := by
    rw [run_stringText_key hm hwants, hstack, hm]
  exact .blank hm hgap <|
    (Reaches.of_run hkey rfl).append ⟨by decide, by decide⟩ (.of_step hcolon hvalue)

theorem Delivers.entries {entries : List SpeltMember}
    (h : ∀ e ∈ entries, Blank e.gap ∧ Delivers room e.text e.value) (hne : entries ≠ [])
    {m : Machine} {done : List (String × Json)} {below : List Frame} (hm : m.scan = .between)
    (hwants : m.phase = .firstKey ∨ m.phase = .key) (hstack : m.stack = .members done :: below)
    (hroom : below.length + 1 + room ≤ depthLimit) :
    Reaches m (entriesText entries)
      ⟨.members ((entries.map SpeltMember.member).reverse ++ done) :: below, .after, .between⟩ := by
  induction entries generalizing m done with
  | nil => exact absurd rfl hne
  | cons e rest ih =>
    obtain ⟨hgap, hvalue⟩ := h e List.mem_cons_self
    have he := hvalue.entry hgap hm hwants hstack hroom
    cases rest with
    | nil => simpa [entriesText] using he
    | cons f rest =>
      have hrest := ih (fun g hg => h g (List.mem_cons_of_mem e hg)) (List.cons_ne_nil f rest)
        (m := ⟨.members (e.member :: done) :: below, .key, .between⟩) rfl (.inr rfl) rfl
      have hcomma : step ⟨.members (e.member :: done) :: below, .after, .between⟩ ',' =
          some ⟨.members (e.member :: done) :: below, .key, .between⟩ := rfl
      have htext : entriesText (e :: f :: rest) = e.chars ++ ',' :: entriesText (f :: rest) := by
        simp [entriesText, List.intercalate_cons_cons]
      rw [htext]
      simpa using he.append breaks_comma (.of_step hcomma hrest)

/-- Members between braces are an object, with any blanks before the closing one.  Its members are
in order, and of several with one key the last is kept. -/
theorem Delivers.object {entries : List SpeltMember}
    (h : ∀ e ∈ entries, Blank e.gap ∧ Delivers room e.text e.value) {gap : List Char}
    (hgap : Blank gap) :
    Delivers (room + 1) ('\x7b' :: (entriesText entries ++ (gap ++ ['\x7d'])))
      (.object (arranged (entries.map SpeltMember.member))) := by
  intro m w hm hwants hroom hw
  have hlt : m.stack.length < depthLimit := by omega
  have hopen : m.step '\x7b' = some ⟨.members [] :: m.stack, .firstKey, .between⟩ := by
    simp [step, hm, stepBetween, isSpace, push, hwants, hlt]
  refine .of_step hopen ?_
  cases entries with
  | nil =>
    have hclose : step ⟨.members [] :: m.stack, .firstKey, .between⟩ '\x7d' = some w := hw
    show Reaches _ (gap ++ ['\x7d']) w
    exact .blank rfl hgap (.of_step hclose (.refl (scan_of_deliver hw)))
  | cons e rest =>
    have hentries := Delivers.entries h (List.cons_ne_nil e rest)
      (m := ⟨.members [] :: m.stack, .firstKey, .between⟩) rfl (.inl rfl) rfl (by omega)
    rw [List.append_nil] at hentries
    have hclose : step ⟨.members ((e :: rest).map SpeltMember.member).reverse :: m.stack, .after,
        .between⟩ '\x7d' = some w := by
      show deliver m.stack
        (.object (arranged ((e :: rest).map SpeltMember.member).reverse.reverse)) = some w
      rw [List.reverse_reverse, hw]
    exact hentries.append_blank hgap ⟨by decide, by decide⟩
      (.of_step hclose (.refl (scan_of_deliver hw)))

theorem Delivers.padded {cs before after : List Char} {v : Json} (h : Delivers room cs v)
    (hbefore : Blank before) (hafter : Blank after) : Delivers room (before ++ cs ++ after) v := by
  intro m w hm hwants hroom hw
  have hcs := h m w hm hwants hroom hw
  rw [List.append_assoc]
  refine .blank hm hbefore ?_
  cases after with
  | nil => rwa [List.append_nil]
  | cons c rest =>
    have hrest : Reaches w (c :: rest) w := by
      have hself := (Reaches.refl hcs.scan_eq).blank hcs.scan_eq hafter
      rwa [List.append_nil] at hself
    exact hcs.append (breaks_of_isSpace (hafter c List.mem_cons_self)) hrest

end Machine

/-! ## The grammar -/

open Machine (Blank SpeltItem SpeltMember itemsText entriesText)

/-- The characters spell the value, in which arrays and objects are nested at most `room` deep. -/
inductive Spells : Nat → List Char → Json → Prop
  /-- The word for nothing. -/
  | null {room : Nat} : Spells room ['n', 'u', 'l', 'l'] .null
  /-- The word for yes. -/
  | yes {room : Nat} : Spells room ['t', 'r', 'u', 'e'] (.bool true)
  /-- The word for no. -/
  | no {room : Nat} : Spells room ['f', 'a', 'l', 's', 'e'] (.bool false)
  /-- An integer of 64 bits, with a sign or without. -/
  | int {room : Nat} {n : Int} (word : IsWord n) : Spells room (intText n) (.int n)
  /-- A string. -/
  | text {room : Nat} (s : String) : Spells room (stringText s) (.text s)
  /-- Items between brackets. -/
  | array {room : Nat} {items : List SpeltItem} {gap : List Char}
      (spelled : ∀ x ∈ items, Spells room x.text x.value) (blank : Blank gap) :
      Spells (room + 1) ('[' :: (itemsText items ++ (gap ++ [']'])))
        (.array (items.map SpeltItem.value))
  /-- Members between braces; of several with one key the last counts. -/
  | object {room : Nat} {entries : List SpeltMember} {gap : List Char}
      (blanks : ∀ e ∈ entries, Blank e.gap) (spelled : ∀ e ∈ entries, Spells room e.text e.value)
      (blank : Blank gap) :
      Spells (room + 1) ('\x7b' :: (entriesText entries ++ (gap ++ ['\x7d'])))
        (.object (arranged (entries.map SpeltMember.member)))
  /-- Blanks around a value. -/
  | padded {room : Nat} {cs before after : List Char} {v : Json} (spelled : Spells room cs v)
      (blankBefore : Blank before) (blankAfter : Blank after) :
      Spells room (before ++ cs ++ after) v

theorem Spells.delivers {room : Nat} {cs : List Char} {v : Json} (h : Spells room cs v) :
    Machine.Delivers room cs v := by
  induction h with
  | null => exact .word (.inl rfl) rfl fun _ => rfl
  | yes => exact .word (.inr (.inl rfl)) rfl fun _ => rfl
  | no => exact .word (.inr (.inr rfl)) rfl fun _ => rfl
  | int word => exact .int word
  | text s => exact .text s
  | array _ blank ih => exact .array ih blank
  | object blanks _ blank ih => exact .object (fun e he => ⟨blanks e he, ih e he⟩) blank
  | padded _ blankBefore blankAfter ih => exact ih.padded blankBefore blankAfter

/-- **A text that spells a value is read as this value.** -/
theorem Spells.read {cs : List Char} {v : Json} (h : Spells depthLimit cs v) :
    Json.read (String.ofList cs) = some v := by
  obtain ⟨w, hrun, hsettled⟩ := h.delivers .start ⟨[], .finished v, .between⟩ rfl rfl
    (Nat.le_of_eq (Nat.zero_add _)) rfl
  rw [Json.read, String.toList_ofList, hrun, Option.bind_some]
  exact Machine.result_of_settled hsettled rfl

end Json

end Gatehouse
