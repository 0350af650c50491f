import Gatehouse.Proofs.Decimal
import Gatehouse.Proofs.Scenario.Grammar
import Gatehouse.Proofs.Template.Difference
import Gatehouse.Proofs.Text

/-!
# Lines of a review

A reviewer of a scenario reads grants as lines of text: the lines of its templates, and in a
difference the signatures that a role would gain or lose and the rules that would be turned round.

All these lines begin with a section, an item and an action (`Signature.scopeText`), which may hold
slashes, dashes and digits, but neither blanks nor colons; so whatever follows a word ends it, and
the line can be cut there (`append_inj_of_endsWord`).  The star that stands for a missing item is no
identifier, and a number behind the line ends at the bracket (`Brackets.around_append_inj`).  Hence
a line has one meaning (`Signature.Proper.line_inj`), whatever brackets and remarks it ends with.

This needs the words to be identifiers.  The lines of a scenario that passes the check are made of
such words; a stored grant may be on an item that is called `*`.
-/

set_option autoImplicit false

namespace Gatehouse

/-! ## Cutting a text -/

section Cut

variable {kind : Char → Bool} {v w s t : String}

/-- All characters of the text are of a kind. -/
def MadeOf (kind : Char → Bool) (v : String) : Prop := ∀ c ∈ v.toList, kind c = true

/-- The text ends any run of characters of a kind before it. -/
def EndsWord (kind : Char → Bool) (s : String) : Prop := Ends kind s.toList

theorem endsWord_empty : EndsWord kind "" := ends_nil

theorem endsWord_of_head {c : Char} (hs : s.toList.head? = some c) (hc : kind c = false) :
    EndsWord kind s := by
  intro d hd
  obtain rfl : c = d := Option.some.inj (hs.symm.trans hd)
  exact hc

/-- A word that a text begins with is known from the text, and so is what follows it. -/
theorem append_inj_of_endsWord (hv : MadeOf kind v) (hw : MadeOf kind w) (hs : EndsWord kind s)
    (ht : EndsWord kind t) : v ++ s = w ++ t ↔ v = w ∧ s = t := by
  simp only [← String.toList_inj, String.toList_append]
  exact append_inj_of_ends hv hw hs ht

end Cut

/-! ## Numbers behind a line -/

/-- The character may stand in an integer. -/
def inInteger (c : Char) : Bool := isDigit c || c == '-'

theorem madeOf_showInt32 (n : Int32) : MadeOf inInteger (showInt32 n) := by
  intro c hc
  rw [showInt32, showInt, String.toList_ofList] at hc
  rw [inInteger, Bool.or_eq_true, beq_iff_eq]
  cases hn : n.toInt with
  | ofNat k => exact .inl (isDigit_of_mem_natText (hn ▸ hc))
  | negSucc k =>
    rw [hn] at hc
    exact (List.mem_cons.1 hc).symm.imp isDigit_of_mem_natText id

/-- What a number stands between, behind a line. -/
structure Brackets where
  /-- The text before the number. -/
  opening : String
  /-- The text after the number. -/
  closing : String
  /-- A blank divides the brackets from the line. -/
  opens : opening.toList.head? = some ' '
  /-- The number ends where the brackets close. -/
  closes : ∃ c, closing.toList.head? = some c ∧ inInteger c = false

namespace Brackets

/-- The brackets behind a signature. -/
def square : Brackets := ⟨" [", "]", by simp, ']', by simp, rfl⟩

/-- The brackets behind a line of a template. -/
def round : Brackets := ⟨" (ID: ", ")", by simp, ')', by simp, rfl⟩

/-- The number in its brackets, if there is one. -/
def around (b : Brackets) : Option Int32 → String
  | none => ""
  | some n => b.opening ++ showInt32 n ++ b.closing

theorem bracketed_eq (n : Option Int32) : bracketed n = square.around n := by
  cases n <;> rfl

variable {b : Brackets} {n m : Option Int32} {s t : String}

theorem head?_around_append (n : Int32) (s : String) :
    (b.around (some n) ++ s).toList.head? = some ' ' := by
  simp [around, b.opens]

theorem endsWord_closing_append (s : String) : EndsWord inInteger (b.closing ++ s) := by
  obtain ⟨c, hhead, hc⟩ := b.closes
  exact endsWord_of_head (c := c) (by simp [hhead]) hc

/-- The number is known from the text, and so is what follows, as long as that does not look like
brackets. -/
theorem around_append_inj (hs : s.toList.head? ≠ some ' ') (ht : t.toList.head? ≠ some ' ') :
    b.around n ++ s = b.around m ++ t ↔ n = m ∧ s = t := by
  have hempty : ∀ u : String, b.around none ++ u = u := fun u => by simp [around]
  cases n with
  | none =>
    cases m with
    | none => simp [hempty]
    | some m =>
      refine iff_of_false (fun h => hs ?_) (by simp)
      rw [← hempty s, h, head?_around_append]
  | some n =>
    cases m with
    | none =>
      refine iff_of_false (fun h => ht ?_) (by simp)
      rw [← hempty t, ← h, head?_around_append]
    | some m =>
      simp only [around, String.append_assoc]
      rw [String.append_right_inj, append_inj_of_endsWord (madeOf_showInt32 n) (madeOf_showInt32 m)
        (endsWord_closing_append s) (endsWord_closing_append t), showInt32_inj,
        String.append_right_inj, Option.some.injEq]

end Brackets

/-! ## Lines for signatures and grants -/

/-- The character is none of those that stand behind the words of a line. -/
def inLineWord (c : Char) : Bool := c != ' ' && c != ':'

theorem madeOf_star : MadeOf inLineWord "*" := by
  rintro c hc
  obtain rfl : c = '*' := by simpa using hc
  rfl

theorem Identifier.madeOf {s : String} (h : Identifier s) : MadeOf inLineWord s := by
  obtain ⟨c, hc, cs, heq, hcs⟩ := Pattern.mem_identifier.1 h
  intro d hd
  rw [heq, List.mem_cons] at hd
  have hmem : d ∈ Pattern.letters ++ Pattern.digits ++ ['_', '/', '-'] := by
    rcases hd with rfl | hd
    · simp [hc]
    · exact hcs d hd
  have hkind : continuesIdentifier d = true := Pattern.mem_continuing.1 hmem
  have hblank : d ≠ ' ' := by
    rintro rfl
    cases hkind
  have hcolon : d ≠ ':' := by
    rintro rfl
    cases hkind
  simp [inLineWord, hblank, hcolon]

theorem not_identifier_star : ¬Identifier "*" := by
  rw [← isIdentifier_iff]
  decide

namespace Signature

variable {σ τ : Signature} {s t : String}

/-- The words of the signature are identifiers. -/
structure Proper (σ : Signature) : Prop where
  /-- The section is one. -/
  area : Identifier σ.area
  /-- A given item is one. -/
  item : ∀ item, σ.item = some item → Identifier item
  /-- The action is one. -/
  action : Identifier σ.action

/-- What the lines for a signature and for a grant begin with. -/
def scopeText (σ : Signature) : String :=
  σ.area ++ " / " ++ σ.item.getD "*" ++ " / " ++ σ.action

theorem text_eq (σ : Signature) : σ.text = σ.scopeText ++ Brackets.square.around σ.itemId := by
  rw [text, Brackets.bracketed_eq, scopeText]

/-- No item is an identifier that looks like a star. -/
theorem Proper.itemText_inj (hσ : σ.Proper) (hτ : τ.Proper) :
    σ.item.getD "*" = τ.item.getD "*" ↔ σ.item = τ.item := by
  have hstar : ∀ {ρ : Signature}, ρ.Proper → ρ.item.getD "*" = "*" → ρ.item = none := by
    intro ρ hρ h
    cases hitem : ρ.item with
    | none => rfl
    | some x =>
      rw [hitem, Option.getD_some] at h
      exact absurd (h ▸ hρ.item x hitem) not_identifier_star
  refine ⟨fun h => ?_, fun h => by rw [h]⟩
  cases hx : σ.item with
  | none =>
    rw [hx, Option.getD_none] at h
    exact (hstar hτ h.symm).symm
  | some x =>
    cases hy : τ.item with
    | none =>
      rw [hy, Option.getD_none] at h
      exact hx.symm.trans (hstar hσ h)
    | some y =>
      rw [hx, hy, Option.getD_some, Option.getD_some] at h
      rw [h]

theorem Proper.madeOf_item (hσ : σ.Proper) : MadeOf inLineWord (σ.item.getD "*") := by
  cases h : σ.item with
  | none => exact madeOf_star
  | some x => exact (hσ.item x h).madeOf

/-- The words of a line are known from it, and so is what follows them. -/
theorem Proper.scopeText_append_inj (hσ : σ.Proper) (hτ : τ.Proper)
    (hs : EndsWord inLineWord s) (ht : EndsWord inLineWord t) :
    σ.scopeText ++ s = τ.scopeText ++ t ↔
      (σ.area = τ.area ∧ σ.item = τ.item ∧ σ.action = τ.action) ∧ s = t := by
  have hgap : ∀ u : String, EndsWord inLineWord (" / " ++ u) := fun u =>
    endsWord_of_head (c := ' ') (by simp) rfl
  rw [scopeText, scopeText]
  simp only [String.append_assoc]
  rw [append_inj_of_endsWord hσ.area.madeOf hτ.area.madeOf (hgap _) (hgap _),
    String.append_right_inj, append_inj_of_endsWord hσ.madeOf_item hτ.madeOf_item (hgap _) (hgap _),
    String.append_right_inj, append_inj_of_endsWord hσ.action.madeOf hτ.action.madeOf hs ht,
    hσ.itemText_inj hτ, and_assoc, and_assoc]

end Signature

/-- How a grant is turned round. -/
def RuleChange.turn (c : RuleChange) : String :=
  ": " ++ c.rule.word ++ " (" ++ (if c.active then "active" else "inactive") ++
    ") -> allow (active)"

theorem RuleChange.text_eq (c : RuleChange) :
    c.text =
      c.signature.scopeText ++ (Brackets.square.around c.signature.itemId ++ c.turn) := by
  rw [text, Signature.text_eq, turn]
  simp only [String.append_assoc]

theorem RuleChange.turn_inj {c d : RuleChange} :
    c.turn = d.turn ↔ c.rule = d.rule ∧ c.active = d.active := by
  constructor
  · obtain ⟨σ, r, a⟩ := c
    obtain ⟨τ, q, b⟩ := d
    cases r <;> cases q <;> cases a <;> cases b <;> simp [turn, Rule.word]
  · rintro ⟨hrule, hactive⟩
    rw [turn, turn, hrule, hactive]

/-! ## What lines mean -/

section Lines

variable {σ τ : Signature} {l m : GrantLine} {c d : RuleChange} {s t : String}

/-- What may follow the brackets of a line: nothing, or a colon and a remark. -/
def Remark (s : String) : Prop := EndsWord (· != ':') s

theorem Remark.head? (hs : Remark s) : s.toList.head? ≠ some ' ' := fun h => by
  cases hs ' ' h

theorem Remark.endsWord_around_append (hs : Remark s) (b : Brackets) (n : Option Int32) :
    EndsWord inLineWord (b.around n ++ s) := by
  cases n with
  | none =>
    intro c hc
    have hcolon : c = ':' := by simpa using hs c (by simpa [Brackets.around] using hc)
    rw [hcolon]
    rfl
  | some n => exact endsWord_of_head (Brackets.head?_around_append n s) rfl

/-- Lines that begin with a scope and go on with a number and a remark are equal only for the same
signature and the same remark. -/
theorem Signature.Proper.line_inj (hσ : σ.Proper) (hτ : τ.Proper) (hs : Remark s) (ht : Remark t)
    (b : Brackets) :
    σ.scopeText ++ (b.around σ.itemId ++ s) = τ.scopeText ++ (b.around τ.itemId ++ t) ↔
      σ = τ ∧ s = t := by
  rw [hσ.scopeText_append_inj hτ (hs.endsWord_around_append b _) (ht.endsWord_around_append b _),
    Brackets.around_append_inj hs.head? ht.head?, ← and_assoc]
  refine and_congr_left' ⟨?_, ?_⟩
  · rintro ⟨⟨harea, hitem, haction⟩, hid⟩
    cases σ; cases τ
    simp_all
  · rintro rfl
    exact ⟨⟨rfl, rfl, rfl⟩, rfl⟩

theorem Signature.Proper.text_inj (hσ : σ.Proper) (hτ : τ.Proper) : σ.text = τ.text ↔ σ = τ := by
  have hline := hσ.line_inj hτ endsWord_empty endsWord_empty Brackets.square
  simpa [Signature.text_eq] using hline

/-- Words that are no identifiers can be taken for others. -/
example : (⟨"news", some "*", "see", none⟩ : Signature).text =
    (⟨"news", none, "see", none⟩ : Signature).text := rfl

theorem RuleChange.text_inj (hc : c.signature.Proper) (hd : d.signature.Proper) :
    c.text = d.text ↔ c = d := by
  have hremark : ∀ e : RuleChange, Remark e.turn := fun e =>
    endsWord_of_head (c := ':') (by simp [turn]) rfl
  rw [text_eq, text_eq, hc.line_inj hd (hremark c) (hremark d), turn_inj]
  constructor
  · rintro ⟨hsignature, hrule, hactive⟩
    cases c; cases d
    simp_all
  · rintro rfl
    exact ⟨rfl, rfl, rfl⟩

theorem GrantLine.text_eq (l : GrantLine) :
    l.text = l.signature.scopeText ++ Brackets.round.around l.signature.itemId := by
  rw [text, signature, Signature.scopeText]
  cases l.instance? <;> rfl

/-- The signature of a line in order has identifiers for its words. -/
theorem GrantLine.Fields.proper (h : l.Fields) : l.signature.Proper where
  area := h.area
  item x hx := by
    obtain ⟨hitem, hne⟩ := Option.filter_eq_some_iff.1 hx
    exact (h.item x hitem).resolve_left (of_decide_eq_true hne)
  action := h.action

theorem GrantLine.Fields.text_inj (hl : l.Fields) (hm : m.Fields) :
    l.text = m.text ↔ l.signature = m.signature := by
  have hline := hl.proper.line_inj hm.proper endsWord_empty endsWord_empty Brackets.round
  simpa [GrantLine.text_eq] using hline

/-- Lines with items for their instances stand for the same grant exactly if they have the same
signature. -/
theorem GrantLine.draft_inj (hl : l.instanceHasItem = true) (hm : m.instanceHasItem = true)
    (role : RoleId) : l.draft role = m.draft role ↔ l.signature = m.signature := by
  constructor
  · intro h
    have hterms : l.terms = m.terms := by rw [← toTerms_draft hl role, ← toTerms_draft hm role, h]
    exact congrArg Terms.signature hterms
  · intro h
    have hterms : l.terms = m.terms := by
      simp only [signature, Signature.mk.injEq] at h
      simp only [terms, h]
    have howner : (l.draft role).owner = (m.draft role).owner := by rw [owner_draft, owner_draft]
    rw [← toTerms_draft hl role, ← toTerms_draft hm role] at hterms
    cases hl' : l.draft role; cases hm' : m.draft role
    simp_all

end Lines

/-! ## Reviews -/

/-- All lines of a scenario that passes the check are in order. -/
theorem Scenario.fields_of_check {s : Scenario} (hs : s.check = .ok ()) {t : RoleTemplate}
    (ht : t ∈ s.roles) {l : GrantLine} (hl : l ∈ t.lines) : l.Fields := by
  obtain ⟨-, hroles, -⟩ := check_eq_ok_iff.1 hs
  exact (GrantLine.flaws_eq_nil_iff_wellFormed.1 ((hroles t ht).1 l hl)).toFields

theorem RoleTemplate.proper_of_mem_signatures {t : RoleTemplate} (ht : ∀ l ∈ t.lines, l.Fields)
    {σ : Signature} (hσ : σ ∈ t.signatures) : σ.Proper := by
  obtain ⟨l, hl, rfl⟩ := mem_signatures.1 hσ
  exact (ht l hl).proper

/-- A reader of the lines of a difference knows what each of them is about. -/
structure RoleDifference.Legible (d : RoleDifference) : Prop where
  /-- No two additions share a line. -/
  additions : (d.additions.map (·.text)).Nodup
  /-- Changes of rules that share a line are the same change. -/
  rules : ∀ c ∈ d.rules, ∀ c' ∈ d.rules, (c.text = c'.text ↔ c = c')
  /-- A removal whose words are identifiers shares its line with no addition and with no other such
  removal. -/
  removals : ∀ σ ∈ d.removals, σ.Proper → σ.text ∉ d.additions.map (·.text) ∧
    ∀ τ ∈ d.removals, τ.Proper → (σ.text = τ.text ↔ σ = τ)

theorem RoleTemplate.legible_difference {t : RoleTemplate} (ht : ∀ l ∈ t.lines, l.Fields)
    (current : Option (Role × List Grant)) : (t.difference current).Legible := by
  have hadditions : ∀ σ ∈ (t.difference current).additions, σ.Proper := fun σ hσ =>
    proper_of_mem_signatures ht (Signatures.mem_without.1 hσ).1
  have hrules : ∀ c ∈ (t.difference current).rules, c.signature.Proper := by
    intro c hc
    obtain ⟨g, hg, rfl⟩ := List.mem_map.1 ((ruleChanges_perm _ _).mem_iff.1 hc)
    exact proper_of_mem_signatures ht (mem_turnedRound.1 hg).2.1
  refine ⟨?_, fun c hc c' hc' => RuleChange.text_inj (hrules c hc) (hrules c' hc'), ?_⟩
  · have hnodup : (t.difference current).additions.Nodup :=
      (Signatures.ascending_without _ _).nodup
    refine (List.nodup_map_iff_inj_on hnodup).2 fun σ hσ τ hτ h => ?_
    exact ((hadditions σ hσ).text_inj (hadditions τ hτ)).1 h
  · intro σ hσ hproper
    refine ⟨fun h => ?_, fun τ _ hτ => hproper.text_inj hτ⟩
    obtain ⟨τ, hτ, htext⟩ := List.mem_map.1 h
    obtain rfl := ((hadditions τ hτ).text_inj hproper).1 htext
    -- What is removed is no signature of a line, what is added is one.
    exact (Signatures.mem_without.1 hσ).2 (Signatures.mem_without.1 hτ).1

/-- **Lines of a review have one meaning.**  Of lines that pass the check, two have the same text
exactly if they say the same and so stand for the same grant, and likewise for their signatures.  In
the difference of a scenario that passes the check no two entries share a line, the removal of a
grant whose words are no identifiers apart. -/
theorem review_lines_are_unambiguous :
    (∀ l m : GrantLine, l.flaws = [] → m.flaws = [] →
      (l.signature.text = m.signature.text ↔ l.signature = m.signature) ∧
      (l.text = m.text ↔ l.area = m.area ∧ l.action = m.action ∧ l.item? = m.item? ∧
        l.instance? = m.instance?) ∧
      ∀ role, l.text = m.text ↔ l.draft role = m.draft role) ∧
    ∀ s : Scenario, s.check = .ok () → ∀ t ∈ s.roles, ∀ current,
      (t.difference current).Legible := by
  refine ⟨fun l m hl hm => ?_, fun s hs t ht current => ?_⟩
  · have hfields := (GrantLine.flaws_eq_nil_iff_wellFormed.1 hl).toFields
    have hfields' := (GrantLine.flaws_eq_nil_iff_wellFormed.1 hm).toFields
    refine ⟨hfields.proper.text_inj hfields'.proper, ?_, fun role => ?_⟩
    · rw [hfields.text_inj hfields', GrantLine.signature, GrantLine.signature,
        Signature.mk.injEq, and_left_comm (a := l.item? = m.item?)]
    · rw [hfields.text_inj hfields', GrantLine.draft_inj (GrantLine.flaws_eq_nil_iff.1 hl).2
        (GrantLine.flaws_eq_nil_iff.1 hm).2]
  · exact RoleTemplate.legible_difference (fun l hl => Scenario.fields_of_check hs ht hl) current

/-- Two lines on drafts, about all of them and about one. -/
def allDrafts : GrantLine := ⟨"news", some "draft", "post", some 0⟩

@[inherit_doc allDrafts] def fifthDraft : GrantLine := ⟨"news", some "draft", "post", some 5⟩

/-- A role with these lines, and the role of that name that is stored, with a grant on the news. -/
def posters : RoleTemplate := { name := "posters", lines := [allDrafts, fifthDraft] }

@[inherit_doc posters] def storedPosters : Role × List Grant :=
  (⟨⟨1⟩, "posters", ⟨false, false, false⟩, none⟩,
    [(Draft.new (.role ⟨1⟩) "news" "post").store ⟨1⟩])

/-- The lines on drafts are told apart, and the line of the grant that the role would lose is none
of theirs. -/
theorem review_lines_are_unambiguous_posters :
    allDrafts.flaws = [] ∧ fifthDraft.flaws = [] ∧
      allDrafts.text ≠ fifthDraft.text ∧ allDrafts.draft ⟨1⟩ ≠ fifthDraft.draft ⟨1⟩ ∧
      (posters.difference (some storedPosters)).removals = [⟨"news", none, "post", none⟩] ∧
      "news / * / post" ∉
        (posters.difference (some storedPosters)).additions.map (·.text) := by
  obtain ⟨hlines, hdifferences⟩ := review_lines_are_unambiguous
  have hall : allDrafts.flaws = [] := by decide +kernel
  have hfifth : fifthDraft.flaws = [] := by decide +kernel
  obtain ⟨-, htext, hdraft⟩ := hlines _ _ hall hfifth
  have hne : allDrafts.text ≠ fifthDraft.text := fun h => by
    obtain ⟨-, -, -, hinstance⟩ := htext.1 h
    exact absurd hinstance (by decide)
  have hproblems : (Scenario.mk "house" "" [posters]).problems = [] := by decide +kernel
  have hcheck : (Scenario.mk "house" "" [posters]).check = .ok () := by
    rw [Scenario.check, hproblems]
  have hlegible := hdifferences _ hcheck posters (List.mem_singleton.2 rfl) (some storedPosters)
  have hremovals : (posters.difference (some storedPosters)).removals =
      [⟨"news", none, "post", none⟩] := by decide +kernel
  have hproper : (⟨"news", none, "post", none⟩ : Signature).Proper :=
    ⟨isIdentifier_iff.1 (by decide +kernel), nofun, isIdentifier_iff.1 (by decide +kernel)⟩
  exact ⟨hall, hfifth, hne, mt (hdraft ⟨1⟩).2 hne, hremovals,
    (hlegible.removals _ (hremovals ▸ List.mem_singleton.2 rfl) hproper).1⟩

end Gatehouse
