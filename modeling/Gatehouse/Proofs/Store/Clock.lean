import Gatehouse.Proofs.Store.Transaction

/-!
# The same work at another moment

The calls of a transaction, made at other moments on a store that is alike, are answered alike
(`Call.within_alike`).  This is carried along chains of calls (`Agree.bind`) to all work that is
made of them: it fails with the same error or gives related results, and leads to stores that are
alike (`Action.Agree`).

What a result and a related one have to do with each other differs from call to call: roles can
differ in their dates, lists of grants and identities cannot differ at all.
-/

set_option autoImplicit false

namespace Gatehouse

/-- Both fail with the same error, or both succeed with results that are related. -/
inductive Agreed {α : Type} (A : α → α → Prop) : Except Error α → Except Error α → Prop
  | error (e : Error) : Agreed A (.error e) (.error e)
  | ok {a b : α} (h : A a b) : Agreed A (.ok a) (.ok b)

/-- Begun on stores that are alike, the actions fail with the same error or give results that are
related, and lead to stores that are alike. -/
def Action.Agree {α : Type} (R : Stamp → Stamp → Prop) (A : α → α → Prop) (x y : Action Store α) :
    Prop :=
  ∀ s t : Store, s.Alike R t → Agreed A (x.run s).1 (y.run t).1 ∧ (x.run s).2.Alike R (y.run t).2

section Agree

variable {R : Stamp → Stamp → Prop} {m m' : Stamp}

namespace Action.Agree

variable {α β : Type} {A : α → α → Prop} {B : β → β → Prop} {x y : Action Store α}

theorem pure {a b : α} (h : A a b) : Agree R A (pure a) (pure b) := fun _ _ hst => ⟨.ok h, hst⟩

/-- Looking something up that is related in stores that are alike. -/
theorem query {f g : Store → α} (h : ∀ s t : Store, s.Alike R t → A (f s) (g t)) :
    Agree R A (Action.query f) (Action.query g) := fun s t hst => ⟨.ok (h s t hst), hst⟩

theorem of_ok (h : Agree R A x y) {s s' t : Store} (hst : s.Alike R t) {a : α}
    (hrun : x.run s = (.ok a, s')) : ∃ b t', y.run t = (.ok b, t') ∧ A a b ∧ s'.Alike R t' := by
  obtain ⟨hresult, hstores⟩ := h s t hst
  rw [hrun] at hresult hstores
  rcases hy : y.run t with ⟨r, t'⟩
  rw [hy] at hresult hstores
  cases hresult with
  | ok hab => exact ⟨_, t', rfl, hab, hstores⟩

theorem of_error (h : Agree R A x y) {s s' t : Store} (hst : s.Alike R t) {e : Error}
    (hrun : x.run s = (.error e, s')) : ∃ t', y.run t = (.error e, t') ∧ s'.Alike R t' := by
  obtain ⟨hresult, hstores⟩ := h s t hst
  rw [hrun] at hresult hstores
  rcases hy : y.run t with ⟨r, t'⟩
  rw [hy] at hresult hstores
  cases hresult with
  | error => exact ⟨t', rfl, hstores⟩

/-- In a chain, what comes next has to agree whatever the related results before it. -/
theorem bind {f g : α → Action Store β} (h : Agree R A x y)
    (hfg : ∀ a b, A a b → Agree R B (f a) (g b)) : Agree R B (x >>= f) (y >>= g) := by
  intro s t hst
  rcases hx : x.run s with ⟨e | a, s'⟩
  · obtain ⟨t', hy, hstores⟩ := h.of_error hst hx
    rw [Action.run_bind_of_error hx, Action.run_bind_of_error hy]
    exact ⟨.error e, hstores⟩
  · obtain ⟨b, t', hy, hab, hstores⟩ := h.of_ok hst hx
    rw [Action.run_bind_of_ok hx, Action.run_bind_of_ok hy]
    exact hfg a b hab s' t' hstores

/-- Actions agree whose results are answers that are alike. -/
theorem of_told {f : α → Answer} (hf : ∀ a b, (f a).Alike R (f b) → A a b)
    (h : ∀ s t : Store, s.Alike R t → Answer.Told R ((f <$> x).run s).1 ((f <$> y).run t).1 ∧
      ((f <$> x).run s).2.Alike R ((f <$> y).run t).2) : Agree R A x y := by
  intro s t hst
  obtain ⟨hresult, hstores⟩ := h s t hst
  rw [Action.run_map, Action.run_map] at hresult hstores
  refine ⟨?_, hstores⟩
  generalize (x.run s).1 = result, (y.run t).1 = result' at hresult ⊢
  rcases result with e | a <;> rcases result' with e' | b <;> cases hresult
  · exact .error e
  · rename_i hab
    exact .ok (hf a b hab)

end Action.Agree

/-- A call of a transaction and its counterpart, made at the same moment on the same store, are
answered the same and do the same. -/
theorem Call.run_within_eq (c : Call) (s : Store) :
    (c.within (.memory m)).run s = (c.direct (.memory m)).run s := by
  have hclock : c.ReadsClock → m = m := fun _ => rfl
  have hsame := Call.alike (R := Eq) (fun _ => rfl) (.refl (fun _ => rfl) s) c hclock
  exact Prod.ext (hsame.1.eq fun _ _ h => h) (hsame.2.eq fun _ _ h => h)

/-- Made at two moments, a call of a transaction is answered alike. -/
theorem Call.within_alike (hR : ∀ a, R a a) {s t : Store} (h : s.Alike R t) (c : Call)
    (hm : c.ReadsClock → R m m') :
    Answer.Told R ((c.within (.memory m)).run s).1 ((c.within (.memory m')).run t).1 ∧
      ((c.within (.memory m)).run s).2.Alike R ((c.within (.memory m')).run t).2 := by
  rw [c.run_within_eq t]
  exact Call.alike hR h c hm

/-! ## The calls of a transaction -/

namespace Transaction

theorem roleNamed_agree (name : String) :
    Action.Agree R (Option.Rel (Role.Alike R)) ((memory m).roleNamed name)
      ((memory m').roleNamed name) :=
  .query fun _ _ h => h.roleNamed? name

theorem grantsOfRole_agree (id : RoleId) :
    Action.Agree R Eq ((memory m).grantsOfRole id) ((memory m').grantsOfRole id) :=
  .query fun _ _ h => h.grantsOfRole id

variable (hR : ∀ a, R a a)
include hR

/-- Only a role that is created without a date is given the moment. -/
theorem insertRole_agree (hm : R m m') (new : NewRole) :
    Action.Agree R (Role.Alike R) ((memory m).insertRole new) ((memory m').insertRole new) :=
  .of_told (f := .role) (fun a b h => by cases h; assumption) fun s t h =>
    Call.within_alike hR h (.write (.insertRole new)) fun _ => hm

theorem setFlags_agree (id : RoleId) (flags : RoleFlags) :
    Action.Agree R (Role.Alike R) ((memory m).setFlags id flags) ((memory m').setFlags id flags) :=
  .of_told (f := .role) (fun a b h => by cases h; assumption) fun s t h =>
    Call.within_alike hR h (.write (.setFlags id flags)) fun hclock => hclock.elim

theorem clearRole_agree (id : RoleId) :
    Action.Agree R Eq ((memory m).clearRole id) ((memory m').clearRole id) :=
  .of_told (f := .count) (fun a b h => by cases h; rfl) fun s t h =>
    Call.within_alike hR h (.write (.clearRole id)) fun hclock => hclock.elim

theorem insertGrant_agree (d : Draft) :
    Action.Agree R Eq ((memory m).insertGrant d) ((memory m').insertGrant d) :=
  .of_told (f := .grant) (fun a b h => by cases h; rfl) fun s t h =>
    Call.within_alike hR h (.write (.insertGrant d)) fun hclock => hclock.elim

end Transaction

end Agree

end Gatehouse
