import Gatehouse.Proofs.Check.Spared
import Gatehouse.Proofs.Template.Applied
import Gatehouse.Proofs.Template.Atomic

/-!
# Subjects are isolated from each other

Whatever is done to the grants of others, to roles, to the users who hold them, and to roles by
applying templates, a subject gets the same decisions as before (`check_is_isolated`).

Applying a template is known here by the calls that it makes in its transaction, which are logged
(`ApplyCall.activity`).  That these calls spare a subject is carried along chains of calls together
with what makes them do so (`Action.Mindful`): a template fills a role that has its name, which is
not a role of the subject, or a role that it creates, whose identity is new.
-/

set_option autoImplicit false

namespace Gatehouse

/-! ## The calls of an application -/

/-- The call changes something. -/
def Call.write? : Call → Option Write
  | .write x => some x
  | _ => none

/-- The calls on the store that do what the logged calls do to a copy. -/
def callsOf (now : Stamp) (log : List Event) : List (Stamp × Operation) :=
  (log.filterMap (·.call.write?)).map fun x => (now, x.operation)

theorem callsOf_append (now : Stamp) (log more : List Event) :
    callsOf now (log ++ more) = callsOf now log ++ callsOf now more := by
  rw [callsOf, List.filterMap_append, List.map_append]
  rfl

theorem calls_transaction (now : Stamp) (log : List Event) :
    (Activity.transaction ((log.filterMap (·.call.write?)).map fun x => (now, x)) true).calls =
      callsOf now log := by
  rw [Activity.calls, List.map_map]
  rfl

/-- What applying comes to on a store: a transaction that is committed if all goes well. -/
def ApplyCall.activity (now : Stamp) (l : Library) (call : ApplyCall) (s : Store) : Activity :=
  match call.plan l with
  | .error _ => .transaction [] false
  | .ok (sc, ds) =>
    let (result, _, log) := ((Transaction.memory now).logged.applyRoles ds).run (s, [])
    .transaction ((log.filterMap (·.call.write?)).map fun x => (now, x))
      (sc.check.isOk && result.isOk)

/-! ## Work that spares a subject -/

/-- No role of the subject has one of the names. -/
def Store.Avoids (subject : Subject) (names : String → Prop) (s : Store) : Prop :=
  ∀ r ∈ s.roles, names r.name → r.id ∉ subject.roles

/-- The store knows the roles of the subject, and none of them has one of the names. -/
structure Store.Apart (subject : Subject) (names : String → Prop) (s : Store) : Prop where
  counted : s.Counted
  knows : s.Knows subject
  avoids : s.Avoids subject names

section Apart

variable {subject : Subject} {names : String → Prop} {s : Store}

/-- Writing a role that is not a role of the subject with one of the names. -/
theorem Store.Avoids.insert {t : Store} {role : Role} (h : s.Avoids subject names)
    (ht : t.roles = s.roles.insert role) (hrole : names role.name → role.id ∉ subject.roles) :
    t.Avoids subject names := by
  intro r hr hname
  rw [ht] at hr
  rcases Store.mem_roles_insert.1 hr with rfl | ⟨hr, -⟩
  · exact hrole hname
  · exact h r hr hname

/-- The next identity is not that of a role of the subject. -/
theorem Store.Apart.fresh (h : s.Apart subject names) (hnext : s.lastRole ≤ s.lastRole + 1) :
    (⟨s.lastRole + 1⟩ : RoleId) ∉ subject.roles := fun hid => by
  obtain ⟨r, hr, hrid⟩ := h.knows _ hid
  exact h.counted.role_ne_next hnext r hr hrid

/-- No call of a transaction gives a role of the subject one of the names. -/
theorem Store.Apart.write {x : Write} {now : Stamp} (h : s.Apart subject names) (hx : x.Proper)
    (hk : s.KeepsCounting (x.after (.memory now) s)) :
    (x.after (.memory now) s).Apart subject names := by
  refine ⟨h.counted.effect (x.effect hx now s) hk, h.knows.effect (x.effect hx now s), ?_⟩
  cases x with
  | insertRole new =>
    have hafter : (Write.insertRole new).after (.memory now) s =
        ((Action.attempt (·.insertRole now new)).run s).2 := rfl
    rw [hafter, Action.run_attempt] at hk ⊢
    cases hinsert : s.insertRole now new with
    | error e => exact h.avoids
    | ok p =>
      obtain ⟨role, t⟩ := p
      rw [hinsert] at hk
      obtain ⟨-, -, hrole, rfl⟩ := Store.insertRole_eq_ok_iff.1 hinsert
      exact h.avoids.insert rfl fun _ => hrole ▸ h.fresh hk.role
  | setFlags id flags =>
    refine Action.state_attempt (P := Store.Avoids subject names) h.avoids fun role t hset => ?_
    obtain ⟨old, hold, rfl, rfl⟩ := Store.setFlags_eq_ok_iff.1 hset
    exact h.avoids.insert rfl (h.avoids old (Store.role?_eq_some_iff.1 hold).1)
  | clearRole id => exact h.avoids
  | insertGrant d =>
    refine Action.state_attempt (P := Store.Avoids subject names) h.avoids fun id t hinsert => ?_
    obtain ⟨-, -, rfl⟩ := Store.insertGrant_eq_ok_iff.1 hinsert
    exact h.avoids

end Apart

/-- The action on a copy with a log does what the calls do that it logs.  Where `pre` holds and the
roles of the subject are known and not meant, these calls can be made and spare the subject as long
as no counter wraps around, and a result is as `post` says. -/
def Action.Mindful {α : Type} (now : Stamp) (subject : Subject) (names : String → Prop) (pre : Prop)
    (x : Action (Store × List Event) α) (post : α → Prop) : Prop :=
  ∀ w log, ∃ r events,
    x.run (w, log) = (r, (w.replay (callsOf now events), log ++ events)) ∧
    (pre → w.Apart subject names →
      Along (fun u now op => u.KeepsCounting (op.after (.memory now) u)) w (callsOf now events) →
      Along (fun u now op => op.Orderly u now ∧ op.Spares subject u) w (callsOf now events) ∧
        (w.replay (callsOf now events)).Apart subject names ∧ ∀ a, r = .ok a → post a)

namespace Action.Mindful

variable {α β : Type} {now : Stamp} {subject : Subject} {names : String → Prop} {pre : Prop}

theorem pure {post : α → Prop} {a : α} (h : pre → post a) :
    Mindful now subject names pre (pure a) post := fun w log =>
  ⟨.ok a, [], by rw [List.append_nil]; rfl, fun hpre hw _ => ⟨trivial, hw, fun b hb => by
    cases hb; exact h hpre⟩⟩

/-- A look-up makes no call that changes something. -/
theorem query {post : α → Prop} {f : Store → α} {c : Call} (hc : c.write? = none)
    (h : pre → ∀ w, w.Apart subject names → post (f w)) :
    Mindful now subject names pre ((Action.query f).logged c) post := fun w log => by
  have hnone : callsOf now [⟨c, none⟩] = [] := by simp [callsOf, hc]
  refine ⟨.ok (f w), [⟨c, none⟩], by rw [hnone]; rfl, fun hpre hw _ => ?_⟩
  rw [hnone]
  exact ⟨trivial, hw, fun b hb => by cases hb; exact h hpre w hw⟩

theorem write {post : α → Prop} {a : Action Store α} (x : Write) (hx : x.Proper)
    (hstate : ∀ w, (a.run w).2 = x.after (.memory now) w)
    (hspares : pre → ∀ w, x.operation.Spares subject w)
    (hpost : pre → ∀ w b, w.Apart subject names → w.KeepsCounting (a.run w).2 →
      (a.run w).1 = .ok b → post b) :
    Mindful now subject names pre (a.logged (.write x)) post := fun w log => by
  refine ⟨(a.run w).1, [⟨.write x, failure (a.run w).1⟩], ?_, fun hpre hw hk => ?_⟩
  · show ((a.run w).1, ((a.run w).2, _)) = _
    rw [hstate, ← x.after_operation]
    rfl
  · have hk : w.KeepsCounting (x.operation.after (.memory now) w) := hk.1
    refine ⟨⟨⟨⟨(x.proper_operation).2 hx, hk⟩, hspares hpre w⟩, trivial⟩, ?_, fun b hb => ?_⟩
    · rw [x.after_operation] at hk
      show (x.operation.after (.memory now) w).Apart subject names
      rw [x.after_operation]
      exact hw.write hx hk
    · rw [x.after_operation, ← hstate] at hk
      exact hpost hpre w b hw hk hb

theorem bind {x : Action (Store × List Event) α} {f : α → Action (Store × List Event) β}
    {mid : α → Prop} {post : β → Prop} (hx : Mindful now subject names pre x mid)
    (hf : ∀ a, Mindful now subject names (mid a) (f a) post) :
    Mindful now subject names pre (x >>= f) post := by
  intro w log
  obtain ⟨r, events, hrun, hmind⟩ := hx w log
  cases r with
  | error e =>
    refine ⟨.error e, events, Action.run_bind_of_error hrun, fun hpre hw hk => ?_⟩
    obtain ⟨halong, hend, -⟩ := hmind hpre hw hk
    exact ⟨halong, hend, fun b hb => nomatch hb⟩
  | ok a =>
    obtain ⟨r', more, hrun', hmind'⟩ := hf a (w.replay (callsOf now events)) (log ++ events)
    refine ⟨r', events ++ more, ?_, fun hpre hw hk => ?_⟩
    · rw [Action.run_bind_of_ok hrun, hrun', callsOf_append, Store.replay_append, List.append_assoc]
    · rw [callsOf_append] at hk ⊢
      obtain ⟨hfirst, hsecond⟩ := hk.of_append
      obtain ⟨halong, hend, hmid⟩ := hmind hpre hw hfirst
      obtain ⟨halong', hend', hpost⟩ := hmind' (hmid a rfl) hend hsecond
      rw [Store.replay_append]
      exact ⟨halong.append halong', hend', hpost⟩

end Action.Mindful

namespace Transaction

variable (now : Stamp) (subject : Subject) {names : String → Prop}

/-- The role that a template is about is not a role of the subject. -/
theorem settleRole_mindful {d : RoleTemplate} (hd : names d.name) :
    Action.Mindful now subject names True ((memory now).logged.settleRole d)
      fun p => p.1.id ∉ subject.roles := by
  have hfound : Action.Mindful now subject names True ((memory now).logged.roleNamed d.name)
      fun found => ∀ r : Role, found = some r → r.id ∉ subject.roles :=
    .query rfl fun _ w hw r hr => by
      have hname : r.name = d.name := by simpa using List.find?_some hr
      exact hw.avoids r (List.mem_of_find?_eq_some hr) (hname ▸ hd)
  refine .bind hfound fun found => ?_
  cases found with
  | some old =>
    have hlisted : Action.Mindful now subject names
        (∀ r : Role, some old = some r → r.id ∉ subject.roles)
        ((memory now).logged.grantsOfRole old.id) fun _ => old.id ∉ subject.roles :=
      .query rfl fun hold _ _ => hold old rfl
    have hset : Action.Mindful now subject names (old.id ∉ subject.roles)
        ((memory now).logged.setFlags old.id d.flags) fun role => role.id ∉ subject.roles :=
      .write (.setFlags old.id d.flags) trivial (fun _ => rfl) (fun _ _ => trivial)
        fun hold w role _ _ hrun => by
          obtain ⟨t, hrun, -⟩ := Action.exists_of_run_attempt hrun
          obtain ⟨kept, hkept, rfl, -⟩ := Store.setFlags_eq_ok_iff.1 hrun
          exact (Store.role?_eq_some_iff.1 hkept).2 ▸ hold
    exact .bind hlisted fun grants => .bind hset fun role => .pure id
  | none =>
    have hnew : Action.Mindful now subject names
        (∀ r : Role, none = some r → r.id ∉ subject.roles)
        ((memory now).logged.insertRole { name := d.name, flags := d.flags })
        fun role => role.id ∉ subject.roles :=
      .write (.insertRole { name := d.name, flags := d.flags }) trivial (fun _ => rfl)
        (fun _ _ => trivial) fun _ w role hw hk hrun => by
          obtain ⟨t, hrun, hstate⟩ := Action.exists_of_run_attempt hrun
          obtain ⟨-, -, hrole, rfl⟩ := Store.insertRole_eq_ok_iff.1 hrun
          have hk : w.KeepsCounting { w with
            roles := w.roles.insert role, lastRole := w.lastRole + 1 } := hstate ▸ hk
          rw [hrole]
          exact hw.fresh hk.role
    exact .bind hnew fun role => .pure id

theorem insertLines_mindful (role : RoleId) (ls : List GrantLine) :
    Action.Mindful now subject names (role ∉ subject.roles)
      ((memory now).logged.insertLines role ls) fun _ => True := by
  induction ls with
  | nil => exact .pure fun _ => trivial
  | cons l rest ih =>
    have hline : Action.Mindful now subject names (role ∉ subject.roles)
        ((memory now).logged.insertGrant (l.draft role)) fun _ => role ∉ subject.roles := by
      refine .write (.insertGrant (l.draft role)) (l.draft_made role) (fun _ => rfl)
        (fun hrole w => ?_) fun hrole _ _ _ _ _ => hrole
      show (l.draft role).owner.isOf subject = false
      rw [l.owner_draft]
      exact Bool.eq_false_iff.2 fun h => hrole (Owner.role_mem_of_isOf h)
    exact .bind hline fun _ => ih

theorem applyRole_mindful {d : RoleTemplate} (hd : names d.name) :
    Action.Mindful now subject names True ((memory now).logged.applyRole d) fun _ => True := by
  refine .bind (settleRole_mindful now subject hd) fun p => ?_
  have hclear : Action.Mindful now subject names (p.1.id ∉ subject.roles)
      ((memory now).logged.clearRole p.1.id) fun _ => p.1.id ∉ subject.roles :=
    .write (.clearRole p.1.id) trivial (fun _ => rfl) (fun hp _ => hp) fun hp _ _ _ _ _ => hp
  have hlisted : Action.Mindful now subject names True ((memory now).logged.grantsOfRole p.1.id)
      fun _ => True := .query rfl fun _ _ _ => trivial
  refine .bind hclear fun count => ?_
  exact .bind (insertLines_mindful now subject p.1.id d.lines) fun _ =>
    .bind hlisted fun grants => .pure id

theorem applyRoles_mindful {ds : List RoleTemplate} (hds : ∀ d ∈ ds, names d.name) :
    Action.Mindful now subject names True ((memory now).logged.applyRoles ds) fun _ => True := by
  induction ds with
  | nil => exact .pure id
  | cons d rest ih =>
    refine .bind (applyRole_mindful now subject (hds d List.mem_cons_self)) fun step => ?_
    refine .bind (ih fun e he => hds e (List.mem_cons_of_mem d he)) fun steps => ?_
    exact .pure id

end Transaction

namespace ApplyCall

variable (now : Stamp) (l : Library) (call : ApplyCall) {s : Store}

/-- Applying does to the store what the activity does. -/
theorem after_activity (run : String) (s : Store) :
    ((call.action (.memory now) l run).run s).2 = (call.activity now l s).after s := by
  rw [run_action, activity]
  rcases call.plan l with e | ⟨sc, ds⟩
  · rfl
  · -- The log changes nothing, and the copy is where its calls lead to.
    have hmindful : Action.Mindful now {} (fun _ => True) True
        ((Transaction.memory now).logged.applyRoles ds) fun _ => True :=
      Transaction.applyRoles_mindful now {} fun _ _ => trivial
    obtain ⟨r, events, hlogged, -⟩ := hmindful s []
    obtain ⟨_, htracks, -⟩ := (Transaction.memory now).applyRoles_tracks ds s []
    rw [hlogged, List.nil_append, Prod.mk.injEq, Prod.mk.injEq] at htracks
    obtain ⟨hresult, hstore, -⟩ := htracks
    have hrun : ((Backend.memory now).within.applyRoles ds).run s =
        (r, s.replay (callsOf now events)) := Prod.ext hresult.symm hstore.symm
    simp only [Activity.after_eq_replay, hlogged, hrun, Backend.run_begin_memory,
      Backend.run_commit_memory, List.nil_append]
    rcases sc.check with e | ⟨⟩ <;> rcases r with e | steps
    · rfl
    · rfl
    · rfl
    · exact congrArg s.replay (calls_transaction now events).symm

/-- If none of the roles to be applied has the name of a role of the subject, applying makes orderly
calls that spare the subject, as long as no counter wraps around. -/
theorem spares_activity {subject : Subject}
    (h : ∀ sc ds, call.plan l = .ok (sc, ds) →
      s.Apart subject fun name => ∃ d ∈ ds, d.name = name)
    (hk : Along (fun u now op => u.KeepsCounting (op.after (.memory now) u)) s
      (call.activity now l s).calls) :
    Along (fun u now op => op.Orderly u now ∧ op.Spares subject u) s
      (call.activity now l s).calls := by
  rw [activity] at hk ⊢
  rcases hplan : call.plan l with e | ⟨sc, ds⟩
  · trivial
  · have hmindful : Action.Mindful now subject (fun name => ∃ d ∈ ds, d.name = name) True
        ((Transaction.memory now).logged.applyRoles ds) fun _ => True :=
      Transaction.applyRoles_mindful now subject fun d hd => ⟨d, hd, rfl⟩
    obtain ⟨r, events, hlogged, hmind⟩ := hmindful s []
    simp only [hplan, hlogged, List.nil_append] at hk ⊢
    cases hgood : sc.check.isOk && r.isOk with
    | false => trivial
    | true =>
      rw [hgood, calls_transaction] at hk
      rw [calls_transaction]
      exact (hmind trivial (h sc ds hplan) hk).1

end ApplyCall

/-! ## Acts -/

/-- Something done with a store. -/
inductive Act where
  /-- A call, or a transaction. -/
  | activity (a : Activity)
  /-- A scenario, or a role of one, is applied. -/
  | apply (now : Stamp) (l : Library) (run : String) (call : ApplyCall)

namespace Act

/-- The store after an act. -/
def after (s : Store) : Act → Store
  | .activity a => a.after s
  | .apply now l run call => ((call.action (.memory now) l run).run s).2

/-- The calls on the store that an act comes to. -/
def calls (s : Store) : Act → List (Stamp × Operation)
  | .activity a => a.calls
  | .apply now l _ call => (call.activity now l s).calls

/-- No counter wraps around, and only drafts are stored that can be made. -/
def Orderly (s : Store) : Act → Prop
  | .activity a => a.Orderly s
  | .apply now l _ call =>
    Along (fun u now op => u.KeepsCounting (op.after (.memory now) u)) s
      (call.activity now l s).calls

/-- The act does not concern the grants that the subject holds.  A role that is applied must not
have the name that a role of the subject has at that moment. -/
def Spares (subject : Subject) (s : Store) : Act → Prop
  | .activity a => Along (fun u _ op => op.Spares subject u) s a.calls
  | .apply _ l _ call => ∀ sc ds, call.plan l = .ok (sc, ds) →
      ∀ d ∈ ds, ∀ r ∈ s.roles, r.name = d.name → r.id ∉ subject.roles

variable {subject : Subject} {s : Store} {act : Act}

theorem after_eq_replay (act : Act) (s : Store) : act.after s = s.replay (act.calls s) := by
  cases act with
  | activity a => exact a.after_eq_replay s
  | apply now l run call =>
    rw [after, call.after_activity now l run s, Activity.after_eq_replay]
    rfl

/-- An act that spares the subject comes to calls that do. -/
theorem calls_spare (hs : s.ReachableInRange) (hknows : s.Knows subject) (ho : act.Orderly s)
    (h : act.Spares subject s) :
    Along (fun u now op => op.Orderly u now ∧ op.Spares subject u) s (act.calls s) := by
  cases act with
  | activity a => exact Along.and ho h
  | apply now l run call =>
    refine call.spares_activity now l (fun sc ds hplan => ⟨hs.counted, hknows, ?_⟩) ho
    rintro r hr ⟨d, hd, hname⟩
    exact h sc ds hplan d hd r hr hname.symm

end Act

/-- The store after some acts. -/
def Store.afterActs (s : Store) (acts : List Act) : Store := acts.foldl Act.after s

/-- Each of the acts is orderly and spares the subject, on the store it finds. -/
def Isolated (subject : Subject) : Store → List Act → Prop
  | _, [] => True
  | s, act :: rest =>
    act.Orderly s ∧ act.Spares subject s ∧ Isolated subject (act.after s) rest

/-- After acts that spare the subject it holds the same grants. -/
theorem untouched_afterActs {subject : Subject} {s : Store} {acts : List Act}
    (hs : s.ReachableInRange) (hknows : s.Knows subject) (h : Isolated subject s acts) :
    s.Untouched subject (s.afterActs acts) := by
  induction acts generalizing s with
  | nil => exact .refl s
  | cons act rest ih =>
    obtain ⟨hordered, hspares, hrest⟩ := h
    have hcalls := act.calls_spare hs hknows hordered hspares
    have horderly := hcalls.imp fun u now op hop => hop.1
    have hafter := act.after_eq_replay s
    have hfirst : s.Untouched subject (act.after s) := hafter ▸ Store.untouched_replay hs hcalls
    exact hfirst.trans (ih (hafter ▸ hs.replay horderly) (hafter ▸ hknows.replay horderly) hrest)

/-- **What is done to others does not change what a subject may do.**  Let all roles of the subject
be there.  After any acts that do not concern the subject's own grants, among them applying
scenarios without a role that has the name of one of its roles, checking gives the same decision as
before on every request. -/
theorem check_is_isolated {subject : Subject} {s : Store} {acts : List Act}
    (hs : s.ReachableInRange) (hknows : ∀ id ∈ subject.roles, ∃ r ∈ s.roles, r.id = id)
    (h : Isolated subject s acts) (earlier later : Stamp) (q : Request) :
    ∃ decision,
      ((Backend.memory earlier).check subject q).run s = (.ok decision, s) ∧
      ((Backend.memory later).check subject q).run (s.afterActs acts) =
        (.ok decision, s.afterActs acts) := by
  refine ⟨s.decision subject q, run_check_memory earlier s subject q, ?_⟩
  rw [run_check_memory, (untouched_afterActs hs hknows h).decision_eq q]

/-- The guests among the teams, and a user. -/
def guest : Subject := ⟨[⟨3⟩], some ⟨7⟩⟩

/-- A scenario with a role that has the name of the guests. -/
def reception : Scenario where
  name := "reception"
  roles := [{ name := "guests", lines := [{ area := "news", action := "see" }] }]

/-- The guests get another name, and then a scenario is applied with a role that has their old one.
A grant of the editors is removed, and a transaction that removes those of the guests is dropped. -/
def receptionActs : List Act :=
  [.activity (.call newYear (.changeRole ⟨3⟩ { name := some "visitors" })),
    .apply newYear .empty "1" (.applyScenario reception),
    .activity (.call newYear (.deleteGrant ⟨4⟩)),
    .activity (.transaction [(newYear, .clearRole ⟨3⟩)] false)]

/-- The guests still see their draft. -/
theorem check_is_isolated_guest :
    ∃ decision,
      ((Backend.memory newYear).check guest ⟨"news", some "draft", some 4, "see"⟩).run teams =
        (.ok decision, teams) ∧
      ((Backend.memory newYear).check guest ⟨"news", some "draft", some 4, "see"⟩).run
        (teams.afterActs receptionActs) = (.ok decision, teams.afterActs receptionActs) := by
  have hknows : ∀ id ∈ guest.roles, ∃ r ∈ teams.roles.rows, r.id = id := by decide +kernel
  have hisolated : Isolated guest teams receptionActs := by
    refine ⟨⟨⟨trivial, by decide +kernel⟩, trivial⟩, ⟨trivial, trivial⟩, ?_, ?_, ?_⟩
    · show Along _ _ (Activity.calls _)
      decide +kernel
    · rintro sc ds ⟨⟩
      show ∀ d ∈ reception.roles, ∀ r ∈ Table.rows _, _
      decide +kernel
    · refine ⟨⟨⟨trivial, by decide +kernel⟩, trivial⟩, ⟨?_, trivial⟩, trivial, trivial, trivial⟩
      show ∀ g ∈ Table.rows _, _
      decide +kernel
  exact check_is_isolated reachableInRange_teams hknows hisolated newYear newYear _

end Gatehouse
