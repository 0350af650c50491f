import Gatehouse.Command.Run
import Gatehouse.Proofs.Grant.Purge
import Gatehouse.Proofs.Inclusion
import Gatehouse.Proofs.Template.Difference
import Gatehouse.Proofs.Template.Success
import Gatehouse.Proofs.Template.Sync

/-!
# What commands leave behind

A command that only reads leaves the store as it is (`Action.Quiet`), and a command that fails does
so too (`Action.Clean`).  For most commands the second is a matter of how they are put together:
they look things up and then do one thing that succeeds or has no effect, be it a single call or a
transaction.  Cleaning up and moving users make one call after the other without a transaction.
They are clean because in a store that was reached none of these calls can fail: whatever can be
refused is refused while they are still looking things up.
-/

set_option autoImplicit false

namespace Gatehouse

/-! ## Quiet and clean actions -/

namespace Action

variable {σ α β : Type} {x : Action σ α} {f : α → Action σ β} {s : σ}

/-- The action leaves a state as it is, whether it succeeds or fails. -/
def Quiet (x : Action σ α) (s : σ) : Prop := (x.run s).2 = s

/-- The action leaves a state as it is if it fails. -/
def Clean (x : Action σ α) (s : σ) : Prop := ∀ e t, x.run s = (.error e, t) → t = s

theorem quiet_of_run {r : Except Error α} (h : x.run s = (r, s)) : x.Quiet s := by
  rw [Quiet, h]

@[simp] theorem quiet_pure (a : α) : (pure a : Action σ α).Quiet s := rfl

@[simp] theorem quiet_query (g : σ → α) : (query g).Quiet s := rfl

@[simp] theorem quiet_lift (r : Except Error α) : (lift r).Quiet s := rfl

@[simp] theorem quiet_require (absent : Absent) (o : Option α) :
    (require absent o : Action σ α).Quiet s := by
  cases o <;> rfl

theorem Quiet.bind (hx : x.Quiet s) (hf : ∀ a, (f a).Quiet s) : (x >>= f).Quiet s := by
  rw [Quiet, run_bind]
  rcases h : x.run s with ⟨e | a, t⟩ <;> obtain rfl : t = s := by rw [← hx, h]
  · rfl
  · exact hf a

theorem Quiet.clean (hx : x.Quiet s) : x.Clean s := by
  intro e t h
  rw [← hx, h]

/-- An action that does not fail is clean. -/
theorem clean_of_ok {a : α} {t : σ} (h : x.run s = (.ok a, t)) : x.Clean s := by
  intro e u hfailed
  rw [h] at hfailed
  cases hfailed

theorem clean_attempt (g : σ → Except Error (α × σ)) : (attempt g).Clean s := by
  intro e t h
  rw [run_attempt] at h
  split at h <;> cases h
  rfl

/-- After looking things up, an action is as clean as what it goes on with. -/
theorem Quiet.bind_clean (hx : x.Quiet s) (hf : ∀ a, (f a).Clean s) : (x >>= f).Clean s := by
  intro e t h
  rw [run_bind] at h
  rcases hrun : x.run s with ⟨e' | a, u⟩ <;> rw [hrun] at h <;>
    obtain rfl : u = s := by rw [← hx, hrun]
  · cases h
    rfl
  · exact hf a e t h

/-- Working on the result cannot fail any more. -/
theorem Clean.bind_pure (hx : x.Clean s) (g : α → β) : (x >>= fun a => pure (g a)).Clean s := by
  intro e t h
  rw [run_bind] at h
  rcases hrun : x.run s with ⟨e' | a, u⟩ <;> rw [hrun] at h <;> cases h
  exact hx e t hrun

end Action

/-! ## Services that only read -/

namespace Backend

open Gatehouse.Action

variable (now : Stamp) {s : Store}

theorem quiet_select (all : List RoleGrants) (name : String) :
    (select all name : Action Store RoleGrants).Quiet s :=
  quiet_require _ _

theorem quiet_allGrants_memory : (memory now).allGrants.Quiet s :=
  quiet_of_run (run_allGrants_memory now s)

theorem quiet_inspect_memory (name : String) : ((memory now).inspect name).Quiet s :=
  (quiet_allGrants_memory now).bind fun all => (quiet_select all name).bind fun _ =>
    (quiet_query _).bind fun _ => quiet_pure _

theorem quiet_matrix_memory : (memory now).matrix.Quiet s :=
  (quiet_allGrants_memory now).bind fun _ => quiet_pure _

theorem quiet_exportText_memory (name : String) (format : ExportFormat) :
    ((memory now).exportText name format).Quiet s := by
  refine Quiet.bind ?_ fun _ => quiet_pure _
  exact (quiet_query _).bind fun role => (quiet_require _ role).bind fun _ =>
    (quiet_query _).bind fun _ => quiet_pure _

theorem quiet_diff_memory (l : Library) (name : String) : ((memory now).diff l name).Quiet s :=
  (quiet_lift _).bind fun sc => quiet_of_run (run_diffScenario_memory now s sc)

theorem quiet_check_memory (subject : Subject) (q : Request) :
    ((memory now).check subject q).Quiet s :=
  quiet_of_run (run_check_memory now s subject q)

theorem quiet_dryPurge_memory (area item : String) (itemId : Int32) :
    ((memory now).purge area item itemId true).Quiet s :=
  (quiet_query _).bind fun _ => quiet_pure _

/-! ## Services that write -/

/-- A transaction on the store is taken over as a whole or not at all. -/
theorem clean_inTransaction_memory {α : Type} (work : Action Store α) :
    ((memory now).inTransaction work).Clean s := by
  intro e t h
  rw [run_inTransaction, run_begin_memory] at h
  dsimp only at h
  rcases hwork : work.run s with ⟨e' | a, done⟩ <;> rw [hwork] at h <;> cases h
  rfl

theorem clean_applySome_memory (run : String) (sc : Scenario) (ds : List RoleTemplate) :
    ((memory now).applySome run sc ds).Clean s :=
  (quiet_lift _).bind_clean fun _ => (clean_inTransaction_memory now _).bind_pure _

theorem clean_apply_memory (l : Library) (run name : String) :
    ((memory now).apply l run name).Clean s :=
  (quiet_lift _).bind_clean fun sc => clean_applySome_memory now run sc sc.roles

theorem clean_resetRole_memory (l : Library) (run scenario role : String) :
    ((memory now).resetRole l run scenario role).Clean s :=
  (quiet_lift _).bind_clean fun sc => (quiet_require _ (sc.role? role)).bind_clean fun d =>
    clean_applySome_memory now run sc [d]

/-- Cleaning up does not fail. -/
theorem clean_purge_memory (area item : String) (itemId : Int32) (dryRun : Bool) :
    ((memory now).purge area item itemId dryRun).Clean s := by
  cases dryRun with
  | true => exact (quiet_dryPurge_memory now area item itemId).clean
  | false => exact clean_of_ok (run_purge_memory now s area item itemId)

/-- Moving users fails only if a role of the scenario is not there, and that is found out before
anything is written. -/
theorem run_syncScenario_memory_cases (hs : s.Coherent) (sc : Scenario) (dryRun : Bool) :
    (∃ e, ((memory now).syncScenario sc dryRun).run s = (.error e, s)) ∨
      ∃ report, ((memory now).syncScenario sc dryRun).run s =
        (.ok report, if dryRun then s else s.afterAll now (s.syncCalls sc)) := by
  cases hmissing : sc.roles.find? fun d => (s.roleNamed? d.name).isNone with
  | some d => exact .inl ⟨_, run_syncScenario_of_missing now hmissing dryRun⟩
  | none =>
    have hthere := find?_isNone_eq_none_iff.1 hmissing
    exact .inr ⟨_, run_syncScenario_memory now hs hthere dryRun⟩

theorem clean_sync_memory (hs : s.Coherent) (l : Library) (name : String) (dryRun : Bool) :
    ((memory now).sync l name dryRun).Clean s := by
  refine (quiet_lift _).bind_clean fun sc => ?_
  rcases run_syncScenario_memory_cases now hs sc dryRun with ⟨e, hrun⟩ | ⟨report, hrun⟩
  · exact (quiet_of_run hrun).clean
  · exact clean_of_ok hrun

theorem quiet_drySync_memory (hs : s.Coherent) (l : Library) (name : String) :
    ((memory now).sync l name true).Quiet s := by
  refine (quiet_lift _).bind fun sc => ?_
  rcases run_syncScenario_memory_cases now hs sc true with ⟨e, hrun⟩ | ⟨report, hrun⟩
  · exact quiet_of_run hrun
  · exact quiet_of_run hrun

end Backend

/-! ## Commands -/

namespace Command

open Gatehouse.Action

variable (now : Stamp) {s : Store}

/-- The command tells something and changes nothing. -/
def readsOnly : Command → Bool
  | .listScenarios | .explain _ | .diff _ | .inspect _ | .exportRole _ _ | .matrix
  | .listPermissions _ | .check _ _ _ => true
  | .purge _ _ _ dryRun | .sync _ dryRun => dryRun
  | .apply _ | .reset _ _ | .assign _ _ | .revoke _ _ => false

theorem quiet_subject_memory (user : Option UserId) (roles : Option (List RoleId)) :
    (subject (Backend.memory now) user roles).Quiet s := by
  rcases roles with - | roles
  · rcases user with - | user
    · exact quiet_pure _
    · exact (quiet_query _).bind fun _ => quiet_pure _
  · exact quiet_pure _

theorem quiet_roleNamed_memory (name : String) :
    (roleNamed (Backend.memory now) name).Quiet s :=
  (quiet_query _).bind fun role => quiet_require _ role

theorem quiet_run_memory (hs : s.Coherent) (l : Library) (runName : String) {c : Command}
    (hc : c.readsOnly = true) : (c.run (Backend.memory now) l runName).Quiet s := by
  cases c with
  | listScenarios => exact quiet_pure _
  | explain name => exact (quiet_lift _).bind fun _ => quiet_pure _
  | diff name => exact (Backend.quiet_diff_memory now l name).bind fun _ => quiet_pure _
  | inspect name => exact (Backend.quiet_inspect_memory now name).bind fun _ => quiet_pure _
  | exportRole name format =>
    exact (Backend.quiet_exportText_memory now name format).bind fun _ => quiet_pure _
  | matrix => exact (Backend.quiet_matrix_memory now).bind fun _ => quiet_pure _
  | listPermissions json => exact quiet_pure _
  | check user roles request =>
    exact (quiet_subject_memory now user roles).bind fun subject =>
      (Backend.quiet_check_memory now subject request).bind fun _ => quiet_pure _
  | purge area item itemId dryRun =>
    obtain rfl : dryRun = true := hc
    exact (Backend.quiet_dryPurge_memory now area item itemId).bind fun _ => quiet_pure _
  | sync name dryRun =>
    obtain rfl : dryRun = true := hc
    exact (Backend.quiet_drySync_memory now hs l name).bind fun _ => quiet_pure _
  | apply _ | reset _ _ | assign _ _ | revoke _ _ => cases hc

theorem clean_run_memory (hs : s.Coherent) (l : Library) (runName : String) (c : Command) :
    (c.run (Backend.memory now) l runName).Clean s := by
  cases c with
  | apply name => exact (Backend.clean_apply_memory now l runName name).bind_pure _
  | reset scenario role =>
    exact (Backend.clean_resetRole_memory now l runName scenario role).bind_pure _
  | assign user name =>
    exact (quiet_roleNamed_memory now name).bind_clean fun role => (clean_attempt _).bind_pure _
  | revoke user name =>
    exact (quiet_roleNamed_memory now name).bind_clean fun role => clean_of_ok rfl
  | purge area item itemId dryRun =>
    exact (Backend.clean_purge_memory now area item itemId dryRun).bind_pure _
  | sync name dryRun => exact (Backend.clean_sync_memory now hs l name dryRun).bind_pure _
  | _ => exact (quiet_run_memory now hs l runName rfl).clean

end Command

/-- **Commands change all or nothing, and those that only read change nothing.**  Whatever command
is given, if it fails then the store is as it was before; and a command that only reads leaves the
store as it is whether it succeeds, answers no or fails. -/
theorem run_all_or_nothing (now : Stamp) {s : Store} (hs : s.Reachable) (l : Library)
    (runName : String) (c : Command) :
    (∀ e t, (c.run (Backend.memory now) l runName).run s = (.error e, t) → t = s) ∧
      (c.readsOnly = true →
        ∀ r t, (c.run (Backend.memory now) l runName).run s = (r, t) → t = s) := by
  refine ⟨c.clean_run_memory now hs.coherent l runName, fun hc r t h => ?_⟩
  have hquiet := Command.quiet_run_memory now hs.coherent l runName hc
  rw [Action.Quiet, h] at hquiet
  exact hquiet

/-- The scenario that the teams refuse, in a library of its own. -/
def unsignedOnly : Library := ⟨.ofList [unsigned]⟩

/-- Applying this scenario fails after a role was created, and a check is answered with no; either
way the teams stay as they are. -/
theorem run_all_or_nothing_teams :
    ((Command.apply "unsigned").run (Backend.memory newYear) unsignedOnly "1").run teams =
      (.error (.validation .blankRoleName), teams) ∧
    ∃ reply, reply.denied = true ∧
      ((Command.check none (some [⟨1⟩]) ⟨"news", some "draft", none, "see"⟩).run
        (Backend.memory newYear) unsignedOnly "1").run teams = (.ok reply, teams) := by
  have hteams : teams.Reachable := reachableInRange_teams.reachable
  have hkeep := run_all_or_nothing newYear hteams unsignedOnly "1"
  constructor
  · have hfailed : (((Command.apply "unsigned").run (Backend.memory newYear) unsignedOnly "1").run
        teams).1 = .error (.validation .blankRoleName) := by rfl
    rcases hrun : ((Command.apply "unsigned").run (Backend.memory newYear) unsignedOnly "1").run
      teams with ⟨r, t⟩
    obtain rfl : r = .error (.validation .blankRoleName) := by rw [← hfailed, hrun]
    rw [(hkeep _).1 _ t hrun]
  · rcases hrun : ((Command.check none (some [⟨1⟩]) ⟨"news", some "draft", none, "see"⟩).run
      (Backend.memory newYear) unsignedOnly "1").run teams with ⟨r, t⟩
    have ht : t = teams := (hkeep _).2 rfl r t hrun
    have hreply : ∃ reply, r = .ok reply ∧ reply.denied = true := by
      cases hrun
      exact ⟨_, rfl, rfl⟩
    obtain ⟨reply, rfl, hdenied⟩ := hreply
    exact ⟨reply, hdenied, by rw [ht]⟩

end Gatehouse
