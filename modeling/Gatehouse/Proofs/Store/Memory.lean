import Gatehouse.Proofs.Action
import Gatehouse.Store.Backend

/-!
# The store as a backend

What the calls of `Backend.memory` and `Transaction.memory` that cannot fail make of a store.
-/

set_option autoImplicit false

namespace Gatehouse

variable (now : Stamp) (s : Store)

namespace Backend

@[simp] theorem run_roles_memory : (memory now).roles.run s = (.ok s.roleList, s) := rfl

@[simp] theorem run_roleNamed_memory (name : String) :
    ((memory now).roleNamed name).run s = (.ok (s.roleNamed? name), s) := rfl

@[simp] theorem run_links_memory : (memory now).links.run s = (.ok s.links.rows, s) := rfl

@[simp] theorem run_grantsOfRole_memory (id : RoleId) :
    ((memory now).grantsOfRole id).run s = (.ok (s.grantsOfRole id), s) := rfl

@[simp] theorem run_grantsFor_memory (subject : Subject) (q : Request) :
    ((memory now).grantsFor subject q).run s = (.ok (s.grantsFor subject q), s) := rfl

@[simp] theorem run_begin_memory : (memory now).begin.run s = (.ok s, s) := rfl

@[simp] theorem run_commit_memory (w : Store) : ((memory now).commit w).run s = (.ok (), w) := rfl

end Backend

namespace Transaction

@[simp] theorem run_roleNamed_memory (name : String) :
    ((memory now).roleNamed name).run s = (.ok (s.roleNamed? name), s) := rfl

@[simp] theorem run_grantsOfRole_memory (id : RoleId) :
    ((memory now).grantsOfRole id).run s = (.ok (s.grantsOfRole id), s) := rfl

@[simp] theorem run_clearRole_memory (id : RoleId) :
    ((memory now).clearRole id).run s = (.ok (s.clearRole id).1, (s.clearRole id).2) := rfl

end Transaction

end Gatehouse
