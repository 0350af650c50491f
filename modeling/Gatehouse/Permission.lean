import Gatehouse.Grant.Basic

/-!
# Known permissions

The actions that the site knows, by section and kind of item, each with a description.  Grants may
speak about others too; the list tells which of them mean something, and what could still be granted
in a scope.

A permission on a whole section has the empty text for its item, so a missing item and an empty one
ask for the same.
-/

set_option autoImplicit false

namespace Gatehouse

/-- An action that the site knows. -/
structure Permission where
  /-- The section of the site. -/
  area : String
  /-- The kind of item; empty for the whole section. -/
  item : String
  /-- The action. -/
  action : String
  /-- A description for readers. -/
  description : String
deriving DecidableEq, Repr

namespace Permission

/-- All known permissions, section by section. -/
def all : List Permission :=
  [⟨"forum", "category", "see", "List a forum category"⟩,
   ⟨"forum", "category", "view", "Open a forum category"⟩,
   ⟨"forum", "topic", "see", "List a forum topic"⟩,
   ⟨"forum", "topic", "view", "Read threads in a forum topic"⟩,
   ⟨"forum", "topic", "reply", "Reply to threads in a forum topic"⟩,
   ⟨"forum", "topic", "post", "Start threads in a forum topic"⟩,
   ⟨"forum", "topic", "edit", "Edit posts in a forum topic"⟩,
   ⟨"forum", "thread", "see", "List a forum thread"⟩,
   ⟨"forum", "thread", "view", "Read a forum thread"⟩,
   ⟨"forum", "thread", "reply", "Reply to a forum thread"⟩,
   ⟨"forum", "thread", "post", "Post to a forum thread"⟩,
   ⟨"forum", "thread", "edit", "Edit posts in a forum thread"⟩,
   ⟨"privateforum", "topic", "see", "List a private topic"⟩,
   ⟨"privateforum", "topic", "view", "Read a private topic"⟩,
   ⟨"privateforum", "topic", "reply", "Reply in a private topic"⟩,
   ⟨"privateforum", "topic", "post", "Start a private topic"⟩,
   ⟨"privateforum", "topic", "edit", "Edit posts in a private topic"⟩,
   ⟨"privateforum", "topic", "label", "Label private topics"⟩,
   ⟨"linker", "category", "see", "List a link category"⟩,
   ⟨"linker", "category", "view", "Open a link category"⟩,
   ⟨"linker", "link", "see", "List a link"⟩,
   ⟨"linker", "link", "view", "Open a link and its comments"⟩,
   ⟨"images", "upload", "see", "List uploaded images"⟩,
   ⟨"images", "upload", "view", "View uploaded images"⟩,
   ⟨"images", "upload", "post", "Upload images"⟩,
   ⟨"imagebbs", "board", "see", "List an image board"⟩,
   ⟨"imagebbs", "board", "view", "Open an image board"⟩,
   ⟨"imagebbs", "board", "post", "Post to an image board"⟩,
   ⟨"news", "post", "see", "List news posts"⟩,
   ⟨"news", "post", "view", "Read a news post"⟩,
   ⟨"news", "post", "reply", "Comment on a news post"⟩,
   ⟨"news", "post", "post", "Publish news posts"⟩,
   ⟨"news", "post", "edit", "Edit news posts"⟩,
   ⟨"news", "post", "label", "Label news posts"⟩,
   ⟨"blog", "category", "see", "List a blog category"⟩,
   ⟨"blog", "category", "view", "Open a blog category"⟩,
   ⟨"blog", "blog", "see", "List a blog entry"⟩,
   ⟨"blog", "blog", "view", "Read a blog entry"⟩,
   ⟨"blog", "blog", "post", "Write blog entries"⟩,
   ⟨"blog", "blog", "edit", "Edit blog entries"⟩,
   ⟨"writings", "category", "see", "List a writing category"⟩,
   ⟨"writings", "category", "view", "Open a writing category"⟩,
   ⟨"writings", "writing", "see", "List a writing"⟩,
   ⟨"writings", "writing", "view", "Read a writing"⟩,
   ⟨"writings", "writing", "post", "Publish writings"⟩,
   ⟨"writings", "writing", "edit", "Edit writings"⟩,
   ⟨"faq", "", "search", "Search the FAQ"⟩,
   ⟨"faq", "question/answer", "see", "Read FAQ answers"⟩]

/-- The permission is about the section and the item; no item means the whole section. -/
def isOn (p : Permission) (area : String) (item : Option String) : Bool :=
  p.area == area && p.item == item.getD ""

/-- The known actions in a scope, in the order of the list. -/
def actionsOn (area : String) (item : Option String) : List String :=
  (all.filter (·.isOn area item)).map (·.action)

/-- The list knows the section with the item. -/
def knowsItem (area : String) (item : Option String) : Bool := all.any (·.isOn area item)

/-- The list knows the action in the section on the item. -/
def knows (area : String) (item : Option String) (action : String) : Bool :=
  all.any fun p => p.isOn area item && p.action == action

/-! ## The list by section and item -/

/-- The permissions for one kind of item. -/
structure ItemGroup where
  /-- The kind of item. -/
  item : String
  /-- The permissions. -/
  permissions : List Permission
deriving DecidableEq, Repr

/-- The permissions of one section. -/
structure AreaGroup where
  /-- The section. -/
  area : String
  /-- Its kinds of items. -/
  items : List ItemGroup
deriving DecidableEq, Repr

/-- A list of permissions by item, items in the order in which they first occur. -/
def byItem (ps : List Permission) : List ItemGroup :=
  (ps.map (·.item)).eraseDups.map fun item => ⟨item, ps.filter (·.item == item)⟩

/-- A list of permissions by section and item, both in the order in which they first occur. -/
def byArea (ps : List Permission) : List AreaGroup :=
  (ps.map (·.area)).eraseDups.map fun area => ⟨area, byItem (ps.filter (·.area == area))⟩

/-! ## The questions agree -/

theorem mem_actionsOn {area action : String} {item : Option String} :
    action ∈ actionsOn area item ↔ knows area item action := by
  simp [actionsOn, knows, and_assoc]

end Permission

end Gatehouse
