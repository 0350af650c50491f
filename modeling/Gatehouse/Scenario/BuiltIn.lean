import Gatehouse.Scenario.Basic

/-!
# Built-in scenarios

Four scenarios come with the program.  Their roles are put together from groups of lines that recur:
reading the news, writing the news, reading the questions and answers.
-/

set_option autoImplicit false

namespace Gatehouse

namespace Scenario

/-- A line on all instances of an item. -/
def onItem (area item action : String) : GrantLine := ⟨area, some item, action, none⟩

/-- A line on a whole section. -/
def onArea (area action : String) : GrantLine := ⟨area, none, action, none⟩

/-- Reading the news. -/
def newsReading : List GrantLine := [onItem "news" "post" "see", onItem "news" "post" "view"]

/-- Writing the news. -/
def newsWriting : List GrantLine :=
  [onItem "news" "post" "post", onItem "news" "post" "edit", onItem "news" "post" "reply"]

/-- Searching and reading the questions and answers. -/
def faqReading : List GrantLine :=
  [onArea "faq" "search", onItem "faq" "question/answer" "see"]

/-- An action on private topics. -/
def onPrivateTopic (action : String) : GrantLine := onItem "privateforum" "topic" action

/-- Minimal access to the news. -/
def basic : Scenario where
  name := "default"
  description := "Basic setup with minimal news access."
  roles :=
    [⟨"guest", false, false, "Read-only access to news.", newsReading⟩,
     ⟨"user", true, false, "Basic user.", newsReading ++ [onItem "news" "post" "reply"]⟩,
     ⟨"admin", true, true, "Administrator with news and private forum rights.",
      newsReading ++ newsWriting ++ ["see", "view", "post"].map onPrivateTopic⟩]

/-- News, private forums and labels. -/
def simpleCommunity : Scenario where
  name := "simple-community"
  description := "Community setup with news, private forums, and labelling."
  roles :=
    [⟨"guest", false, false, "Read-only access to public sections.", newsReading ++ faqReading⟩,
     ⟨"user", true, false, "Standard user with access to private forums and labelling.",
      newsReading ++ [onItem "news" "post" "label"] ++
        ["label", "see", "view"].map onPrivateTopic ++ faqReading⟩,
     ⟨"admin", true, true, "Administrator with full access and content management rights.",
      newsWriting ++ newsReading ++ [onItem "news" "post" "label"] ++
        ["label", "see", "view", "post", "reply", "edit"].map onPrivateTopic ++ faqReading⟩,
     ⟨"image-uploader", false, false, "Can upload images.", [onItem "images" "upload" "post"]⟩]

/-- News only. -/
def newsOnly : Scenario where
  name := "news-only"
  description := "Setup focused solely on news publishing and reading."
  roles :=
    [⟨"guest", false, false, "News reader.", newsReading⟩,
     ⟨"editor", true, false, "News content creator.", newsWriting ++ newsReading⟩,
     ⟨"admin", true, true, "Administrator.", newsWriting ++ newsReading⟩]

/-- Almost everyone only reads. -/
def readOnly : Scenario where
  name := "read-only"
  description := "Restrictive setup where almost everyone is a reader."
  roles :=
    [⟨"guest", false, false, "Global reader.",
      newsReading ++ ["see", "view"].map onPrivateTopic⟩,
     ⟨"admin", true, true, "Administrator.", newsReading ++ ["see", "view"].map onPrivateTopic⟩]

/-- The scenarios that come with the program. -/
def builtIn : List Scenario := [basic, simpleCommunity, newsOnly, readOnly]

end Scenario

end Gatehouse
