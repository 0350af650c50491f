import Mathlib.Data.List.TakeWhile

/-!
# Runs of characters at the start of a text

A run of characters of one kind is cut off a text where it ends: what follows it is empty or starts
with a character of another kind (`Ends`).  Then taking characters of the kind gives the run and
dropping them gives the rest, and so a text that starts with a run has no second reading of this
kind (`append_inj_of_ends`).
-/

set_option autoImplicit false

namespace Gatehouse

variable {kind : Char → Bool} {v w s t : List Char}

/-- The characters do not go on with a run of a kind. -/
def Ends (kind : Char → Bool) (s : List Char) : Prop := ∀ c ∈ s.head?, kind c = false

theorem ends_nil : Ends kind [] := nofun

theorem ends_cons {c : Char} (hc : kind c = false) (s : List Char) : Ends kind (c :: s) := by
  intro d hd
  rwa [← Option.some.inj hd]

theorem Ends.take (hs : Ends kind s) (n : Nat) : Ends kind (s.take n) := by
  cases n with
  | zero => exact ends_nil
  | succ n =>
    cases s with
    | nil => exact ends_nil
    | cons c s => exact ends_cons (hs c rfl) _

theorem takeWhile_append_of_ends (hv : ∀ c ∈ v, kind c = true) (hs : Ends kind s) :
    (v ++ s).takeWhile kind = v := by
  rw [List.takeWhile_append_of_pos hv]
  cases s with
  | nil => simp
  | cons c s => simp [hs c rfl]

theorem dropWhile_append_of_ends (hv : ∀ c ∈ v, kind c = true) (hs : Ends kind s) :
    (v ++ s).dropWhile kind = s := by
  rw [List.dropWhile_append_of_pos hv]
  cases s with
  | nil => simp
  | cons c s => simp [hs c rfl]

/-- A run is known from a text that it begins, and so is what follows it. -/
theorem append_inj_of_ends (hv : ∀ c ∈ v, kind c = true) (hw : ∀ c ∈ w, kind c = true)
    (hs : Ends kind s) (ht : Ends kind t) : v ++ s = w ++ t ↔ v = w ∧ s = t := by
  constructor
  · intro h
    have hrun : v = w := by
      rw [← takeWhile_append_of_ends hv hs, h, takeWhile_append_of_ends hw ht]
    exact ⟨hrun, List.append_cancel_left (hrun ▸ h)⟩
  · rintro ⟨rfl, rfl⟩
    rfl

end Gatehouse
