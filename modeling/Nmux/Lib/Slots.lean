import Mathlib.Tactic

/-! Machines with one slot for each key. A request names a key and is answered from its slot alone, so
what several users do to one machine is what each would do to a machine of its own, as long as no two
of them use the same key. Slots and replies may carry the key they were made under: the two machines
then agree up to a renaming. -/
namespace Nmux.Lib

variable {κ ν ι α β ρ : Type} [DecidableEq κ] [DecidableEq ν] [DecidableEq ι]

/-- How a machine answers: the key, the request and what is in the slot of the key. -/
abbrev SlotAnswer (κ α β ρ : Type) := κ → α → Option ρ → β × Option ρ

/-- One request: the answer, and the slots with that of the key changed. -/
def slotCall (answer : SlotAnswer κ α β ρ) (slots : κ → Option ρ) (key : κ) (request : α) :
    β × (κ → Option ρ) :=
  ((answer key request (slots key)).1, Function.update slots key (answer key request (slots key)).2)

/-- The answers to requests in order. -/
def slotReplies (answer : SlotAnswer κ α β ρ) : (κ → Option ρ) → List (κ × α) → List β
  | _, [] => []
  | slots, (key, request) :: rest =>
    (slotCall answer slots key request).1 ::
      slotReplies answer (slotCall answer slots key request).2 rest

/-- The answers to requests of several users, who name keys in their own words. -/
def sharedReplies (answer : SlotAnswer κ α β ρ) (key : ι → ν → κ) :
    (κ → Option ρ) → List (ι × ν × α) → List (ι × β)
  | _, [] => []
  | slots, (user, name, request) :: rest =>
    (user, (slotCall answer slots (key user name) request).1) ::
      sharedReplies answer key (slotCall answer slots (key user name) request).2 rest

/-- The requests of one user. -/
def requestsOf (user : ι) (calls : List (ι × ν × α)) : List (ν × α) :=
  (calls.filter (·.1 = user)).map (·.2)

/-- The answers one user gets. -/
def repliesOf (user : ι) (replies : List (ι × β)) : List β := (replies.filter (·.1 = user)).map (·.2)

/-- A machine that answers under a user's keys as another one does under the user's own names, up to a
renaming of slots and replies. -/
structure Renames (answer : SlotAnswer κ α β ρ) (own : SlotAnswer ν α β ρ) (key : ν → κ)
    (rename : ρ → ρ) (back : β → β) : Prop where
  reply : ∀ name request slot,
    back (answer (key name) request (Option.map rename slot)).1 = (own name request slot).1
  slot : ∀ name request slot,
    (answer (key name) request (Option.map rename slot)).2 =
      Option.map rename (own name request slot).2

/-- **Users with keys of their own are isolated.** If the keys of one user are nobody else's and apart
from each other, the user's replies are those of a machine of the user's own. -/
theorem sharedReplies_isolated {answer : SlotAnswer κ α β ρ} {own : SlotAnswer ν α β ρ}
    {key : ι → ν → κ} {rename : ρ → ρ} {back : β → β} {user : ι}
    (hrenames : Renames answer own (key user) rename back) :
    ∀ (calls : List (ι × ν × α)) (slots : κ → Option ρ) (ownSlots : ν → Option ρ),
      (∀ call ∈ calls, ∀ name, key call.1 call.2.1 = key user name → call.1 = user ∧ call.2.1 = name) →
      (∀ name, slots (key user name) = (ownSlots name).map rename) →
      (repliesOf user (sharedReplies answer key slots calls)).map back =
        slotReplies own ownSlots (requestsOf user calls)
  | [], _, _, _, _ => rfl
  | (caller, called, request) :: rest, slots, ownSlots, hkeys, hslots => by
    have hrest := fun call (hmem : call ∈ rest) => hkeys call (List.mem_cons_of_mem _ hmem)
    by_cases hcaller : caller = user
    · subst hcaller
      have hown : (answer (key caller called) request (slots (key caller called))).2 =
          Option.map rename (own called request (ownSlots called)).2 := by
        rw [hslots, hrenames.slot]
      have hnext : ∀ name,
          (slotCall answer slots (key caller called) request).2 (key caller name) =
            ((slotCall own ownSlots called request).2 name).map rename := by
        intro name
        by_cases hname : name = called
        · subst hname
          simp only [slotCall, Function.update_self]
          exact hown
        · have hkey : key caller name ≠ key caller called := fun h =>
            hname (hkeys _ List.mem_cons_self name h.symm).2.symm
          simp only [slotCall, Function.update_of_ne hkey, Function.update_of_ne hname]
          exact hslots name
      have ih := sharedReplies_isolated hrenames rest _ _ hrest hnext
      simp only [repliesOf, requestsOf, sharedReplies, slotReplies, List.filter_cons, decide_true,
        if_true, List.map_cons] at ih ⊢
      rw [ih]
      congr 1
      show back (answer _ request (slots _)).1 = (own called request (ownSlots called)).1
      rw [hslots, hrenames.reply]
    · have hnext : ∀ name,
          (slotCall answer slots (key caller called) request).2 (key user name) =
            (ownSlots name).map rename := by
        intro name
        have hkey : key user name ≠ key caller called := fun h =>
          hcaller (hkeys _ List.mem_cons_self name h.symm).1
        simp only [slotCall, Function.update_of_ne hkey]
        exact hslots name
      have ih := sharedReplies_isolated hrenames rest _ _ hrest hnext
      simpa [repliesOf, requestsOf, sharedReplies, List.filter_cons, hcaller] using ih

end Nmux.Lib
