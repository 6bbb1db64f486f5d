import TitleSieve.Pattern.Piece

/-!
What putting pieces together keeps. The reader builds the tree of a group from the pieces of its
alternatives: it shares their common beginning, makes one set of single characters, and otherwise
uses sequences and alternatives only. So a property of patterns that these four keep passes from the
pieces to the whole.
-/

namespace TitleSieve.Pattern

def AllOf (P : Tree → Prop) (pieces : List Piece) : Prop := ∀ p ∈ pieces, P p.tree

/-- A property that passes from pieces to what they are put together to. -/
structure Combines (P : Tree → Prop) : Prop where
  empty : P .empty
  seq : ∀ first second, P first → P second → P (.seq first second)
  alt : ∀ first second, P first → P second → P (.alt first second)
  set : ∀ left test, (∀ pieces ∈ left, AllOf P pieces) → mergeSets left = some test → P (.one test)

theorem AllOf.singleton {P : Tree → Prop} {shape : Shape} {tree : Tree} (h : P tree) :
    AllOf P [⟨shape, tree⟩] := by
  intro p hp
  obtain rfl := List.mem_singleton.mp hp
  exact h

/-- Neither the common beginning nor what is left of the alternatives has anything new. -/
theorem AllOf.shareStart {P : Tree → Prop} {first : List Piece} {others : List (List Piece)}
    (hfirst : AllOf P first) (hothers : ∀ other ∈ others, AllOf P other) :
    AllOf P (shareStart first others).1 ∧
      ∀ left ∈ (Pattern.shareStart first others).2, AllOf P left := by
  have hnone : AllOf P [] := fun p hp => nomatch hp
  induction first generalizing others with
  | nil => exact ⟨hnone, List.forall_mem_cons.mpr ⟨hfirst, hothers⟩⟩
  | cons p rest ih =>
    obtain ⟨hp, hrest⟩ := List.forall_mem_cons.mp hfirst
    unfold Pattern.shareStart
    split
    · have htails : ∀ other ∈ others.map List.tail, AllOf P other := by
        rw [List.forall_mem_map]
        exact fun other hother q hq => hothers other hother q (List.mem_of_mem_tail hq)
      obtain ⟨hshared, hleft⟩ := ih hrest htails
      exact ⟨List.forall_mem_cons.mpr ⟨hp, hshared⟩, hleft⟩
    · exact ⟨hnone, List.forall_mem_cons.mpr ⟨hfirst, hothers⟩⟩

namespace Combines

variable {P : Tree → Prop} (hP : Combines P)

include hP

theorem sequence {trees : List Tree} (h : ∀ tree ∈ trees, P tree) : P (Tree.sequence trees) := by
  induction trees with
  | nil => exact hP.empty
  | cons first rest ih =>
    obtain ⟨hfirst, hrest⟩ := List.forall_mem_cons.mp h
    cases rest with
    | nil => exact hfirst
    | cons second more => exact hP.seq _ _ hfirst (ih hrest)

theorem alternatives {trees : List Tree} (h : ∀ tree ∈ trees, P tree) :
    P (Tree.alternatives trees) := by
  induction trees with
  | nil => exact hP.empty
  | cons first rest ih =>
    obtain ⟨hfirst, hrest⟩ := List.forall_mem_cons.mp h
    cases rest with
    | nil => exact hfirst
    | cons second more => exact hP.alt _ _ hfirst (ih hrest)

theorem sequenceOf {pieces : List Piece} (h : AllOf P pieces) : P (sequenceOf pieces) := by
  apply hP.sequence
  rw [List.forall_mem_map]
  exact h

theorem combine {alternatives : List (List Piece)} (h : ∀ pieces ∈ alternatives, AllOf P pieces) :
    AllOf P (combine alternatives) := by
  match alternatives, h with
  | [], _ => exact fun p hp => nomatch hp
  | [only], h => exact h only List.mem_cons_self
  | first :: second :: others, h =>
    obtain ⟨hfirst, hothers⟩ := List.forall_mem_cons.mp h
    obtain ⟨hshared, hleft⟩ := hfirst.shareStart hothers
    unfold Pattern.combine
    simp only
    split
    · rename_i test htest
      have hset : AllOf P [⟨.single, .one test⟩] := .singleton (hP.set _ test hleft htest)
      exact List.forall_mem_append.mpr ⟨hshared, hset⟩
    · have htrees : ∀ tree ∈ (Pattern.shareStart first (second :: others)).2.map Pattern.sequenceOf,
          P tree := by
        rw [List.forall_mem_map]
        exact fun pieces hpieces => hP.sequenceOf (hleft pieces hpieces)
      exact List.forall_mem_append.mpr ⟨hshared, AllOf.singleton (hP.alternatives htrees)⟩

end Combines

end TitleSieve.Pattern
