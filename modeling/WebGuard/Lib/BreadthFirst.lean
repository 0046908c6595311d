import Mathlib.Data.List.Basic

/-!
# Breadth-first order

A search keeps the nodes it has visited, in the order of the visits, and a queue of the nodes it has
found. What it finds at a node goes to the end of the queue, one level deeper. So the depths never
fall along the visits and the queue, the queue spans at most one level, and the parent of every node
but the first was visited before it, with success.
-/

namespace BreadthFirst

open List

variable {κ : Type*}

structure Node (κ : Type*) where
  key : κ
  depth : Nat
  parent : Option κ
  deriving DecidableEq

/-- A visit, and whether it succeeded. -/
structure Visit (κ : Type*) extends Node κ where
  succeeded : Bool
  deriving DecidableEq

variable (done : List (Visit κ))

/-- The parent of a node, if it has one, was visited with success one level above. -/
def HasParent (node : Node κ) : Prop :=
  ∀ p, node.parent = some p →
    ∃ v ∈ done, v.succeeded = true ∧ v.key = p ∧ node.depth = v.depth + 1

theorem HasParent.mono {done later : List (Visit κ)} {node : Node κ} (h : HasParent done node)
    (hsubset : done ⊆ later) : HasParent later node := by
  intro p hp
  obtain ⟨v, hv, hparent⟩ := h p hp
  exact ⟨v, hsubset hv, hparent⟩

/-- The parent of every visited node was visited before it. -/
def Rooted : Prop :=
  ∀ before v after, done = before ++ v :: after → HasParent before v.toNode

theorem Rooted.snoc {done : List (Visit κ)} {v : Visit κ} (h : Rooted done)
    (hv : HasParent done v.toNode) : Rooted (done ++ [v]) := by
  intro before w after heq
  rcases eq_nil_or_concat after with rfl | ⟨init, last, rfl⟩
  · obtain ⟨rfl, hlast⟩ := append_inj' heq rfl
    cases hlast
    exact hv
  · have hsplit : done ++ [v] = (before ++ w :: init) ++ [last] := by simpa using heq
    exact h before w init (append_inj' hsplit rfl).1

/-- The nodes of a search, in the order in which they are visited. -/
def nodes (queue : List (Node κ)) : List (Node κ) :=
  done.map (·.toNode) ++ queue

/-- The depth of the last visit. -/
def level : Nat := done.getLast?.elim 0 (·.depth)

/-- The invariant of a breadth-first search. -/
structure Layered (done : List (Visit κ)) (queue : List (Node κ)) : Prop where
  order : ((nodes done queue).map (·.depth)).Pairwise (· ≤ ·)
  span : ∀ node ∈ queue, node.depth ≤ level done + 1
  rooted : Rooted done
  pending : ∀ node ∈ queue, HasParent done node
  single : ∀ node ∈ (nodes done queue).tail, node.parent ≠ none

/-- A search that has found one node. -/
theorem layered_root {root : Node κ} (hdepth : root.depth = 0) (hparent : root.parent = none) :
    Layered [] [root] where
  order := by simp [nodes]
  span := by simp [hdepth]
  rooted := by simp [Rooted]
  pending := by simp [HasParent, hparent]
  single := by simp [nodes]

namespace Layered

variable {done : List (Visit κ)} {queue rest added : List (Node κ)} {node : Node κ} {ok : Bool}

theorem sublist (h : Layered done queue) (hrest : rest.Sublist queue) : Layered done rest where
  order := h.order.sublist (((List.Sublist.refl _).append hrest).map _)
  span := fun n hn => h.span n (hrest.subset hn)
  rooted := h.rooted
  pending := fun n hn => h.pending n (hrest.subset hn)
  single := fun n hn => h.single n (((List.Sublist.refl _).append hrest).tail.subset hn)

theorem level_le_front (h : Layered done (node :: rest)) : level done ≤ node.depth := by
  unfold level
  cases hlast : done.getLast? with
  | none => exact Nat.zero_le _
  | some last =>
    have horder := h.order
    rw [nodes, map_append, pairwise_append] at horder
    refine horder.2.2 last.depth ?_ node.depth (by simp)
    simp only [map_map]
    exact mem_map_of_mem (mem_of_getLast? hlast)

/-- No node is deeper than one level below the front of the queue. -/
theorem depth_le_front (h : Layered done (node :: rest)) :
    ∀ n ∈ nodes done (node :: rest), n.depth ≤ node.depth + 1 := by
  intro n hn
  rcases mem_append.mp hn with hn | hn
  · have horder := h.order
    rw [nodes, map_append, pairwise_append] at horder
    have := horder.2.2 n.depth (mem_map_of_mem hn) node.depth (by simp)
    omega
  · have := h.span n hn
    have := h.level_le_front
    omega

/-- **The front of the queue is visited, and what it leads to is put at the end.** -/
theorem visit (h : Layered done (node :: rest))
    (hadded : ∀ n ∈ added, n.depth = node.depth + 1 ∧ n.parent = some node.key)
    (hok : added ≠ [] → ok = true) : Layered (done ++ [⟨node, ok⟩]) (rest ++ added) := by
  have hnodes : nodes (done ++ [⟨node, ok⟩]) (rest ++ added)
      = nodes done (node :: rest) ++ added := by simp [nodes]
  have hfront := h.depth_le_front
  refine ⟨?_, ?_, h.rooted.snoc (h.pending node mem_cons_self), ?_, ?_⟩
  · rw [hnodes, map_append, pairwise_append]
    refine ⟨h.order, ?_, ?_⟩
    · refine pairwise_of_forall_mem_list ?_
      intro a ha b hb
      obtain ⟨n, hn, rfl⟩ := mem_map.mp ha
      obtain ⟨n', hn', rfl⟩ := mem_map.mp hb
      exact Nat.le_of_eq ((hadded n hn).1.trans (hadded n' hn').1.symm)
    · intro a ha b hb
      obtain ⟨n, hn, rfl⟩ := mem_map.mp ha
      obtain ⟨n', hn', rfl⟩ := mem_map.mp hb
      rw [(hadded n' hn').1]
      exact hfront n hn
  · intro n hn
    have hlevel : level (done ++ [(⟨node, ok⟩ : Visit κ)]) = node.depth := by simp [level]
    rw [hlevel]
    rcases mem_append.mp hn with hn | hn
    · exact hfront n (by simp [nodes, hn])
    · exact Nat.le_of_eq (hadded n hn).1
  · intro n hn
    rcases mem_append.mp hn with hn | hn
    · exact (h.pending n (mem_cons_of_mem node hn)).mono (subset_append_left done _)
    · obtain ⟨hdepth, hparent⟩ := hadded n hn
      intro p hp
      rw [hparent] at hp
      exact ⟨⟨node, ok⟩, by simp, hok (ne_nil_of_mem hn), Option.some.inj hp, hdepth⟩
  · intro n hn
    have htail : (nodes done (node :: rest) ++ added).tail
        = (nodes done (node :: rest)).tail ++ added := by
      cases done <;> simp [nodes]
    rw [hnodes, htail] at hn
    rcases mem_append.mp hn with hn | hn
    · exact h.single n hn
    · rw [(hadded n hn).2]
      simp

end Layered

end BreadthFirst
