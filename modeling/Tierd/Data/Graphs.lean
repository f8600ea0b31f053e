import Mathlib

namespace Tierd.Data

open List

variable {α : Type} {edge : α → α → Prop}

/-- No node leads back to itself. -/
def Acyclic (edge : α → α → Prop) : Prop := ∀ node, ¬ Relation.TransGen edge node node

/-- A walk along the edges that ends where it began. -/
def IsCycle (edge : α → α → Prop) (walk : List α) : Prop :=
  ∃ node rest, walk = node :: rest ++ [node] ∧ walk.IsChain edge

theorem transGen_of_isChain {node last : α} {rest : List α} (chain : (node :: rest ++ [last]).IsChain edge) :
    Relation.TransGen edge node last := by
  induction rest generalizing node with
  | nil => exact .single (isChain_cons_cons.mp chain).1
  | cons next rest ih =>
    obtain ⟨first, later⟩ := isChain_cons_cons.mp chain
    exact .head first (ih later)

theorem IsCycle.not_acyclic {walk : List α} (cycle : IsCycle edge walk) : ¬ Acyclic edge := by
  obtain ⟨node, rest, rfl, chain⟩ := cycle
  exact fun acyclic => acyclic node (transGen_of_isChain chain)

theorem isCycle_dropWhile [DecidableEq α] {walk : List α} {last node : α} (chain : (walk ++ [last]).IsChain edge)
    (back : edge last node) (member : node ∈ walk ++ [last]) :
    IsCycle edge ((walk ++ [last]).dropWhile (· ≠ node) ++ [node]) := by
  obtain ⟨before, after, split, earlier⟩ := eq_append_cons_of_mem member
  have dropped : (walk ++ [last]).dropWhile (· ≠ node) = node :: after := by
    rw [split, dropWhile_append_of_pos fun other listed => by
      simpa using fun same : other = node => earlier (same ▸ listed)]
    exact dropWhile_cons_of_neg (by simp)
  refine ⟨node, after, by rw [dropped], ?_⟩
  have whole : ((walk ++ [last]) ++ [node]).IsChain edge := by
    refine isChain_append.mpr ⟨chain, isChain_singleton node, ?_⟩
    simpa using back
  rw [split, append_assoc] at whole
  rw [dropped]
  exact whole.right_of_append

/-- A list of nodes each of which leads only to nodes further down. -/
inductive Settled (edge : α → α → Prop) : List α → Prop where
  | nil : Settled edge []
  | cons {node : α} {rest : List α} (leads : ∀ next, edge node next → next ∈ rest) (settled : Settled edge rest) :
      Settled edge (node :: rest)

theorem Settled.not_transGen {nodes : List α} (settled : Settled edge nodes) :
    ∀ node ∈ nodes, ¬ Relation.TransGen edge node node := by
  induction settled with
  | nil => simp
  | cons leads settled ih =>
    intro node member cycle
    rcases mem_cons.mp member with rfl | later
    · obtain ⟨next, first, back⟩ := Relation.TransGen.head'_iff.mp cycle
      exact ih next (leads next first) (.tail' back first)
    · exact ih node later cycle

theorem Settled.exists_ready {nodes : List α} (settled : Settled edge nodes) (finished : α → Prop) {node : α}
    (member : node ∈ nodes) (left : ¬ finished node) :
    ∃ ready ∈ nodes, ¬ finished ready ∧ ∀ next, edge ready next → finished next := by
  induction settled generalizing node with
  | nil => cases member
  | @cons first rest leads settled ih =>
    have inRest {other : α} (listed : other ∈ rest) (left : ¬ finished other) :
        ∃ ready ∈ first :: rest, ¬ finished ready ∧ ∀ next, edge ready next → finished next := by
      obtain ⟨ready, below, unfinished, all⟩ := ih listed left
      exact ⟨ready, mem_cons_of_mem first below, unfinished, all⟩
    rcases mem_cons.mp member with rfl | later
    · by_cases all : ∀ next, edge node next → finished next
      · exact ⟨node, mem_cons_self, left, all⟩
      · push Not at all
        obtain ⟨next, leadsTo, unfinished⟩ := all
        exact inRest (leads next leadsTo) unfinished
    · exact inRest later left

end Tierd.Data
