import Mathlib.Data.List.Chain
import Mathlib.Data.List.Lex
import Mathlib.Data.Prod.Lex
import ServiceContainer.Proofs.ReferenceGraph.Reference

/-!
# What the breadth-first search finds

The search holds a queue of paths from `start`. The cycles that it can still come to are those that leave the
queue along unseen services; `Completes` names them. Taking a path off the queue loses some of them, but for
each one lost an earlier one stays, so the cycle that is found in the end comes first among all of them.

Earlier means shorter, and among equally long paths lower in dictionary order. That is where the order of the
queue comes in: its paths are ascending, and each of them was reached from a path before the whole queue.
-/

namespace ServiceContainer.ReferenceGraph

open Std (ExtTreeSet)

/-- The order in which the search comes to paths: by length, then as in a dictionary. -/
def rank (path : List ServiceId) : ℕ ×ₗ List ServiceId := toLex (path.length, path)

section Rank

variable {p q : List ServiceId} {a b : ServiceId}

theorem rank_lt_iff : rank p < rank q ↔ p.length < q.length ∨ p.length = q.length ∧ p < q := by
  simp only [rank, Prod.Lex.toLex_lt_toLex]

theorem rank_le_iff : rank p ≤ rank q ↔ p.length < q.length ∨ p.length = q.length ∧ p ≤ q := by
  simp only [rank, Prod.Lex.toLex_le_toLex]

theorem rank_lt_of_length_lt (hlength : p.length < q.length) : rank p < rank q :=
  rank_lt_iff.mpr (Or.inl hlength)

theorem length_le_of_rank_le (hrank : rank p ≤ rank q) : p.length ≤ q.length := by
  rcases rank_le_iff.mp hrank with hlt | heq
  · exact hlt.le
  · exact heq.1.le

theorem append_lt_append (s t : List ServiceId) (hlength : p.length = q.length) (hlt : p < q) :
    p ++ s < q ++ t := by
  induction hlt with
  | nil => simp at hlength
  | rel hlt => exact List.Lex.rel hlt
  | cons _ ih => exact List.Lex.cons (ih (by simpa using hlength))

theorem rank_append_le (s : List ServiceId) (hrank : rank p ≤ rank q) : rank (p ++ s) ≤ rank (q ++ s) := by
  rcases rank_le_iff.mp hrank with hlt | ⟨hlength, hle⟩
  · exact (rank_lt_of_length_lt (by simpa using hlt)).le
  · rcases hle.lt_or_eq with hlt | rfl
    · exact (rank_lt_iff.mpr (Or.inr ⟨by simpa using hlength, append_lt_append s s hlength hlt⟩)).le
    · exact le_rfl

theorem rank_append_le_append (front s : List ServiceId) (hrank : rank p ≤ rank q) :
    rank (p ++ s) ≤ rank (q ++ (front ++ s)) := by
  cases front with
  | nil => exact rank_append_le s hrank
  | cons a front =>
      have hlength := length_le_of_rank_le hrank
      have longer : (p ++ s).length < (q ++ (a :: front ++ s)).length := by
        simp only [List.length_append, List.length_cons]
        omega
      exact (rank_lt_of_length_lt longer).le

theorem rank_concat_lt (hrank : rank p < rank q) : rank (p ++ [a]) < rank (q ++ [b]) := by
  rcases rank_lt_iff.mp hrank with hlt | ⟨hlength, hlt⟩
  · exact rank_lt_of_length_lt (by simpa using hlt)
  · exact rank_lt_iff.mpr (Or.inr ⟨by simpa using hlength, append_lt_append [a] [b] hlength hlt⟩)

theorem rank_concat_lt_concat (hlt : a < b) : rank (p ++ [a]) < rank (p ++ [b]) := by
  refine rank_lt_iff.mpr (Or.inr ⟨by simp, ?_⟩)
  exact List.append_left_lt (List.Lex.rel hlt)

end Rank

/-- The outcome of a search that gives the first candidate, and nothing only if there is none. -/
def First (Candidate : List ServiceId → Prop) : Option (List ServiceId) → Prop
  | none => ∀ path, ¬ Candidate path
  | some best => Candidate best ∧ ∀ path, Candidate path → rank best ≤ rank path

/-- Candidates may be left out as long as an earlier one stays. -/
theorem First.of_reduced {Candidate Kept : List ServiceId → Prop} {outcome : Option (List ServiceId)}
    (first : First Kept outcome) (sound : ∀ path, Kept path → Candidate path)
    (reduced : ∀ path, Candidate path → ∃ earlier, Kept earlier ∧ rank earlier ≤ rank path) :
    First Candidate outcome := by
  cases outcome with
  | none =>
      intro path candidate
      obtain ⟨earlier, kept, -⟩ := reduced path candidate
      exact first earlier kept
  | some best =>
      refine ⟨sound best first.1, fun path candidate => ?_⟩
      obtain ⟨earlier, kept, hle⟩ := reduced path candidate
      exact (first.2 earlier kept).trans hle

theorem discover_sublist (unseen : ExtTreeSet ServiceId) (ids : List ServiceId) :
    (discover unseen ids).1.Sublist ids := by
  fun_induction discover unseen ids with
  | case1 => exact List.Sublist.slnil
  | case2 unseen id ids mem found others split ih =>
      rw [split] at ih
      exact ih.cons_cons id
  | case3 unseen id ids hnotMem ih => exact ih.cons id

theorem mem_discover_fst {unseen : ExtTreeSet ServiceId} {ids : List ServiceId} {a : ServiceId} :
    a ∈ (discover unseen ids).1 ↔ a ∈ ids ∧ a ∈ unseen := by
  fun_induction discover unseen ids with
  | case1 => simp
  | case2 unseen id ids mem found others split ih =>
      rw [split] at ih
      simp only [List.mem_cons, ih, ExtTreeSet.mem_erase, ne_eq, Std.compare_eq_iff_eq]
      grind
  | case3 unseen id ids hnotMem ih =>
      rw [ih, List.mem_cons]
      grind

theorem mem_discover_snd {unseen : ExtTreeSet ServiceId} {ids : List ServiceId} {a : ServiceId} :
    a ∈ (discover unseen ids).2 ↔ a ∉ ids ∧ a ∈ unseen := by
  fun_induction discover unseen ids with
  | case1 => simp
  | case2 unseen id ids mem found others split ih =>
      rw [split] at ih
      simp only [List.mem_cons, ih, ExtTreeSet.mem_erase, ne_eq, Std.compare_eq_iff_eq]
      grind
  | case3 unseen id ids hnotMem ih =>
      rw [ih, List.mem_cons]
      grind

/-- The path that an entry of the queue stands for. -/
def walked (entry : ServiceId × List ServiceId) : List ServiceId := entry.2.reverse ++ [entry.1]

section Search

variable {targets : ServiceId → List ServiceId} {start id : ServiceId} {before : List ServiceId}
  {unseen : ExtTreeSet ServiceId} {queue : List (ServiceId × List ServiceId)}

variable (targets start) in
/-- A cycle that follows a path of the queue and goes on to `start` through unseen services. -/
def Completes (unseen : ExtTreeSet ServiceId) (queue : List (ServiceId × List ServiceId))
    (cycle : List ServiceId) : Prop :=
  ∃ entry ∈ queue, ∃ rest : List ServiceId, (∀ a ∈ rest, a ∈ unseen) ∧
    (entry.1 :: (rest ++ [start])).IsChain (fun a b => b ∈ targets a) ∧
    cycle = walked entry ++ (rest ++ [start])

/-- The paths of a queue are ascending, and each was reached from a path before all of them. -/
structure InOrder (queue : List (ServiceId × List ServiceId)) : Prop where
  ascending : queue.Pairwise fun a b => rank (walked a) < rank (walked b)
  origin_lt : ∀ a ∈ queue, ∀ b ∈ queue, rank a.2.reverse < rank (walked b)

theorem InOrder.head_le {first entry : ServiceId × List ServiceId} (order : InOrder (first :: queue))
    (mem : entry ∈ first :: queue) : rank (walked first) ≤ rank (walked entry) := by
  rcases List.mem_cons.mp mem with rfl | mem
  · exact le_rfl
  · exact (List.rel_of_pairwise_cons order.ascending mem).le

def waysOn (id : ServiceId) (before : List ServiceId) (next : List ServiceId) :
    List (ServiceId × List ServiceId) :=
  next.map (·, id :: before)

theorem walked_wayOn (next : ServiceId) : walked (next, id :: before) = walked (id, before) ++ [next] := by
  simp [walked]

theorem InOrder.waysOn (order : InOrder ((id, before) :: queue)) {next : List ServiceId}
    (sorted : next.Pairwise (· < ·)) : InOrder (queue ++ waysOn id before next) := by
  obtain ⟨head_lt, ascending⟩ := List.pairwise_cons.mp order.ascending
  -- the entry that was taken off comes before everything that stays
  have old_lt_new : ∀ a ∈ queue, ∀ c, rank (walked a) < rank (walked (id, before) ++ [c]) := by
    intro a ha c
    exact rank_concat_lt (order.origin_lt a (List.mem_cons_of_mem _ ha) _ List.mem_cons_self)
  have head_lt_new : ∀ c, rank (walked (id, before)) < rank (walked (id, before) ++ [c]) :=
    fun c => rank_lt_of_length_lt (by simp)
  constructor
  · refine List.pairwise_append.mpr ⟨ascending, ?_, ?_⟩
    · refine List.pairwise_map.mpr (sorted.imp fun hlt => ?_)
      rw [walked_wayOn, walked_wayOn]
      exact rank_concat_lt_concat hlt
    · intro a ha b hb
      obtain ⟨c, -, rfl⟩ := List.mem_map.mp hb
      rw [walked_wayOn]
      exact old_lt_new a ha c
  · intro a ha b hb
    have origin_le : rank a.2.reverse ≤ rank (walked (id, before)) := by
      rcases List.mem_append.mp ha with old | new
      · exact (order.origin_lt a (List.mem_cons_of_mem _ old) _ List.mem_cons_self).le
      · obtain ⟨c, -, rfl⟩ := List.mem_map.mp new
        simp [walked]
    have head_lt_b : rank (walked (id, before)) < rank (walked b) := by
      rcases List.mem_append.mp hb with old | new
      · exact head_lt b old
      · obtain ⟨c, -, rfl⟩ := List.mem_map.mp new
        rw [walked_wayOn]
        exact head_lt_new c
    calc rank a.2.reverse
      ≤ rank (walked (id, before)) := origin_le
    _ < rank (walked b) := head_lt_b

theorem Completes.of_waysOn {cycle : List ServiceId}
    (completes : Completes targets start (discover unseen (targets id)).2
      (queue ++ waysOn id before (discover unseen (targets id)).1) cycle) :
    Completes targets start unseen ((id, before) :: queue) cycle := by
  obtain ⟨entry, mem, rest, hunseen, chain, rfl⟩ := completes
  have still : ∀ a ∈ rest, a ∈ unseen := fun a ha => (mem_discover_snd.mp (hunseen a ha)).2
  rcases List.mem_append.mp mem with old | new
  · exact ⟨entry, List.mem_cons_of_mem _ old, rest, still, chain, rfl⟩
  · obtain ⟨c, hc, rfl⟩ := List.mem_map.mp new
    obtain ⟨htarget, hc⟩ := mem_discover_fst.mp hc
    refine ⟨(id, before), List.mem_cons_self, c :: rest, ?_, ?_, ?_⟩
    · exact List.forall_mem_cons.mpr ⟨hc, still⟩
    · exact List.IsChain.cons_cons htarget chain
    · simp [walked]

theorem forall_or_exists_last {p : ServiceId → Prop} (ids : List ServiceId) :
    (∀ a ∈ ids, p a) ∨ ∃ front a back, ids = front ++ a :: back ∧ ¬ p a ∧ ∀ b ∈ back, p b := by
  induction ids with
  | nil => exact Or.inl nofun
  | cons a ids ih =>
      rcases ih with all | ⟨front, b, back, rfl, hb, hback⟩
      · by_cases ha : p a
        · exact Or.inl (List.forall_mem_cons.mpr ⟨ha, all⟩)
        · exact Or.inr ⟨[], a, ids, rfl, ha, all⟩
      · exact Or.inr ⟨a :: front, b, back, rfl, hb, hback⟩

/-- Each cycle that a step of the search loses has an earlier one that stays: the one that reaches the last
service just discovered directly from the entry taken off. -/
theorem Completes.exists_waysOn (order : InOrder ((id, before) :: queue)) (hstart : start ∉ targets id)
    {cycle : List ServiceId} (completes : Completes targets start unseen ((id, before) :: queue) cycle) :
    ∃ earlier, Completes targets start (discover unseen (targets id)).2
      (queue ++ waysOn id before (discover unseen (targets id)).1) earlier ∧ rank earlier ≤ rank cycle := by
  obtain ⟨entry, mem, rest, hunseen, chain, rfl⟩ := completes
  rcases forall_or_exists_last (p := (· ∉ targets id)) rest with
    undiscovered | ⟨front, c, back, rfl, hc, hback⟩
  · -- nothing on the way is discovered now, so the cycle does not leave the entry taken off
    refine ⟨_, ⟨entry, ?_, rest, fun a ha => mem_discover_snd.mpr ⟨undiscovered a ha, hunseen a ha⟩,
      chain, rfl⟩, le_rfl⟩
    rcases List.mem_cons.mp mem with rfl | mem
    · exfalso
      cases rest with
      | nil => exact hstart (List.isChain_cons_cons.mp chain).1
      | cons a rest => exact undiscovered a List.mem_cons_self (List.isChain_cons_cons.mp chain).1
    · exact List.mem_append_left _ mem
  · have hc : c ∈ (discover unseen (targets id)).1 :=
      mem_discover_fst.mpr ⟨not_not.mp hc, hunseen c (by simp)⟩
    refine ⟨walked (id, before) ++ ([c] ++ (back ++ [start])), ⟨(c, id :: before), ?_, back, ?_, ?_, ?_⟩, ?_⟩
    · exact List.mem_append_right _ (List.mem_map.mpr ⟨c, hc, rfl⟩)
    · exact fun a ha => mem_discover_snd.mpr ⟨hback a ha, hunseen a (by simp [ha])⟩
    · have suffix : (entry.1 :: (front ++ c :: back ++ [start])) =
          (entry.1 :: front) ++ (c :: (back ++ [start])) := by simp
      rw [suffix] at chain
      exact chain.right_of_append
    · simp [walked]
    · have split : front ++ c :: back ++ [start] = front ++ ([c] ++ (back ++ [start])) := by simp
      rw [split]
      exact rank_append_le_append front _ (order.head_le mem)

theorem searchCycle_first (sorted : ∀ id, (targets id).Pairwise (· < ·)) (order : InOrder queue) :
    First (Completes targets start unseen queue) (searchCycle targets start unseen queue) := by
  -- `InOrder` is kept by every step, and `of_reduced` carries the outcome back over it
  fun_induction searchCycle targets start unseen queue with
  | case1 unseen =>
      rintro cycle ⟨entry, mem, -⟩
      cases mem
  | case2 unseen id before queue hstart =>
      refine ⟨⟨(id, before), List.mem_cons_self, [], nofun, by simpa using hstart, by simp [walked]⟩, ?_⟩
      rintro cycle ⟨entry, mem, rest, -, -, rfl⟩
      have closed : (start :: id :: before).reverse = walked (id, before) ++ [start] := by simp [walked]
      rw [closed]
      exact rank_append_le_append rest [start] (order.head_le mem)
  | case3 unseen id before queue hstart next others found ih =>
      have hnext : next = (discover unseen (targets id)).1 := by rw [found]
      have hothers : others = (discover unseen (targets id)).2 := by rw [found]
      subst hnext hothers
      have order' := order.waysOn ((sorted id).sublist (discover_sublist unseen (targets id)))
      exact (ih order').of_reduced (fun _ => Completes.of_waysOn)
        (fun _ => Completes.exists_waysOn order hstart)

end Search

end ServiceContainer.ReferenceGraph
