/-!
# Lists

Facts about lists that texts, tokens and documents have in common.
-/

namespace ServiceContainer

variable {α β γ : Type}

theorem intercalate_cons (separator : α) (first : List α) (others : List (List α)) :
    List.intercalate [separator] (first :: others) = first ++ others.flatMap (separator :: ·) := by
  induction others generalizing first with
  | nil => simp
  | cons second others ih => simp [ih second]

/-- A run of elements of one class ends where the class does. -/
theorem span_append {p : α → Bool} {front rest : List α} (inside : ∀ c ∈ front, p c = true)
    (stop : ∀ c ∈ rest.head?, p c = false) :
    (front ++ rest).takeWhile p = front ∧ (front ++ rest).dropWhile p = rest := by
  rw [List.takeWhile_append_of_pos inside, List.dropWhile_append_of_pos inside]
  cases rest with
  | nil => exact ⟨List.append_nil front, rfl⟩
  | cons c cs =>
      have hc : p c = false := stop c rfl
      rw [List.takeWhile_cons_of_neg (by simp [hc]), List.dropWhile_cons_of_neg (by simp [hc]), List.append_nil]
      exact ⟨rfl, rfl⟩

theorem map_eq_map_of {f : α → β} {g : α → γ} {as bs : List α}
    (each : ∀ a ∈ as, ∀ b, f a = f b → g a = g b) (same : as.map f = bs.map f) : as.map g = bs.map g := by
  induction as generalizing bs with
  | nil =>
      rw [List.map_nil, eq_comm, List.map_eq_nil_iff] at same
      rw [same]
  | cons a as ih =>
      obtain ⟨ha, has⟩ := List.forall_mem_cons.mp each
      cases bs with
      | nil => cases same
      | cons b bs =>
          obtain ⟨hhead, htail⟩ := List.cons.inj same
          rw [List.map_cons, List.map_cons, ha b hhead, ih has htail]

theorem eq_of_map_eq_map {f : α → β} {as bs : List α} (each : ∀ a ∈ as, ∀ b, f a = f b → a = b)
    (same : as.map f = bs.map f) : as = bs := by
  have hmap := map_eq_map_of (g := id) each same
  rwa [List.map_id, List.map_id] at hmap

end ServiceContainer
