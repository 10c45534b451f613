import Mathlib.Data.List.Forall2

/-!
# Taking computations apart

A computation that may fail succeeds exactly when all its parts do, and otherwise fails as the first part that
does.
-/

namespace ServiceContainer

variable {ε α β : Type}

theorem bind_eq_ok_iff {x : Except ε α} {f : α → Except ε β} {b : β} :
    x >>= f = .ok b ↔ ∃ a, x = .ok a ∧ f a = .ok b := by
  cases x with
  | error e => simp [bind, Except.bind]
  | ok a => simp [bind, Except.bind]

theorem pure_eq_ok_iff {a b : α} : (pure a : Except ε α) = .ok b ↔ b = a := by
  simp [pure, Except.pure, eq_comm]

theorem map_eq_ok_iff {x : Except ε α} {f : α → β} {b : β} :
    x.map f = .ok b ↔ ∃ a, x = .ok a ∧ f a = b := by
  cases x with
  | error e => simp [Except.map]
  | ok a => simp [Except.map]

theorem exists_eq_ok_of_toBool {x : Except ε α} (hok : x.toBool = true) : ∃ a, x = .ok a := by
  cases x with
  | error e => cases hok
  | ok a => exact ⟨a, rfl⟩

theorem mapM_congr {m : Type → Type} [Monad m] [LawfulMonad m] {f g : α → m β} {as : List α}
    (agree : ∀ a ∈ as, f a = g a) : as.mapM f = as.mapM g := by
  induction as with
  | nil => rfl
  | cons a as ih =>
      obtain ⟨head, tail⟩ := List.forall_mem_cons.mp agree
      rw [List.mapM_cons, List.mapM_cons, head, ih tail]

theorem exists_of_forall₂ {R : α → β → Prop} {as : List α} {bs : List β}
    (all : List.Forall₂ R as bs) {a : α} (mem : a ∈ as) : ∃ b ∈ bs, R a b := by
  induction all with
  | nil => cases mem
  | @cons a' b as bs hab _ ih =>
      rcases List.mem_cons.mp mem with rfl | mem
      · exact ⟨b, List.mem_cons_self, hab⟩
      · obtain ⟨b', hb', hab'⟩ := ih mem
        exact ⟨b', List.mem_cons_of_mem b hb', hab'⟩

theorem map_fst_eq_of_forall₂ {γ : Type} {as : List (γ × α)} {bs : List (γ × β)}
    {R : γ × α → γ × β → Prop} (all : List.Forall₂ (fun a b => a.1 = b.1 ∧ R a b) as bs) :
    as.map (·.1) = bs.map (·.1) := by
  induction all with
  | nil => rfl
  | cons hab _ ih => rw [List.map_cons, List.map_cons, hab.1, ih]

theorem exists_forall₂ {R : α → β → Prop} {as : List α} (each : ∀ a ∈ as, ∃ b, R a b) :
    ∃ bs, List.Forall₂ R as bs := by
  induction as with
  | nil => exact ⟨[], List.Forall₂.nil⟩
  | cons a as ih =>
      obtain ⟨⟨b, hb⟩, each⟩ := List.forall_mem_cons.mp each
      obtain ⟨bs, hbs⟩ := ih each
      exact ⟨b :: bs, List.Forall₂.cons hb hbs⟩

theorem mapM_eq_ok_iff {f : α → Except ε β} {as : List α} {bs : List β} :
    as.mapM f = .ok bs ↔ List.Forall₂ (fun a b => f a = .ok b) as bs := by
  induction as generalizing bs with
  | nil =>
      rw [List.mapM_nil, List.forall₂_nil_left_iff, pure_eq_ok_iff]
  | cons a as ih =>
      rw [List.mapM_cons, bind_eq_ok_iff, List.forall₂_cons_left_iff]
      constructor
      · rintro ⟨b, hb, rest⟩
        obtain ⟨bs', hbs, heq⟩ := bind_eq_ok_iff.mp rest
        exact ⟨b, bs', hb, ih.mp hbs, (Except.ok.inj heq).symm⟩
      · rintro ⟨b, bs', hb, hbs, rfl⟩
        exact ⟨b, hb, bind_eq_ok_iff.mpr ⟨bs', ih.mpr hbs, rfl⟩⟩

theorem mapM_eq_some_iff {f : α → Option β} {as : List α} {bs : List β} :
    as.mapM f = some bs ↔ List.Forall₂ (fun a b => f a = some b) as bs := by
  induction as generalizing bs with
  | nil =>
      rw [List.mapM_nil, List.forall₂_nil_left_iff]
      exact ⟨fun h => (Option.some.inj h).symm, fun h => congrArg some h.symm⟩
  | cons a as ih =>
      rw [List.mapM_cons, List.forall₂_cons_left_iff]
      simp only [Option.bind_eq_bind, Option.bind_eq_some_iff, Option.pure_def, Option.some.injEq, ih]
      constructor
      · rintro ⟨b, hb, bs', hbs, rfl⟩
        exact ⟨b, bs', hb, hbs, rfl⟩
      · rintro ⟨b, bs', hb, hbs, rfl⟩
        exact ⟨b, hb, bs', hbs, rfl⟩

theorem mapM_eq_ok_self {f : α → Except ε α} {as : List α} (each : ∀ a ∈ as, f a = .ok a) :
    as.mapM f = .ok as :=
  mapM_eq_ok_iff.mpr (List.forall₂_same.mpr each)

theorem option_mapM_eq_ok_self {f : α → Except ε α} {o : Option α} (each : ∀ a ∈ o, f a = .ok a) :
    o.mapM f = .ok o := by
  cases o with
  | none => rfl
  | some a =>
      rw [Option.mapM_some, each a rfl]
      rfl

/-- What each step leaves of an item is left of the list. -/
theorem map_eq_of_mapM_eq_ok {γ : Type} {f : α → Except ε β} {before : α → γ} {after : β → γ}
    (each : ∀ a b, f a = .ok b → after b = before a) {as : List α} {bs : List β} (hok : as.mapM f = .ok bs) :
    bs.map after = as.map before := by
  have all := mapM_eq_ok_iff.mp hok
  clear hok
  induction all with
  | nil => rfl
  | cons hab _ ih => rw [List.map_cons, List.map_cons, each _ _ hab, ih]

theorem map_eq_of_option_mapM_eq_ok {γ : Type} {f : α → Except ε β} {before : α → γ} {after : β → γ}
    (each : ∀ a b, f a = .ok b → after b = before a) {o : Option α} {result : Option β}
    (hok : o.mapM f = .ok result) : result.map after = o.map before := by
  cases o with
  | none =>
      cases hok
      rfl
  | some a =>
      rw [Option.mapM_some] at hok
      obtain ⟨b, hb, rfl⟩ := map_eq_ok_iff.mp hok
      exact congrArg some (each a b hb)

/-- What is visited in a list is what is visited in its items, one after the other. -/
theorem map_flatMap_mapM {γ δ : Type} {f : α → Except ε β} {g : γ → Except ε δ}
    {before : α → List γ} {after : β → List δ} (each : ∀ a, after <$> f a = (before a).mapM g) (as : List α) :
    List.flatMap after <$> as.mapM f = (as.flatMap before).mapM g := by
  induction as with
  | nil => rfl
  | cons a as ih =>
      rw [List.mapM_cons, List.flatMap_cons, List.mapM_append, ← each, ← ih]
      simp only [map_bind, bind_map_left, map_pure, List.flatMap_cons]

theorem map_toList_option_mapM (f : α → Except ε β) (o : Option α) :
    Option.toList <$> o.mapM f = o.toList.mapM f := by
  cases o with
  | none => rfl
  | some a =>
      rw [Option.mapM_some, Option.toList_some, List.mapM_cons, List.mapM_nil]
      simp only [Functor.map_map, pure_bind]
      rfl

/-! ### Whether a computation succeeds -/

theorem exists_bind_eq_ok_iff {x : Except ε α} {f : α → Except ε β} :
    (∃ b, x >>= f = .ok b) ↔ ∃ a, x = .ok a ∧ ∃ b, f a = .ok b := by
  simp only [bind_eq_ok_iff]
  constructor
  · rintro ⟨b, a, hx, hb⟩
    exact ⟨a, hx, b, hb⟩
  · rintro ⟨a, hx, b, hb⟩
    exact ⟨b, a, hx, hb⟩

/-- Two parts both succeed, where the second does so or not whatever the first one gives. -/
theorem exists_bind_eq_ok_iff_and {x : Except ε α} {f : α → Except ε β} {p : Prop}
    (rest : ∀ a, x = .ok a → ((∃ b, f a = .ok b) ↔ p)) : (∃ b, x >>= f = .ok b) ↔ (∃ a, x = .ok a) ∧ p := by
  rw [exists_bind_eq_ok_iff, ← exists_and_right]
  exact exists_congr fun a => and_congr_right fun hx => rest a hx

theorem exists_bind_pure_eq_ok_iff {x : Except ε α} {f : α → β} :
    (∃ b, (x >>= fun a => pure (f a)) = .ok b) ↔ ∃ a, x = .ok a :=
  (exists_bind_eq_ok_iff_and fun a _ => iff_of_true ⟨f a, rfl⟩ trivial).trans (iff_of_eq (and_true _))

theorem exists_map_eq_ok_iff {x : Except ε α} {f : α → β} : (∃ b, x.map f = .ok b) ↔ ∃ a, x = .ok a := by
  cases x <;> simp [Except.map]

theorem exists_mapM_eq_ok_iff {f : α → Except ε β} {as : List α} :
    (∃ bs, as.mapM f = .ok bs) ↔ ∀ a ∈ as, ∃ b, f a = .ok b := by
  simp only [mapM_eq_ok_iff]
  constructor
  · rintro ⟨bs, all⟩ a mem
    obtain ⟨b, -, hb⟩ := exists_of_forall₂ all mem
    exact ⟨b, hb⟩
  · exact exists_forall₂

theorem exists_option_mapM_eq_ok_iff {f : α → Except ε β} {o : Option α} :
    (∃ result, o.mapM f = .ok result) ↔ ∀ a ∈ o, ∃ b, f a = .ok b := by
  cases o with
  | none => exact iff_of_true ⟨none, rfl⟩ nofun
  | some a =>
      rw [Option.mapM_some]
      refine exists_map_eq_ok_iff.trans ⟨?_, fun each => each a rfl⟩
      rintro found _ ⟨⟩
      exact found

theorem forM_eq_ok_iff {f : α → Except ε Unit} {as : List α} : as.forM f = .ok () ↔ ∀ a ∈ as, f a = .ok () := by
  induction as with
  | nil => exact iff_of_true rfl nofun
  | cons a as ih =>
      rw [List.forM, bind_eq_ok_iff, List.forall_mem_cons, ← ih]
      constructor
      · rintro ⟨_, hfirst, hrest⟩
        exact ⟨hfirst, hrest⟩
      · rintro ⟨hfirst, hrest⟩
        exact ⟨(), hfirst, hrest⟩

/-! ### How a computation fails -/

theorem bind_eq_error_iff {x : Except ε α} {f : α → Except ε β} {e : ε} :
    x >>= f = .error e ↔ x = .error e ∨ ∃ a, x = .ok a ∧ f a = .error e := by
  cases x with
  | error e' => simp [bind, Except.bind]
  | ok a => simp [bind, Except.bind]

theorem map_eq_error_iff {x : Except ε α} {f : α → β} {e : ε} : x.map f = .error e ↔ x = .error e := by
  cases x <;> simp [Except.map]

theorem mapM_eq_error_iff {f : α → Except ε β} {as : List α} {e : ε} :
    as.mapM f = .error e ↔
      ∃ front a back, as = front ++ a :: back ∧ (∀ other ∈ front, ∃ b, f other = .ok b) ∧ f a = .error e := by
  induction as with
  | nil =>
      refine iff_of_false nofun ?_
      rintro ⟨front, a, back, heq, -⟩
      simp at heq
  | cons first as ih =>
      rw [List.mapM_cons, bind_eq_error_iff]
      constructor
      · rintro (failed | ⟨b, hb, failed⟩)
        · exact ⟨[], first, as, rfl, nofun, failed⟩
        · obtain ⟨front, a, back, rfl, each, failed⟩ := ih.mp (map_eq_error_iff.mp failed)
          exact ⟨first :: front, a, back, rfl, List.forall_mem_cons.mpr ⟨⟨b, hb⟩, each⟩, failed⟩
      · rintro ⟨front, a, back, heq, each, failed⟩
        rcases List.cons_eq_append_iff.mp heq with ⟨rfl, hcons⟩ | ⟨front, rfl, rfl⟩
        · obtain ⟨rfl, rfl⟩ := List.cons_eq_cons.mp hcons
          exact .inl failed
        · obtain ⟨⟨b, hb⟩, each⟩ := List.forall_mem_cons.mp each
          exact .inr ⟨b, hb, map_eq_error_iff.mpr (ih.mpr ⟨front, a, back, rfl, each, failed⟩)⟩

theorem forM_eq_error_iff {f : α → Except ε Unit} {as : List α} {e : ε} :
    as.forM f = .error e ↔
      ∃ front a back, as = front ++ a :: back ∧ (∀ other ∈ front, f other = .ok ()) ∧ f a = .error e := by
  induction as with
  | nil =>
      refine iff_of_false nofun ?_
      rintro ⟨front, a, back, heq, -⟩
      simp at heq
  | cons first as ih =>
      rw [List.forM, bind_eq_error_iff]
      constructor
      · rintro (failed | ⟨_, hfirst, failed⟩)
        · exact ⟨[], first, as, rfl, nofun, failed⟩
        · obtain ⟨front, a, back, rfl, each, failed⟩ := ih.mp failed
          exact ⟨first :: front, a, back, rfl, List.forall_mem_cons.mpr ⟨hfirst, each⟩, failed⟩
      · rintro ⟨front, a, back, heq, each, failed⟩
        rcases List.cons_eq_append_iff.mp heq with ⟨rfl, hcons⟩ | ⟨front, rfl, rfl⟩
        · obtain ⟨rfl, rfl⟩ := List.cons_eq_cons.mp hcons
          exact .inl failed
        · obtain ⟨hfirst, each⟩ := List.forall_mem_cons.mp each
          exact .inr ⟨(), hfirst, ih.mpr ⟨front, a, back, rfl, each, failed⟩⟩

/-- A computation fails, if it does, by one of the given errors. -/
def FailsOnly (p : ε → Prop) (x : Except ε α) : Prop := ∀ e, x = .error e → p e

namespace FailsOnly

variable {p : ε → Prop} {x : Except ε α}

theorem ok (a : α) : FailsOnly p (.ok a) := nofun

theorem error {e : ε} (he : p e) : FailsOnly p (.error e : Except ε α) := by
  intro e' failed
  cases failed
  exact he

theorem bind (hx : FailsOnly p x) {f : α → Except ε β} (hf : ∀ a, FailsOnly p (f a)) : FailsOnly p (x >>= f) := by
  intro e failed
  rcases bind_eq_error_iff.mp failed with failed | ⟨a, -, failed⟩
  · exact hx e failed
  · exact hf a e failed

theorem map (hx : FailsOnly p x) (f : α → β) : FailsOnly p (x.map f) :=
  fun e failed => hx e (map_eq_error_iff.mp failed)

theorem mapM {f : α → Except ε β} {as : List α} (hf : ∀ a ∈ as, FailsOnly p (f a)) : FailsOnly p (as.mapM f) := by
  intro e failed
  obtain ⟨front, a, back, rfl, -, failed⟩ := mapM_eq_error_iff.mp failed
  exact hf a (List.mem_append_right front List.mem_cons_self) e failed

theorem option_mapM {f : α → Except ε β} {o : Option α} (hf : ∀ a ∈ o, FailsOnly p (f a)) : FailsOnly p (o.mapM f) := by
  cases o with
  | none => exact ok none
  | some a =>
      rw [Option.mapM_some]
      exact (hf a rfl).map some

theorem forM {f : α → Except ε Unit} {as : List α} (hf : ∀ a ∈ as, FailsOnly p (f a)) : FailsOnly p (as.forM f) := by
  intro e failed
  obtain ⟨front, a, back, rfl, -, failed⟩ := forM_eq_error_iff.mp failed
  exact hf a (List.mem_append_right front List.mem_cons_self) e failed

end FailsOnly

/-! ### Folds -/

section Fold

variable {f : α → β → Except ε α} {a a' : α} {bs : List β}

theorem foldlM_eq_error_iff {e : ε} :
    bs.foldlM f a = .error e ↔
      ∃ front b back a', bs = front ++ b :: back ∧ front.foldlM f a = .ok a' ∧ f a' b = .error e := by
  induction bs generalizing a with
  | nil =>
      refine iff_of_false nofun ?_
      rintro ⟨front, b, back, a', heq, -⟩
      simp at heq
  | cons first bs ih =>
      rw [List.foldlM_cons, bind_eq_error_iff]
      constructor
      · rintro (failed | ⟨next, hnext, failed⟩)
        · exact ⟨[], first, bs, a, rfl, rfl, failed⟩
        · obtain ⟨front, b, back, a', rfl, hfront, failed⟩ := ih.mp failed
          refine ⟨first :: front, b, back, a', rfl, ?_, failed⟩
          rw [List.foldlM_cons, bind_eq_ok_iff]
          exact ⟨next, hnext, hfront⟩
      · rintro ⟨front, b, back, a', heq, hfront, failed⟩
        rcases List.cons_eq_append_iff.mp heq with ⟨rfl, hcons⟩ | ⟨front, rfl, rfl⟩
        · obtain ⟨rfl, rfl⟩ := List.cons_eq_cons.mp hcons
          cases hfront
          exact .inl failed
        · rw [List.foldlM_cons, bind_eq_ok_iff] at hfront
          obtain ⟨next, hnext, hfront⟩ := hfront
          exact .inr ⟨next, hnext, ih.mpr ⟨front, b, back, a', rfl, hfront, failed⟩⟩

theorem FailsOnly.foldlM {p : ε → Prop} (hf : ∀ a b, FailsOnly p (f a b)) : FailsOnly p (bs.foldlM f a) := by
  intro e failed
  obtain ⟨front, b, back, a', -, -, failed⟩ := foldlM_eq_error_iff.mp failed
  exact hf a' b e failed

/-- A fold succeeds when each step does by itself. -/
theorem exists_foldlM_eq_ok_iff {p : β → Prop} (step : ∀ a b, (∃ a', f a b = .ok a') ↔ p b) :
    (∃ a', bs.foldlM f a = .ok a') ↔ ∀ b ∈ bs, p b := by
  induction bs generalizing a with
  | nil => exact iff_of_true ⟨a, rfl⟩ nofun
  | cons first bs ih =>
      rw [List.foldlM_cons, exists_bind_eq_ok_iff, List.forall_mem_cons, ← step a first]
      constructor
      · rintro ⟨next, hnext, rest⟩
        exact ⟨⟨next, hnext⟩, ih.mp rest⟩
      · rintro ⟨⟨next, hnext⟩, rest⟩
        exact ⟨next, hnext, ih.mpr rest⟩

/-- What holds at the start and is kept by each step holds at the end. -/
theorem of_foldlM_eq_ok {P : α → Prop} (hfold : bs.foldlM f a = .ok a') (start : P a)
    (step : ∀ a, ∀ b ∈ bs, ∀ a', P a → f a b = .ok a' → P a') : P a' := by
  induction bs generalizing a with
  | nil =>
      cases hfold
      exact start
  | cons first bs ih =>
      rw [List.foldlM_cons, bind_eq_ok_iff] at hfold
      obtain ⟨next, hnext, rest⟩ := hfold
      refine ih rest (step a first List.mem_cons_self next start hnext) ?_
      intro a b mem
      exact step a b (List.mem_cons_of_mem first mem)

/-- A fold commutes with what each of its steps commutes with. -/
theorem foldlM_map_comm {g : α → α} (step : ∀ a b, f (g a) b = (f a b).map g) :
    bs.foldlM f (g a) = (bs.foldlM f a).map g := by
  induction bs generalizing a with
  | nil => rfl
  | cons first bs ih =>
      rw [List.foldlM_cons, List.foldlM_cons, step]
      cases f a first with
      | error e => rfl
      | ok next => exact ih

end Fold

end ServiceContainer
