import Mathlib.Data.List.Chain
import Mathlib.Data.List.TakeWhile
import ServiceContainer.Expression
import ServiceContainer.Value.Source

/-!
# Scanning a string and writing it again

Segments are merged when no literal is empty and no two stand side by side. Written with each `%` of a literal
doubled and each name between two `%`, merged segments are what scanning gives back.
-/

namespace ServiceContainer

/-- Each `%` twice and all else once. -/
def doubled (cs : List Char) : List Char := cs.flatMap fun c => if c = '%' then ['%', '%'] else [c]

@[simp]
theorem toList_doublePercent (s : String) : (doublePercent s).toList = doubled s.toList :=
  String.toList_ofList

theorem doubled_percent_cons (cs : List Char) : doubled ('%' :: cs) = '%' :: '%' :: doubled cs := rfl

theorem doubled_cons {c : Char} (hc : c ≠ '%') (cs : List Char) : doubled (c :: cs) = c :: doubled cs := by
  rw [doubled, List.flatMap_cons, if_neg hc]
  rfl

theorem length_le_length_doubled (cs : List Char) : cs.length ≤ (doubled cs).length := by
  induction cs with
  | nil => exact le_rfl
  | cons c cs ih =>
      by_cases hc : c = '%'
      · subst hc
        rw [doubled_percent_cons, List.length_cons, List.length_cons, List.length_cons]
        omega
      · rw [doubled_cons hc, List.length_cons, List.length_cons]
        omega

theorem doubled_eq_self_iff {cs : List Char} : doubled cs = cs ↔ '%' ∉ cs := by
  induction cs with
  | nil => exact iff_of_true rfl List.not_mem_nil
  | cons c cs ih =>
      by_cases hc : c = '%'
      · subst hc
        refine iff_of_false (fun heq => ?_) (by simp)
        have hlength := congrArg List.length heq
        rw [doubled_percent_cons, List.length_cons, List.length_cons, List.length_cons] at hlength
        have hle := length_le_length_doubled cs
        omega
      · rw [doubled_cons hc, List.cons_eq_cons, List.mem_cons, not_or, ← ih]
        exact and_congr_left fun _ => iff_of_true rfl (Ne.symm hc)

/-! ### Splitting at a percent sign -/

theorem splitPercent?_append {name : List Char} (hname : '%' ∉ name) (rest : List Char) :
    splitPercent? (name ++ '%' :: rest) = some (name, rest) := by
  have away : ∀ c ∈ name, decide (c ≠ '%') = true := by
    intro c hc
    rw [decide_eq_true_eq]
    rintro rfl
    exact hname hc
  rw [splitPercent?, List.dropWhile_append_of_pos away, List.takeWhile_append_of_pos away]
  simp

theorem splitPercent?_eq_some {cs name rest : List Char}
    (hsplit : splitPercent? cs = some (name, rest)) : cs = name ++ '%' :: rest ∧ '%' ∉ name := by
  by_cases mem : '%' ∈ cs
  · obtain ⟨front, back, rfl, hfront⟩ := List.eq_append_cons_of_mem mem
    rw [splitPercent?_append hfront] at hsplit
    cases hsplit
    exact ⟨rfl, hfront⟩
  · have hnone : cs.dropWhile (· ≠ '%') = [] := by
      refine List.dropWhile_eq_nil_iff.mpr fun c hc => ?_
      rw [decide_eq_true_eq]
      rintro rfl
      exact mem hc
    rw [splitPercent?, hnone] at hsplit
    cases hsplit

namespace Segment

variable {α β : Type}

/-! ### Merged segments -/

theorem merge_cons (segment : Segment α) (segments : List (Segment α)) :
    merge (segment :: segments) = cons segment (merge segments) := rfl

def IsLiteral : Segment α → Prop
  | .literal _ => True
  | .parameter _ => False

/-- No literal is empty, and no two stand side by side. -/
structure Merged (segments : List (Segment α)) : Prop where
  nonempty : .literal "" ∉ segments
  apart : segments.IsChain fun a b => ¬ (a.IsLiteral ∧ b.IsLiteral)

theorem Merged.nil : Merged ([] : List (Segment α)) where
  nonempty := List.not_mem_nil
  apart := List.IsChain.nil

theorem Merged.tail {segment : Segment α} {segments : List (Segment α)}
    (merged : Merged (segment :: segments)) : Merged segments where
  nonempty := fun mem => merged.nonempty (List.mem_cons_of_mem _ mem)
  apart := merged.apart.tail

section Cons

variable {s t : String} {name : α} {segments : List (Segment α)}

@[simp]
theorem cons_literal_empty : cons (.literal "") segments = segments := rfl

theorem cons_parameter : cons (.parameter name) segments = .parameter name :: segments := rfl

theorem cons_literal_nil (hs : s ≠ "") : cons (.literal s) ([] : List (Segment α)) = [.literal s] := by
  simp [cons, hs]

theorem cons_literal_literal (hs : s ≠ "") :
    cons (.literal s) (.literal t :: segments) = .literal (s ++ t) :: segments := by
  simp [cons, hs]

theorem cons_literal_parameter (hs : s ≠ "") :
    cons (.literal s) (.parameter name :: segments) = .literal s :: .parameter name :: segments := by
  simp [cons, hs]

theorem cons_literal_append :
    cons (.literal (s ++ t)) segments = cons (.literal s) (cons (.literal t) segments) := by
  by_cases hs : s = ""
  · subst hs
    rw [String.empty_append, cons_literal_empty]
  by_cases ht : t = ""
  · subst ht
    rw [String.append_empty, cons_literal_empty]
  have hst : s ++ t ≠ "" := by simp [hs]
  cases segments with
  | nil => rw [cons_literal_nil ht, cons_literal_literal hs, cons_literal_nil hst]
  | cons next segments =>
      cases next with
      | literal u =>
          rw [cons_literal_literal ht, cons_literal_literal hs, cons_literal_literal hst,
            String.append_assoc]
      | parameter name =>
          rw [cons_literal_parameter ht, cons_literal_literal hs, cons_literal_parameter hst]

end Cons

theorem cons_of_merged {segment : Segment α} {segments : List (Segment α)}
    (merged : Merged (segment :: segments)) : cons segment segments = segment :: segments := by
  cases segment with
  | parameter name => rfl
  | literal s =>
      have hs : s ≠ "" := by
        rintro rfl
        exact merged.nonempty List.mem_cons_self
      cases segments with
      | nil => exact cons_literal_nil hs
      | cons next segments =>
          cases next with
          | parameter name => exact cons_literal_parameter hs
          | literal t => exact absurd ⟨trivial, trivial⟩ (List.isChain_cons_cons.mp merged.apart).1

theorem merge_of_merged {segments : List (Segment α)} (merged : Merged segments) :
    merge segments = segments := by
  induction segments with
  | nil => rfl
  | cons segment segments ih =>
      rw [merge_cons, ih merged.tail, cons_of_merged merged]

theorem Merged.cons {segments : List (Segment α)} (merged : Merged segments) (segment : Segment α) :
    Merged (Segment.cons segment segments) := by
  cases segment with
  | parameter name =>
      rw [cons_parameter]
      refine ⟨?_, List.isChain_cons.mpr ⟨fun next _ both => both.1, merged.apart⟩⟩
      simpa using merged.nonempty
  | literal s =>
      by_cases hs : s = ""
      · subst hs
        exact merged
      cases segments with
      | nil =>
          rw [cons_literal_nil hs]
          exact ⟨by simp [Ne.symm hs], List.IsChain.singleton _⟩
      | cons next segments =>
          cases next with
          | parameter name =>
              rw [cons_literal_parameter hs]
              refine ⟨?_, List.isChain_cons_cons.mpr ⟨fun both => both.2, merged.apart⟩⟩
              simpa [Ne.symm hs] using merged.nonempty
          | literal t =>
              rw [cons_literal_literal hs]
              obtain ⟨hhead, hchain⟩ := List.isChain_cons.mp merged.apart
              refine ⟨?_, List.isChain_cons.mpr ⟨hhead, hchain⟩⟩
              have hst : "" ≠ s ++ t := fun heq => hs (String.append_eq_empty_iff.mp heq.symm).1
              simpa [hst] using merged.tail.nonempty

theorem merge_merged (segments : List (Segment α)) : Merged (merge segments) := by
  induction segments with
  | nil => exact Merged.nil
  | cons segment segments ih => exact ih.cons segment

theorem parameter_mem_cons {segment : Segment α} {segments : List (Segment α)} {name : α} :
    .parameter name ∈ cons segment segments ↔ .parameter name ∈ segment :: segments := by
  cases segment with
  | parameter other => rfl
  | literal s =>
      by_cases hs : s = ""
      · subst hs
        simp
      cases segments with
      | nil => rw [cons_literal_nil hs]
      | cons next segments =>
          cases next with
          | parameter other => rw [cons_literal_parameter hs]
          | literal t =>
              rw [cons_literal_literal hs]
              simp

theorem parameter_mem_merge {segments : List (Segment α)} {name : α} :
    .parameter name ∈ merge segments ↔ .parameter name ∈ segments := by
  induction segments with
  | nil => rfl
  | cons segment segments ih =>
      rw [merge_cons, parameter_mem_cons, List.mem_cons, List.mem_cons, ih]

theorem Merged.map {segments : List (Segment α)} (merged : Merged segments) (f : α → β) :
    Merged (segments.map (Segment.map f)) := by
  have isLiteral_map : ∀ segment : Segment α, (segment.map f).IsLiteral ↔ segment.IsLiteral := by
    rintro (s | name) <;> rfl
  refine ⟨?_, ?_⟩
  · rw [List.mem_map]
    rintro ⟨segment, mem, heq⟩
    cases segment with
    | parameter name => cases heq
    | literal s =>
        cases heq
        exact merged.nonempty mem
  · rw [List.isChain_map]
    exact merged.apart.imp fun a b hab => by rwa [isLiteral_map, isLiteral_map]

/-! ### Scanning what was written -/

/-- The name of a parameter as scanning finds it. -/
def IsToken : Segment String → Prop
  | .literal _ => True
  | .parameter name => name ≠ "" ∧ '%' ∉ name.toList

def written : Segment String → List Char
  | .literal s => doubled s.toList
  | .parameter name => '%' :: (name.toList ++ ['%'])

theorem cut_percent {cs name rest : List Char} (hsplit : splitPercent? cs = some (name, rest)) :
    cut ('%' :: cs) =
      (if name = [] then .literal "%" else .parameter (String.ofList name)) :: cut rest := by
  rw [cut]
  split
  · simp_all
  · simp_all
  · simp_all

theorem cut_of_splitPercent?_eq_none {cs : List Char} (hsplit : splitPercent? cs = none) :
    cut ('%' :: cs) = .literal "%" :: cut cs := by
  rw [cut]
  split <;> simp_all

theorem cut_percent_percent (cs : List Char) : cut ('%' :: '%' :: cs) = .literal "%" :: cut cs := by
  have hsplit : splitPercent? ('%' :: cs) = some ([], cs) := splitPercent?_append List.not_mem_nil cs
  rw [cut_percent hsplit, if_pos rfl]

theorem cut_token {name : List Char} (hne : name ≠ []) (hname : '%' ∉ name) (cs : List Char) :
    cut ('%' :: (name ++ '%' :: cs)) = .parameter (String.ofList name) :: cut cs := by
  rw [cut_percent (splitPercent?_append hname cs), if_neg hne]

theorem cut_cons {c : Char} (hc : c ≠ '%') (cs : List Char) :
    cut (c :: cs) = .literal (String.singleton c) :: cut cs := by
  rw [cut]
  exact hc

theorem merge_cut_doubled (cs rest : List Char) :
    merge (cut (doubled cs ++ rest)) = cons (.literal (String.ofList cs)) (merge (cut rest)) := by
  induction cs with
  | nil => rfl
  | cons c cs ih =>
      have split : String.ofList (c :: cs) = String.singleton c ++ String.ofList cs := by
        rw [← String.toList_inj]
        simp
      by_cases hc : c = '%'
      · subst hc
        rw [doubled_percent_cons, List.cons_append, List.cons_append, cut_percent_percent, merge_cons, ih,
          split, cons_literal_append]
        rfl
      · rw [doubled_cons hc, List.cons_append, cut_cons hc, merge_cons, ih, split, cons_literal_append]

theorem merge_cut_written {segments : List (Segment String)}
    (tokens : ∀ segment ∈ segments, IsToken segment) :
    merge (cut (segments.flatMap written)) = merge segments := by
  induction segments with
  | nil => rw [List.flatMap_nil, cut]
  | cons segment segments ih =>
      obtain ⟨token, tokens⟩ := List.forall_mem_cons.mp tokens
      rw [List.flatMap_cons, merge_cons, ← ih tokens]
      cases segment with
      | literal s =>
          rw [written, merge_cut_doubled, String.ofList_toList]
      | parameter name =>
          have hne : name.toList ≠ [] := by simpa using token.1
          rw [written, List.cons_append, List.append_assoc, List.singleton_append,
            cut_token hne token.2, merge_cons, String.ofList_toList]

theorem scan_written {segments : List (Segment String)} (merged : Merged segments)
    (tokens : ∀ segment ∈ segments, IsToken segment) :
    scan (String.ofList (segments.flatMap written)) = segments := by
  rw [scan, String.toList_ofList, merge_cut_written tokens, merge_of_merged merged]

theorem isToken_of_mem_cut (cs : List Char) : ∀ segment ∈ cut cs, IsToken segment := by
  fun_induction cut cs with
  | case1 => exact nofun
  | case2 cs hsplit ih => exact List.forall_mem_cons.mpr ⟨trivial, ih⟩
  | case3 cs rest hsplit ih => exact List.forall_mem_cons.mpr ⟨trivial, ih⟩
  | case4 cs name rest hname hsplit ih =>
      refine List.forall_mem_cons.mpr ⟨⟨?_, ?_⟩, ih⟩
      · simpa using hname
      · simpa using (splitPercent?_eq_some hsplit).2
  | case5 c cs hc ih => exact List.forall_mem_cons.mpr ⟨trivial, ih⟩

theorem isToken_of_mem_scan (s : String) : ∀ segment ∈ scan s, IsToken segment := by
  intro segment mem
  cases segment with
  | literal t => trivial
  | parameter name => exact isToken_of_mem_cut s.toList _ (parameter_mem_merge.mp mem)

theorem scan_merged (s : String) : Merged (scan s) := merge_merged _

def firstChar? : List (Segment α) → Option Char
  | .literal s :: _ => s.toList.head?
  | _ => none

theorem firstChar?_map (f : α → β) (segments : List (Segment α)) :
    firstChar? (segments.map (Segment.map f)) = firstChar? segments := by
  rcases segments with _ | ⟨_ | _, _⟩ <;> rfl

theorem firstChar?_cons_literal {s : String} (hs : s ≠ "") (segments : List (Segment α)) :
    firstChar? (cons (.literal s) segments) = s.toList.head? := by
  cases segments with
  | nil => rw [cons_literal_nil hs, firstChar?]
  | cons next segments =>
      cases next with
      | parameter name => rw [cons_literal_parameter hs, firstChar?]
      | literal t =>
          have hne : s.toList ≠ [] := by simpa using hs
          rw [cons_literal_literal hs, firstChar?, String.toList_append, List.head?_append_of_ne_nil _ hne]

/-- Scanning puts nothing in front of a string; at most it leaves a percent sign there. -/
theorem head?_of_firstChar?_scan {s : String} {c : Char} (hc : c ≠ '%')
    (hfirst : firstChar? (scan s) = some c) : s.toList.head? = some c := by
  rw [scan] at hfirst
  cases hs : s.toList with
  | nil =>
      rw [hs, cut] at hfirst
      cases hfirst
  | cons d cs =>
      rw [hs] at hfirst
      by_cases hd : d = '%'
      · subst hd
        exfalso
        cases hsplit : splitPercent? cs with
        | none =>
            rw [cut_of_splitPercent?_eq_none hsplit, merge_cons, firstChar?_cons_literal (by decide)] at hfirst
            exact hc (Option.some.inj hfirst).symm
        | some parts =>
            obtain ⟨name, rest⟩ := parts
            rw [cut_percent hsplit, merge_cons] at hfirst
            split at hfirst
            · rw [firstChar?_cons_literal (by decide)] at hfirst
              exact hc (Option.some.inj hfirst).symm
            · cases hfirst
      · rw [cut_cons hd, merge_cons, firstChar?_cons_literal (by simp)] at hfirst
        simpa using hfirst

end Segment

namespace Value

def segmentsOf (s : String) : List (Segment ParameterKey) :=
  (Segment.scan s).map (Segment.map ParameterKey.ofName)

theorem wholeParameter?_eq_some {cs : List Char} {name : String}
    (hwhole : wholeParameter? cs = some name) :
    cs = '%' :: (name.toList ++ ['%']) ∧ name ≠ "" ∧ '%' ∉ name.toList := by
  unfold wholeParameter? at hwhole
  split at hwhole
  · rename_i cs
    split at hwhole
    · rename_i inner hsplit
      obtain ⟨rfl, hinner⟩ := splitPercent?_eq_some hsplit
      split at hwhole
      · cases hwhole
      · cases hwhole
        rw [String.toList_ofList]
        refine ⟨rfl, ?_, hinner⟩
        simpa using ‹inner ≠ []›
    · cases hwhole
  · cases hwhole

theorem segmentsOf_written {segments : List (Segment String)} (merged : Segment.Merged segments)
    (tokens : ∀ segment ∈ segments, segment.IsToken) {s : String}
    (hs : s.toList = segments.flatMap Segment.written) :
    segmentsOf s = segments.map (Segment.map ParameterKey.ofName) := by
  have heq : s = String.ofList (segments.flatMap Segment.written) := by
    rw [← hs, String.ofList_toList]
  rw [segmentsOf, heq, Segment.scan_written merged tokens]

/-- What a string without a leading at sign stands for is decided by its segments. That it has no percent
sign or is a single `%name%` only saves work. -/
theorem ofText_eq_ofSegments {s : String} (hs : s.toList.head? ≠ some '@') :
    ofText s = ofSegments (segmentsOf s) := by
  unfold ofText
  split
  · simp_all
  · simp_all
  · split
    · rename_i hpercent
      by_cases hempty : s = ""
      · subst hempty
        rw [segmentsOf, Segment.scan, String.toList_empty, Segment.cut]
        rfl
      · have merged : Segment.Merged [.literal (α := String) s] :=
          ⟨by simpa using Ne.symm hempty, List.IsChain.singleton _⟩
        have hwritten : s.toList = [.literal (α := String) s].flatMap Segment.written := by
          simp [Segment.written, doubled_eq_self_iff.mpr hpercent]
        rw [segmentsOf_written merged (by simp [Segment.IsToken]) hwritten, ofSegments]
        simp [Segment.map, Segment.merge, Segment.cons, hempty]
    · split
      · rename_i name hwhole
        obtain ⟨hname, hne, htoken⟩ := wholeParameter?_eq_some hwhole
        have merged : Segment.Merged [.parameter name] := ⟨by simp, List.IsChain.singleton _⟩
        have hwritten : s.toList = [.parameter name].flatMap Segment.written := by
          simp [Segment.written, hname]
        rw [segmentsOf_written merged (by simp [Segment.IsToken, hne, htoken]) hwritten, ofSegments]
        rfl
      · rfl

end Value

end ServiceContainer
