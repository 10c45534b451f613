import ServiceContainer.Proofs.Expression.Pieces
import ServiceContainer.Proofs.Value.NormalForm

/-!
# What kind of value a string stands for

A string without a leading at sign stands for what its segments stand for, so its kind can be read off them.
A parameter as the only segment means that the string is nothing but a name between percent signs.
-/

namespace ServiceContainer

/-! ### A parameter alone -/

namespace Piece

variable {cs : List Char} {pieces : List Piece} {name : String}

theorem Split.eq_nil_of_units (split : Split cs pieces) (hunits : Segment.units (pieces.map segment) = []) :
    pieces = [] := by
  cases split with
  | nil => rfl
  | @cons piece _ rest pieces first split =>
      exfalso
      cases piece with
      | run text =>
          rw [List.map_cons, segment, Segment.units_cons_literal, String.toList_ofList, List.append_eq_nil_iff,
            List.map_eq_nil_iff] at hunits
          exact first.fits.legal.1 hunits.1
      | _ => cases hunits

theorem Split.eq_token_of_units (split : Split cs pieces)
    (hunits : Segment.units (pieces.map segment) = [.inr name]) : pieces = [.token name.toList] := by
  cases split with
  | nil => cases hunits
  | @cons piece _ rest pieces first split =>
      cases piece with
      | token other =>
          obtain ⟨hname, hnil⟩ := List.cons.inj hunits
          rw [split.eq_nil_of_units hnil, ← Sum.inr.inj hname, String.toList_ofList]
      | run text =>
          -- a run would put a character in front
          obtain ⟨c, text, rfl⟩ := List.exists_cons_of_ne_nil first.fits.legal.1
          rw [List.map_cons, segment, Segment.units_cons_literal, String.toList_ofList] at hunits
          cases hunits
      | _ => cases hunits

end Piece

/-- The string is the name between two percent signs. -/
structure IsReference (name s : String) : Prop where
  token : (Segment.parameter name).IsToken
  eq : s = "%" ++ name ++ "%"

theorem IsReference.noAt {name s : String} (reference : IsReference name s) : s.toList.head? ≠ some '@' := by
  rw [reference.eq]
  simp

theorem Segment.scan_eq_parameter_iff {s name : String} : scan s = [.parameter name] ↔ IsReference name s := by
  constructor
  · intro hscan
    have token := isToken_of_mem_scan s
    rw [hscan] at token
    obtain ⟨pieces, split⟩ := Piece.exists_split s.toList
    rw [scan, merge_cut_of_split split, merge_eq_iff] at hscan
    have hpieces := split.eq_token_of_units hscan.2.symm
    refine ⟨token _ (List.mem_singleton_self _), ?_⟩
    rw [← String.toList_inj, ← split.flatMap_source, hpieces]
    simp [Piece.source]
  · rintro ⟨token, rfl⟩
    have merged : Merged [.parameter name] := ⟨by simp, List.IsChain.singleton _⟩
    have hwritten : "%" ++ name ++ "%" = String.ofList ([.parameter name].flatMap written) := by
      rw [← String.toList_inj]
      simp [written]
    rw [hwritten]
    exact scan_written merged (by simpa using token)

/-! ### What segments stand for -/

namespace Value

variable {segments : List (Segment ParameterKey)} {key : ParameterKey} {s : String}

theorem ofSegments_eq_parameter_iff (merged : Segment.Merged segments) :
    ofSegments segments = .parameter key ↔ segments = [.parameter key] := by
  have standsFor := standsFor_ofSegments merged
  generalize ofSegments segments = v at standsFor
  cases standsFor with
  | nothing => exact iff_of_false nofun nofun
  | literal => exact iff_of_false nofun nofun
  | parameter other => simp
  | template two_le =>
      refine iff_of_false nofun ?_
      rintro rfl
      exact absurd two_le (Nat.not_succ_le_self 1)

theorem ofSegments_ne_service (merged : Segment.Merged segments) (id : ServiceId) :
    ofSegments segments ≠ .service id := by
  have standsFor := standsFor_ofSegments merged
  generalize ofSegments segments = v at standsFor
  cases standsFor <;> exact nofun

theorem ofSegments_eq_template_iff (merged : Segment.Merged segments) {others : List (Segment ParameterKey)} :
    ofSegments segments = .template others ↔
      (∃ key, .parameter key ∈ segments) ∧ (¬ ∃ key, segments = [.parameter key]) ∧ others = segments := by
  have standsFor := standsFor_ofSegments merged
  generalize ofSegments segments = v at standsFor
  cases standsFor with
  | nothing => exact iff_of_false nofun nofun
  | literal => exact iff_of_false nofun (by simp)
  | parameter other => exact iff_of_false nofun fun both => both.2.1 ⟨other, rfl⟩
  | template two_le exists_parameter =>
      have notAlone : ¬ ∃ key, segments = [.parameter key] := by
        rintro ⟨key, rfl⟩
        exact absurd two_le (Nat.not_succ_le_self 1)
      rw [template.injEq, eq_comm]
      exact (and_iff_right exists_parameter).trans (and_iff_right notAlone) |>.symm

/-! ### What strings stand for -/

/-- The string is an at sign and the id of a service, which does not begin with another one. -/
structure NamesService (id : ServiceId) (s : String) : Prop where
  single : id.toList.head? ≠ some '@'
  eq : s = "@" ++ id

/-- The string has a parameter in it, and something besides. -/
structure Mixes (s : String) : Prop where
  noAt : s.toList.head? ≠ some '@'
  exists_parameter : ∃ name, .parameter name ∈ Segment.scan s
  notAlone : ¬ ∃ name, IsReference name s

theorem NamesService.at {id : ServiceId} (names : NamesService id s) : s.toList.head? = some '@' := by
  rw [names.eq]
  simp

/-- A string with a leading at sign stands for text if a second one follows, and for a service otherwise. -/
theorem ofText_of_at (hs : s.toList.head? = some '@') :
    (∃ t, ofText s = .text t ∧ ¬ ∃ id, NamesService id s) ∨ ∃ id, ofText s = .service id ∧ NamesService id s := by
  rcases eq_at_at_or_eq_at hs with ⟨cs, hcs⟩ | ⟨cs, hcs, single⟩
  · refine .inl ⟨_, ofText_at_at hcs, ?_⟩
    rintro ⟨id, single, rfl⟩
    have hid : id.toList = '@' :: cs := by simpa using hcs
    rw [hid] at single
    exact single rfl
  · refine .inr ⟨_, ofText_at hcs single, by rwa [String.toList_ofList], ?_⟩
    rw [← String.toList_inj, hcs]
    simp

theorem segmentsOf_eq_parameter_iff :
    segmentsOf s = [.parameter key] ↔ ∃ name, IsReference name s ∧ key = .ofName name := by
  rw [segmentsOf, List.map_eq_singleton_iff]
  constructor
  · rintro ⟨segment, hscan, hmap⟩
    cases segment with
    | literal t => cases hmap
    | parameter name =>
        cases hmap
        exact ⟨name, Segment.scan_eq_parameter_iff.mp hscan, rfl⟩
  · rintro ⟨name, reference, rfl⟩
    exact ⟨.parameter name, Segment.scan_eq_parameter_iff.mpr reference, rfl⟩

theorem exists_parameter_mem_segmentsOf_iff :
    (∃ key, .parameter key ∈ segmentsOf s) ↔ ∃ name, .parameter name ∈ Segment.scan s := by
  simp only [segmentsOf, List.mem_map]
  constructor
  · rintro ⟨key, segment, mem, hmap⟩
    cases segment with
    | literal t => cases hmap
    | parameter name => exact ⟨name, mem⟩
  · rintro ⟨name, mem⟩
    exact ⟨.ofName name, .parameter name, mem, rfl⟩

theorem exists_segmentsOf_eq_parameter_iff :
    (∃ key, segmentsOf s = [.parameter key]) ↔ ∃ name, IsReference name s := by
  simp only [segmentsOf_eq_parameter_iff]
  constructor
  · rintro ⟨key, name, reference, -⟩
    exact ⟨name, reference⟩
  · rintro ⟨name, reference⟩
    exact ⟨_, name, reference, rfl⟩

theorem ofText_eq_parameter_iff : ofText s = .parameter key ↔ ∃ name, IsReference name s ∧ key = .ofName name := by
  by_cases hs : s.toList.head? = some '@'
  · refine iff_of_false ?_ ?_
    · rcases ofText_of_at hs with ⟨t, htext, -⟩ | ⟨id, hservice, -⟩
      · rw [htext]
        exact nofun
      · rw [hservice]
        exact nofun
    · rintro ⟨name, reference, -⟩
      exact reference.noAt hs
  · rw [ofText_eq_ofSegments hs, ofSegments_eq_parameter_iff (segmentsOf_merged s), segmentsOf_eq_parameter_iff]

theorem ofText_eq_service_iff {id : ServiceId} : ofText s = .service id ↔ NamesService id s := by
  by_cases hs : s.toList.head? = some '@'
  · rcases ofText_of_at hs with ⟨t, htext, none⟩ | ⟨other, hservice, names⟩
    · rw [htext]
      exact iff_of_false nofun fun names => none ⟨id, names⟩
    · rw [hservice]
      constructor
      · rintro ⟨⟩
        exact names
      · intro names'
        have hids : other = id := by simpa using names.eq.symm.trans names'.eq
        rw [hids]
  · rw [ofText_eq_ofSegments hs]
    exact iff_of_false (ofSegments_ne_service (segmentsOf_merged s) id) fun names => hs names.at

theorem ofText_eq_template_iff {segments : List (Segment ParameterKey)} :
    ofText s = .template segments ↔ Mixes s ∧ segments = segmentsOf s := by
  by_cases hs : s.toList.head? = some '@'
  · refine iff_of_false ?_ fun both => both.1.noAt hs
    rcases ofText_of_at hs with ⟨t, htext, -⟩ | ⟨id, hservice, -⟩
    · rw [htext]
      exact nofun
    · rw [hservice]
      exact nofun
  · rw [ofText_eq_ofSegments hs, ofSegments_eq_template_iff (segmentsOf_merged s), exists_parameter_mem_segmentsOf_iff,
      exists_segmentsOf_eq_parameter_iff, ← and_assoc]
    refine and_congr_left fun _ => ?_
    exact ⟨fun ⟨exists_parameter, notAlone⟩ => ⟨hs, exists_parameter, notAlone⟩,
      fun mixes => ⟨mixes.exists_parameter, mixes.notAlone⟩⟩

theorem ofText_exhaustive (s : String) :
    (∃ t, ofText s = .text t) ∨ (∃ key, ofText s = .parameter key) ∨ (∃ id, ofText s = .service id) ∨
      ∃ segments, ofText s = .template segments := by
  by_cases hs : s.toList.head? = some '@'
  · rcases ofText_of_at hs with ⟨t, htext, -⟩ | ⟨id, hservice, -⟩
    · exact .inl ⟨t, htext⟩
    · exact .inr (.inr (.inl ⟨id, hservice⟩))
  · rw [ofText_eq_ofSegments hs]
    have standsFor := standsFor_ofSegments (segmentsOf_merged s)
    generalize segmentsOf s = segments at standsFor
    generalize ofSegments segments = v at standsFor
    cases standsFor with
    | nothing => exact .inl ⟨"", rfl⟩
    | literal t => exact .inl ⟨t, rfl⟩
    | parameter key => exact .inr (.inl ⟨key, rfl⟩)
    | template => exact .inr (.inr (.inr ⟨_, rfl⟩))

theorem exists_ofText_eq_text_iff :
    (∃ t, ofText s = .text t) ↔ (¬ ∃ name, IsReference name s) ∧ (¬ ∃ id, NamesService id s) ∧ ¬ Mixes s := by
  constructor
  · rintro ⟨t, htext⟩
    refine ⟨?_, ?_, fun mixes => ?_⟩
    · rintro ⟨name, reference⟩
      have hparameter := ofText_eq_parameter_iff.mpr ⟨name, reference, rfl⟩
      exact Value.noConfusion (htext.symm.trans hparameter)
    · rintro ⟨id, names⟩
      exact Value.noConfusion (htext.symm.trans (ofText_eq_service_iff.mpr names))
    · exact Value.noConfusion (htext.symm.trans (ofText_eq_template_iff.mpr ⟨mixes, rfl⟩))
  · rintro ⟨notReference, notService, notMixed⟩
    rcases ofText_exhaustive s with htext | ⟨key, hparameter⟩ | ⟨id, hservice⟩ | ⟨segments, htemplate⟩
    · exact htext
    · obtain ⟨name, reference, -⟩ := ofText_eq_parameter_iff.mp hparameter
      exact absurd ⟨name, reference⟩ notReference
    · exact absurd ⟨id, ofText_eq_service_iff.mp hservice⟩ notService
    · exact absurd (ofText_eq_template_iff.mp htemplate).1 notMixed

/-- A string without a leading at sign stands for what its segments stand for, names in lower case; that some
strings need no scanning only saves work. It stands for a parameter exactly when it is a name between two
percent signs, for a service exactly when it begins with a single at sign, for a template exactly when it
mixes a parameter with something else, and for text otherwise. -/
theorem ofText_kinds (s : String) :
    (s.toList.head? ≠ some '@' →
      ofText s = ofSegments ((Segment.scan s).map (Segment.map ParameterKey.ofName))) ∧
    (∀ key, ofText s = .parameter key ↔ ∃ name, IsReference name s ∧ key = .ofName name) ∧
    (∀ id, ofText s = .service id ↔ NamesService id s) ∧
    (∀ segments, ofText s = .template segments ↔
      Mixes s ∧ segments = (Segment.scan s).map (Segment.map ParameterKey.ofName)) ∧
    ((∃ t, ofText s = .text t) ↔
      (¬ ∃ name, IsReference name s) ∧ (¬ ∃ id, NamesService id s) ∧ ¬ Mixes s) :=
  ⟨ofText_eq_ofSegments, fun _ => ofText_eq_parameter_iff, fun _ => ofText_eq_service_iff,
    fun _ => ofText_eq_template_iff, exists_ofText_eq_text_iff⟩

end Value

end ServiceContainer
