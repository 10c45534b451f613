import ServiceContainer.Proofs.Expression

/-!
# The pieces of a string

A string is cut from left to right, at each place by the first of four rules that fits: two percent signs, a
name between percent signs, one percent sign, and a run of other characters. Scanning gives what the pieces
stand for, with literals that meet put together.
-/

namespace ServiceContainer

/-- What one rule cuts off. -/
inductive Piece where
  | percent
  | token (name : List Char)
  | stray
  | run (text : List Char)

namespace Piece

/-- The place of a piece's rule in the order in which the rules are tried. -/
def rank : Piece → Nat
  | .percent => 0
  | .token _ => 1
  | .stray => 2
  | .run _ => 3

/-- A piece as it stands in the string. -/
def source : Piece → List Char
  | .percent => ['%', '%']
  | .token name => '%' :: (name ++ ['%'])
  | .stray => ['%']
  | .run text => text

/-- What the rule of a piece asks for, where `rest` is left behind the piece. A run is as long as it can be. -/
def Legal : Piece → List Char → Prop
  | .percent, _ | .stray, _ => True
  | .token name, _ => name ≠ [] ∧ '%' ∉ name
  | .run text, rest => text ≠ [] ∧ '%' ∉ text ∧ ∀ c ∈ rest.head?, c = '%'

/-- The rule of a piece fits in front of a string, and leaves `rest`. -/
structure Fits (piece : Piece) (cs rest : List Char) : Prop where
  eq_append : cs = piece.source ++ rest
  legal : piece.Legal rest

/-- The rule of a piece fits, and none that is tried before it does. -/
structure First (piece : Piece) (cs rest : List Char) : Prop where
  fits : piece.Fits cs rest
  least : ∀ other rest', Fits other cs rest' → piece.rank ≤ other.rank

/-- The pieces that the rules cut a string into. -/
inductive Split : List Char → List Piece → Prop
  | nil : Split [] []
  | cons {piece : Piece} {cs rest : List Char} {pieces : List Piece} (first : piece.First cs rest)
      (split : Split rest pieces) : Split cs (piece :: pieces)

/-- What a piece stands for. -/
def segment : Piece → Segment String
  | .percent => .literal "%"
  | .token name => .parameter (String.ofList name)
  | .stray => .literal "%"
  | .run text => .literal (String.ofList text)

variable {piece other : Piece} {cs rest rest' : List Char} {pieces pieces' : List Piece}

theorem Fits.source_ne_nil (fits : piece.Fits cs rest) : piece.source ≠ [] := by
  cases piece with
  | run text => exact fits.legal.1
  | _ => exact List.cons_ne_nil _ _

theorem Split.flatMap_source (split : Split cs pieces) : pieces.flatMap source = cs := by
  induction split with
  | nil => rfl
  | cons first _ ih => rw [List.flatMap_cons, ih, ← first.fits.eq_append]

/-! ### Which rule fits first -/

theorem ne_percent_of_free {c : Char} (free : '%' ∉ c :: cs) : c ≠ '%' := by
  rintro rfl
  exact free List.mem_cons_self

theorem first_percent (rest : List Char) : First .percent ('%' :: '%' :: rest) rest where
  fits := ⟨rfl, trivial⟩
  least _ _ _ := Nat.zero_le _

theorem first_token {name : List Char} (nonempty : name ≠ []) (free : '%' ∉ name) (rest : List Char) :
    First (.token name) ('%' :: (name ++ '%' :: rest)) rest where
  fits := ⟨by simp [source], nonempty, free⟩
  least other rest' fits := by
    obtain ⟨c, cs, rfl⟩ := List.exists_cons_of_ne_nil nonempty
    cases other with
    | percent =>
        have hcons := (List.cons.inj fits.eq_append).2
        exact absurd (List.cons.inj hcons).1 (ne_percent_of_free free)
    | token => exact le_rfl
    | stray => exact Nat.le_succ 1
    | run => exact Nat.le_add_left 1 2

theorem exists_first_of_mem (mem : '%' ∈ cs) :
    ∃ piece rest, First piece ('%' :: cs) rest ∧ piece.rank < stray.rank := by
  obtain ⟨name, rest, rfl, free⟩ := List.eq_append_cons_of_mem mem
  by_cases nonempty : name = []
  · subst nonempty
    exact ⟨.percent, rest, first_percent rest, Nat.zero_lt_two⟩
  · exact ⟨.token name, rest, first_token nonempty free rest, Nat.one_lt_two⟩

/-- A percent sign stands alone only when no other one follows in the string. -/
theorem first_stray_iff : First .stray cs rest ↔ cs = '%' :: rest ∧ '%' ∉ rest := by
  constructor
  · intro first
    obtain rfl := first.fits.eq_append
    refine ⟨rfl, fun mem => ?_⟩
    obtain ⟨piece, rest', earlier, hlt⟩ := exists_first_of_mem mem
    exact absurd (first.least piece rest' earlier.fits) (Nat.not_le.mpr hlt)
  · rintro ⟨rfl, alone⟩
    refine ⟨⟨rfl, trivial⟩, fun other rest' fits => ?_⟩
    cases other with
    | percent =>
        rw [(List.cons.inj fits.eq_append).2] at alone
        exact absurd List.mem_cons_self alone
    | token name =>
        rw [(List.cons.inj fits.eq_append).2] at alone
        exact absurd (by simp) alone
    | stray => exact le_rfl
    | run => exact Nat.le_succ 2

theorem first_run {text : List Char} (legal : (run text).Legal rest) : First (.run text) (text ++ rest) rest where
  fits := ⟨rfl, legal⟩
  least other rest' fits := by
    obtain ⟨nonempty, free, -⟩ := legal
    obtain ⟨c, cs, rfl⟩ := List.exists_cons_of_ne_nil nonempty
    -- the other rules want a percent sign in front
    cases other with
    | run => exact le_rfl
    | _ => exact absurd (List.cons.inj fits.eq_append).1 (ne_percent_of_free free)

theorem exists_first (c : Char) (cs : List Char) : ∃ piece rest, First piece (c :: cs) rest := by
  by_cases hc : c = '%'
  · subst hc
    by_cases mem : '%' ∈ cs
    · obtain ⟨piece, rest, first, -⟩ := exists_first_of_mem mem
      exact ⟨piece, rest, first⟩
    · exact ⟨.stray, cs, first_stray_iff.mpr ⟨rfl, mem⟩⟩
  · by_cases mem : '%' ∈ cs
    · obtain ⟨text, rest, rfl, free⟩ := List.eq_append_cons_of_mem mem
      have legal : (run (c :: text)).Legal ('%' :: rest) :=
        ⟨List.cons_ne_nil c text, by simp [Ne.symm hc, free], by simp⟩
      exact ⟨_, _, first_run legal⟩
    · have legal : (run (c :: cs)).Legal [] := ⟨List.cons_ne_nil c cs, by simp [Ne.symm hc, mem], nofun⟩
      have first := first_run legal
      rw [List.append_nil] at first
      exact ⟨_, _, first⟩

theorem exists_split (cs : List Char) : ∃ pieces, Split cs pieces := by
  induction hlength : cs.length using Nat.strong_induction_on generalizing cs with
  | _ length ih =>
      subst hlength
      cases cs with
      | nil => exact ⟨[], .nil⟩
      | cons c cs =>
          obtain ⟨piece, rest, first⟩ := exists_first c cs
          have hlt : rest.length < (c :: cs).length := by
            have hsource := List.length_pos_of_ne_nil first.fits.source_ne_nil
            rw [first.fits.eq_append, List.length_append]
            omega
          obtain ⟨pieces, split⟩ := ih rest.length hlt rest rfl
          exact ⟨piece :: pieces, .cons first split⟩

/-! ### No other pieces -/

theorem takeWhile_append_of_free {text : List Char} (free : '%' ∉ text) (hrest : ∀ c ∈ rest.head?, c = '%') :
    (text ++ rest).takeWhile (· ≠ '%') = text := by
  have away : ∀ c ∈ text, decide (c ≠ '%') = true := by
    intro c hc
    rw [decide_eq_true_eq]
    rintro rfl
    exact free hc
  have hnil : rest.takeWhile (· ≠ '%') = [] := by
    cases rest with
    | nil => rfl
    | cons c cs =>
        obtain rfl := hrest c rfl
        rfl
  rw [List.takeWhile_append_of_pos away, hnil, List.append_nil]

/-- Text is known by where the next percent sign stands. -/
theorem eq_of_append_eq_append {text text' : List Char} (free : '%' ∉ text) (free' : '%' ∉ text')
    (hrest : ∀ c ∈ rest.head?, c = '%') (hrest' : ∀ c ∈ rest'.head?, c = '%') (same : text ++ rest = text' ++ rest') :
    text = text' :=
  calc
    text = (text ++ rest).takeWhile (· ≠ '%') := (takeWhile_append_of_free free hrest).symm
    _ = (text' ++ rest').takeWhile (· ≠ '%') := by rw [same]
    _ = text' := takeWhile_append_of_free free' hrest'

/-- One rule fits in one way. -/
theorem Fits.eq_of_rank (fits : piece.Fits cs rest) (fits' : other.Fits cs rest') (same : piece.rank = other.rank) :
    piece = other ∧ rest = rest' := by
  have happend : piece.source ++ rest = other.source ++ rest' := fits.eq_append.symm.trans fits'.eq_append
  have heq : piece = other := by
    cases piece with
    | token name =>
        cases other with
        | token name' =>
            have hnames : name ++ '%' :: rest = name' ++ '%' :: rest' := by simpa [source] using happend
            rw [eq_of_append_eq_append fits.legal.2 fits'.legal.2 (by simp) (by simp) hnames]
        | _ => cases same
    | run text =>
        cases other with
        | run text' =>
            obtain ⟨-, free, maximal⟩ := fits.legal
            obtain ⟨-, free', maximal'⟩ := fits'.legal
            rw [eq_of_append_eq_append free free' maximal maximal' happend]
        | _ => cases same
    | percent =>
        cases other with
        | percent => rfl
        | _ => cases same
    | stray =>
        cases other with
        | stray => rfl
        | _ => cases same
  subst heq
  exact ⟨rfl, List.append_cancel_left happend⟩

theorem First.unique (first : piece.First cs rest) (first' : other.First cs rest') :
    piece = other ∧ rest = rest' := by
  refine first.fits.eq_of_rank first'.fits (le_antisymm ?_ ?_)
  · exact first.least other rest' first'.fits
  · exact first'.least piece rest first.fits

theorem not_first_nil : ¬ First piece [] rest := by
  intro first
  have happend := first.fits.eq_append
  exact first.fits.source_ne_nil (List.append_eq_nil_iff.mp happend.symm).1

theorem Split.unique (split : Split cs pieces) (split' : Split cs pieces') : pieces = pieces' := by
  induction split generalizing pieces' with
  | nil =>
      cases split' with
      | nil => rfl
      | cons first => exact absurd first not_first_nil
  | cons first _ ih =>
      cases split' with
      | nil => exact absurd first not_first_nil
      | cons first' split' =>
          obtain ⟨rfl, rfl⟩ := first.unique first'
          rw [ih split']

end Piece

namespace Segment

variable {α : Type}

/-! ### Putting literals together -/

/-- The characters and parameters of segments, whatever the literals that the characters stand in. -/
def units (segments : List (Segment α)) : List (Char ⊕ α) :=
  segments.flatMap fun
    | .literal s => s.toList.map .inl
    | .parameter name => [.inr name]

theorem units_cons_literal (s : String) (segments : List (Segment α)) :
    units (.literal s :: segments) = s.toList.map .inl ++ units segments := rfl

theorem units_cons_parameter (name : α) (segments : List (Segment α)) :
    units (.parameter name :: segments) = .inr name :: units segments := rfl

theorem units_cons (segment : Segment α) (segments : List (Segment α)) :
    units (cons segment segments) = units (segment :: segments) := by
  cases segment with
  | parameter name => rfl
  | literal s =>
      by_cases hs : s = ""
      · subst hs
        rfl
      cases segments with
      | nil => rw [cons_literal_nil hs]
      | cons next segments =>
          cases next with
          | parameter name => rw [cons_literal_parameter hs]
          | literal t =>
              rw [cons_literal_literal hs]
              simp [units_cons_literal]

theorem units_merge (segments : List (Segment α)) : units (merge segments) = units segments := by
  induction segments with
  | nil => rfl
  | cons segment segments ih =>
      rw [merge_cons, units_cons]
      cases segment with
      | literal s => rw [units_cons_literal, units_cons_literal, ih]
      | parameter name => rw [units_cons_parameter, units_cons_parameter, ih]

/-- The merged segments with the given units. -/
def ofUnits (us : List (Char ⊕ α)) : List (Segment α) :=
  us.foldr (fun u => cons (u.elim (fun c => .literal (String.singleton c)) .parameter)) []

theorem ofUnits_map_inl_append (cs : List Char) (us : List (Char ⊕ α)) :
    ofUnits (cs.map .inl ++ us) = cons (.literal (String.ofList cs)) (ofUnits us) := by
  induction cs with
  | nil => rfl
  | cons c cs ih =>
      have split : String.ofList (c :: cs) = String.singleton c ++ String.ofList cs := by
        rw [← String.toList_inj]
        simp
      rw [split, cons_literal_append, ← ih]
      rfl

theorem ofUnits_units (segments : List (Segment α)) : ofUnits (units segments) = merge segments := by
  induction segments with
  | nil => rfl
  | cons segment segments ih =>
      rw [merge_cons, ← ih]
      cases segment with
      | literal s => rw [units_cons_literal, ofUnits_map_inl_append, String.ofList_toList]
      | parameter name => rfl

/-- Merging changes nothing but how characters are put together to literals, and there is one way to do it. -/
theorem merge_eq_iff {segments merged : List (Segment α)} :
    merge segments = merged ↔ Merged merged ∧ units merged = units segments := by
  constructor
  · rintro rfl
    exact ⟨merge_merged segments, units_merge segments⟩
  · rintro ⟨hmerged, same⟩
    rw [← ofUnits_units, ← same, ofUnits_units, merge_of_merged hmerged]

/-! ### Scanning -/

theorem merge_cut_run {text : List Char} (free : '%' ∉ text) (rest : List Char) :
    merge (cut (text ++ rest)) = cons (.literal (String.ofList text)) (merge (cut rest)) := by
  have hdoubled := merge_cut_doubled text rest
  rwa [doubled_eq_self_iff.mpr free] at hdoubled

theorem cut_stray {cs : List Char} (alone : '%' ∉ cs) : cut ('%' :: cs) = .literal "%" :: cut cs := by
  cases hsplit : splitPercent? cs with
  | none => exact cut_of_splitPercent?_eq_none hsplit
  | some parts =>
      obtain ⟨rfl, -⟩ := splitPercent?_eq_some hsplit
      exact absurd (List.mem_append_right _ List.mem_cons_self) alone

/-- What scanning does with the first piece of a string. -/
theorem merge_cut_of_first {piece : Piece} {cs rest : List Char} (first : piece.First cs rest) :
    merge (cut cs) = cons piece.segment (merge (cut rest)) := by
  obtain rfl := first.fits.eq_append
  cases piece with
  | percent => exact congrArg merge (cut_percent_percent rest)
  | token name =>
      obtain ⟨nonempty, free⟩ := first.fits.legal
      rw [Piece.source, List.cons_append, List.append_assoc, List.singleton_append, cut_token nonempty free]
      rfl
  | stray => exact congrArg merge (cut_stray (Piece.first_stray_iff.mp first).2)
  | run text => exact merge_cut_run first.fits.legal.2.1 rest

theorem merge_cut_of_split {cs : List Char} {pieces : List Piece} (split : Piece.Split cs pieces) :
    merge (cut cs) = merge (pieces.map Piece.segment) := by
  induction split with
  | nil => rw [cut, List.map_nil]
  | cons first _ ih => rw [merge_cut_of_first first, ih, List.map_cons, merge_cons]

theorem scan_written_iff {segments : List (Segment String)} :
    scan (String.ofList (segments.flatMap written)) = segments ↔
      Merged segments ∧ ∀ segment ∈ segments, IsToken segment := by
  constructor
  · intro hscan
    have merged := scan_merged (String.ofList (segments.flatMap written))
    have tokens := isToken_of_mem_scan (String.ofList (segments.flatMap written))
    rw [hscan] at merged tokens
    exact ⟨merged, tokens⟩
  · rintro ⟨merged, tokens⟩
    exact scan_written merged tokens

/-- A string is cut into pieces in one way, each by the first rule that fits. Scanning gives what they stand
for, as the one list of segments in which no literal is empty and no two meet. A percent sign is cut off alone
only when it is the last one. Just such lists of segments, with names that can stand between two percent
signs, come back when they are written and scanned. -/
theorem scan_leftmostFirst :
    (∀ s : String, ∃ pieces, (∀ other, Piece.Split s.toList other ↔ other = pieces) ∧
      ∀ segments, scan s = segments ↔ Merged segments ∧ units segments = units (pieces.map Piece.segment)) ∧
    (∀ cs rest, Piece.First .stray cs rest ↔ cs = '%' :: rest ∧ '%' ∉ rest) ∧
    (∀ s : String, ∀ segment ∈ scan s, IsToken segment) ∧
    ∀ segments : List (Segment String), scan (String.ofList (segments.flatMap written)) = segments ↔
      Merged segments ∧ ∀ segment ∈ segments, IsToken segment := by
  refine ⟨fun s => ?_, fun cs rest => Piece.first_stray_iff, isToken_of_mem_scan, fun segments => scan_written_iff⟩
  obtain ⟨pieces, split⟩ := Piece.exists_split s.toList
  refine ⟨pieces, fun other => ⟨fun split' => split'.unique split, ?_⟩, fun segments => ?_⟩
  · rintro rfl
    exact split
  · rw [scan, merge_cut_of_split split, merge_eq_iff]

end Segment

end ServiceContainer
