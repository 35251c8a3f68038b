import Mathlib

/-! Matching with a failure table. A state of the matcher is the length of the longest beginning of
the pattern that the text read so far ends with; the table gives the next shorter one. -/
namespace BirdCode.Lib

variable {α : Type*} [DecidableEq α] {pattern text : List α} {table : List ℕ} {matched bound : ℕ}
  {symbol : α}

section Matcher

variable (pattern : List α) (table : List ℕ)

/-- Falls back to a beginning of the pattern that the symbol continues, or to none. Each fall is
to a shorter beginning, so that the first argument never runs out. -/
def fallBack (symbol : α) : ℕ → ℕ → ℕ
  | 0, matched => matched
  | falls + 1, matched =>
    if 0 < matched ∧ pattern[matched]? ≠ some symbol then
      fallBack symbol falls (table.getD (matched - 1) 0)
    else matched

/-- The state after one more symbol. -/
def advance (matched : ℕ) (symbol : α) : ℕ :=
  let fallen := fallBack pattern table symbol matched matched
  if pattern[fallen]? = some symbol then fallen + 1 else fallen

/-- The state in which the matcher goes on, after a whole match from the longest shorter one. -/
def resume (matched : ℕ) : ℕ :=
  if matched = pattern.length then table.getD (matched - 1) 0 else matched

theorem resume_of_eq {pattern : List α} (table : List ℕ) {matched : ℕ}
    (h : matched = pattern.length) :
    resume pattern table matched = table.getD (matched - 1) 0 := if_pos h

theorem resume_of_ne {pattern : List α} (table : List ℕ) {matched : ℕ}
    (h : matched ≠ pattern.length) : resume pattern table matched = matched := if_neg h

/-- The places of the whole matches in a text that starts at an index. -/
def matchesFrom (index matched : ℕ) : List α → List ℕ
  | [] => []
  | symbol :: rest =>
    let next := advance pattern table matched symbol
    (if next = pattern.length then [index + 1 - pattern.length] else []) ++
      matchesFrom (index + 1) (resume pattern table next) rest

end Matcher

section Longest

/-- The longest beginning of the pattern, of those shorter than a bound, that a text ends with. -/
structure LongestEnd (pattern : List α) (bound : ℕ) (text : List α) (matched : ℕ) : Prop where
  suffix : pattern.take matched <:+ text
  below : 0 < matched → matched < bound
  longest : ∀ other < bound, pattern.take other <:+ text → other ≤ matched

/-- The table gives for each beginning of the pattern its longest end that is shorter. -/
def Fails (pattern : List α) (table : List ℕ) (bound : ℕ) : Prop :=
  ∀ index < bound, LongestEnd pattern (index + 1) (pattern.take (index + 1)) (table.getD index 0)

theorem take_add_one_suffix {count : ℕ} : pattern.take (count + 1) <:+ text ++ [symbol] ↔
    (count < pattern.length ∧ pattern[count]? = some symbol ∧ pattern.take count <:+ text) ∨
      (pattern.length ≤ count ∧ pattern <:+ text ++ [symbol]) := by
  by_cases hcount : count < pattern.length
  · rw [List.take_add_one, List.getElem?_eq_getElem hcount]
    constructor
    · rintro ⟨before, hbefore⟩
      rw [Option.toList_some, ← List.append_assoc] at hbefore
      obtain ⟨htext, hsymbol⟩ := List.append_inj' hbefore rfl
      exact .inl ⟨hcount, by rw [List.singleton_inj.mp hsymbol], before, htext⟩
    · rintro (⟨_, hsymbol, before, rfl⟩ | ⟨hlong, _⟩)
      · rw [Option.some.inj hsymbol, Option.toList_some]
        exact ⟨before, by rw [List.append_assoc]⟩
      · omega
  · rw [List.take_of_length_le (by omega)]
    constructor
    · intro hsuffix
      exact .inr ⟨by omega, hsuffix⟩
    · rintro (⟨hshort, _⟩ | ⟨_, hsuffix⟩)
      · omega
      · exact hsuffix

omit [DecidableEq α] in
/-- Two ends of one text are ends of one another. -/
theorem take_suffix_take {first second : ℕ} (hfirst : pattern.take first <:+ text)
    (hsecond : pattern.take second <:+ text) (hle : first ≤ second) :
    pattern.take first <:+ pattern.take second := by
  refine List.suffix_of_suffix_length_le hfirst hsecond ?_
  simp only [List.length_take]
  omega

/-- Falling back finds the longest end that the symbol continues. -/
theorem fallBack_longest (symbol : α) (htable : Fails pattern table bound) (falls : ℕ) (hfalls : matched ≤ falls)
    (hbound : matched ≤ bound) (hsuffix : pattern.take matched <:+ text) :
    let fallen := fallBack pattern table symbol falls matched
    fallen ≤ matched ∧ pattern.take fallen <:+ text ∧
      (0 < fallen → pattern[fallen]? = some symbol) ∧
      ∀ other ≤ matched, pattern.take other <:+ text → pattern[other]? = some symbol →
        other ≤ fallen := by
  induction falls generalizing matched with
  | zero =>
    obtain rfl : matched = 0 := by omega
    exact ⟨le_rfl, hsuffix, fun h => absurd h (lt_irrefl _), fun other hother _ _ => hother⟩
  | succ falls ih =>
    simp only [fallBack]
    split
    case isFalse hstop =>
      refine ⟨le_rfl, hsuffix, fun hpos => ?_, fun other hother _ _ => hother⟩
      by_contra hmiss
      exact hstop ⟨hpos, hmiss⟩
    case isTrue hfall =>
      obtain ⟨hpos, hmiss⟩ := hfall
      have hentry := htable (matched - 1) (by omega)
      rw [Nat.sub_add_cancel hpos] at hentry
      set next := table.getD (matched - 1) 0 with hnext
      have hshorter : next < matched := by
        by_cases hzero : 0 < next
        · exact hentry.below hzero
        · omega
      obtain ⟨hle, hend, hsymbol, hlongest⟩ := @ih next (by omega) (by omega)
        (hentry.suffix.trans hsuffix)
      refine ⟨by omega, hend, hsymbol, ?_⟩
      intro other hother hothers hcontinues
      have hne : other ≠ matched := by
        rintro rfl
        exact hmiss hcontinues
      refine hlongest other ?_ hothers hcontinues
      exact hentry.longest other (by omega) (take_suffix_take hothers hsuffix hother)

/-- One more symbol takes the longest end to the longest end. -/
theorem LongestEnd.advance (h : LongestEnd pattern bound text matched) (symbol : α)
    (htable : Fails pattern table bound) (hbound : bound ≤ pattern.length) (hpos : 0 < bound) :
    LongestEnd pattern (bound + 1) (text ++ [symbol]) (advance pattern table matched symbol) := by
  have hmatched : matched < bound := by
    by_cases hzero : 0 < matched
    · exact h.below hzero
    · omega
  obtain ⟨hle, hend, hsymbol, hlongest⟩ :=
    fallBack_longest symbol htable matched le_rfl (by omega) h.suffix
  -- a longer end of the new text is a continued end of the old one
  have hothers : ∀ other < bound, pattern.take (other + 1) <:+ text ++ [symbol] →
      other ≤ fallBack pattern table symbol matched matched ∧ pattern[other]? = some symbol := by
    intro other hother hsuffix
    obtain ⟨_, hcontinues, holder⟩ | ⟨hlong, _⟩ := take_add_one_suffix.mp hsuffix
    · exact ⟨hlongest other (h.longest other hother holder) holder hcontinues, hcontinues⟩
    · omega
  unfold BirdCode.Lib.advance
  simp only
  split
  case isTrue hcontinues =>
    refine ⟨take_add_one_suffix.mpr (.inl ⟨by omega, hcontinues, hend⟩), by omega, ?_⟩
    rintro (_ | other) hother hsuffix
    · omega
    · have := (hothers other (by omega) hsuffix).1
      omega
  case isFalse hmiss =>
    have hzero : fallBack pattern table symbol matched matched = 0 := by
      by_contra hne
      exact hmiss (hsymbol (by omega))
    rw [hzero] at hmiss hothers ⊢
    refine ⟨by simp, by omega, ?_⟩
    rintro (_ | other) hother hsuffix
    · omega
    · obtain ⟨hle', hcontinues⟩ := hothers other (by omega) hsuffix
      obtain rfl : other = 0 := by omega
      exact absurd hcontinues hmiss

omit [DecidableEq α] in
/-- After a whole match the longest end that is shorter is in the table. -/
theorem LongestEnd.resume (h : LongestEnd pattern (pattern.length + 1) text matched)
    (htable : Fails pattern table pattern.length) (hpos : 0 < pattern.length) :
    LongestEnd pattern pattern.length text (resume pattern table matched) := by
  unfold BirdCode.Lib.resume
  split
  case isFalse hpartial =>
    refine ⟨h.suffix, fun hmatched => ?_, fun other hother hsuffix => ?_⟩
    · have := h.below hmatched
      omega
    · exact h.longest other (by omega) hsuffix
  case isTrue hwhole =>
    subst hwhole
    have hentry := htable (pattern.length - 1) (by omega)
    rw [Nat.sub_add_cancel hpos] at hentry
    have hsuffix := h.suffix
    refine ⟨hentry.suffix.trans hsuffix, hentry.below, fun other hother hother' => ?_⟩
    exact hentry.longest other hother (take_suffix_take hother' hsuffix (by omega))

end Longest

section Table

/-- The state and the table after an entry was computed. -/
def extendTable (pattern : List α) (state : List ℕ × ℕ) (index : ℕ) : List ℕ × ℕ :=
  match pattern[index]? with
  | none => state
  | some symbol =>
    let matched := advance pattern state.1 state.2 symbol
    (state.1.set index matched, matched)

/-- The failure table of a pattern, whose first entry is zero. -/
def failureTable (pattern : List α) : List ℕ :=
  ((List.range' 1 (pattern.length - 1)).foldl (extendTable pattern)
    (List.replicate pattern.length 0, 0)).1

theorem length_extendTable {state : List ℕ × ℕ} {index : ℕ} :
    (extendTable pattern state index).1.length = state.1.length := by
  unfold extendTable
  split <;> simp

/-- An entry computed from the entries before it is the right one, and so is the state. -/
theorem extendTable_fails {index : ℕ} (hpos : 0 < index) (hindex : index < pattern.length)
    (hlength : table.length = pattern.length) (htable : Fails pattern table index)
    (hmatched : LongestEnd pattern index (pattern.take index) matched) :
    let extended := extendTable pattern (table, matched) index
    Fails pattern extended.1 (index + 1) ∧
      LongestEnd pattern (index + 1) (pattern.take (index + 1)) extended.2 := by
  have hentry : LongestEnd pattern (index + 1) (pattern.take (index + 1))
      (advance pattern table matched pattern[index]) := by
    rw [List.take_add_one, List.getElem?_eq_getElem hindex, Option.toList_some]
    exact hmatched.advance _ htable (by omega) hpos
  simp only [extendTable, List.getElem?_eq_getElem hindex]
  refine ⟨fun other hother => ?_, hentry⟩
  by_cases hlast : other = index
  · rw [hlast, List.getD_eq_getElem?_getD, List.getElem?_set_self (by omega), Option.getD_some]
    exact hentry
  · rw [List.getD_eq_getElem?_getD, List.getElem?_set_ne (Ne.symm hlast),
      ← List.getD_eq_getElem?_getD]
    exact htable other (by omega)

theorem failureTable_fails (hpattern : pattern ≠ []) :
    Fails pattern (failureTable pattern) pattern.length := by
  have hpos := List.length_pos_iff.mpr hpattern
  -- over the entries computed so far
  have hwhole : ∀ count ≤ pattern.length - 1,
      let state := (List.range' 1 count).foldl (extendTable pattern)
        (List.replicate pattern.length 0, 0)
      state.1.length = pattern.length ∧ Fails pattern state.1 (count + 1) ∧
        LongestEnd pattern (count + 1) (pattern.take (count + 1)) state.2 := by
    intro count
    induction count with
    | zero =>
      intro _
      have hfirst : LongestEnd pattern 1 (pattern.take 1) 0 :=
        ⟨by simp, by omega, fun other hother _ => by omega⟩
      refine ⟨by simp, fun index hindex => ?_, hfirst⟩
      obtain rfl : index = 0 := by omega
      have hzero : (List.replicate pattern.length 0).getD 0 0 = 0 := by
        cases pattern <;> rfl
      simpa [hzero] using hfirst
    | succ count ih =>
      intro hcount
      obtain ⟨hlength, htable, hmatched⟩ := ih (by omega)
      rw [List.range'_concat, List.foldl_append, Nat.one_mul, Nat.add_comm 1 count]
      obtain ⟨hfails, hlongest⟩ :=
        extendTable_fails (by omega) (by omega) hlength htable hmatched
      exact ⟨by rw [List.foldl_cons, List.foldl_nil, length_extendTable, hlength], hfails, hlongest⟩
  obtain ⟨_, hfails, _⟩ := hwhole (pattern.length - 1) le_rfl
  rwa [Nat.sub_add_cancel hpos] at hfails

end Table

section Matches

/-- All the places, overlapping ones included, where the pattern occurs in a text. -/
def occurrences (pattern text : List α) : List ℕ :=
  (List.range text.length).filter fun index => (pattern.isPrefixOf (text.drop index))

omit [DecidableEq α] in
theorem suffix_take_iff {index : ℕ} (hindex : index ≤ text.length) :
    pattern <:+ text.take index ↔
      ∃ place, place + pattern.length = index ∧ pattern <+: text.drop place := by
  constructor
  · rintro ⟨before, hbefore⟩
    have hlength := congrArg List.length hbefore
    simp only [List.length_append, List.length_take] at hlength
    refine ⟨before.length, by omega, ?_⟩
    have htext := List.take_append_drop index text
    rw [← hbefore, List.append_assoc] at htext
    have hdrop : text.drop before.length = pattern ++ text.drop index := by
      conv_lhs => rw [← htext, List.drop_left]
    exact ⟨text.drop index, hdrop.symm⟩
  · rintro ⟨place, rfl, after, hafter⟩
    refine ⟨text.take place, ?_⟩
    rw [List.take_add, ← hafter, List.take_left]

/-- The matcher finds the ends of the text that are whole matches. -/
theorem matchesFrom_eq (hpos : 0 < pattern.length) (htable : Fails pattern table pattern.length)
    (rest : List α) (hmatched : LongestEnd pattern pattern.length text matched) :
    matchesFrom pattern table text.length matched rest =
      ((List.range' (text.length + 1) rest.length).filter fun index =>
        pattern.isSuffixOf ((text ++ rest).take index)).map fun index => index - pattern.length := by
  induction rest generalizing text matched with
  | nil => rfl
  | cons symbol rest ih =>
    have hnext := hmatched.advance symbol htable le_rfl hpos
    have hresume := hnext.resume htable hpos
    have ih := ih hresume
    rw [List.length_append, List.length_singleton, List.append_assoc, List.singleton_append] at ih
    simp only [matchesFrom]
    rw [List.length_cons, List.range'_succ, List.filter_cons, ih]
    have htake : (text ++ symbol :: rest).take (text.length + 1) = text ++ [symbol] := by
      rw [List.take_append, List.take_of_length_le (by omega)]
      simp
    have hwhole : advance pattern table matched symbol = pattern.length ↔
        pattern <:+ text ++ [symbol] := by
      constructor
      · intro heq
        have hsuffix := hnext.suffix
        rwa [heq, List.take_length] at hsuffix
      · intro hsuffix
        have hle := hnext.longest pattern.length (by omega) (by rwa [List.take_length])
        have hlt : advance pattern table matched symbol < pattern.length + 1 :=
          hnext.below (by omega)
        omega
    rw [htake]
    by_cases hfound : pattern <:+ text ++ [symbol]
    · rw [if_pos (hwhole.mpr hfound), if_pos (List.isSuffixOf_iff_suffix.mpr hfound)]
      rfl
    · rw [if_neg (fun heq => hfound (hwhole.mp heq)),
        if_neg (fun heq => hfound (List.isSuffixOf_iff_suffix.mp heq))]
      rfl

/-- The matcher reports all the occurrences of the pattern, in their order. -/
theorem matchesFrom_failureTable (hpattern : pattern ≠ []) (text : List α) :
    matchesFrom pattern (failureTable pattern) 0 0 text = occurrences pattern text := by
  have hpos := List.length_pos_iff.mpr hpattern
  have hstart : LongestEnd pattern pattern.length [] 0 := by
    refine ⟨by simp, by omega, fun other hother hsuffix => ?_⟩
    have := hsuffix.length_le
    simp only [List.length_take, List.length_nil] at this
    omega
  have hends := matchesFrom_eq hpos (failureTable_fails hpattern) text hstart
  rw [List.length_nil, List.nil_append, Nat.zero_add] at hends
  rw [hends]
  have hlong : ∀ index, pattern <:+ text.take index → pattern.length ≤ index := by
    intro index hsuffix
    have := hsuffix.length_le
    simp only [List.length_take] at this
    omega
  refine List.Pairwise.eq_of_mem_iff (r := (· < ·)) ?_ ?_ ?_
  · refine List.pairwise_map.mpr ?_
    refine ((List.pairwise_lt_range' (s := 1) (n := text.length)).filter _).imp_of_mem ?_
    intro first second hfirst hsecond hlt
    have hlong := hlong first (List.isSuffixOf_iff_suffix.mp (List.mem_filter.mp hfirst).2)
    omega
  · exact List.pairwise_lt_range.filter _
  · intro place
    simp only [occurrences, List.mem_map, List.mem_filter, List.mem_range'_1, List.mem_range,
      List.isSuffixOf_iff_suffix, List.isPrefixOf_iff_prefix]
    constructor
    · rintro ⟨index, ⟨hindex, hsuffix⟩, rfl⟩
      obtain ⟨place, rfl, hwhole⟩ := (suffix_take_iff (by omega)).mp hsuffix
      rw [Nat.add_sub_cancel]
      refine ⟨?_, hwhole⟩
      omega
    · rintro ⟨hplace, hoccurs⟩
      have hlength := hoccurs.length_le
      rw [List.length_drop] at hlength
      refine ⟨place + pattern.length, ⟨by omega, ?_⟩, by omega⟩
      exact (suffix_take_iff (by omega)).mpr ⟨place, rfl, hoccurs⟩

end Matches

end BirdCode.Lib
