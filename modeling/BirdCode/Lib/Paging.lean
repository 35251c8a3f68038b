import Mathlib

/-! Reading a growing list page by page. A reader asks for what stands after a cursor, and asks
again from the cursor that the page names while the page says that there is more. -/
namespace BirdCode.Lib

/-- What a page shows of the items of a view, and the cursor of a reader who was shown some items.
-/
structure Paging (V P α : Type*) where
  whole : V → List α
  cursor : List α → ℕ
  items : P → List α
  next : P → ℕ
  hasMore : P → Bool

namespace Paging

variable {V P α ε : Type*} (paging : Paging V P α)

/-- A page for a reader who was shown what stands before it: it goes on from there, and says whether
it left any out. -/
structure Answers (view : V) (before : List α) (page : P) : Prop where
  shown : ∃ rest, paging.whole view = before ++ paging.items page ++ rest ∧
    (paging.hasMore page = false ↔ rest = [])
  next : paging.next page = paging.cursor (before ++ paging.items page)
  progress : paging.hasMore page = true →
    paging.items page ≠ [] ∧ paging.cursor before < paging.next page

/-- Pages that show, after what was shown before them, the items of the views from the first on
without gap or repetition, and say of each whether it was the last. -/
structure Follows (before : List α) (views : List V) (pages : List P) : Prop where
  shown : ∀ k view page, views[k]? = some view → pages[k]? = some page →
    ∃ rest, paging.whole view = before ++ (pages.take (k + 1)).flatMap paging.items ++ rest ∧
      (paging.hasMore page = false ↔ rest = [])
  next : ∀ k page, pages[k]? = some page → paging.next page =
    paging.cursor (before ++ (pages.take (k + 1)).flatMap paging.items)
  progress : ∀ k page, pages[k]? = some page → paging.hasMore page = true →
    paging.items page ≠ [] ∧
      paging.cursor (before ++ (pages.take k).flatMap paging.items) < paging.next page
  going : ∀ k page, pages[k]? = some page → k + 1 < pages.length → paging.hasMore page = true
  answered : pages.length ≤ views.length
  ended : pages.length < views.length → ∃ page, pages.getLast? = some page ∧
    paging.hasMore page = false

variable {paging} {answer : V → ℕ → Except ε P} {views : List V} {before rest : List α}
  {pages : List P} {page : P} {view : V}

/-- A page that is not the last is followed by the pages after it. -/
theorem Follows.cons (h : paging.Follows (before ++ paging.items page) views pages)
    (hwhole : paging.whole view = before ++ paging.items page ++ rest) (hrest : rest ≠ [])
    (hcursor : paging.next page = paging.cursor (before ++ paging.items page))
    (hmore : paging.hasMore page = true) (hitems : paging.items page ≠ [])
    (hnext : paging.cursor before < paging.next page) :
    paging.Follows before (view :: views) (page :: pages) := by
  refine ⟨?_, ?_, ?_, ?_, by simpa using h.answered, ?_⟩
  · rintro (_ | k) view' page' hview hpage
    · cases hview
      cases hpage
      exact ⟨rest, by simpa using hwhole, by simp [hmore, hrest]⟩
    · simpa using h.shown k view' page' hview hpage
  · rintro (_ | k) page' hpage
    · cases hpage
      simpa using hcursor
    · simpa using h.next k page' hpage
  · rintro (_ | k) page' hpage hmore'
    · cases hpage
      exact ⟨hitems, by simpa using hnext⟩
    · simpa using h.progress k page' hpage hmore'
  · rintro (_ | k) page' hpage hlt
    · cases hpage
      exact hmore
    · exact h.going k page' hpage (by simpa using hlt)
  · intro hlt
    obtain ⟨last, hlast, hfinal⟩ := h.ended (by simpa using hlt)
    exact ⟨last, by simp [List.getLast?_cons, hlast], hfinal⟩

theorem Follows.tail (h : paging.Follows before (view :: views) (page :: pages))
    (hmore : paging.hasMore page = true) :
    paging.Follows (before ++ paging.items page) views pages := by
  refine ⟨?_, ?_, ?_, ?_, by simpa using h.answered, ?_⟩
  · intro k view' page' hview hpage
    simpa using h.shown (k + 1) view' page' hview hpage
  · intro k page' hpage
    simpa using h.next (k + 1) page' hpage
  · intro k page' hpage hmore'
    simpa using h.progress (k + 1) page' hpage hmore'
  · intro k page' hpage hlt
    exact h.going (k + 1) page' hpage (by simpa using hlt)
  · intro hlt
    obtain ⟨last, hlast, hfinal⟩ := h.ended (by simpa using hlt)
    refine ⟨last, ?_, hfinal⟩
    cases pages with
    | nil =>
      cases hlast
      simp [hmore] at hfinal
    | cons second more => simpa [List.getLast?_cons] using hlast

theorem length_le_length_flatMap (h : ∀ page ∈ pages, paging.items page ≠ []) :
    pages.length ≤ (pages.flatMap paging.items).length := by
  induction pages with
  | nil => exact Nat.le_refl _
  | cons page later ih =>
    have hpage := List.length_pos_iff.mpr (h page List.mem_cons_self)
    have hlater := ih fun page hmem => h page (List.mem_cons_of_mem _ hmem)
    rw [List.flatMap_cons, List.length_cons, List.length_append]
    omega

/-- A reader who asks more often than there are items gets to the last page. -/
theorem Follows.ends (h : paging.Follows [] views pages) (hview : views.getLast? = some view)
    (hlength : (paging.whole view).length < views.length) :
    ∃ page, pages.getLast? = some page ∧ paging.hasMore page = false := by
  rcases Nat.lt_or_eq_of_le h.answered with hlt | heq
  · exact h.ended hlt
  · rw [List.getLast?_eq_getElem?, ← heq] at hview
    have hpos : pages.length - 1 < pages.length := by omega
    have hpage := List.getElem?_eq_getElem hpos
    refine ⟨_, by rw [List.getLast?_eq_getElem?, hpage], ?_⟩
    obtain ⟨rest, hwhole, -⟩ := h.shown _ _ _ hview hpage
    by_contra hmore
    rw [Bool.not_eq_false] at hmore
    have hall : ∀ page ∈ pages, paging.items page ≠ [] := by
      intro page hmem
      obtain ⟨k, hk, rfl⟩ := List.getElem_of_mem hmem
      refine (h.progress k _ (List.getElem?_eq_getElem hk) ?_).1
      rcases Nat.lt_or_ge (k + 1) pages.length with hgoing | hlast
      · exact h.going k _ (List.getElem?_eq_getElem hk) hgoing
      · obtain rfl : k = pages.length - 1 := by omega
        exact hmore
    have hcount := length_le_length_flatMap hall
    rw [List.nil_append, List.take_of_length_le (by omega)] at hwhole
    rw [hwhole, List.length_append] at hlength
    omega

/-- The pages up to a last one show the whole of the view that the last is of. -/
theorem Follows.complete (h : paging.Follows before views pages)
    (hlast : pages.getLast? = some page) (hmore : paging.hasMore page = false) :
    ∃ view ∈ views, paging.whole view = before ++ pages.flatMap paging.items := by
  rw [List.getLast?_eq_getElem?] at hlast
  have hlt : pages.length - 1 < pages.length := (List.getElem?_eq_some_iff.mp hlast).1
  have hview := List.getElem?_eq_getElem (Nat.lt_of_lt_of_le hlt h.answered)
  obtain ⟨rest, hwhole, hrest⟩ := h.shown _ _ _ hview hlast
  refine ⟨_, List.mem_of_getElem? hview, ?_⟩
  rw [hwhole, hrest.mp hmore, List.append_nil, List.take_of_length_le (by omega)]

section Positions

/-! Items that stand at positions, asked for by the position of the last one shown. -/

variable {position : α → ℕ} {item : α}

/-- The position of the last of some items. -/
def lastPosition (position : α → ℕ) (items : List α) : ℕ := (items.getLast?.map position).getD 0

/-- Every item stands after the ones before it, and none at the start. -/
structure Ascending (position : α → ℕ) (items : List α) : Prop where
  sorted : items.Pairwise fun a b => position a < position b
  positive : ∀ item ∈ items, 0 < position item

theorem Ascending.left (h : Ascending position (before ++ rest)) : Ascending position before :=
  ⟨(List.pairwise_append.mp h.sorted).1, fun item hmem =>
    h.positive item (List.mem_append_left _ hmem)⟩

theorem Ascending.position_le (h : Ascending position before) (hmem : item ∈ before) :
    position item ≤ lastPosition position before := by
  obtain rfl | ⟨front, last, rfl⟩ := List.eq_nil_or_concat before
  · cases hmem
  · have hsorted := h.sorted
    rw [List.concat_eq_append] at hmem hsorted ⊢
    simp only [lastPosition, List.getLast?_concat, Option.map_some, Option.getD_some]
    rcases List.mem_append.mp hmem with hfront | hlast
    · have hlt := (List.pairwise_append.mp hsorted).2.2 item hfront last List.mem_cons_self
      exact hlt.le
    · rw [List.mem_singleton.mp hlast]

theorem Ascending.lt_position (h : Ascending position (before ++ rest)) (hmem : item ∈ rest) :
    lastPosition position before < position item := by
  obtain rfl | ⟨front, last, rfl⟩ := List.eq_nil_or_concat before
  · exact h.positive item hmem
  · have hsorted := h.sorted
    rw [List.concat_eq_append] at hsorted ⊢
    simp only [lastPosition, List.getLast?_concat, Option.map_some, Option.getD_some]
    exact (List.pairwise_append.mp hsorted).2.2 last (by simp) item hmem

/-- What stands after the last item that was shown is what was not shown. -/
theorem Ascending.filter_after (h : Ascending position (before ++ rest)) :
    (before ++ rest).filter (fun item => lastPosition position before < position item) = rest := by
  have hbefore : before.filter
      (fun item => lastPosition position before < position item) = [] := by
    rw [List.filter_eq_nil_iff]
    intro item hmem hlt
    have hle := h.left.position_le hmem
    have := of_decide_eq_true hlt
    omega
  have hrest : rest.filter (fun item => lastPosition position before < position item) = rest := by
    rw [List.filter_eq_self]
    intro item hmem
    exact decide_eq_true (h.lt_position hmem)
  rw [List.filter_append, hbefore, hrest, List.nil_append]

/-- A page of the items that stand after a position, from the first of them on. -/
structure AnswersAfter (paging : Paging V P α) (position : α → ℕ) (view : V) (after : ℕ)
    (page : P) : Prop where
  shown : ∃ rest, (paging.whole view).filter (fun item => after < position item) =
    paging.items page ++ rest ∧ (paging.hasMore page = false ↔ rest = [])
  next : paging.next page = ((paging.items page).getLast?.map position).getD after
  progress : paging.hasMore page = true → paging.items page ≠ []

theorem AnswersAfter.answers
    (h : AnswersAfter paging position view (lastPosition position before) page)
    (hcursor : paging.cursor = lastPosition position)
    (hordered : Ascending position (paging.whole view)) (hbefore : before <+: paging.whole view) :
    paging.Answers view before page := by
  obtain ⟨unseen, hunseen⟩ := hbefore
  obtain ⟨rest, hshown, hmore⟩ := h.shown
  have hnext : paging.next page = lastPosition position (before ++ paging.items page) := by
    rw [h.next]
    unfold lastPosition
    rw [List.getLast?_append]
    cases (paging.items page).getLast? <;> rfl
  rw [← hunseen] at hordered hshown
  rw [hordered.filter_after] at hshown
  refine ⟨⟨rest, by rw [← hunseen, hshown, List.append_assoc], hmore⟩, by rw [hcursor, hnext], ?_⟩
  intro hleft
  have hitems := h.progress hleft
  obtain ⟨front, last, heq⟩ := (List.eq_nil_or_concat (paging.items page)).resolve_left hitems
  refine ⟨hitems, ?_⟩
  rw [hcursor, h.next, heq, List.concat_eq_append, List.getLast?_concat, Option.map_some,
    Option.getD_some]
  refine hordered.lt_position ?_
  rw [hshown, heq, List.concat_eq_append]
  simp

end Positions

end Paging

end BirdCode.Lib
