import Mathlib

/-! Logs of records that each read and write the state of one key and draw tokens that may be drawn
once. Acceptance of such a log is a property of its keys, so it does not depend on how the records of
different keys interleave. -/
namespace BirdCode.Lib

variable {K R S D : Type*} [DecidableEq K] {key : R → K} {step : Option S → R → Option S}
  {draws : R → List D} {records others : List R} {states : K → Option S}

/-- The records of one key in their order. -/
def recordsAt (key : R → K) (records : List R) (k : K) : List R :=
  records.filter (key · = k)

theorem recordsAt_snoc_self (record : R) :
    recordsAt key (records ++ [record]) (key record) =
      recordsAt key records (key record) ++ [record] := by
  simp [recordsAt]

theorem recordsAt_snoc_of_ne {record : R} {k : K} (h : k ≠ key record) :
    recordsAt key (records ++ [record]) k = recordsAt key records k := by
  simp [recordsAt, h.symm]

/-- The state that the records of one key lead to, from no state. -/
def foldAt (step : Option S → R → Option S) (records : List R) : Option (Option S) :=
  records.foldlM (fun state record => (step state record).map some) none

theorem foldAt_snoc {record : R} {result : Option S} :
    foldAt step (records ++ [record]) = some result ↔
      ∃ before state, foldAt step records = some before ∧ step before record = some state ∧
        some state = result := by
  simp [foldAt, List.foldlM_append, Option.bind_eq_some_iff]

/-- Every key's own records are accepted and no token is drawn twice. -/
structure Accepted (key : R → K) (step : Option S → R → Option S) (draws : R → List D)
    (records : List R) (states : K → Option S) : Prop where
  state : ∀ k, foldAt step (recordsAt key records k) = some (states k)
  drawn : (records.flatMap draws).Nodup

theorem accepted_nil : Accepted key step draws [] fun _ => none :=
  ⟨fun _ => rfl, List.nodup_nil⟩

/-- The last record is a step of its own key. -/
theorem Accepted.snoc {record : R} {state : S} (h : Accepted key step draws records states)
    (hstep : step (states (key record)) record = some state) (hdraws : (draws record).Nodup)
    (hfresh : ∀ token ∈ draws record, token ∉ records.flatMap draws) :
    Accepted key step draws (records ++ [record])
      (Function.update states (key record) (some state)) := by
  constructor
  · intro k
    by_cases hk : k = key record
    · subst hk
      rw [recordsAt_snoc_self, Function.update_self]
      exact foldAt_snoc.mpr ⟨_, _, h.state _, hstep, rfl⟩
    · rw [recordsAt_snoc_of_ne hk, Function.update_of_ne hk]
      exact h.state k
  · rw [List.flatMap_append, List.flatMap_singleton, List.nodup_append]
    refine ⟨h.drawn, hdraws, fun a ha b hb hab => ?_⟩
    exact hfresh b hb (hab ▸ ha)

/-- A log without its last record is accepted, and the last record is a step of its own key. -/
theorem Accepted.of_snoc {record : R} (h : Accepted key step draws (records ++ [record]) states) :
    ∃ before state, Accepted key step draws records before ∧
      step (before (key record)) record = some state ∧
      states = Function.update before (key record) (some state) ∧
      ∀ token ∈ draws record, token ∉ records.flatMap draws := by
  have hlast := h.state (key record)
  rw [recordsAt_snoc_self] at hlast
  obtain ⟨before, state, hbefore, hstep, hstate⟩ := foldAt_snoc.mp hlast
  have hdrawn := h.drawn
  rw [List.flatMap_append, List.flatMap_singleton, List.nodup_append] at hdrawn
  refine ⟨Function.update states (key record) before, state, ⟨fun k => ?_, hdrawn.1⟩, ?_, ?_,
    fun token hmem hdrawn' => hdrawn.2.2 token hdrawn' token hmem rfl⟩
  · by_cases hk : k = key record
    · subst hk
      rw [Function.update_self]
      exact hbefore
    · rw [Function.update_of_ne hk, ← recordsAt_snoc_of_ne hk]
      exact h.state k
  · rwa [Function.update_self]
  · rw [Function.update_idem, hstate, Function.update_eq_self]

theorem Accepted.unique {states' : K → Option S} (h : Accepted key step draws records states)
    (h' : Accepted key step draws records states') : states = states' := by
  funext k
  exact Option.some.inj ((h.state k).symm.trans (h'.state k))

/-- Two logs with the same records at every key. -/
def SameOrder (key : R → K) (records others : List R) : Prop :=
  ∀ k, recordsAt key records k = recordsAt key others k

theorem SameOrder.symm (h : SameOrder key records others) : SameOrder key others records :=
  fun k => (h k).symm

/-- Every record is in the part of its own key, so equal parts hold the records equally often. -/
theorem SameOrder.perm (h : SameOrder key records others) : records.Perm others := by
  classical
  refine List.perm_iff_count.mpr fun record => ?_
  have hcount : ∀ log : List R, log.count record = (recordsAt key log (key record)).count record := by
    intro log
    rw [recordsAt, List.count_filter (by simp)]
  rw [hcount records, h, ← hcount others]

/-- Acceptance is the same for every interleaving. -/
theorem Accepted.interleave (h : Accepted key step draws records states)
    (hsame : SameOrder key records others) : Accepted key step draws others states := by
  constructor
  · intro k
    rw [← hsame k]
    exact h.state k
  · exact ((hsame.perm.flatMap_right draws).nodup_iff).mp h.drawn

end BirdCode.Lib
