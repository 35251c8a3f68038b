import BirdCode.Basic
import BirdCode.Lib.AppendOnly

/-! Maps collected from entries, and saturating sums: with distinct keys a collected map holds just the
entries, and a saturating sum is the sum cut off at the largest value. -/
namespace BirdCode.Lib

open Std

section Maps

variable {K V : Type} [Ord K] [TransOrd K] [LawfulEqOrd K] {entries : List (K × V)} {k : K} {v : V}

theorem contains_toMap : (toMap entries).contains k = true ↔ k ∈ entries.map Prod.fst := by
  rw [ExtTreeMap.contains_iff_mem, mem_toMap]

theorem contains_toMap_eq_false : (toMap entries).contains k = false ↔ k ∉ entries.map Prod.fst := by
  rw [← contains_toMap, Bool.not_eq_true]

/-- A collected map holds nothing that was not collected. -/
theorem mem_of_getElem?_toMap (h : (toMap entries)[k]? = some v) : (k, v) ∈ entries := by
  induction entries using List.reverseRecOn with
  | nil => simp at h
  | append_singleton entries entry ih =>
    obtain ⟨key, value⟩ := entry
    rw [toMap_append] at h
    by_cases hk : key = k
    · subst hk
      rw [ExtTreeMap.getElem?_insert_self] at h
      cases h
      simp
    · rw [getElem?_insert_of_ne hk] at h
      exact List.mem_append_left _ (ih h)

theorem getElem?_toMap_eq_none : (toMap entries)[k]? = none ↔ k ∉ entries.map Prod.fst := by
  rw [← mem_toMap, ExtTreeMap.mem_iff_isSome_getElem?, Option.not_isSome_iff_eq_none]

theorem toList_toMap_perm (h : (entries.map Prod.fst).Nodup) : (toMap entries).toList.Perm entries := by
  have hkeys : ((toMap entries).toList.map Prod.fst).Nodup := by
    rw [ExtTreeMap.map_fst_toList_eq_keys]
    exact ExtTreeMap.nodup_keys
  refine (List.perm_ext_iff_of_nodup (List.Nodup.of_map _ hkeys) (List.Nodup.of_map _ h)).mpr ?_
  intro entry
  rw [ExtTreeMap.mem_toList_iff_getElem?_eq_some, toMap_getElem?_eq_some h]

theorem toList_insert_perm {m : BTreeMap K V} (h : k ∉ m) :
    (m.insert k v).toList.Perm ((k, v) :: m.toList) := by
  have hkeys (m : BTreeMap K V) : (m.toList.map Prod.fst).Nodup := by
    rw [ExtTreeMap.map_fst_toList_eq_keys]
    exact ExtTreeMap.nodup_keys
  have hfresh : (k, v) ∉ m.toList := by
    intro hmem
    have hsome := ExtTreeMap.mem_toList_iff_getElem?_eq_some.mp hmem
    exact h (ExtTreeMap.mem_iff_isSome_getElem?.mpr (by rw [hsome]; rfl))
  refine (List.perm_ext_iff_of_nodup (List.Nodup.of_map _ (hkeys _))
    (List.nodup_cons.mpr ⟨hfresh, List.Nodup.of_map _ (hkeys m)⟩)).mpr ?_
  rintro ⟨key, value⟩
  rw [ExtTreeMap.mem_toList_iff_getElem?_eq_some, List.mem_cons,
    ExtTreeMap.mem_toList_iff_getElem?_eq_some, Prod.mk.injEq]
  by_cases hkey : k = key
  · subst hkey
    have hnone : m[k]? = none := by
      rw [ExtTreeMap.mem_iff_isSome_getElem?, Option.not_isSome_iff_eq_none] at h
      exact h
    rw [ExtTreeMap.getElem?_insert_self, hnone, Option.some.injEq, eq_comm]
    simp
  · rw [getElem?_insert_of_ne hkey]
    simp [Ne.symm hkey]

theorem mapValues_toMap_perm (h : (entries.map Prod.fst).Nodup) :
    (mapValues (toMap entries)).Perm (entries.map Prod.snd) := (toList_toMap_perm h).map _

theorem size_toMap (h : (entries.map Prod.fst).Nodup) : (toMap entries).size = entries.length := by
  rw [← ExtTreeMap.length_toList, (toList_toMap_perm h).length_eq]

end Maps

section Keys

variable {E F K : Type} {R : List E → E → Prop} {read : E → Option F} {key : F → K}
  {entries : List E}

/-- Keys that are new to a log whenever an entry brings one are distinct. -/
theorem Stepwise.nodup_filterMap (h : Stepwise R entries)
    (hfresh : ∀ before entry kept, R before entry → read entry = some kept →
      key kept ∉ (before.filterMap read).map key) : ((entries.filterMap read).map key).Nodup := by
  have hlog : Stepwise (fun before kept => key kept ∉ before.map key) (entries.filterMap read) :=
    h.filterMap hfresh
  refine hlog.nodup ?_
  intro before kept hnew earlier hearlier heq
  exact hnew (heq ▸ List.mem_map_of_mem hearlier)

end Keys

section Sums

variable {A : Type} {f : A → ℕ} {l l' : List A} {start : ℕ}

theorem foldl_saturatingAdd (h : start ≤ 2 ^ 64 - 1) :
    l.foldl (fun total a => saturatingAdd total (f a)) start =
      min (start + (l.map f).sum) (2 ^ 64 - 1) := by
  induction l generalizing start with
  | nil => simpa using h
  | cons a l ih =>
    have hle : saturatingAdd start (f a) ≤ 2 ^ 64 - 1 := Nat.min_le_right _ _
    rw [List.foldl_cons, ih hle, List.map_cons, List.sum_cons]
    unfold saturatingAdd
    omega

theorem foldl_saturatingAdd_zero :
    l.foldl (fun total a => saturatingAdd total (f a)) 0 = min (l.map f).sum (2 ^ 64 - 1) := by
  rw [foldl_saturatingAdd (Nat.zero_le _), Nat.zero_add]

end Sums

end BirdCode.Lib
