import Mathlib.Data.List.AList
/-!
# Table — finite maps updated in place

A `Table K V` is Mathlib's `AList` at a constant family.  `AList.insert` moves the key to the front; a hash map written
through a mutable reference keeps its other entries where they are, so writing back the value a key already has is no
change at all (`put_eq_self`).  `put` is that update.
-/
namespace NetTool

open List

abbrev Table (K V : Type) : Type := AList (fun _ : K => V)

namespace Table

variable {K V : Type} [DecidableEq K]

/-- Write `v` under `k`: in place when the key is there, as a new entry when it is not. -/
def put (k : K) (v : V) (t : Table K V) : Table K V :=
  if k ∈ t then t.replace k v else t.insert k v

def values (t : Table K V) : List V := t.entries.map (·.2)

theorem dlookup_kreplace (k k' : K) (v : V) : ∀ (l : List (Sigma fun _ : K => V)),
    (List.kreplace k v l).dlookup k' = if k' = k ∧ k ∈ l.keys then some v else l.dlookup k'
  | [] => by simp [List.kreplace]
  | ⟨a, b⟩ :: l => by
    unfold List.kreplace
    by_cases hk : k = a
    · subst hk
      by_cases hk' : k' = k
      · subst hk'; simp
      · simp [hk']
    · rw [lookmap_cons_none _ _ (by simp [hk])]
      have ih := dlookup_kreplace k k' v l
      unfold List.kreplace at ih
      by_cases hk' : k' = a
      · subst hk'
        simp [Ne.symm hk]
      · rw [dlookup_cons_ne _ _ hk', dlookup_cons_ne _ _ hk', ih]
        simp [hk]

@[simp] theorem lookup_put (k k' : K) (v : V) (t : Table K V) :
    (put k v t).lookup k' = if k' = k then some v else t.lookup k' := by
  unfold put
  split
  · rename_i hm
    show (List.kreplace k v t.entries).dlookup k' = _
    rw [dlookup_kreplace]
    simp only [AList.mem_keys, AList.keys] at hm
    simp [hm, AList.lookup]
  · by_cases hk : k' = k
    · subst hk; simp
    · rw [AList.lookup_insert_ne hk, if_neg hk]

variable {k : K} {t : Table K V}

/-- The tables hold the same under the keys `p`. -/
def EqOn (p : K → Prop) (t t' : Table K V) : Prop := ∀ ⦃k⦄, p k → t.lookup k = t'.lookup k

namespace EqOn

variable {p : K → Prop} {t' t'' : Table K V}

theorem symm (h : EqOn p t t') : EqOn p t' t := fun _ hk => (h hk).symm

theorem trans (h : EqOn p t t') (h' : EqOn p t' t'') : EqOn p t t'' := fun _ hk => (h hk).trans (h' hk)

theorem put (h : EqOn p t t') (k : K) (v : V) : EqOn p (t.put k v) (t'.put k v) := fun k' hk => by
  rw [lookup_put, lookup_put, h hk]

theorem put_right (h : EqOn p t t') (hk : ¬ p k) (v : V) : EqOn p t (t'.put k v) := fun k' hk' => by
  have hne : k' ≠ k := fun heq => hk (heq ▸ hk')
  rw [lookup_put, if_neg hne, h hk']

theorem erase (h : EqOn p t t') (k : K) : EqOn p (t.erase k) (t'.erase k) := fun k' hk => by
  by_cases heq : k' = k
  · rw [heq, AList.lookup_erase, AList.lookup_erase]
  · rw [AList.lookup_erase_ne heq, AList.lookup_erase_ne heq, h hk]

end EqOn

theorem lookup_put_cases {k' : K} {v w : V} (h : (put k v t).lookup k' = some w) :
    k' = k ∧ w = v ∨ k' ≠ k ∧ t.lookup k' = some w := by
  rw [lookup_put] at h
  by_cases hk : k' = k
  · rw [if_pos hk, Option.some.injEq] at h
    exact .inl ⟨hk, h.symm⟩
  · rw [if_neg hk] at h
    exact .inr ⟨hk, h⟩

theorem mem_iff_lookup : k ∈ t ↔ ∃ v, t.lookup k = some v := by
  rw [← AList.lookup_isSome, Option.isSome_iff_exists]

/-- **Writing back the value a key has changes nothing.** -/
theorem put_eq_self {v : V} (h : t.lookup k = some v) : put k v t = t := by
  have hm : k ∈ t := mem_iff_lookup.2 ⟨v, h⟩
  unfold put
  rw [if_pos hm]
  exact AList.ext (kreplace_self t.nodupKeys (AList.mem_lookup_iff.1 h))

theorem kreplace_kreplace (k : K) (v v' : V) : ∀ (l : List (Sigma fun _ : K => V)),
    List.kreplace k v' (List.kreplace k v l) = List.kreplace k v' l
  | [] => rfl
  | ⟨a, b⟩ :: l => by
    unfold List.kreplace
    by_cases hk : k = a
    · subst hk
      rw [lookmap_cons_some (b := ⟨k, v⟩) _ _ (by simp), lookmap_cons_some (b := ⟨k, v'⟩) _ _ (by simp),
        lookmap_cons_some (b := ⟨k, v'⟩) _ _ (by simp)]
    · have ih := kreplace_kreplace k v v' l
      unfold List.kreplace at ih
      rw [lookmap_cons_none _ _ (by simp [hk]), lookmap_cons_none _ _ (by simp [hk]),
        lookmap_cons_none _ _ (by simp [hk]), ih]

/-- **Writing a key twice is writing it once.** -/
@[simp] theorem put_put (k : K) (v v' : V) (t : Table K V) : put k v' (put k v t) = put k v' t := by
  have hm : k ∈ put k v t := by rw [← AList.lookup_isSome]; simp
  have houter : put k v' (put k v t) = (put k v t).replace k v' := if_pos hm
  rw [houter]
  unfold put
  by_cases hk : k ∈ t
  · rw [if_pos hk, if_pos hk]
    exact AList.ext (kreplace_kreplace k v v' t.entries)
  · rw [if_neg hk, if_neg hk]
    apply AList.ext
    show List.kreplace k v' (List.kinsert k v t.entries) = List.kinsert k v' t.entries
    rw [kinsert_def, kinsert_def]
    unfold List.kreplace
    rw [lookmap_cons_some (b := ⟨k, v'⟩) _ _ (by simp)]

theorem values_put_of_none (h : t.lookup k = none) (v : V) : (put k v t).values = v :: t.values := by
  have hk : k ∉ t := AList.lookup_eq_none.1 h
  unfold put values
  rw [if_neg hk, AList.entries_insert_of_notMem hk]
  rfl

theorem mem_values {v : V} : v ∈ t.values ↔ ∃ k, t.lookup k = some v := by
  simp only [values, mem_map]
  constructor
  · rintro ⟨⟨k, v'⟩, hm, rfl⟩
    exact ⟨k, AList.mem_lookup_iff.2 hm⟩
  · rintro ⟨k, hk⟩
    exact ⟨⟨k, v⟩, AList.mem_lookup_iff.1 hk, rfl⟩

/-! ## Queries -/

section Select
variable {β : Type} {f : K → V → Option β} {t : Table K V} {k k' : K} {v v' : V} {b : β}

/-- What a query reads of the rows it selects. -/
def select (f : K → V → Option β) (t : Table K V) : List β := t.entries.filterMap (fun e => f e.1 e.2)

theorem mem_select : b ∈ select f t ↔ ∃ k v, t.lookup k = some v ∧ f k v = some b := by
  unfold select
  rw [mem_filterMap]
  constructor
  · rintro ⟨⟨k, v⟩, hmem, hb⟩
    exact ⟨k, v, AList.mem_lookup_iff.2 hmem, hb⟩
  · rintro ⟨k, v, hv, hb⟩
    exact ⟨⟨k, v⟩, AList.mem_lookup_iff.1 hv, hb⟩

theorem select_eq_singleton (hv : t.lookup k = some v) (hb : f k v = some b)
    (hother : ∀ k' v', t.lookup k' = some v' → k' ≠ k → f k' v' = none) : select f t = [b] := by
  have hnone : ∀ l : List (Sigma fun _ : K => V), l ⊆ t.entries → k ∉ l.keys →
    l.filterMap (fun e => f e.1 e.2) = [] := by
    intro l hsub hk
    refine filterMap_eq_nil_iff.2 (fun e he => hother e.1 e.2 (AList.mem_lookup_iff.2 (hsub he)) ?_)
    rintro rfl
    exact hk (mem_keys_of_mem he)
  obtain ⟨before, after, hsplit⟩ := append_of_mem (AList.mem_lookup_iff.1 hv)
  have hnodup := t.nodupKeys
  rw [List.NodupKeys, hsplit, keys_append, nodup_append] at hnodup
  obtain ⟨-, hafter, hdisjoint⟩ := hnodup
  have hbefore : k ∉ before.keys := fun hmem => hdisjoint k hmem k mem_cons_self rfl
  have hhead : (⟨k, v⟩ :: after).filterMap (fun e => f e.1 e.2) = b :: after.filterMap (fun e => f e.1 e.2) :=
    filterMap_cons_some hb
  unfold select
  rw [hsplit, filterMap_append, hnone before (by rw [hsplit]; exact subset_append_left _ _) hbefore,
    hhead, hnone after (by rw [hsplit]; intro e he; simp [he]) (nodup_cons.1 hafter).1]
  rfl

theorem two_le_length_select (hv : t.lookup k = some v) (hv' : t.lookup k' = some v') (hne : k ≠ k')
    (hb : (f k v).isSome = true) (hb' : (f k' v').isSome = true) : 2 ≤ (select f t).length := by
  obtain ⟨b, hb⟩ := Option.isSome_iff_exists.1 hb
  obtain ⟨b', hb'⟩ := Option.isSome_iff_exists.1 hb'
  obtain ⟨before, after, hsplit⟩ := append_of_mem (AList.mem_lookup_iff.1 hv)
  have hmem := AList.mem_lookup_iff.1 hv'
  rw [hsplit, mem_append, mem_cons] at hmem
  have hpos : ∀ l : List (Sigma fun _ : K => V), ⟨k', v'⟩ ∈ l → 0 < (l.filterMap (fun e => f e.1 e.2)).length :=
    fun l hl => length_pos_of_mem (mem_filterMap.2 ⟨_, hl, hb'⟩)
  have hhead : (⟨k, v⟩ :: after).filterMap (fun e => f e.1 e.2) = b :: after.filterMap (fun e => f e.1 e.2) :=
    filterMap_cons_some hb
  unfold select
  rw [hsplit, filterMap_append, hhead, length_append, length_cons]
  rcases hmem with hbefore | heq | hafter
  · have := hpos before hbefore
    omega
  · cases heq
    exact absurd rfl hne
  · have := hpos after hafter
    omega

end Select

/-- `retain`: the rows that pass. -/
def retain (p : K → V → Bool) (t : Table K V) : Table K V :=
  ⟨t.entries.filter (fun e => p e.1 e.2), t.nodupKeys.sublist filter_sublist⟩

theorem lookup_retain (p : K → V → Bool) (t : Table K V) (k : K) :
    (retain p t).lookup k = (t.lookup k).filter (p k) := by
  refine Option.ext (fun v => ?_)
  have hmem : (retain p t).lookup k = some v ↔ t.lookup k = some v ∧ p k v = true := by
    rw [← Option.mem_def, AList.mem_lookup_iff, ← Option.mem_def, AList.mem_lookup_iff]
    exact mem_filter
  rw [hmem, Option.filter_eq_some_iff]

def keep (p : K → Bool) (t : Table K V) : Table K V :=
  ⟨t.entries.filter (fun e => p e.1), t.nodupKeys.sublist filter_sublist⟩

theorem lookup_keep (p : K → Bool) (t : Table K V) (k : K) :
    (keep p t).lookup k = if p k = true then t.lookup k else none := by
  have hkeep : (keep p t).lookup k = (t.lookup k).filter (fun _ => p k) := lookup_retain (fun k _ => p k) t k
  rw [hkeep]
  cases t.lookup k <;> cases p k <;> rfl

end Table
end NetTool
