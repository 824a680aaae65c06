import Mathlib.Data.List.Induction

/-!
# Grouping by first appearance

A stream of items, each with a key, is collected into a table with one row for each key.  The rows
stand in the order in which their keys first appeared; once there are `cap` of them, new keys are
ignored.  `keys` is the column of keys and `group` the items behind a row.  The lemmas say what one
more item does to both: it joins the group of its key, and it opens a row exactly if its key has none
and there is room.
-/

universe u v

namespace Cc3501eBridge

namespace FirstSeen

variable {κ : Type u} {ρ : Type v} [DecidableEq κ] (key : ρ → κ) (cap : Nat)

/-- The first `cap` keys of the stream, in order of first appearance. -/
def keys (rs : List ρ) : List κ := (rs.map key).eraseDups.take cap

/-- The items with the key `k`, in order. -/
def group (rs : List ρ) (k : κ) : List ρ := rs.filter fun r => key r = k

variable {key cap} {rs : List ρ} {r : ρ} {k : κ}

@[simp] theorem keys_nil : keys key cap [] = [] := by simp [keys]

theorem length_keys_le : (keys key cap rs).length ≤ cap := List.length_take_le _ _

theorem mem_of_mem_keys (h : k ∈ keys key cap rs) : k ∈ rs.map key :=
  List.mem_eraseDups.mp (List.mem_of_mem_take h)

/-- The distinct keys, one item later. -/
theorem eraseDups_concat (ks : List κ) (k : κ) :
    (ks ++ [k]).eraseDups = if k ∈ ks then ks.eraseDups else ks.eraseDups ++ [k] := by
  rw [List.eraseDups_append]
  split_ifs with h
  · simp [List.removeAll, h]
  · simp [List.removeAll, h, List.eraseDups_cons]

/-- The keys have no duplicates: each was appended when it was not there. -/
theorem nodup_eraseDups (ks : List κ) : ks.eraseDups.Nodup := by
  induction ks using List.reverseRecOn with
  | nil => simp
  | append_singleton ks k ih =>
      rw [eraseDups_concat]
      split_ifs with h
      · exact ih
      · rw [List.nodup_append]
        refine ⟨ih, List.pairwise_singleton _ _, ?_⟩
        rintro a ha b hb rfl
        rw [List.mem_singleton.mp hb] at ha
        exact h (List.mem_eraseDups.mp ha)

theorem nodup_keys : (keys key cap rs).Nodup := (nodup_eraseDups _).sublist (List.take_sublist _ _)

/-- An item joins its own group and no other. -/
theorem group_concat : group key (rs ++ [r]) k = group key rs k ++ if key r = k then [r] else [] := by
  by_cases h : key r = k <;> simp [group, h]

theorem group_concat_of_ne (h : key r ≠ k) : group key (rs ++ [r]) k = group key rs k := by
  simp [group_concat, h]

theorem group_concat_self : group key (rs ++ [r]) (key r) = group key rs (key r) ++ [r] := by
  simp [group_concat]

/-- A key that never appeared has no items. -/
theorem group_eq_nil (h : k ∉ rs.map key) : group key rs k = [] := by
  rw [group, List.filter_eq_nil_iff]
  intro r hr hk
  exact h (List.mem_map.mpr ⟨r, hr, by simpa using hk⟩)

/-- A key with a row opens no other. -/
theorem keys_concat_of_mem (h : key r ∈ keys key cap rs) :
    keys key cap (rs ++ [r]) = keys key cap rs := by
  rw [keys, List.map_append, List.map_singleton, eraseDups_concat, if_pos (mem_of_mem_keys h), keys]

/-- Nothing opens a row of a full table. -/
theorem keys_concat_of_full (h : cap ≤ (keys key cap rs).length) :
    keys key cap (rs ++ [r]) = keys key cap rs := by
  have hlen : cap ≤ (rs.map key).eraseDups.length := by
    rw [keys, List.length_take] at h
    omega
  rw [keys, List.map_append, List.map_singleton, eraseDups_concat, keys]
  split_ifs
  · rfl
  · exact List.take_append_of_le_length hlen

/-- A table with room holds every key so far. -/
theorem keys_of_room (h : (keys key cap rs).length < cap) :
    keys key cap rs = (rs.map key).eraseDups := by
  apply List.take_of_length_le
  rw [keys, List.length_take] at h
  omega

/-- A table with room gets a row for a new key, at its end. -/
theorem keys_concat_of_new (h : (keys key cap rs).length < cap) (hk : key r ∉ keys key cap rs) :
    keys key cap (rs ++ [r]) = keys key cap rs ++ [key r] ∧ group key rs (key r) = [] := by
  have hall := keys_of_room h
  have hnew : key r ∉ rs.map key := by simpa [hall] using hk
  constructor
  · rw [keys, List.map_append, List.map_singleton, eraseDups_concat, if_neg hnew, hall]
    rw [hall] at h
    apply List.take_of_length_le
    rw [List.length_append, List.length_singleton]
    exact h
  · exact group_eq_nil hnew

end FirstSeen

end Cc3501eBridge
