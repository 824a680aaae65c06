import Mathlib.Data.List.Basic

/-!
# Strings that survive padding

A string is padded to a multiple of some block length and its own length is not sent along: the
receiver sees `xs ++ pad` and has to find `xs`.  It can if the strings in question are
*self-delimiting*: none of them is another one followed by less than a block.

Two shapes of string have the property.  A *sized* string begins with a head of `h` elements that
determine its length.  A list of sized records does as well, provided the head of a record is at
least as long as the pad can be: what is left after the last record is then too short to be taken for
one more.  For arbitrary strings there is `Aliased`, which says exactly when two of them pad to the
same thing.
-/

universe u

namespace Cc3501eBridge

namespace Padding

variable {α : Type u} {h k : Nat} {len : List α → Nat} {F : List α → Prop} {xs ys zs : List α} {z : α}

/-- No string of the format `F` is another one with fewer than `k` elements appended. -/
def SelfDelimiting (k : Nat) (F : List α → Prop) : Prop :=
  ∀ xs ys zs, F xs → F ys → ys = xs ++ zs → zs.length < k → zs = []

/-- The first `h` elements of the string determine its length by `len`. -/
structure Sized (h : Nat) (len : List α → Nat) (xs : List α) : Prop where
  head : h ≤ xs.length
  length : xs.length = len (xs.take h)

namespace Sized

/-- Two sized strings with the same beginning are the same, whatever follows them. -/
theorem append_inj (hx : Sized h len xs) (hy : Sized h len ys) {us vs : List α}
    (heq : xs ++ us = ys ++ vs) : xs = ys ∧ us = vs := by
  have htake : xs.take h = ys.take h := by
    rw [← List.take_append_of_le_length hx.head, heq, List.take_append_of_le_length hy.head]
  have hlen : xs.length = ys.length := by rw [hx.length, hy.length, htake]
  exact List.append_inj heq hlen

/-- Sized strings are self-delimiting, against a pad of any length. -/
theorem selfDelimiting (k : Nat) : SelfDelimiting k (Sized h len) := by
  intro xs ys zs hx hy heq _
  have h : ys ++ [] = xs ++ zs := by simpa using heq
  exact (hy.append_inj hx h).2.symm

end Sized

/-- The concatenation of sized records. -/
def Records (h : Nat) (len : List α → Nat) (xs : List α) : Prop :=
  ∃ rs : List (List α), (∀ r ∈ rs, Sized h len r) ∧ xs = rs.flatten

/-- A pad shorter than the head of a record is not mistaken for a record. -/
theorem Records.selfDelimiting (hk : k ≤ h) : SelfDelimiting k (Records (α := α) h len) := by
  rintro xs ys zs ⟨rs, hrs, rfl⟩ ⟨qs, hqs, rfl⟩ heq hz
  -- along the records of the shorter string; each is also the next record of the longer one
  induction rs generalizing qs with
  | nil =>
      cases qs with
      | nil => simpa using heq.symm
      | cons q qs =>
          have hlong : h ≤ q.length := (hqs q (by simp)).head
          have hlen := congrArg List.length heq
          simp only [List.flatten_cons, List.flatten_nil, List.nil_append, List.length_append] at hlen
          omega
  | cons r rs ih =>
      have hr : Sized h len r := hrs r (by simp)
      cases qs with
      | nil =>
          have hnil : r = [] ∧ rs.flatten = [] ∧ zs = [] := by simpa using heq.symm
          exact hnil.2.2
      | cons q qs =>
          have hq : Sized h len q := hqs q (by simp)
          rw [List.flatten_cons, List.flatten_cons, List.append_assoc] at heq
          obtain ⟨-, hrest⟩ := hq.append_inj hr heq
          exact ih (fun r' hr' => hrs r' (by simp [hr'])) qs (fun q' hq' => hqs q' (by simp [hq'])) hrest

/-- One string is the other with copies of `z` appended. -/
def Aliased (z : α) (xs ys : List α) : Prop :=
  ∃ n, ys = xs ++ List.replicate n z ∨ xs = ys ++ List.replicate n z

private theorem eq_append_of_padded {a b : Nat} (hle : xs.length ≤ ys.length)
    (heq : xs ++ List.replicate a z = ys ++ List.replicate b z) :
    ys = xs ++ List.replicate (ys.length - xs.length) z := by
  have hlen := congrArg List.length heq
  simp only [List.length_append, List.length_replicate] at hlen
  have htake := congrArg (List.take ys.length) heq
  rw [List.take_left, List.take_append, List.take_of_length_le hle, List.take_replicate,
    Nat.min_eq_left (by omega)] at htake
  exact htake.symm

/-- Padded to the same length, two strings agree exactly if they are aliased. -/
theorem padded_eq_iff {a b : Nat} (hlen : xs.length + a = ys.length + b) :
    xs ++ List.replicate a z = ys ++ List.replicate b z ↔ Aliased z xs ys := by
  constructor
  · intro heq
    rcases Nat.le_total xs.length ys.length with hle | hle
    · exact ⟨_, .inl (eq_append_of_padded hle heq)⟩
    · exact ⟨_, .inr (eq_append_of_padded hle heq.symm)⟩
  · rintro ⟨n, rfl | rfl⟩
    · have hn : a = n + b := by simp only [List.length_append, List.length_replicate] at hlen; omega
      rw [hn, List.append_assoc, List.replicate_append_replicate]
    · have hn : b = n + a := by simp only [List.length_append, List.length_replicate] at hlen; omega
      rw [hn, List.append_assoc, List.replicate_append_replicate]

/-- Strings of a self-delimiting format that pad to the same thing are equal. -/
theorem SelfDelimiting.eq_of_aliased (hF : SelfDelimiting k F) (hx : F xs) (hy : F ys)
    (ha : Aliased z xs ys) (hxy : ys.length < xs.length + k) (hyx : xs.length < ys.length + k) :
    xs = ys := by
  obtain ⟨n, rfl | rfl⟩ := ha
  · have hnil : List.replicate n z = [] := by
      apply hF xs _ _ hx hy rfl
      simpa using hxy
    simp [hnil]
  · have hnil : List.replicate n z = [] := by
      apply hF ys _ _ hy hx rfl
      simpa using hyx
    simp [hnil]

end Padding

end Cc3501eBridge
