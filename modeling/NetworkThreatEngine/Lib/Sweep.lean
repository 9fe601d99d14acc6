import Mathlib

/-!
# Sweeps

A loop that visits the entries of a map and erases some of them on its way. Whatever the order of the
visits, what is left are the entries that were to be spared.
-/
namespace Sweep
variable {κ ν : Type}

/-- The entries that are spared. -/
def spare (gone : ν → Bool) (table : AList fun _ : κ => ν) : AList fun _ : κ => ν :=
  ⟨table.entries.filter fun entry => !gone entry.2, table.nodupKeys.sublist List.filter_sublist⟩

theorem spare_length (gone : ν → Bool) (table : AList fun _ : κ => ν) :
    (spare gone table).entries.length + table.entries.countP (fun entry => gone entry.2) = table.entries.length := by
  have parts := List.length_eq_countP_add_countP (fun entry : Sigma fun _ : κ => ν => gone entry.2) (l := table.entries)
  simp only [decide_not, Bool.decide_eq_true] at parts
  rw [parts, add_comm, spare, List.countP_eq_length_filter (p := fun entry : Sigma fun _ : κ => ν => !gone entry.2)]

variable [DecidableEq κ]

/-- The map after visits of entries in this order. -/
def sweep (gone : ν → Bool) (order : List (Sigma fun _ : κ => ν)) (table : AList fun _ : κ => ν) :
    AList fun _ : κ => ν :=
  order.foldl (fun table entry => if gone entry.2 then table.erase entry.1 else table) table

variable {gone : ν → Bool}

theorem sweep_cons (first : Sigma fun _ : κ => ν) (order : List (Sigma fun _ : κ => ν)) (table : AList fun _ : κ => ν) :
    sweep gone (first :: order) table = sweep gone order (if gone first.2 then table.erase first.1 else table) := rfl

theorem sweep_snoc (order : List (Sigma fun _ : κ => ν)) (last : Sigma fun _ : κ => ν) (table : AList fun _ : κ => ν) :
    sweep gone (order ++ [last]) table =
      if gone last.2 then (sweep gone order table).erase last.1 else sweep gone order table := List.foldl_concat ..

theorem kerase_eq_filter {entries : List (Sigma fun _ : κ => ν)} (nodup : entries.NodupKeys) (k : κ) :
    entries.kerase k = entries.filter fun entry => entry.1 ≠ k := by
  induction entries with
  | nil => rfl
  | cons entry rest ih =>
      obtain ⟨fresh, nodup⟩ := List.nodupKeys_cons.mp nodup
      by_cases here : k = entry.1
      · subst here
        rw [List.kerase_cons_eq rfl, List.filter_cons_of_neg (by simp), List.filter_eq_self.mpr]
        intro other mem
        have apart : other.1 ≠ entry.1 := fun same => fresh (same ▸ List.mem_keys_of_mem mem)
        simpa using apart
      · rw [List.kerase_cons_ne here, List.filter_cons_of_pos (by simpa using Ne.symm here), ih nodup]

/-- An entry is left unless one with its key was visited and had to go. -/
theorem sweep_entries (order : List (Sigma fun _ : κ => ν)) (table : AList fun _ : κ => ν) :
    (sweep gone order table).entries =
      table.entries.filter fun entry => ∀ visited ∈ order, visited.1 = entry.1 → gone visited.2 = false := by
  induction order generalizing table with
  | nil => simp [sweep]
  | cons first order ih =>
      rw [sweep_cons, ih]
      cases leaves : gone first.2 with
      | false => simp [leaves]
      | true =>
          rw [if_pos rfl]
          change ((table.entries.kerase first.1).filter _) = _
          rw [kerase_eq_filter table.nodupKeys, List.filter_filter]
          apply List.filter_congr
          intro entry _
          rw [Bool.eq_iff_iff, Bool.and_eq_true, decide_eq_true_eq, decide_eq_true_eq, decide_eq_true_eq,
            List.forall_mem_cons, leaves, and_comm]
          apply and_congr_left
          intro _
          exact ⟨fun apart same => absurd same.symm apart, fun keeps same => Bool.noConfusion (keeps same.symm)⟩

/-- A sweep over the whole map in any order. -/
theorem sweep_eq_spare {order : List (Sigma fun _ : κ => ν)} {table : AList fun _ : κ => ν}
    (visits : order.Perm table.entries) : sweep gone order table = spare gone table := by
  refine AList.ext ((sweep_entries order table).trans (List.filter_congr ?_))
  intro entry mem
  rw [Bool.eq_iff_iff, decide_eq_true_eq, Bool.not_eq_true']
  constructor
  · intro spared
    exact spared entry (visits.mem_iff.mpr mem) rfl
  · intro spared visited seen same
    obtain rfl : visited = entry := table.nodupKeys.eq_of_fst_eq (visits.mem_iff.mp seen) mem same
    exact spared

theorem spare_lookup {table : AList fun _ : κ => ν} {k : κ} {v : ν} :
    (spare gone table).lookup k = some v ↔ table.lookup k = some v ∧ gone v = false := by
  have spared : Sigma.mk k v ∈ (spare gone table).entries ↔ Sigma.mk k v ∈ table.entries ∧ gone v = false := by
    rw [spare, List.mem_filter, Bool.not_eq_true']
  exact AList.mem_lookup_iff.trans (spared.trans (and_congr_left fun _ => AList.mem_lookup_iff.symm))

/-- A key is looked up as before, or its entry had to go. -/
theorem spare_lookup_cases (gone : ν → Bool) (table : AList fun _ : κ => ν) (k : κ) :
    (spare gone table).lookup k = table.lookup k ∨
      (spare gone table).lookup k = none ∧ ∀ v ∈ table.lookup k, gone v = true := by
  cases spared : (spare gone table).lookup k with
  | some v => exact .inl (spare_lookup.mp spared).1.symm
  | none =>
      refine .inr ⟨rfl, fun v found => ?_⟩
      by_contra kept
      rw [spare_lookup.mpr ⟨found, Bool.eq_false_iff.mpr kept⟩] at spared
      cases spared

end Sweep
