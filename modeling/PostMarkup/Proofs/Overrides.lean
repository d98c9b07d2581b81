import Mathlib.Data.List.Basic
import PostMarkup.Limit

/-! Overrides put on top of others: a name keeps the place where it first stands and takes the value
that it has last. -/

namespace PostMarkup.Overrides

theorem mem_map_fst_record {name other : LimitName} {value : Nat} {overrides : Overrides} :
    name ∈ (record other value overrides).map Prod.fst ↔
      name = other ∨ name ∈ overrides.map Prod.fst := by
  rw [map_fst_record]
  split
  next h =>
    constructor
    · exact .inr
    · rintro (rfl | hname)
      · exact h
      · exact hname
  next => rw [List.mem_append, List.mem_singleton, or_comm]

theorem record_record (name : LimitName) (value old : Nat) (overrides : Overrides) :
    record name value (record name old overrides) = record name value overrides := by
  induction overrides with
  | nil => simp [record]
  | cons first rest ih =>
    by_cases h : first.1 = name
    · simp [record, h]
    · simp [record, h, ih]

/-- Two names may be recorded in either order, unless the first of them would be new. -/
theorem record_comm {name other : LimitName} (hne : name ≠ other) (value value' : Nat)
    {overrides : Overrides} (h : name ∈ overrides.map Prod.fst) :
    record name value (record other value' overrides) =
      record other value' (record name value overrides) := by
  induction overrides with
  | nil => cases h
  | cons first rest ih =>
    by_cases hname : first.1 = name
    · simp [record, hname, hne]
    · have hrest : name ∈ rest.map Prod.fst := by
        rcases List.mem_cons.1 h with h | h
        · exact absurd h.symm hname
        · exact h
      by_cases hother : first.1 = other
      · simp [record, hother, hne.symm]
      · simp [record, hname, hother, ih hrest]

theorem lookup_cons (name : LimitName) (first : LimitName × Nat) (rest : Overrides) :
    List.lookup name (first :: rest) =
      if name = first.1 then some first.2 else rest.lookup name := by
  rw [List.lookup_cons]
  split
  next h => rw [if_pos (beq_iff_eq.1 h)]
  next h => rw [if_neg (beq_eq_false_iff_ne.1 h)]

theorem lookup_eq_none {name : LimitName} {overrides : Overrides}
    (h : name ∉ overrides.map Prod.fst) : overrides.lookup name = none := by
  refine List.lookup_eq_none_iff.2 fun entry hentry => ?_
  rw [bne_iff_ne]
  rintro rfl
  exact h (List.mem_map_of_mem hentry)

theorem lookup_record (name other : LimitName) (value : Nat) (overrides : Overrides) :
    (record other value overrides).lookup name =
      if name = other then some value else overrides.lookup name := by
  induction overrides with
  | nil => rw [record, lookup_cons]
  | cons first rest ih =>
    rw [record]
    split
    next h =>
      rw [lookup_cons, lookup_cons, h]
      split <;> rfl
    next h =>
      rw [lookup_cons, ih, lookup_cons]
      by_cases hname : name = other
      · rw [if_pos hname, if_pos hname, if_neg fun hfirst => h (hfirst.symm.trans hname)]
      · rw [if_neg hname, if_neg hname]

theorem sets_record (name : LimitName) (value : Nat) (overrides : Overrides) :
    overrides.Sets name value (record name value overrides) where
  lookup_same := by rw [lookup_record, if_pos rfl]
  lookup_ne other h := by rw [lookup_record, if_neg h]
  map_fst := map_fst_record name value overrides

/-- What is overridden has the value recorded for it, and the rest is as it was. -/
theorem get_override {overrides : Overrides} (h : (overrides.map Prod.fst).Nodup) (limits : Limits)
    (name : LimitName) :
    (limits.override overrides).get name = (overrides.lookup name).getD (limits.get name) := by
  induction overrides generalizing limits with
  | nil => rfl
  | cons change rest ih =>
    rw [List.map_cons, List.nodup_cons] at h
    have hstep : limits.override (change :: rest) =
        (limits.set change.1 change.2).override rest := rfl
    rw [hstep, ih h.2, lookup_cons]
    split
    next hname =>
      rw [lookup_eq_none (hname ▸ h.1), hname, Limits.get_set_same, Option.getD_none,
        Option.getD_some]
    next hname => rw [Limits.get_set_ne limits change.2 hname]

/-- The overrides after those of `later`, recorded in order. -/
def extend (earlier later : Overrides) : Overrides :=
  later.foldl (fun overrides change => overrides.record change.1 change.2) earlier

@[simp] theorem extend_nil (earlier : Overrides) : earlier.extend [] = earlier := rfl

theorem extend_cons (earlier : Overrides) (change : LimitName × Nat) (later : Overrides) :
    earlier.extend (change :: later) = (earlier.record change.1 change.2).extend later := rfl

theorem record_extend {name : LimitName} (value : Nat) {earlier later : Overrides}
    (h : name ∈ earlier.map Prod.fst) (hnew : name ∉ later.map Prod.fst) :
    (earlier.extend later).record name value = (earlier.record name value).extend later := by
  induction later generalizing earlier with
  | nil => rfl
  | cons change later ih =>
    rw [List.map_cons, List.mem_cons, not_or] at hnew
    have hmem : name ∈ (earlier.record change.1 change.2).map Prod.fst :=
      mem_map_fst_record.2 (.inr h)
    have hswap := record_comm hnew.1 value change.2 h
    rw [extend_cons, ih hmem hnew.2, hswap, extend_cons]

/-- To put a change on top last is to make it in what is put on top. -/
theorem extend_record (name : LimitName) (value : Nat) (earlier : Overrides) {later : Overrides}
    (h : (later.map Prod.fst).Nodup) :
    earlier.extend (later.record name value) = (earlier.extend later).record name value := by
  induction later generalizing earlier with
  | nil => rfl
  | cons change later ih =>
    rw [List.map_cons, List.nodup_cons] at h
    rw [record]
    split
    next heq =>
      have hmem : name ∈ (earlier.record change.1 change.2).map Prod.fst :=
        mem_map_fst_record.2 (.inl heq.symm)
      rw [extend_cons, extend_cons, record_extend value hmem (heq ▸ h.1), heq, record_record]
    next => rw [extend_cons, extend_cons, ih _ h.2]

theorem lookup_extend (name : LimitName) (earlier : Overrides) {later : Overrides}
    (h : (later.map Prod.fst).Nodup) :
    (earlier.extend later).lookup name = (later.lookup name).or (earlier.lookup name) := by
  induction later generalizing earlier with
  | nil => rfl
  | cons change later ih =>
    rw [List.map_cons, List.nodup_cons] at h
    rw [extend_cons, ih _ h.2, lookup_record, lookup_cons]
    split
    next hname =>
      rw [lookup_eq_none (hname ▸ h.1), Option.none_or, Option.some_or]
    next => rfl

theorem map_fst_extend (earlier : Overrides) {later : Overrides}
    (h : (later.map Prod.fst).Nodup) :
    (earlier.extend later).map Prod.fst =
      earlier.map Prod.fst ++ (later.map Prod.fst).filter (· ∉ earlier.map Prod.fst) := by
  induction later generalizing earlier with
  | nil => simp
  | cons change later ih =>
    rw [List.map_cons, List.nodup_cons] at h
    rw [extend_cons, ih _ h.2, map_fst_record]
    split
    next hmem => simp [hmem]
    next hnew =>
      have hfilter : (later.map Prod.fst).filter (· ∉ earlier.map Prod.fst ++ [change.1]) =
          (later.map Prod.fst).filter (· ∉ earlier.map Prod.fst) := by
        refine List.filter_congr fun name hname => ?_
        have hne : name ≠ change.1 := fun heq => h.1 (heq ▸ hname)
        simp [hne]
      rw [List.map_cons, List.filter_cons_of_pos (by simpa using hnew), hfilter]
      simp

end PostMarkup.Overrides
