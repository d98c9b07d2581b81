import Mathlib.Data.List.Induction
import PostMarkup.Proofs.Overrides
import PostMarkup.Proofs.Precedence

/-! Limits that a post is given one after another. What is recorded has one entry for each limit,
but the limits in force are those that the changes make when they are made one by one. -/

namespace PostMarkup

namespace Overrides

/-- A change that is recorded last is in force as if it were made last. -/
theorem override_record (limits : Limits) (name : LimitName) (value : Nat) {overrides : Overrides}
    (h : (overrides.map Prod.fst).Nodup) :
    limits.override (overrides.record name value) = (limits.override overrides).set name value := by
  refine Limits.ext_get fun asked => ?_
  rw [get_override (nodup_record name value h), lookup_record]
  by_cases hname : asked = name
  · rw [if_pos hname, hname, Limits.get_set_same, Option.getD_some]
  · rw [if_neg hname, Limits.get_set_ne _ _ hname, get_override h]

/-- Overrides are told by their names, in order, and by the values of these. -/
theorem ext_lookup {overrides overrides' : Overrides} (hnodup : (overrides.map Prod.fst).Nodup)
    (hnames : overrides.map Prod.fst = overrides'.map Prod.fst)
    (hvalues : ∀ name, overrides.lookup name = overrides'.lookup name) :
    overrides = overrides' := by
  induction overrides generalizing overrides' with
  | nil => exact (List.map_eq_nil_iff.1 hnames.symm).symm
  | cons first rest ih =>
    cases overrides' with
    | nil => cases hnames
    | cons first' rest' =>
      obtain ⟨hname, hrest⟩ := List.cons.inj hnames
      rw [List.map_cons, List.nodup_cons] at hnodup
      have hvalue : first.2 = first'.2 := by
        have h := hvalues first.1
        rw [lookup_cons, lookup_cons, if_pos rfl, if_pos hname] at h
        exact Option.some.inj h
      rw [Prod.ext hname hvalue, ih hnodup.2 hrest fun name => ?_]
      by_cases hmem : name = first.1
      · subst hmem
        rw [lookup_eq_none hnodup.1, lookup_eq_none (hrest ▸ hnodup.1)]
      · have h := hvalues name
        rwa [lookup_cons, lookup_cons, if_neg hmem, if_neg (hname ▸ hmem)] at h

/-! ### Changes recorded one by one -/

/-- What is recorded of changes that are made one by one. -/
def ofChanges (changes : List (LimitName × Nat)) : Overrides := extend [] changes

theorem ofChanges_append (changes later : List (LimitName × Nat)) :
    ofChanges (changes ++ later) = (ofChanges changes).extend later := by
  unfold ofChanges extend
  rw [List.foldl_append]

theorem ofChanges_append_singleton (changes : List (LimitName × Nat)) (change : LimitName × Nat) :
    ofChanges (changes ++ [change]) = (ofChanges changes).record change.1 change.2 :=
  ofChanges_append changes [change]

section Changes

variable (changes : List (LimitName × Nat))

/-- Every limit that is named has one entry, where it is first named. -/
theorem map_fst_ofChanges :
    (ofChanges changes).map Prod.fst = (changes.map Prod.fst).eraseDups := by
  induction changes using List.reverseRecOn with
  | nil => rfl
  | append_singleton changes change ih =>
    rw [ofChanges_append_singleton, map_fst_record, ih, List.map_append, List.eraseDups_append]
    by_cases h : change.1 ∈ changes.map Prod.fst
    · rw [if_pos (List.mem_eraseDups.2 h)]
      simp [List.removeAll, h]
    · rw [if_neg fun hmem => h (List.mem_eraseDups.1 hmem)]
      simp [List.removeAll, h, List.eraseDups_cons]

theorem nodup_ofChanges : ((ofChanges changes).map Prod.fst).Nodup := by
  induction changes using List.reverseRecOn with
  | nil => exact .nil
  | append_singleton changes change ih =>
    rw [ofChanges_append_singleton]
    exact nodup_record _ _ ih

/-- The entry of a limit has the last value that the limit is given. -/
theorem lookup_ofChanges (name : LimitName) :
    (ofChanges changes).lookup name = changes.reverse.lookup name := by
  induction changes using List.reverseRecOn with
  | nil => rfl
  | append_singleton changes change ih =>
    rw [ofChanges_append_singleton, lookup_record, ih, List.reverse_append, List.reverse_singleton,
      List.singleton_append, lookup_cons]

theorem override_ofChanges (limits : Limits) :
    limits.override (ofChanges changes) = limits.override changes := by
  induction changes using List.reverseRecOn with
  | nil => rfl
  | append_singleton changes change ih =>
    rw [ofChanges_append_singleton, override_record _ _ _ (nodup_ofChanges changes), ih]
    unfold Limits.override
    rw [List.foldl_append]
    rfl

/-- Changes that are made once more are all there already. -/
theorem ofChanges_append_self : ofChanges (changes ++ changes) = ofChanges changes := by
  refine ext_lookup (nodup_ofChanges _) ?_ fun name => ?_
  · have hnone : (changes.map Prod.fst).removeAll (changes.map Prod.fst) = [] := by
      simp [List.removeAll]
    rw [map_fst_ofChanges, map_fst_ofChanges, List.map_append, List.eraseDups_append, hnone,
      List.eraseDups_nil, List.append_nil]
  · rw [lookup_ofChanges, lookup_ofChanges, List.reverse_append, List.lookup_append, Option.or_self]

theorem get_override_changes (limits : Limits) (name : LimitName) :
    (limits.override changes).get name =
      (changes.reverse.lookup name).getD (limits.get name) := by
  rw [← override_ofChanges, get_override (nodup_ofChanges changes), lookup_ofChanges]

end Changes

end Overrides

namespace Document

/-- The post after changes to its limits, made one by one. -/
def setLimits (post : Document) (changes : List (LimitName × Nat)) : Document :=
  changes.foldl (fun post change => post.setLimit change.1 change.2) post

theorem setLimits_eq (post : Document) (changes : List (LimitName × Nat)) :
    post.setLimits changes = { post with overrides := post.overrides.extend changes } := by
  induction changes generalizing post with
  | nil => rfl
  | cons change changes ih => exact ih (post.setLimit change.1 change.2)

end Document

/-- A post that is given limits one by one has those in force that the changes make when they are
made in order. It records each limit once, in the order in which they are first named and with the
last value that each is given, which is the one in force; a limit that is not named stays as it was,
and so does the rest of the post. Making the same changes again changes nothing: neither in what is
recorded, nor in the limits in force, whether they are put on top as they are or as they are
recorded. -/
theorem limits_setLimits (defaults : Limits) (post : Document)
    (changes : List (LimitName × Nat)) :
    let recorded := post.content.setLimits changes
    let inForce := recorded.limits defaults
    inForce = defaults.override changes ∧
      (recorded.overrides.map Prod.fst).Nodup ∧
      recorded.overrides.map Prod.fst = (changes.map Prod.fst).eraseDups ∧
      (∀ name, recorded.overrides.lookup name = changes.reverse.lookup name) ∧
      (∀ name, inForce.get name = (changes.reverse.lookup name).getD (defaults.get name)) ∧
      (∀ name ∉ changes.map Prod.fst, inForce.get name = defaults.get name) ∧
      recorded.content = post.content ∧
      recorded.setLimits changes = recorded ∧
      inForce.override changes = inForce ∧
      recorded.limits inForce = inForce := by
  intro recorded inForce
  have hrecorded : recorded = { post with overrides := .ofChanges changes } :=
    post.content.setLimits_eq changes
  have hinForce : inForce = defaults.override changes := by
    show recorded.limits defaults = _
    rw [hrecorded]
    exact Overrides.override_ofChanges changes defaults
  have hagain : inForce.override changes = inForce := by
    refine Limits.ext_get fun name => ?_
    rw [hinForce, Overrides.get_override_changes, Overrides.get_override_changes]
    cases changes.reverse.lookup name <;> rfl
  refine ⟨hinForce, ?_, ?_, fun name => ?_, fun name => ?_, fun name h => ?_, ?_, ?_, hagain, ?_⟩
  · rw [hrecorded]
    exact Overrides.nodup_ofChanges changes
  · rw [hrecorded]
    exact Overrides.map_fst_ofChanges changes
  · rw [hrecorded]
    exact Overrides.lookup_ofChanges changes name
  · rw [hinForce, Overrides.get_override_changes]
  · have hreverse : name ∉ changes.reverse.map Prod.fst := by simpa using h
    rw [hinForce, Overrides.get_override_changes, Overrides.lookup_eq_none hreverse,
      Option.getD_none]
  · rw [hrecorded]
    rfl
  · have hextend : (Overrides.ofChanges changes).extend changes = .ofChanges changes := by
      rw [← Overrides.ofChanges_append, Overrides.ofChanges_append_self]
    rw [Document.setLimits_eq, hrecorded]
    exact congrArg (fun overrides => { post with overrides }) hextend
  · show inForce.override recorded.overrides = inForce
    rw [hrecorded]
    exact (Overrides.override_ofChanges changes inForce).trans hagain

/-- A limit of nought that is taken back, with another limit in between. -/
def wavering : List (LimitName × Nat) := [(.title, 0), (.claim, 9), (.title, 5)]

theorem limits_setLimits_wavering :
    let recorded := ({ title := some ['T'] } : Document).content.setLimits wavering
    (recorded.limits {}).get .title = 5 ∧
      .insight ∉ wavering.map Prod.fst ∧
      (recorded.limits {}).get .insight = ({} : Limits).get .insight ∧
      recorded.overrides = [(.title, 5), (.claim, 9)] ∧ recorded.setLimits wavering = recorded := by
  intro recorded
  obtain ⟨-, -, -, -, hvalue, hrest, -, hagain, -⟩ :=
    limits_setLimits {} { title := some ['T'] } wavering
  have hinsight : .insight ∉ wavering.map Prod.fst := by decide
  exact ⟨hvalue .title, hinsight, hrest _ hinsight, rfl, hagain⟩

end PostMarkup
