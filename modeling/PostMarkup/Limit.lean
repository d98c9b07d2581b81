import PostMarkup.Text.Basic

/-! The limits on a post: how many characters its parts and its rendered form may have, and the
overrides by which a post changes them. -/

namespace PostMarkup

inductive LimitName where
  | title
  | claim
  | evidence
  | insight
  | context
  | total
  deriving DecidableEq, Repr

namespace LimitName

def all : List LimitName := [title, claim, evidence, insight, context, total]

def word : LimitName → String
  | title => "title"
  | claim => "claim"
  | evidence => "evidence"
  | insight => "insight"
  | context => "context"
  | total => "total"

def ofText? (t : Text) : Option LimitName := all.find? fun name => name.word.toList = t

theorem mem_all (name : LimitName) : name ∈ all := by cases name <;> decide

@[simp] theorem ofText?_word (name : LimitName) : ofText? name.word.toList = some name := by
  cases name <;> rfl

theorem ofText?_eq_some_iff {t : Text} {name : LimitName} :
    ofText? t = some name ↔ t = name.word.toList := by
  constructor
  · intro h
    have hword : name.word.toList = t := by simpa using List.find?_some h
    exact hword.symm
  · rintro rfl
    exact ofText?_word name

theorem toList_word_injective {a b : LimitName} (h : a.word.toList = b.word.toList) : a = b := by
  have hname := congrArg ofText? h
  simpa using hname

end LimitName

/-- Why a word stands for no limit. -/
def unknownLimitMessage (name : Text) : String :=
  "unknown limit `" ++ String.ofList name ++ "`"

/-- The most characters that each part of a post may have. -/
structure Limits where
  title : Nat := 80
  claim : Nat := 150
  evidence : Nat := 60
  insight : Nat := 120
  context : Nat := 100
  total : Nat := 700
  deriving DecidableEq, Repr, Inhabited

namespace Limits

def get (limits : Limits) : LimitName → Nat
  | .title => limits.title
  | .claim => limits.claim
  | .evidence => limits.evidence
  | .insight => limits.insight
  | .context => limits.context
  | .total => limits.total

def set (limits : Limits) (name : LimitName) (value : Nat) : Limits :=
  match name with
  | .title => { limits with title := value }
  | .claim => { limits with claim := value }
  | .evidence => { limits with evidence := value }
  | .insight => { limits with insight := value }
  | .context => { limits with context := value }
  | .total => { limits with total := value }

@[simp] theorem get_set_same (limits : Limits) (name : LimitName) (value : Nat) :
    (limits.set name value).get name = value := by
  cases name <;> rfl

theorem get_set_ne (limits : Limits) {name other : LimitName} (value : Nat) (h : other ≠ name) :
    (limits.set name value).get other = limits.get other := by
  cases name <;> cases other <;> simp_all [get, set]

theorem ext_get {a b : Limits} (h : ∀ name, a.get name = b.get name) : a = b := by
  cases a
  cases b
  simp only [Limits.mk.injEq]
  exact ⟨h .title, h .claim, h .evidence, h .insight, h .context, h .total⟩

/-- The limits after a list of changes, made in order. -/
def override (limits : Limits) (changes : List (LimitName × Nat)) : Limits :=
  changes.foldl (fun limits change => limits.set change.1 change.2) limits

end Limits

/-- The limits that a post sets for itself, in the order in which it first names them. -/
abbrev Overrides := List (LimitName × Nat)

/-- The overrides with `name` bound to `value`. A name that is there already keeps its place. -/
def Overrides.record (name : LimitName) (value : Nat) : Overrides → Overrides
  | [] => [(name, value)]
  | (other, old) :: rest =>
    if other = name then (name, value) :: rest else (other, old) :: record name value rest

/-- The overrides after the limit was given the value: all other limits are as they were, and the
names keep their places. A name that is new comes last. -/
structure Overrides.Sets (before : Overrides) (name : LimitName) (value : Nat)
    (after : Overrides) : Prop where
  lookup_same : after.lookup name = some value
  lookup_ne : ∀ other ≠ name, after.lookup other = before.lookup other
  map_fst : after.map Prod.fst =
    if name ∈ before.map Prod.fst then before.map Prod.fst else before.map Prod.fst ++ [name]

namespace Overrides

theorem eq_or_mem_of_mem_record {name : LimitName} {value : Nat} {overrides : Overrides}
    {change : LimitName × Nat} (h : change ∈ record name value overrides) :
    change = (name, value) ∨ change ∈ overrides := by
  induction overrides with
  | nil => simpa [record] using h
  | cons first rest ih =>
    rw [record] at h
    split at h
    next => exact (List.mem_cons.1 h).imp_right (List.mem_cons_of_mem _)
    next =>
      rcases List.mem_cons.1 h with rfl | h
      · exact .inr List.mem_cons_self
      · exact (ih h).imp_right (List.mem_cons_of_mem _)

/-- A name that is new comes last. -/
theorem record_of_not_mem {name : LimitName} {overrides : Overrides}
    (h : name ∉ overrides.map Prod.fst) (value : Nat) :
    record name value overrides = overrides ++ [(name, value)] := by
  induction overrides with
  | nil => rfl
  | cons first rest ih =>
    simp only [List.map_cons, List.mem_cons, not_or] at h
    rw [record, if_neg (Ne.symm h.1), ih h.2, List.cons_append]

/-- The names are the old ones in their places, and the new one last if it was not there. -/
theorem map_fst_record (name : LimitName) (value : Nat) (overrides : Overrides) :
    (record name value overrides).map Prod.fst =
      if name ∈ overrides.map Prod.fst then overrides.map Prod.fst
      else overrides.map Prod.fst ++ [name] := by
  induction overrides with
  | nil => simp [record]
  | cons first rest ih =>
    rw [record]
    split
    next h => simp [h]
    next h =>
      simp only [List.map_cons, ih, List.mem_cons, Ne.symm h, false_or, List.cons_append]
      split <;> rfl

theorem nodup_record (name : LimitName) (value : Nat) {overrides : Overrides}
    (h : (overrides.map Prod.fst).Nodup) : ((record name value overrides).map Prod.fst).Nodup := by
  rw [map_fst_record]
  split
  next => exact h
  next hname =>
    refine List.nodup_append.2 ⟨h, by simp, fun a ha b hb => ?_⟩
    rintro rfl
    exact hname (List.mem_singleton.1 hb ▸ ha)

/-- Changes with distinct names that are new are recorded as they come. -/
theorem foldl_record (overrides : Overrides) {changes : Overrides}
    (h : ((overrides ++ changes).map Prod.fst).Nodup) :
    changes.foldl (fun old change => record change.1 change.2 old) overrides =
      overrides ++ changes := by
  induction changes generalizing overrides with
  | nil => simp
  | cons change changes ih =>
    have hnew : change.1 ∉ overrides.map Prod.fst := by
      simp only [List.map_append, List.map_cons, List.nodup_append] at h
      exact fun hmem => h.2.2 _ hmem _ List.mem_cons_self rfl
    rw [List.foldl_cons, record_of_not_mem hnew, ih _ (by simpa using h)]
    simp

end Overrides

/-- The most items of evidence that a post may have. -/
def maxEvidenceItems : Nat := 5

end PostMarkup
