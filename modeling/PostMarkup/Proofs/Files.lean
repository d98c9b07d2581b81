import Mathlib.Data.List.Basic
import PostMarkup.Disk

/-! Writing into a tree of files. What is written under a path is read back from it, and everything
elsewhere in the tree stays as it was. -/

namespace PostMarkup

/-! ### Results -/

theorem bind_eq_ok_iff {ε α β : Type} {x : Except ε α} {f : α → Except ε β} {b : β} :
    x >>= f = .ok b ↔ ∃ a, x = .ok a ∧ f a = .ok b := by
  cases x with
  | error e => simp [bind, Except.bind]
  | ok a => simp [bind, Except.bind]

theorem bind_eq_error_iff {ε α β : Type} {x : Except ε α} {f : α → Except ε β} {e : ε} :
    x >>= f = .error e ↔ x = .error e ∨ ∃ a, x = .ok a ∧ f a = .error e := by
  cases x with
  | error e => simp [bind, Except.bind]
  | ok a => simp [bind, Except.bind]

theorem mapError_eq_error_iff {ε ε' α : Type} {x : Except ε α} {f : ε → ε'} {e' : ε'} :
    x.mapError f = .error e' ↔ ∃ e, x = .error e ∧ f e = e' := by
  cases x with
  | error e => simp [Except.mapError]
  | ok a => simp [Except.mapError]

theorem mapError_eq_ok_iff {ε ε' α : Type} {x : Except ε α} {f : ε → ε'} {a : α} :
    x.mapError f = .ok a ↔ x = .ok a := by
  cases x with
  | error e => simp [Except.mapError]
  | ok b => simp [Except.mapError]

namespace Files

/-! ### Entries -/

theorem lookup_put_same {files : Files} {place : List Text} (h : place ≠ []) (entry : Entry) :
    (files.put place entry).lookup place = some entry := by
  rw [lookup, if_neg h, put, List.lookup_cons_self]

theorem lookup_put_ne {files : Files} {place names : List Text} (h : names ≠ place)
    (entry : Entry) : (files.put place entry).lookup names = files.lookup names := by
  have hkept : List.lookup names (files.entries.filter fun old => old.1 != place) =
      List.lookup names files.entries := by
    induction files.entries with
    | nil => rfl
    | cons old rest ih =>
      by_cases hold : old.1 = place
      · have hne : (names == old.1) = false := beq_eq_false_iff_ne.2 (hold ▸ h)
        rw [List.filter_cons_of_neg (by simp [hold]), ih, List.lookup_cons, hne]
      · rw [List.filter_cons_of_pos (by simp [hold]), List.lookup_cons, List.lookup_cons, ih]
  have hne : (names == place) = false := beq_eq_false_iff_ne.2 h
  simp only [lookup, put, List.lookup_cons, hne, hkept]

/-! ### Paths -/

theorem walk_cons_eq_ok_iff {files : Files} {place final : List Text} {name : Text}
    {rest : List Text} :
    files.walk place (name :: rest) = .ok final ↔
      files.lookup place = some .directory ∧ name.utf8Size ≤ maxNameBytes ∧
        files.walk (step place name) rest = .ok final := by
  rw [walk]
  split
  next h => simp [h]
  next h => simp [h]
  next h =>
    split
    next hlong => simp [Nat.not_le.2 hlong]
    next hshort => simp [h, Nat.not_lt.1 hshort]

theorem walk_append_eq_ok_iff {files : Files} {place final : List Text} {front back : List Text} :
    files.walk place (front ++ back) = .ok final ↔
      ∃ middle, files.walk place front = .ok middle ∧ files.walk middle back = .ok final := by
  induction front generalizing place with
  | nil => simp [walk]
  | cons name front ih =>
    simp only [List.cons_append, walk_cons_eq_ok_iff, ih]
    tauto

/-- Where no directory is replaced, every way through the tree stays open. -/
theorem walk_put {files : Files} {target : List Text}
    (htarget : files.lookup target ≠ some .directory) (entry : Entry)
    {place final names : List Text} (h : files.walk place names = .ok final) :
    (files.put target entry).walk place names = .ok final := by
  induction names generalizing place with
  | nil => exact h
  | cons name rest ih =>
    obtain ⟨hplace, hname, hrest⟩ := walk_cons_eq_ok_iff.1 h
    have hne : place ≠ target := by
      rintro rfl
      exact htarget hplace
    exact walk_cons_eq_ok_iff.2 ⟨(lookup_put_ne hne entry).trans hplace, hname, ih hrest⟩

/-- The place of a file to be written is where its path leads, and no directory is there. -/
theorem exists_walk_of_target {files : Files} {path : Text} {place : List Text}
    (h : files.target path = .ok place) :
    ∃ start, files.start path = .ok start ∧ files.walk start (names path) = .ok place ∧
      path.getLast? ≠ some '/' ∧ files.lookup place ≠ some .directory := by
  obtain ⟨start, hstart, h⟩ := bind_eq_ok_iff.1 h
  obtain ⟨directory, hdirectory, h⟩ := bind_eq_ok_iff.1 h
  refine ⟨start, hstart, ?_⟩
  split at h
  next => cases h
  next => cases h
  next => cases h
  next name _ hname =>
    split at h
    next => cases h
    next hslash =>
      obtain ⟨final, hfinal, h⟩ := bind_eq_ok_iff.1 h
      split at h
      next => cases h
      next hfile =>
        cases h
        have hnames : (names path).dropLast ++ [name] = names path :=
          List.dropLast_append_getLast? name hname
        refine ⟨?_, hslash, hfile⟩
        rw [← hnames]
        exact walk_append_eq_ok_iff.2 ⟨directory, hdirectory, hfinal⟩

/-! ### Writing and reading -/

theorem write_eq_ok_iff {files after : Files} {path : Text} {bytes : ByteArray} :
    files.write path bytes = .ok after ↔
      ∃ place, files.target path = .ok place ∧ after = files.put place (.file bytes) := by
  rw [write, bind_eq_ok_iff]
  simp only [pure, Except.pure, Except.ok.injEq, eq_comm]

/-- What was written under a path is read back from it. -/
theorem read_write {files after : Files} {path : Text} {bytes : ByteArray}
    (h : files.write path bytes = .ok after) : after.read path = .ok bytes := by
  obtain ⟨place, htarget, rfl⟩ := write_eq_ok_iff.1 h
  obtain ⟨start, hstart, hwalk, hslash, hfile⟩ := exists_walk_of_target htarget
  have hplace : place ≠ [] := by
    rintro rfl
    exact hfile rfl
  have hfind : (files.put place (.file bytes)).find path = .ok (.file bytes) := by
    refine bind_eq_ok_iff.2 ⟨start, hstart, bind_eq_ok_iff.2 ⟨place, walk_put hfile _ hwalk, ?_⟩⟩
    simp only [lookup_put_same hplace, if_neg hslash]
  rw [read, hfind]
  rfl

/-- Writing leaves everything as it was but for the place that the path leads to. -/
theorem lookup_write_ne {files after : Files} {path : Text} {bytes : ByteArray}
    (h : files.write path bytes = .ok after) {names : List Text}
    (hne : files.target path ≠ .ok names) : after.lookup names = files.lookup names := by
  obtain ⟨place, htarget, rfl⟩ := write_eq_ok_iff.1 h
  refine lookup_put_ne ?_ _
  rintro rfl
  exact hne htarget

end Files

end PostMarkup
