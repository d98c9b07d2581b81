import PostMarkup.Proofs.Files
import PostMarkup.Run

/-! The configuration that a run works with: which file it is read from, if there is one, and why
what is there may be no configuration. -/

namespace PostMarkup

/-- What the disks answer about the path when it is to be read is the same. -/
structure Disk.AgreesOn (disk disk' : Disk) (path : Text) : Prop where
  isThere : disk'.isThere path = disk.isThere path
  read : disk'.read path = disk.read path

namespace Config

/-! ### Limits of zero -/

theorem one_le_get_of_zeroLimit? {config : Config} (h : config.zeroLimit? = none)
    (name : LimitName) : 1 ≤ config.limits.get name := by
  have hne := List.find?_eq_none.1 h name (LimitName.mem_all name)
  simp at hne
  omega

theorem zeroLimit?_eq_some_iff {config : Config} {name : LimitName} :
    config.zeroLimit? = some name ↔ config.limits.get name = 0 ∧
      ∃ before after, LimitName.all = before ++ name :: after ∧
        ∀ earlier ∈ before, config.limits.get earlier ≠ 0 := by
  rw [zeroLimit?, List.find?_eq_some_iff_append]
  simp

theorem zeroLimit?_eq_none_iff {config : Config} :
    config.zeroLimit? = none ↔ ∀ name, 1 ≤ config.limits.get name := by
  refine ⟨one_le_get_of_zeroLimit?, fun h => List.find?_eq_none.2 fun name _ => ?_⟩
  have hname := h name
  simp
  omega

/-! ### Files -/

/-- Why bytes are no configuration. -/
inductive Faulty (reader : Reader) (bytes : ByteArray) : Failure → Prop
  | notUtf8 (hbytes : String.fromUTF8? bytes = none) : Faulty reader bytes (.io .notUtf8)
  | malformed {text : Text} {reason : String} (htext : decodeUtf8 bytes = .ok text)
      (hmalformed : reader text = .error reason) :
      Faulty reader bytes (.config (.malformed reason))
  /-- The name is the first of all names whose limit is zero. -/
  | zeroLimit {text : Text} {config : Config} {name : LimitName} {before after : List LimitName}
      (htext : decodeUtf8 bytes = .ok text)
      (hconfig : reader text = .ok config)
      (hzero : config.limits.get name = 0) (hnames : LimitName.all = before ++ name :: after)
      (hbefore : ∀ earlier ∈ before, config.limits.get earlier ≠ 0) :
      Faulty reader bytes (.config (.zeroLimit name))

/-- Why the file at a path cannot be used. -/
inductive Rejects (reader : Reader) (disk : Disk) (path : Text) : Failure → Prop
  | missing (hthere : disk.isThere path = false) :
      Rejects reader disk path (.config (.missingFile path))
  | unreadable {error : IoError} (hthere : disk.isThere path = true)
      (hread : disk.read path = .error error) : Rejects reader disk path (.io error)
  | faulty {bytes : ByteArray} {failure : Failure} (hthere : disk.isThere path = true)
      (hread : disk.read path = .ok bytes) (hfaulty : Faulty reader bytes failure) :
      Rejects reader disk path failure

/-- The file at a path describes the configuration, which has no limit that is zero. -/
structure Describes (reader : Reader) (disk : Disk) (path : Text) (config : Config) : Prop where
  isThere : disk.isThere path = true
  content : ∃ bytes text, disk.read path = .ok bytes ∧ decodeUtf8 bytes = .ok text ∧
    reader text = .ok config
  one_le_limit : ∀ name, 1 ≤ config.limits.get name

variable {reader : Reader}

theorem ofBytes_eq_ok_iff {bytes : ByteArray} {config : Config} :
    ofBytes reader bytes = .ok config ↔ ∃ text, decodeUtf8 bytes = .ok text ∧
      reader text = .ok config ∧ config.zeroLimit? = none := by
  simp only [ofBytes, bind_eq_ok_iff, mapError_eq_ok_iff]
  constructor
  · rintro ⟨text, htext, found, hfound, hzero⟩
    split at hzero
    next => cases hzero
    next hnone =>
      cases hzero
      exact ⟨text, htext, hfound, hnone⟩
  · rintro ⟨text, htext, hconfig, hnone⟩
    exact ⟨text, htext, config, hconfig, by simp only [hnone]⟩

theorem ofBytes_eq_error_iff {bytes : ByteArray} {failure : Failure} :
    ofBytes reader bytes = .error failure ↔ Faulty reader bytes failure := by
  simp only [ofBytes, bind_eq_error_iff, mapError_eq_error_iff, mapError_eq_ok_iff,
    decodeUtf8_eq_error_iff]
  constructor
  · rintro (⟨_, ⟨hbytes, rfl⟩, rfl⟩ | ⟨text, htext, ⟨reason, hreason, rfl⟩ | ⟨config, hconfig, h⟩⟩)
    · exact .notUtf8 hbytes
    · exact .malformed htext hreason
    · split at h
      next name hname =>
        cases h
        obtain ⟨hzero, before, after, hnames, hbefore⟩ := zeroLimit?_eq_some_iff.1 hname
        exact .zeroLimit htext hconfig hzero hnames hbefore
      next => cases h
  · rintro (hbytes | ⟨htext, hmalformed⟩ | ⟨htext, hconfig, hzero, hnames, hbefore⟩)
    · exact .inl ⟨_, ⟨hbytes, rfl⟩, rfl⟩
    · exact .inr ⟨_, htext, .inl ⟨_, hmalformed, rfl⟩⟩
    · have hname := zeroLimit?_eq_some_iff.2 ⟨hzero, _, _, hnames, hbefore⟩
      exact .inr ⟨_, htext, .inr ⟨_, hconfig, by simp only [hname]⟩⟩

/-! ### The file in use -/

section Load

variable {disk disk' : Disk} {userConfig : Text} {asked : Option Text}

theorem load_eq_ofBytes {path : Text} {bytes : ByteArray}
    (hselect : select disk userConfig asked = some path)
    (hthere : disk.isThere path = true) (hread : disk.read path = .ok bytes) :
    load reader disk userConfig asked = ofBytes reader bytes := by
  rw [load, hselect]
  simp only [hthere, hread, if_true]
  rfl

/-- A file that nobody asked for is in use only if it is there. -/
theorem eq_some_of_select {path : Text} (hselect : select disk userConfig asked = some path)
    (hthere : disk.isThere path = false) : asked = some path := by
  cases asked with
  | some other => exact hselect
  | none =>
    rw [List.find?_some hselect] at hthere
    cases hthere

theorem load_eq_ok_iff {config : Config} :
    load reader disk userConfig asked = .ok config ↔
      (select disk userConfig asked = none ∧ config = {}) ∨
        ∃ path, select disk userConfig asked = some path ∧ Describes reader disk path config := by
  rw [load]
  cases hselect : select disk userConfig asked with
  | none => simp [eq_comm]
  | some path =>
    simp only [Option.some.injEq, reduceCtorEq, false_and, false_or, exists_eq_left']
    split
    next hthere =>
      simp only [bind_eq_ok_iff, mapError_eq_ok_iff, ofBytes_eq_ok_iff, zeroLimit?_eq_none_iff]
      constructor
      · rintro ⟨bytes, hread, text, htext, hconfig, hlimits⟩
        exact ⟨hthere, ⟨bytes, text, hread, htext, hconfig⟩, hlimits⟩
      · rintro ⟨-, ⟨bytes, text, hread, htext, hconfig⟩, hlimits⟩
        exact ⟨bytes, hread, text, htext, hconfig, hlimits⟩
    next hmissing =>
      simp only [reduceCtorEq, false_iff]
      intro h
      exact hmissing h.isThere

/-- No configuration that a run works with has a limit that is zero. -/
theorem zeroLimit?_of_load {config : Config} (h : load reader disk userConfig asked = .ok config) :
    config.zeroLimit? = none := by
  rw [zeroLimit?_eq_none_iff]
  obtain ⟨-, rfl⟩ | ⟨path, -, hdescribes⟩ := load_eq_ok_iff.1 h
  · exact fun name => by cases name <;> decide
  · exact hdescribes.one_le_limit

theorem load_eq_error_iff {failure : Failure} :
    load reader disk userConfig asked = .error failure ↔
      ∃ path, select disk userConfig asked = some path ∧ Rejects reader disk path failure := by
  rw [load]
  cases hselect : select disk userConfig asked with
  | none => simp
  | some path =>
    simp only [Option.some.injEq, exists_eq_left']
    split
    next hthere =>
      simp only [bind_eq_error_iff, mapError_eq_error_iff, mapError_eq_ok_iff,
        ofBytes_eq_error_iff]
      constructor
      · rintro (⟨error, hread, rfl⟩ | ⟨bytes, hread, hfaulty⟩)
        · exact .unreadable hthere hread
        · exact .faulty hthere hread hfaulty
      · rintro (hmissing | ⟨-, hread⟩ | ⟨-, hread, hfaulty⟩)
        · rw [hthere] at hmissing
          cases hmissing
        · exact .inl ⟨_, hread, rfl⟩
        · exact .inr ⟨_, hread, hfaulty⟩
    next hmissing =>
      rw [Bool.not_eq_true] at hmissing
      constructor
      · rintro ⟨⟩
        exact .missing hmissing
      · rintro (_ | ⟨hthere, -⟩ | ⟨hthere, -, -⟩)
        · rfl
        · rw [hthere] at hmissing
          cases hmissing
        · rw [hthere] at hmissing
          cases hmissing

/-- Disks on which the same file is in use, with the same content, give the same configuration. -/
theorem load_congr (hselect : select disk' userConfig asked = select disk userConfig asked)
    (hagree : ∀ path ∈ select disk userConfig asked, disk.AgreesOn disk' path) :
    load reader disk' userConfig asked = load reader disk userConfig asked := by
  rw [load, load, hselect]
  cases hpath : select disk userConfig asked with
  | none => rfl
  | some path =>
    obtain ⟨hthere, hread⟩ := hagree path hpath
    simp only [hthere, hread]

end Load

end Config

end PostMarkup
