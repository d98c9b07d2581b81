import PostMarkup.Config.Toml
import PostMarkup.Proofs.Compilation
import PostMarkup.Proofs.Errors
import PostMarkup.Proofs.Findings
import PostMarkup.Proofs.Loading
import PostMarkup.Proofs.Overrides
import PostMarkup.Proofs.RoundTrip

/-! The limits in force for a post: of the lines that set a limit the last one counts, and where no
line does the configuration does. -/

namespace PostMarkup

open Text

/-! ### Directives -/

/-- The value that the directive gives the limit, if it is about that limit. -/
def Directive.limitValue? (name : LimitName) : Directive → Option Nat
  | limit word value => if word = name.word.toList then some value else none
  | _ => none

theorem Directive.limitValue?_eq_some_iff {name : LimitName} {d : Directive} {value : Nat} :
    d.limitValue? name = some value ↔ d = .limit name.word.toList value := by
  cases d <;> simp [limitValue?]

namespace Document

/-- What the post says, apart from its limits. -/
def content (post : Document) : Document := { post with overrides := [] }

section Content

variable (post : Document) (defaults : Limits)

/-- A post is checked against no other limits than those in force for it. -/
theorem validate_eq_content (rules : StyleRules) :
    post.validate defaults rules = post.content.validate (post.limits defaults) rules :=
  rfl

theorem checkOutput_eq_content (output : Text) :
    post.checkOutput defaults output = post.content.checkOutput (post.limits defaults) output :=
  rfl

end Content

/-- The last value that a limit is given is the one recorded for it. -/
theorem lookup_overrides_apply (post : Document) (d : Directive) (name : LimitName) :
    (post.apply d).overrides.lookup name =
      (d.limitValue? name).or (post.overrides.lookup name) := by
  cases d with
  | limit word value =>
    rw [apply, Directive.limitValue?]
    split
    next other hword =>
      rw [LimitName.ofText?_eq_some_iff.1 hword, overrides_setLimit, Overrides.lookup_record]
      by_cases h : name = other
      · rw [if_pos h, if_pos (by rw [h]), Option.some_or]
      · have hne : other.word.toList ≠ name.word.toList := fun heq =>
          h (LimitName.toList_word_injective heq).symm
        rw [if_neg h, if_neg hne, Option.none_or]
    next hword =>
      have hne : word ≠ name.word.toList := by
        rintro rfl
        simp at hword
      rw [if_neg hne, Option.none_or]
  | _ => rfl

theorem lookup_overrides_foldl (directives : List Directive) (post : Document) (name : LimitName) :
    (directives.foldl apply post).overrides.lookup name =
      (directives.filterMap (Directive.limitValue? name)).getLast?.or
        (post.overrides.lookup name) := by
  induction directives generalizing post with
  | nil => rfl
  | cons d rest ih =>
    rw [List.foldl_cons, ih, lookup_overrides_apply, List.filterMap_cons]
    cases d.limitValue? name with
    | none => rfl
    | some value =>
      rw [List.getLast?_cons]
      cases (rest.filterMap (Directive.limitValue? name)).getLast? <;> rfl

end Document

/-! ### Lines -/

/-- The value that the line gives the limit, if it sets that limit. -/
def Text.limitValue? (t : Text) (name : LimitName) : Option Nat :=
  (Directive.ofText? t).bind (Directive.limitValue? name)

theorem Text.limitValue?_eq_some_iff {t : Text} {name : LimitName} {value : Nat} :
    t.limitValue? name = some value ↔ t.SetsLimit name.word.toList value := by
  rw [limitValue?, setsLimit_iff, Option.bind_eq_some_iff]
  constructor
  · rintro ⟨d, hread, hvalue⟩
    rwa [← Directive.limitValue?_eq_some_iff.1 hvalue]
  · intro hread
    exact ⟨_, hread, Directive.limitValue?_eq_some_iff.2 rfl⟩

theorem Text.limitValue?_eq_none_iff {t : Text} {name : LimitName} :
    t.limitValue? name = none ↔ ∀ value, ¬t.SetsLimit name.word.toList value := by
  simp only [Option.eq_none_iff_forall_ne_some, ne_eq, limitValue?_eq_some_iff]

/-- The values that physical lines give a limit, in order. -/
def limitValues (raws : List Text) (name : LimitName) : List Nat :=
  raws.filterMap fun raw => raw.trim.limitValue? name

theorem limitValues_append (front back : List Text) (name : LimitName) :
    limitValues (front ++ back) name = limitValues front name ++ limitValues back name :=
  List.filterMap_append

theorem limitValues_cons (raw : Text) (raws : List Text) (name : LimitName) :
    limitValues (raw :: raws) name =
      (raw.trim.limitValue? name).toList ++ limitValues raws name := by
  rw [limitValues, List.filterMap_cons]
  cases raw.trim.limitValue? name <;> rfl

theorem limitValues_eq_nil_iff {raws : List Text} {name : LimitName} :
    limitValues raws name = [] ↔
      ∀ raw ∈ raws, ∀ n, ¬raw.trim.SetsLimit name.word.toList n := by
  simp only [limitValues, List.filterMap_eq_nil_iff, limitValue?_eq_none_iff]

/-- The last line of the post that gives the limit a value gives it this one. -/
def Text.LastSets (post : Text) (name : LimitName) (value : Nat) : Prop :=
  ∃ front raw back, post.physicalLines = front ++ raw :: back ∧
    raw.trim.SetsLimit name.word.toList value ∧
    ∀ later ∈ back, ∀ n, ¬later.trim.SetsLimit name.word.toList n

/-- The last value that the lines of a post give a limit is in force, or else the default. -/
theorem get_limits_parse (defaults : Limits) (post : Text) (name : LimitName) :
    ((parse post).document.limits defaults).get name =
      (limitValues post.physicalLines name).getLast?.getD (defaults.get name) := by
  have hvalues : limitValues post.physicalLines name =
      (post.physicalLines.filterMap fun raw => Directive.ofText? raw.trim).filterMap
        (Directive.limitValue? name) := List.filterMap_filterMap.symm
  rw [Document.limits, Overrides.get_override (Document.wellFormed_parse post).overrides_nodup,
    document_parse, Document.ofDirectives, Document.lookup_overrides_foldl, hvalues]
  exact congrArg (Option.getD · _) Option.or_none

section Lines

variable {defaults : Limits} {post : Text}

/-- The last line that sets a limit is the one that counts. -/
theorem get_limits_parse_of_lastSets {name : LimitName} {value : Nat}
    (hlast : post.LastSets name value) :
    ((parse post).document.limits defaults).get name = value := by
  obtain ⟨front, raw, back, hlines, hvalue, hback⟩ := hlast
  rw [get_limits_parse, hlines, limitValues_append, limitValues_cons,
    limitValue?_eq_some_iff.2 hvalue, limitValues_eq_nil_iff.2 hback]
  simp

/-- A limit that no line sets is as the configuration has it. -/
theorem get_limits_parse_of_forall_not {name : LimitName}
    (h : ∀ raw ∈ post.physicalLines, ∀ n, ¬raw.trim.SetsLimit name.word.toList n) :
    ((parse post).document.limits defaults).get name = defaults.get name := by
  rw [get_limits_parse, limitValues_eq_nil_iff.2 h]
  rfl

/-- Lines that set no limit may be left out. -/
theorem limits_parse_of_not_setsLimit {post' raw : Text} {front back : List Text}
    (h : post.physicalLines = front ++ raw :: back) (h' : post'.physicalLines = front ++ back)
    (hraw : ∀ (name : LimitName) (n : Nat), ¬raw.trim.SetsLimit name.word.toList n) :
    (parse post').document.limits defaults = (parse post).document.limits defaults := by
  refine Limits.ext_get fun name => ?_
  rw [get_limits_parse, get_limits_parse, h, h', limitValues_append, limitValues_append,
    limitValues_cons, limitValue?_eq_none_iff.2 (hraw name), Option.toList_none, List.nil_append]

end Lines

theorem Text.SetsLimit.bounds {t name : Text} {value : Nat} (h : t.SetsLimit name value) :
    1 ≤ value ∧ value < 2 ^ 64 := by
  obtain ⟨gap, gap', digits, hproper, -, rfl⟩ := h
  exact (Directive.proper_limit_iff.1 hproper).2

/-- No limit in force is zero unless the configuration has one that is. -/
theorem one_le_get_limits_parse {defaults : Limits} (h : ∀ name, 1 ≤ defaults.get name)
    (post : Text) (name : LimitName) : 1 ≤ ((parse post).document.limits defaults).get name := by
  rw [get_limits_parse]
  cases hlast : (limitValues post.physicalLines name).getLast? with
  | none => exact h name
  | some value =>
    obtain ⟨raw, -, hraw⟩ := List.mem_filterMap.1 (List.mem_of_getLast? hlast)
    exact (SetsLimit.bounds (limitValue?_eq_some_iff.1 hraw)).1

/-! ### The limits of a post -/

/-- A line about limits is no error, whatever it says. -/
theorem head?_ne_of_mem_errors {post : Text} {e : SyntaxError} (h : e ∈ (parse post).errors) :
    e.line.text.head? ≠ some '^' := by
  obtain ⟨hstrict, hhead, -⟩ := refusedMark?_eq_some_iff.1 (refused_of_mem_errors h).2
  rw [hhead]
  revert hstrict
  cases e.mark <;> decide

/-- A line whose number is out of bounds, or whose word stands for no limit, sets no limit. -/
theorem not_setsLimit_line {gap word gap' digits : Text}
    (hform : Layout.LimitForm gap word gap' digits)
    (h : Nat.ofDigitChars 10 digits 0 = 0 ∨ 2 ^ 64 ≤ Nat.ofDigitChars 10 digits 0 ∨
      ∀ name : LimitName, word ≠ name.word.toList) (name : LimitName) (n : Nat) :
    ¬(Layout.limit gap word gap' digits).line.SetsLimit name.word.toList n := by
  have hbound : numberBound = 2 ^ 64 := by decide
  rw [setsLimit_line_iff hform, hbound]
  rintro ⟨hword, hvalue, hpos, hlt⟩
  rcases h with h | h | h
  · omega
  · omega
  · exact h name hword.symm

/-- Each limit in force for a post is the value of the last line that sets it, and that of the
configuration where no line does. Lines that set no limit have no part in it: those with a number
out of bounds, those with a word that stands for no limit, and all others that are not of the
grammar. No line about limits is an error. The post is checked against these limits, each of its
parts against that of its own name, and so is what is rendered of it. None of them is zero if the
configuration is one that a run can work with. -/
theorem limits_inForce (config : Config) (post : Text) :
    let document := (parse post).document
    let inForce := document.limits config.limits
    (∀ name value, post.LastSets name value →
        inForce.get name = value ∧ 1 ≤ value ∧ value < 2 ^ 64) ∧
      (∀ name : LimitName,
        (∀ raw ∈ post.physicalLines, ∀ n, ¬raw.trim.SetsLimit name.word.toList n) →
        inForce.get name = config.limits.get name) ∧
      (∀ post' front raw back, post.physicalLines = front ++ raw :: back →
        post'.physicalLines = front ++ back →
        (∀ (name : LimitName) (n : Nat), ¬raw.trim.SetsLimit name.word.toList n) →
        (parse post').document.limits config.limits = inForce) ∧
      (∀ gap word gap' digits, Layout.LimitForm gap word gap' digits →
        (Nat.ofDigitChars 10 digits 0 = 0 ∨ 2 ^ 64 ≤ Nat.ofDigitChars 10 digits 0 ∨
          ∀ name : LimitName, word ≠ name.word.toList) →
        ∀ (name : LimitName) (n : Nat),
          ¬(Layout.limit gap word gap' digits).line.SetsLimit name.word.toList n) ∧
      (∀ e ∈ (parse post).errors, e.line.text.head? ≠ some '^') ∧
      (∀ rules, document.validate config.limits rules =
        document.content.validate inForce rules) ∧
      (∀ rules, document.Measured inForce.get (document.validate config.limits rules)) ∧
      (∀ output, document.checkOutput config.limits output =
        document.content.checkOutput inForce output) ∧
      (∀ output v, document.checkOutput config.limits output = some v ↔
        inForce.get .total < output.length ∧
          v = .postTooLong output.length (inForce.get .total)) ∧
      ∀ reader disk userConfig asked, Config.load reader disk userConfig asked = .ok config →
        ∀ name, 1 ≤ inForce.get name := by
  intro document inForce
  refine ⟨fun name value h => ?_, fun name h => ?_, fun post' front raw back hpost hpost' h => ?_,
    fun gap word gap' digits => not_setsLimit_line, fun e => head?_ne_of_mem_errors,
    document.validate_eq_content _, fun rules => document.measured_validate _ rules,
    document.checkOutput_eq_content _, fun output v => Document.checkOutput_eq_some_iff,
    fun reader disk userConfig asked h => ?_⟩
  · refine ⟨get_limits_parse_of_lastSets h, ?_⟩
    obtain ⟨-, raw, -, -, hraw, -⟩ := h
    exact hraw.bounds
  · exact get_limits_parse_of_forall_not h
  · exact limits_parse_of_not_setsLimit hpost hpost' h
  · exact one_le_get_limits_parse
      (Config.one_le_get_of_zeroLimit? (Config.zeroLimit?_of_load h)) post

/-- A configuration with limits of its own for titles and for the rendered form. -/
def narrow : Config where
  limits := { title := 12, total := 300 }

/-- A disk with one file, which describes that configuration. -/
def narrowDisk : Disk where
  isThere path := path == localConfig
  read _ := .ok (encodeUtf8 "[limits]\ntitle = 12\ntotal = 300".toList)
  refusal? _ := none

/-- Lines that set the limit for titles twice. -/
def limiting : List Text := ["^ title 12", " ^\ttitle  007\r"].map String.toList

/-- Lines that come to nothing. -/
def idle : List Text :=
  ["^ Title 9", "^ title 18446744073709551616", "^ title 7x"].map String.toList

/-- A post that sets its limit for titles twice, with lines after that which come to nothing. -/
def contested : Text := ['\n'].intercalate (limiting ++ "^ title 0".toList :: idle)

/-- The same post with one of those lines left out. -/
def settled : Text := ['\n'].intercalate (limiting ++ idle)

theorem load_narrowDisk : Config.load Config.ofToml narrowDisk [] none = .ok narrow := by
  have hthere : narrowDisk.isThere localConfig = true := beq_self_eq_true _
  have hselect : Config.select narrowDisk [] none = some localConfig := by
    rw [Config.select, List.find?_cons_of_pos hthere]
  have hconfig : Config.ofToml "[limits]\ntitle = 12\ntotal = 300".toList = .ok narrow := by
    decide +kernel
  have hbytes : Config.ofBytes Config.ofToml
      (encodeUtf8 "[limits]\ntitle = 12\ntotal = 300".toList) = .ok narrow :=
    Config.ofBytes_eq_ok_iff.2 ⟨_, decodeUtf8_encodeUtf8 _, hconfig, by decide⟩
  rw [Config.load_eq_ofBytes hselect hthere rfl, hbytes]

theorem lastSets_contested : contested.LastSets .title 7 := by
  have hback : limitValues ("^ title 0".toList :: idle) .title = [] := by decide +kernel
  exact ⟨["^ title 12".toList], " ^\ttitle  007\r".toList, "^ title 0".toList :: idle,
    by decide +kernel, setsLimit_iff.2 (by decide +kernel), limitValues_eq_nil_iff.1 hback⟩

theorem limits_inForce_contested :
    let inForce := (parse contested).document.limits narrow.limits
    contested.LastSets .title 7 ∧ inForce.get .title = 7 ∧
      (∀ raw ∈ contested.physicalLines, ∀ n, ¬raw.trim.SetsLimit "total".toList n) ∧
      inForce.get .total = 300 ∧
      (parse contested).document.checkOutput narrow.limits (List.replicate 301 'x') =
        some (.postTooLong 301 300) ∧
      Layout.LimitForm [' '] "title".toList [' '] ['0'] ∧
      (parse settled).document.limits narrow.limits = inForce ∧
      Config.load Config.ofToml narrowDisk [] none = .ok narrow ∧ ∀ name, 1 ≤ inForce.get name := by
  intro inForce
  obtain ⟨hlast, hdefault, hdrop, hline, -, -, -, -, hcheck, hload⟩ :=
    limits_inForce narrow contested
  have htotal : limitValues contested.physicalLines .total = [] := by decide +kernel
  have hnone : ∀ raw ∈ contested.physicalLines, ∀ n, ¬raw.trim.SetsLimit "total".toList n :=
    limitValues_eq_nil_iff.1 htotal
  have hform : Layout.LimitForm [' '] "title".toList [' '] ['0'] := by
    constructor <;> decide
  have hzero := hline _ _ _ _ hform (.inl rfl)
  have hthree : inForce.get .total = 300 := hdefault .total hnone
  have hover : (parse contested).document.checkOutput narrow.limits (List.replicate 301 'x') =
      some (.postTooLong 301 300) := by
    refine (hcheck _ _).2 ⟨?_, ?_⟩
    · rw [hthree, List.length_replicate]
      decide
    · rw [hthree, List.length_replicate]
  refine ⟨lastSets_contested, (hlast _ _ lastSets_contested).1, hnone, hthree, hover, hform,
    hdrop settled limiting "^ title 0".toList idle ?_ ?_ hzero, load_narrowDisk,
    hload _ _ _ _ load_narrowDisk⟩
  · decide +kernel
  · decide +kernel

end PostMarkup
