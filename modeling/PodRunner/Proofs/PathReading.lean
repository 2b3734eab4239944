import PodRunner.ModelPath

/-!
# What a model path says

A path is read from its end, so what stands before the last two parts is all base path, with the slashes in it.
The version counts as a number: zeros and a plus sign in front of it do not matter, and neither do slashes behind
it. `Spells` is that grammar, and the paths that are read are those that it spells, each in one way.
-/

namespace PodRunner

namespace Text

def decimal (digits : List Char) : Nat := digits.foldl (fun n c => n * 10 + (c.toNat - '0'.toNat)) 0

theorem readDigit_ten (n : Nat) (c : Char) :
    readDigit 10 n c = if isDigit c then some (n * 10 + (c.toNat - '0'.toNat)) else none := by
  unfold readDigit digitValue? isDigit
  by_cases hdigit : '0' ≤ c ∧ c ≤ '9'
  · have hlt : c.toNat - '0'.toNat < 10 := by
      have hle : c.toNat ≤ '9'.toNat := hdigit.2
      have hnine : '9'.toNat = 57 := rfl
      have hzero : '0'.toNat = 48 := rfl
      omega
    simp only [hdigit, if_pos hlt, and_self, if_true, decide_true]
  · have hletter : ∀ n, ¬ n + 10 < 10 := by omega
    simp only [hdigit, if_false, decide_false, Bool.false_eq_true]
    split <;> rename_i heq
    · split at heq
      · cases heq
        exact if_neg (hletter _)
      · split at heq
        · cases heq
          exact if_neg (hletter _)
        · cases heq
    · rfl

theorem readDigits?_ten_eq_some_iff {cs : List Char} {n : Nat} :
    readDigits? 10 cs = some n ↔ cs ≠ [] ∧ (∀ c ∈ cs, isDigit c = true) ∧ decimal cs = n := by
  have hfold : ∀ (cs : List Char) (m : Nat), cs.foldlM (readDigit 10) m = some n ↔
      (∀ c ∈ cs, isDigit c = true) ∧ cs.foldl (fun n c => n * 10 + (c.toNat - '0'.toNat)) m = n := by
    intro cs
    induction cs with
    | nil => simp
    | cons c cs ih =>
      intro m
      rw [List.foldlM_cons, readDigit_ten]
      by_cases hc : isDigit c = true
      · simp [hc, ih]
      · simp [hc]
  cases cs with
  | nil => simp [readDigits?]
  | cons c cs =>
    rw [readDigits?, hfold, decimal]
    simp

theorem isDigit_eq (c : Char) : isDigit c = c.isDigit := by
  rw [isDigit, Bool.decide_and]
  rfl

theorem decimal_toDigits (n : Nat) : decimal (Nat.toDigits 10 n) = n := by
  have hfold : ∀ digits, decimal digits = Nat.ofDigitChars 10 digits 0 := fun digits => by
    simp only [decimal, Nat.ofDigitChars, Nat.mul_comm]
  rw [hfold, Nat.ofDigitChars_toDigits (by decide) (by decide)]

end Text

namespace ModelPath

/-- The text of a version: at most one plus sign, and then decimal digits. -/
def IsVersion (text : String) (version : UInt64) : Prop :=
  ∃ digits, (text.toList = digits ∨ text.toList = '+' :: digits) ∧ digits ≠ [] ∧
    (∀ c ∈ digits, Text.isDigit c = true) ∧ Text.decimal digits = version.toNat

/-- A path of these parts, with any number of slashes at its end. -/
structure Spells (path : String) (parts : ModelPath) (version slashes : String) : Prop where
  path_eq : path = parts.basePath ++ "/" ++ parts.modelName ++ "/" ++ version ++ slashes
  basePath_ne : parts.basePath ≠ ""
  modelName_ne : parts.modelName ≠ ""
  modelName_slash : '/' ∉ parts.modelName.toList
  version_eq : IsVersion version parts.version
  slashes_eq : ∀ c ∈ slashes.toList, c = '/'

theorem splitSlash?_eq_some {cs before rest : List Char} (h : splitSlash? cs = some (before, rest)) :
    cs = before ++ '/' :: rest ∧ '/' ∉ before := by
  unfold splitSlash? at h
  split at h
  · cases h
  · rename_i c tail hdrop
    obtain ⟨rfl, rfl⟩ := Prod.mk.inj (Option.some.inj h)
    have hslash : c = '/' := by
      have hhead := List.head?_dropWhile_not (· != '/') cs
      rw [hdrop] at hhead
      simpa using hhead
    constructor
    · rw [← hslash, ← hdrop, hslash, List.takeWhile_append_dropWhile]
    · intro hmem
      have hall := List.all_eq_true.1 (List.all_takeWhile (p := (· != '/')) (l := cs)) _ hmem
      cases hall

theorem readVersion?_eq_some {cs : List Char} {version : UInt64} (h : readVersion? cs = some version) :
    ∃ digits, (cs = digits ∨ cs = '+' :: digits) ∧ Text.readDigits? 10 digits = some version.toNat := by
  have hfits : ∀ {n : Nat}, (if n < UInt64.size then some (UInt64.ofNat n) else none) = some version →
      n = version.toNat := by
    intro n hn
    split at hn
    · rename_i hlt
      rw [← Option.some.inj hn, UInt64.toNat_ofNat_of_lt' hlt]
    · cases hn
  unfold readVersion? at h
  split at h <;> dsimp only at h <;> split at h
  · rename_i hread
    exact ⟨_, Or.inr rfl, hread.trans (congrArg some (hfits h))⟩
  · cases h
  · rename_i hread
    exact ⟨_, Or.inl rfl, hread.trans (congrArg some (hfits h))⟩
  · cases h

theorem isVersion_of_readVersion? {cs : List Char} {version : UInt64}
    (h : readVersion? cs = some version) : IsVersion (String.ofList cs) version := by
  obtain ⟨digits, hwritten, hread⟩ := readVersion?_eq_some h
  obtain ⟨hsome, hall, hvalue⟩ := Text.readDigits?_ten_eq_some_iff.1 hread
  exact ⟨digits, by rwa [String.toList_ofList], hsome, hall, hvalue⟩

theorem spells_of_parse {path : String} {parts : ModelPath} (h : parse path = .ok parts) :
    ∃ version slashes, Spells path parts version slashes := by
  unfold parse at h
  split at h
  · rename_i read hread
    obtain rfl := Except.ok.inj h
    unfold readReversed? at hread
    simp only [Option.bind_eq_bind, Option.bind_eq_some_iff] at hread
    obtain ⟨⟨version, rest⟩, hversion, ⟨name, base⟩, hname, hread⟩ := hread
    dsimp only at hname hread
    obtain ⟨hfirst, _⟩ := splitSlash?_eq_some hversion
    obtain ⟨rfl, hslash⟩ := splitSlash?_eq_some hname
    split at hread
    · cases hread
    · rename_i hempty
      simp only [Bool.or_eq_true, List.isEmpty_iff, not_or] at hempty
      simp only [Option.bind_eq_some_iff] at hread
      obtain ⟨number, hnumber, hparts⟩ := hread
      obtain rfl := Option.some.inj hparts
      let slashes := path.toList.reverse.takeWhile (· == '/')
      have hpath : path.toList.reverse = slashes ++ (version ++ '/' :: (name ++ '/' :: base)) := by
        rw [← hfirst, List.takeWhile_append_dropWhile]
      have hwhole : path.toList =
          base.reverse ++ '/' :: (name.reverse ++ '/' :: (version.reverse ++ slashes.reverse)) := by
        rw [← List.reverse_reverse path.toList, hpath]
        simp
      have hslashes : ∀ c ∈ slashes, c = '/' := fun c hc => by
        simpa using List.all_eq_true.1 List.all_takeWhile c hc
      refine ⟨String.ofList version.reverse, String.ofList slashes.reverse, ?_⟩
      constructor
      case path_eq =>
        apply String.toList_inj.1
        simp only [String.toList_append, String.toList_ofList, hwhole, List.append_assoc]
        rfl
      case basePath_ne => simpa using hempty.2
      case modelName_ne => simpa using hempty.1
      case modelName_slash => simpa using hslash
      case version_eq => exact isVersion_of_readVersion? hnumber
      case slashes_eq => simpa using hslashes
  · cases h

/-! ### What is spelled is read -/

theorem splitSlash?_append {before : List Char} (h : '/' ∉ before) (rest : List Char) :
    splitSlash? (before ++ '/' :: rest) = some (before, rest) := by
  have hall : ∀ c ∈ before, (c != '/') = true := fun c hc => bne_iff_ne.2 fun heq => h (heq ▸ hc)
  rw [splitSlash?, List.dropWhile_append_of_pos hall, List.takeWhile_append_of_pos hall]
  simp

section Version

variable {text : String} {version : UInt64}

theorem readVersion?_of_isVersion (h : IsVersion text version) : readVersion? text.toList = some version := by
  obtain ⟨digits, hwritten, hsome, hall, hvalue⟩ := h
  have hread : Text.readDigits? 10 digits = some version.toNat :=
    Text.readDigits?_ten_eq_some_iff.2 ⟨hsome, hall, hvalue⟩
  have hfits : version.toNat < UInt64.size := version.toNat_lt
  have hnumber : UInt64.ofNat version.toNat = version := UInt64.ofNat_toNat
  rcases hwritten with htext | htext
  · -- a digit in front is no plus sign, so all of the text is read
    obtain ⟨c, rest, rfl⟩ := List.exists_cons_of_ne_nil hsome
    have hplus : c ≠ '+' := by
      rintro rfl
      have hdigit := hall '+' (by simp)
      revert hdigit
      decide
    rw [htext, readVersion?]
    · simp only [hread, hfits, if_true, hnumber]
    · rintro tail heq
      exact hplus (List.cons.inj heq).1
  · rw [htext, readVersion?]
    simp only [hread, hfits, if_true, hnumber]

theorem IsVersion.no_slash (h : IsVersion text version) : '/' ∉ text.toList := by
  obtain ⟨digits, hwritten, _, hall, _⟩ := h
  have hdigits : '/' ∉ digits := fun hmem => by
    have hdigit := hall '/' hmem
    revert hdigit
    decide
  rcases hwritten with htext | htext <;> rw [htext]
  · exact hdigits
  · simpa using hdigits

theorem IsVersion.ne_nil (h : IsVersion text version) : text.toList ≠ [] := by
  obtain ⟨digits, hwritten, hsome, _⟩ := h
  rcases hwritten with htext | htext <;> rw [htext]
  · exact hsome
  · exact List.cons_ne_nil _ _

theorem isVersion_toString (version : UInt64) : IsVersion (toString version.toNat) version := by
  refine ⟨Nat.toDigits 10 version.toNat, Or.inl Nat.toList_repr, Nat.toDigits_ne_nil, ?_, Text.decimal_toDigits _⟩
  intro c hc
  rw [Text.isDigit_eq]
  exact Nat.isDigit_of_mem_toDigits (by decide) (by decide) hc

end Version

section Whole

variable {path version slashes : String} {parts : ModelPath}

theorem Spells.reverse_eq (h : Spells path parts version slashes) :
    path.toList.reverse = slashes.toList.reverse ++ (version.toList.reverse ++
      '/' :: (parts.modelName.toList.reverse ++ '/' :: parts.basePath.toList.reverse)) := by
  have hslash : "/".toList = ['/'] := rfl
  simp [h.path_eq, hslash]

/-- The slashes at the end go as far as the version, which ends with a digit. -/
theorem Spells.cut (h : Spells path parts version slashes) :
    path.toList.reverse.takeWhile (· == '/') = slashes.toList.reverse ∧
      path.toList.reverse.dropWhile (· == '/') = version.toList.reverse ++
        '/' :: (parts.modelName.toList.reverse ++ '/' :: parts.basePath.toList.reverse) := by
  have hall : ∀ c ∈ slashes.toList.reverse, (c == '/') = true := fun c hc =>
    beq_iff_eq.2 (h.slashes_eq c (List.mem_reverse.1 hc))
  obtain ⟨last, rest, hlast⟩ := List.exists_cons_of_ne_nil
    (fun hnil => h.version_eq.ne_nil (List.reverse_eq_nil_iff.1 hnil))
  have hdigit : last ≠ '/' := by
    rintro rfl
    apply h.version_eq.no_slash
    rw [← List.mem_reverse, hlast]
    exact List.mem_cons_self
  rw [h.reverse_eq, List.takeWhile_append_of_pos hall, List.dropWhile_append_of_pos hall, hlast]
  simp [hdigit]

theorem Spells.readReversed?_eq (h : Spells path parts version slashes) :
    readReversed? path.toList.reverse = some parts := by
  have hversion : '/' ∉ version.toList.reverse := by simpa using h.version_eq.no_slash
  have hname : '/' ∉ parts.modelName.toList.reverse := by simpa using h.modelName_slash
  rw [readReversed?, h.cut.2, splitSlash?_append hversion]
  simp [splitSlash?_append hname, h.modelName_ne, h.basePath_ne, readVersion?_of_isVersion h.version_eq]

theorem parse_of_spells (h : Spells path parts version slashes) : parse path = .ok parts := by
  rw [parse, h.readReversed?_eq]

theorem Spells.unique (h : Spells path parts version slashes) {other : ModelPath} {version' slashes' : String}
    (h' : Spells path other version' slashes') : parts = other ∧ version = version' ∧ slashes = slashes' := by
  have hparts : parts = other := Except.ok.inj ((parse_of_spells h).symm.trans (parse_of_spells h'))
  subst hparts
  have hslashes : slashes.toList.reverse = slashes'.toList.reverse := h.cut.1.symm.trans h'.cut.1
  have hversion : version.toList.reverse = version'.toList.reverse :=
    List.append_cancel_right (h.cut.2.symm.trans h'.cut.2)
  refine ⟨rfl, ?_, ?_⟩
  · exact String.toList_inj.1 (List.reverse_inj.1 hversion)
  · exact String.toList_inj.1 (List.reverse_inj.1 hslashes)

end Whole

theorem parse_eq_ok_iff {path : String} {parts : ModelPath} :
    parse path = .ok parts ↔ ∃ version slashes, Spells path parts version slashes := by
  constructor
  · exact spells_of_parse
  · rintro ⟨version, slashes, h⟩
    exact parse_of_spells h

theorem parse_eq_error_iff {path : String} {e : Error} :
    parse path = .error e ↔ (∀ parts version slashes, ¬ Spells path parts version slashes) ∧ e = invalid path := by
  constructor
  · intro h
    refine ⟨fun parts version slashes hspells => ?_, ?_⟩
    · rw [parse_of_spells hspells] at h
      cases h
    · unfold parse at h
      split at h
      · cases h
      · exact (Except.error.inj h).symm
  · rintro ⟨hnone, rfl⟩
    unfold parse
    split
    · rename_i parts hread
      have hparsed : parse path = .ok parts := by rw [parse, hread]
      obtain ⟨version, slashes, hspells⟩ := spells_of_parse hparsed
      exact absurd hspells (hnone parts version slashes)
    · rfl

/-- The rendering of parts that some path has, with slashes behind it, is one of their paths. -/
theorem spells_render {parts : ModelPath} (hbase : parts.basePath ≠ "") (hname : parts.modelName ≠ "")
    (hslash : '/' ∉ parts.modelName.toList) {slashes : String} (hslashes : ∀ c ∈ slashes.toList, c = '/') :
    Spells (parts.render ++ slashes) parts (toString parts.version.toNat) slashes :=
  ⟨rfl, hbase, hname, hslash, isVersion_toString parts.version, hslashes⟩

/-- The paths that are read are those that some parts spell, each by one way, and the parts are what is read.
Rendered parts are read again. -/
theorem parse_spelled (path : String) :
    (∀ parts, parse path = .ok parts ↔ ∃ version slashes, Spells path parts version slashes) ∧
      (∀ parts version slashes other version' slashes', Spells path parts version slashes →
        Spells path other version' slashes' → parts = other ∧ version = version' ∧ slashes = slashes') ∧
      (∀ e, parse path = .error e ↔ (∀ parts version slashes, ¬ Spells path parts version slashes) ∧
        e = .invalidConfig s!"<{path}> is not a <base_path>/<model_name>/<version> model path") ∧
      (∀ parts : ModelPath, parts.basePath ≠ "" → parts.modelName ≠ "" → '/' ∉ parts.modelName.toList →
        ∀ slashes : String, (∀ c ∈ slashes.toList, c = '/') → parse (parts.render ++ slashes) = .ok parts) ∧
      ∀ parts, parse path = .ok parts → parse parts.render = .ok parts := by
  refine ⟨fun parts => parse_eq_ok_iff, fun _ _ _ _ _ _ h h' => h.unique h', fun e => parse_eq_error_iff, ?_, ?_⟩
  · intro parts hbase hname hslash slashes hslashes
    exact parse_of_spells (spells_render hbase hname hslash hslashes)
  · intro parts hparsed
    obtain ⟨version, slashes, h⟩ := spells_of_parse hparsed
    have hrendered : Spells (parts.render ++ "") parts (toString parts.version.toNat) "" :=
      spells_render h.basePath_ne h.modelName_ne h.modelName_slash (by simp)
    rw [String.append_empty] at hrendered
    exact parse_of_spells hrendered

/-- A base path may end with a slash. -/
example : parse "/models//m/+007//" = .ok ⟨"/models/", "m", 7⟩ := by rfl

end ModelPath

end PodRunner
