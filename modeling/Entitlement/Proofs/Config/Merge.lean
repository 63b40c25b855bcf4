import Entitlement.Proofs.Config.Literal

/-!
Layers merge field by field. Each field of a configuration that is loaded is what the environment gives for it, else
what the file gives, else the default, whatever the other fields are; and a configuration is loaded if and only if what
the layers make together is complete and fits (`layers_merge`).
-/

namespace Entitlement.ClientConfig

abbrev Layer := (f : Field) → Option f.Value

/-- What the entries of a file give for a field. The last one for the field decides. -/
inductive EntriesGive (entries : List (String × Setting)) (f : Field) : Option f.Value → Prop
  | nothing (others : ∀ e ∈ entries, Settings.settingNamed e.1 ≠ f.key) : EntriesGive entries f none
  | value {before after : List (String × Setting)} {setting : Setting} {v : f.Value}
      (listed : entries = before ++ (f.key, setting) :: after) (reads : f.read setting = .ok v)
      (last : ∀ e ∈ after, Settings.settingNamed e.1 ≠ f.key) : EntriesGive entries f (some v)

inductive FileGives (files : Directory) : Option String → Layer → Prop
  | unused : FileGives files none fun _ => none
  | used {name text : String} {format : FileFormat} {entries : List (String × Setting)} {layer : Layer}
      (found : FileFormat.find? files name = some (format, text)) (parsed : format.entries? text = some entries)
      (gives : ∀ f, EntriesGive entries f (layer f)) : FileGives files (some name) layer

/-- A text that reads neither as a switch nor as a number. -/
def IsPlain (s : String) : Prop :=
  Text.lower s ≠ "true" ∧ Text.lower s ≠ "false" ∧ (∀ i, ¬ Decimal.Spells s.toList i) ∧ Binary64.read? s = none

instance (s : String) : Decidable (IsPlain s) :=
  decidable_of_iff (Text.lower s ≠ "true" ∧ Text.lower s ≠ "false" ∧ (Decimal.readInt64 s).toOption = none ∧
    Binary64.read? s = none) <| and_congr_right' <| and_congr_right' <| and_congr_left' <| by
      constructor
      · intro unread i spells
        rw [Decimal.readInt64_eq_ok_iff.mpr spells] at unread
        cases unread
      · intro unspelled
        cases read : Decimal.readInt64 s with
        | error e => rfl
        | ok i => exact (unspelled i (Decimal.readInt64_eq_ok_iff.mp read)).elim

/-- Texts of the environment that are written for what a field is to hold: plain ones for themselves, whole numbers
above zero, and the two words for a switch. -/
inductive WrittenFor : (f : Field) → String → f.Value → Prop
  | text {s : TextSetting} {t : String} (plain : IsPlain t) : WrittenFor (.text s) t t
  | time {s : TimeSetting} {t : String} {i : Int64} {n : UInt64} (spells : Decimal.Spells t.toList i)
      (positive : 0 < i.toInt) (same : (n.toNat : Int) = i.toInt) : WrittenFor (.time s) t n
  | failOpen {t : String} {b : Bool} (word : Text.lower t = Text.shownBool b) : WrittenFor .failOpen t b

/-- What the environment gives for a field. The last variable for the field decides. -/
inductive EnvironmentGives (environment : List (String × String)) (f : Field) : Option f.Value → Prop
  | nothing (others : ∀ e ∈ environment, Settings.settingOf? e.1 ≠ some f.key) : EnvironmentGives environment f none
  | value {before after : List (String × String)} {t : String} {v : f.Value}
      (listed : environment = before ++ (f.variableName, t) :: after) (written : WrittenFor f t v)
      (last : ∀ e ∈ after, Settings.settingOf? e.1 ≠ some f.key) : EnvironmentGives environment f (some v)

/-- Each field is that of the upper layer, else of the lower one, else the default. -/
def Merges (upper lower : Layer) (c : ClientConfig) : Prop :=
  ∀ f : Field, some (c.value f) = (upper f).or ((lower f).or f.standard?)

/-! ### One layer -/

theorem toLower_digit {d : Char} (digit : Decimal.isDigit d = true) : d.toLower = d := by
  have bounds := Decimal.toNat_bounds digit
  delta Char.toLower
  refine dif_neg fun capital => ?_
  have above : 'A'.toNat ≤ d.toNat := UInt32.le_iff_toNat_le.mp capital.1
  have first : 'A'.toNat = 0x41 := rfl
  omega

theorem ofText_of_spells {t : String} {i : Int64} (spells : Decimal.Spells t.toList i) : Setting.ofText t = .int i := by
  obtain ⟨d, own, digit⟩ := spells.exists_digit
  have bounds := Decimal.toNat_bounds digit
  have kept : d ∈ (Text.lower t).toList := Text.mem_lower (by omega) (toLower_digit digit) own
  have noWord {word : String} (letters : word.toList.any Decimal.isDigit = false) : Text.lower t ≠ word := by
    rintro rfl
    exact List.any_eq_false.mp letters d kept digit
  rw [Setting.ofText]
  rw [if_neg (noWord (by decide)), if_neg (noWord (by decide)), Decimal.readInt64_eq_ok_iff.mpr spells]

theorem ofText_of_plain {t : String} (plain : IsPlain t) : Setting.ofText t = .text t := by
  obtain ⟨noTrue, noFalse, noInteger, noFloat⟩ := plain
  rw [Setting.ofText]
  rw [if_neg noTrue, if_neg noFalse]
  split
  · next read => exact (noInteger _ (Decimal.readInt64_eq_ok_iff.mp read)).elim
  · rw [noFloat]

theorem read_written {f : Field} {t : String} {v : f.Value} (written : WrittenFor f t v) :
    f.read (.ofText t) = .ok v := by
  cases written with
  | text plain =>
    rw [ofText_of_plain plain]
    rfl
  | @time s _ i n spells positive same =>
    have notBelow : ¬ i < 0 := by
      rw [Int64.lt_iff_toInt_lt]
      exact Int.not_lt.mpr (Int.le_of_lt positive)
    have whole : Saturating.toUInt64 i = n := by
      rw [← UInt64.toNat_inj, Saturating.toNat_toUInt64, ← same]
      rfl
    rw [ofText_of_spells spells]
    show (if i < 0 then _ else Except.ok (Saturating.toUInt64 i)) = _
    rw [if_neg notBelow, whole]
  | @failOpen _ b word =>
    have taken : Setting.ofText t = .bool b := by
      rw [Setting.ofText]
      rw [word]
      cases b <;> rfl
    rw [taken]
    rfl

theorem read_ne_table {f : Field} {setting : Setting} {v : f.Value} (reads : f.read setting = .ok v)
    (entries : List (String × Setting)) : setting ≠ .table entries := by
  rintro rfl
  rcases f with s | s | _ <;> cases reads

theorem setting?_entries {entries : List (String × Setting)} {f : Field} {given : Option f.Value}
    (gives : EntriesGive entries f given) (origin : SettingOrigin) :
    setting? (Settings.withEntries .empty origin entries) f.key f.read = .ok given := by
  obtain ⟨_, whole, small⟩ := f.variableName_key
  cases gives with
  | nothing others => exact setting?_of_none (Settings.find?_withEntries_of_ne others)
  | value listed reads last =>
    have named : Settings.settingNamed f.key = f.key := by rw [Settings.settingNamed, whole, small]
    rw [listed]
    exact setting?_of_find?
      (Settings.find?_withEntries_last named (congrArg Prod.snd whole) (read_ne_table reads) last) reads

theorem setting?_environment {settings : Settings} {environment : List (String × String)} {f : Field}
    {upper lower : Option f.Value} (gives : EnvironmentGives environment f upper)
    (below : setting? settings f.key f.read = .ok lower) :
    setting? (settings.withEnvironment environment) f.key f.read = .ok (upper.or lower) := by
  obtain ⟨ours, whole, small⟩ := f.variableName_key
  cases gives with
  | nothing others =>
    rw [setting?, Settings.find?_withEnvironment_of_ne others]
    exact below
  | value listed written last =>
    rw [listed]
    exact setting?_of_find? (Settings.find?_withEnvironment_last ours whole small last) (read_written written)

/-! ### All layers -/

theorem load_eq_ok_iff {files : Directory} {file : Option String} {environment : List (String × String)}
    {upper lower : Layer} (below : FileGives files file lower) (above : ∀ f, EnvironmentGives environment f (upper f))
    {c : ClientConfig} : load files file environment = .ok c ↔ Merges upper lower c ∧ c.validate = .ok () := by
  have layered {settings : Settings} (gives : ∀ f : Field, setting? settings f.key f.read = .ok (lower f)) :
      ofLayers settings environment = .ok c ↔ Merges upper lower c ∧ c.validate = .ok () := by
    rw [ofLayers_eq_ok_iff, ofSettings_eq_ok_iff]
    refine and_congr_left' (forall_congr' fun f => ?_)
    rw [setting?_environment (above f) (gives f), ← Option.or_assoc]
    constructor
    · rintro ⟨given, same, value⟩
      cases same
      exact value.symm
    · exact fun value => ⟨_, rfl, value.symm⟩
  cases below with
  | unused => exact layered fun f => setting?_of_none rfl
  | @used name text format entries _ found parsed gives =>
    have read : readFile files name = .ok (Settings.withEntries .empty (.file name) entries) := by
      rw [readFile, found, Option.bind_some]
      dsimp only
      rw [parsed]
    rw [load, ofFile, bind_of_ok read]
    exact layered fun f => setting?_entries (gives f) _

/-- Each field is what the environment gives for it, else what the file gives, else the default, whatever the other
fields are. -/
theorem layers_merge :
    (∀ files file environment c, load files file environment = .ok c → c.validate = .ok ()) ∧
    ∀ files file environment (upper lower : Layer), FileGives files file lower →
      (∀ f, EnvironmentGives environment f (upper f)) →
      ((∃ c, load files file environment = .ok c) ↔
        (∀ s : TextSetting, ((upper (.text s)).or (lower (.text s))).isSome) ∧
          ∃ c, Merges upper lower c ∧ c.validate = .ok ()) ∧
      ∀ c, load files file environment = .ok c → Merges upper lower c := by
  refine ⟨fun files file environment c loaded => (load_ok loaded).2, ?_⟩
  intro files file environment upper lower below above
  refine ⟨⟨?_, ?_⟩, fun c loaded => ((load_eq_ok_iff below above).mp loaded).1⟩
  · rintro ⟨c, loaded⟩
    obtain ⟨merges, valid⟩ := (load_eq_ok_iff below above).mp loaded
    refine ⟨fun s => ?_, c, merges, valid⟩
    -- A text has no default.
    have given : some (c.text s) = (upper (.text s)).or ((lower (.text s)).or none) := merges (.text s)
    rw [Option.or_none] at given
    rw [← given]
    rfl
  · rintro ⟨_, c, fits⟩
    exact ⟨c, (load_eq_ok_iff below above).mpr fits⟩

/-! ### An example -/

def layeredFiles : Directory := fun name =>
  if name = "settings.toml" then some "product_version = \"1.0\"\nrate_window_ms = 250" else none

/-- An environment that gives another version, a time with a plus and a zero, and a switch in capitals. -/
def layeredEnvironment : List (String × String) :=
  exampleEnvironment "1.1.0" ++ [("LICENSEGATE_CACHE_TTL_SECS", "+030"), ("LICENSEGATE_FAIL_OPEN", "TRUE")]

def layeredLower : Layer
  | .text .productVersion => some "1.0"
  | .time .rateWindow => some 250
  | _ => none

def layeredUpper : Layer
  | .text .authorityUrl => some "https://license.example.com"
  | .text .productId => some "suite"
  | .text .productVersion => some "1.1.0"
  | .time .cacheTtl => some 30
  | .failOpen => some true
  | _ => none

def textAndNumber? : List (String × Setting) → Option ((String × String) × String × Int64)
  | [(k, .text t), (k', .int i)] => some ((k, t), k', i)
  | _ => none

theorem eq_of_textAndNumber? {entries : List (String × Setting)} {k t k' : String} {i : Int64}
    (both : textAndNumber? entries = some ((k, t), k', i)) : entries = [(k, .text t), (k', .int i)] := by
  unfold textAndNumber? at both
  split at both
  · cases both
    rfl
  · cases both

theorem layeredFiles_gives : FileGives layeredFiles (some "settings.toml") layeredLower := by
  have read : ((FileFormat.toml.entries? "product_version = \"1.0\"\nrate_window_ms = 250").bind textAndNumber?) =
      some (("product_version", "1.0"), "rate_window_ms", 250) := by decide +kernel
  obtain ⟨entries, parsed, both⟩ := Option.bind_eq_some_iff.mp read
  cases eq_of_textAndNumber? both
  refine .used (by decide +kernel) parsed ?_
  rintro ((_ | _ | _) | (_ | _ | _ | _) | _)
  · exact .nothing (by decide +kernel)
  · exact .nothing (by decide +kernel)
  · exact @EntriesGive.value _ _ [] _ _ _ rfl rfl (by decide +kernel)
  · exact .nothing (by decide +kernel)
  · exact .nothing (by decide +kernel)
  · exact .nothing (by decide +kernel)
  · exact @EntriesGive.value _ _ [_] _ _ _ rfl rfl (by decide +kernel)
  · exact .nothing (by decide +kernel)

theorem layeredEnvironment_gives (f : Field) : EnvironmentGives layeredEnvironment f (layeredUpper f) := by
  have thirty : Decimal.Spells "+030".toList 30 := .plus ⟨by decide, List.all_eq_true.mp (by decide)⟩ (by decide)
  rcases f with (_ | _ | _) | (_ | _ | _ | _) | _
  · exact @EnvironmentGives.value _ _ [] _ _ _ rfl (.text (by decide +kernel)) (by decide +kernel)
  · exact @EnvironmentGives.value _ _ [_] _ _ _ rfl (.text (by decide +kernel)) (by decide +kernel)
  · exact @EnvironmentGives.value _ _ [_, _] _ _ _ rfl (.text (by decide +kernel)) (by decide +kernel)
  · exact @EnvironmentGives.value _ _ [_, _, _] _ _ _ rfl (.time thirty (by decide) (by decide)) (by decide +kernel)
  · exact .nothing (by decide +kernel)
  · exact .nothing (by decide +kernel)
  · exact .nothing (by decide +kernel)
  · exact @EnvironmentGives.value _ _ [_, _, _, _] _ _ _ rfl (.failOpen (by decide +kernel)) nofun

/-- The version of the environment hides that of the file, and the window of the file hides the default. -/
theorem layered_merge :
    ∃ c, load layeredFiles (some "settings.toml") layeredEnvironment = .ok c ∧ c.productVersion = "1.1.0" ∧
      c.rateWindowMs = 250 ∧ c.cacheTtlSecs = 30 ∧ c.requestTimeoutMs = 5000 ∧ c.failOpen = true := by
  have merge := layers_merge.2 _ _ _ _ _ layeredFiles_gives layeredEnvironment_gives
  have fits : ∃ c, Merges layeredUpper layeredLower c ∧ c.validate = .ok () := by
    refine ⟨⟨"https://license.example.com", "suite", "1.1.0", 30, 5000, 5, 250, true⟩, ?_,
      ok_of_toOption (by decide +kernel)⟩
    rintro ((_ | _ | _) | (_ | _ | _ | _) | _) <;> rfl
  obtain ⟨c, loaded⟩ := merge.1.mpr ⟨fun s => by cases s <;> rfl, fits⟩
  have merges := merge.2 c loaded
  exact ⟨c, loaded, Option.some.inj (merges (.text .productVersion)), Option.some.inj (merges (.time .rateWindow)),
    Option.some.inj (merges (.time .cacheTtl)), Option.some.inj (merges (.time .requestTimeout)),
    Option.some.inj (merges .failOpen)⟩

end Entitlement.ClientConfig
