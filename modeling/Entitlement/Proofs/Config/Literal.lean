import Entitlement.Proofs.Config.Fields
import Entitlement.Proofs.Number.Binary64

/-!
Texts from the environment. The environment has texts only, and one that reads as a switch or a number is taken for
it, where a text is wanted too. So a setting that is a text comes out as it was written if and only if it is
literal: it reads as neither, or it is spelled the way a switch or a number is shown (`text_taken`).
-/

namespace Entitlement

namespace Text

/-- Small letters leave what is in ASCII and no capital. -/
theorem mem_lower {s : String} {c : Char} (ascii : c.toNat < 0x80) (small : c.toLower = c) (member : c ∈ s.toList) :
    c ∈ (lower s).toList := by
  have kept (before : List Char) {cs : List Char} (member : c ∈ cs) : c ∈ lowerFrom before cs := by
    induction cs generalizing before with
    | nil => cases member
    | cons d cs ih =>
      rw [lowerFrom]
      rcases List.mem_cons.mp member with rfl | behind
      · have same : lowerChar c = c := by rw [lowerChar, if_pos ascii, small]
        have noSigma : c ≠ 'Σ' := by rintro rfl; exact absurd ascii (by decide)
        have noDotted : c ≠ 'İ' := by rintro rfl; exact absurd ascii (by decide)
        rw [if_neg noSigma, if_neg noDotted, same]
        exact List.mem_cons_self
      · exact List.mem_append_right _ (ih _ behind)
  rw [lower, String.toList_ofList]
  exact kept [] member

end Text

namespace Setting

/-- A text that is taken for itself, or spelled the way that is shown which it is taken for. -/
def IsLiteral (s : String) : Prop :=
  match ofText s with
  | .bool b => s = Text.shownBool b
  | .int i => s = Decimal.ofInt64 i
  | .float x => s = Shortest.text x
  | _ => True

theorem ofText_text {s t : String} (taken : ofText s = .text t) : t = s := by
  unfold ofText at taken
  dsimp only at taken
  split at taken
  · cases taken
  split at taken
  · cases taken
  split at taken
  · cases taken
  split at taken
  · cases taken
  · exact (Setting.text.inj taken).symm

theorem isLiteral_iff {s t : String} (shown : (ofText s).asText? = .ok t) : IsLiteral s ↔ t = s := by
  unfold IsLiteral
  cases taken : ofText s with
  | bool | int | float =>
    rw [taken] at shown
    cases shown
    exact eq_comm
  | text u =>
    rw [taken] at shown
    cases shown
    exact iff_of_true trivial (ofText_text taken)
  | null | list | table =>
    rw [taken] at shown
    cases shown

/-- Nothing with two points reads as a switch or a number, so versions of three parts are literal. -/
theorem isLiteral_of_points {s : String} (points : 2 ≤ s.toList.count '.') : IsLiteral s := by
  have point : '.' ∈ s.toList := List.count_pos_iff.mp (Nat.lt_of_lt_of_le Nat.zero_lt_two points)
  have noSwitch {word : String} (same : Text.lower s = word) (free : '.' ∉ word.toList) : False :=
    free (same ▸ Text.mem_lower (by decide) (by decide) point)
  have taken : ofText s = .text s := by
    unfold ofText
    dsimp only
    rw [if_neg fun same => noSwitch same (by decide), if_neg fun same => noSwitch same (by decide)]
    split
    · next read => exact ((Decimal.readInt64_eq_ok_iff.mp read).notMem_point point).elim
    split
    · next read =>
      have few := Binary64.count_point_read? read
      omega
    · rfl
  rw [IsLiteral, taken]
  trivial

end Setting

namespace ClientConfig

/-- The configuration of a file, if one is given, and the environment. -/
def load (files : Directory) (file : Option String) (environment : List (String × String)) :
    Except ConfigError ClientConfig :=
  match file with
  | none => ofEnvironment environment
  | some name => ofFile files name environment

theorem ofSettings_text {settings : Settings} {c : ClientConfig} (read : ofSettings settings = .ok c)
    (s : TextSetting) : setting? settings s.key Setting.asText? = .ok (some (c.text s)) := by
  obtain ⟨given, got, value⟩ := ofSettings_eq_ok_iff.mp read (.text s)
  rw [show given = some (c.text s) from Option.or_none.symm.trans value] at got
  exact got

/-- Whatever is loaded fits, and it was made from the settings of a file, if there is one, under the environment. -/
theorem load_ok {files : Directory} {file : Option String} {environment : List (String × String)} {c : ClientConfig}
    (loaded : load files file environment = .ok c) :
    (∃ settings : Settings, ofSettings (settings.withEnvironment environment) = .ok c) ∧ c.validate = .ok () := by
  unfold load at loaded
  split at loaded
  · obtain ⟨read, valid⟩ := ofLayers_eq_ok_iff.mp loaded
    exact ⟨⟨_, read⟩, valid⟩
  · obtain ⟨settings, _, loaded⟩ := ok_of_bind loaded
    obtain ⟨read, valid⟩ := ofLayers_eq_ok_iff.mp loaded
    exact ⟨⟨settings, read⟩, valid⟩

/-- A text from the environment becomes the text of what it is taken for, and stays as it was written if and only if
it is literal. -/
theorem text_taken {files : Directory} {file : Option String} {s : TextSetting} {value : String}
    {before after : List (String × String)} {c : ClientConfig}
    (loaded : load files file (before ++ (s.variableName, value) :: after) = .ok c)
    (last : ∀ e ∈ after, Settings.settingOf? e.1 ≠ some s.key) :
    (c.text s = value ↔ Setting.IsLiteral value) ∧ (Setting.ofText value).asText? = .ok (c.text s) ∧
      (2 ≤ value.toList.count '.' → c.text s = value) := by
  obtain ⟨⟨settings, read⟩, _⟩ := load_ok loaded
  obtain ⟨ours, whole, small⟩ := s.variableName_key
  obtain ⟨found, present, shown⟩ := setting?_some (ofSettings_text read s)
  rw [Settings.find?_withEnvironment_last ours whole small last] at present
  cases present
  have literal := Setting.isLiteral_iff shown
  exact ⟨literal.symm, shown, fun points => literal.mp (Setting.isLiteral_of_points points)⟩

/-- An environment for examples. -/
def exampleEnvironment (version : String) : List (String × String) :=
  [("LICENSEGATE_AUTHORITY_URL", "https://license.example.com"), ("LICENSEGATE_PRODUCT_ID", "suite"),
    ("LICENSEGATE_PRODUCT_VERSION", version)]

/-- A directory for examples, with one file that gives a version. -/
def exampleFiles : Directory := fun name =>
  if name = "settings.toml" then some "product_version = \"1.0\"" else none

/-- A version of three parts is taken as it is, also over that of a file. -/
theorem threeParts_taken :
    ∃ c, load exampleFiles (some "settings.toml") (exampleEnvironment "1.10.0") = .ok c ∧
      c.productVersion = "1.10.0" := by
  have loads : (load exampleFiles (some "settings.toml") (exampleEnvironment "1.10.0")).toOption.isSome = true := by
    decide +kernel
  obtain ⟨c, loaded⟩ := Option.isSome_iff_exists.mp loads
  have loaded := ok_of_toOption loaded
  have taken := @text_taken _ _ .productVersion _
    [("LICENSEGATE_AUTHORITY_URL", "https://license.example.com"), ("LICENSEGATE_PRODUCT_ID", "suite")] [] _ loaded nofun
  exact ⟨c, loaded, taken.2.2 (by decide)⟩

/-- A version of two parts is taken for a number and loses its zero, while a file keeps it. -/
theorem twoParts_shortened :
    ("LICENSEGATE_PRODUCT_VERSION", "1.0") ∈ exampleEnvironment "1.0" ∧
      (∃ c, load exampleFiles none (exampleEnvironment "1.0") = .ok c ∧ c.productVersion = "1") ∧
      ∃ c, load exampleFiles (some "settings.toml") ((exampleEnvironment "1.0").take 2) = .ok c ∧
        c.productVersion = "1.0" := by
  refine ⟨by decide, ⟨⟨"https://license.example.com", "suite", "1", 10, 5000, 5, 1000, false⟩, ?_, rfl⟩,
    ⟨⟨"https://license.example.com", "suite", "1.0", 10, 5000, 5, 1000, false⟩, ?_, rfl⟩⟩
  · exact ok_of_toOption (by decide +kernel)
  · exact ok_of_toOption (by decide +kernel)

end ClientConfig

end Entitlement
