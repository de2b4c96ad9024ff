import FunctionIndex.Config
import FunctionIndex.Proofs.Reading

/-!
# Configuration files

A configuration file is a JSON object that gives some of the settings, in any order; the others
keep their defaults.  What comes out is admitted or refused by `Config.validate`, and an object that
comes to an unknown or repeated key is refused whatever else there is.

* `Config.override_perm` : the order of settings does not matter.
* `Config.read_of_means` : a configuration is read from what stands for some settings.
* `Config.read_ne_ok_of_strays` : a stray key is refused, in the configuration or its tool.
* `Config.load_exact` : what is loaded from which file.
-/

namespace FunctionIndex

open Json (Doc Fault Form Items Lexeme Members Value StrayText)
open Json.Doc (Blank Lead KeyText)
open Utf8 (encode)

/-! ### The tool -/

namespace Tool

/-- A setting in the tool's record. -/
inductive Setting where
  | program (s : String)
  | args (ss : List String)

/-- The names that settings have in the tool's record. -/
def names : List String := ["program", "args"]

namespace Setting

/-- The name of a setting. -/
def name : Setting → String
  | program _ => "program"
  | args _ => "args"

/-- The JSON form of what is set. -/
def value : Setting → Value
  | program s => .str s
  | args ss => .arr (ss.map .str)

/-- Sets it. -/
def apply : Setting → Tool → Tool
  | program s, t => { t with program := s }
  | args ss, t => { t with args := ss }

end Setting

/-- The tool with these settings. -/
def override (ss : List Setting) : Tool := ss.foldl (fun t s => s.apply t) {}

/-- The JSON form of settings. -/
def settingsJson (ss : List Setting) : Value := .obj (ss.map fun s => (s.name, s.value))

theorem read_of_means (depth : Nat) (hdepth : 2 < depth) {ss : List Setting}
    (hnodup : (ss.map Setting.name).Nodup) {d : Doc} (h : d.Means (settingsJson ss)) :
    (Config.toolForm (depth - 1)).read depth {} d = .ok (override ss) := by
  cases d with
  | object members =>
    have hread : ∀ s ∈ ss, ∃ f, (Config.toolForm (depth - 1)).field? s.name = some f ∧
        ∀ d t, d.Means s.value → f.read d t = .ok (s.apply t) := by
      rintro (p | as) -
      · refine ⟨_, rfl, fun d t hd => ?_⟩
        simp only [Doc.readString_of_means hd, bind, Except.bind, pure, Except.pure]
        rfl
      · refine ⟨_, rfl, fun d t hd => ?_⟩
        simp only [Doc.readList_of_means hd (depth - 1) (by omega), bind, Except.bind,
          pure, Except.pure]
        rfl
    have hoptional : ∀ f ∈ (Config.toolForm (depth - 1)).fields, f.required = false := by
      simp [Config.toolForm]
    rw [Form.read, Json.entering, if_neg (by omega)]
    exact Form.readMembers_of_means hread hoptional hnodup (by simp) h
  | null | bool _ | number _ | text _ | array _ | broken _ => exact h.elim

end Tool

namespace Config

/-- A setting in a configuration's record. -/
inductive Setting where
  | minLines (n : Nat)
  | minChars (n : Nat)
  | abstractIdentifiers (b : Bool)
  | tool (ss : List Tool.Setting)
  | timeoutSecs (o : Option Nat)

/-- The names that settings have in a configuration's record. -/
def names : List String :=
  ["min_lines", "min_chars", "abstract_identifiers", "external_tool", "backend_timeout_secs"]

namespace Setting

/-- The name of a setting. -/
def name : Setting → String
  | minLines _ => "min_lines"
  | minChars _ => "min_chars"
  | abstractIdentifiers _ => "abstract_identifiers"
  | tool _ => "external_tool"
  | timeoutSecs _ => "backend_timeout_secs"

/-- The JSON form of what is set. -/
def value : Setting → Value
  | minLines n => .num n
  | minChars n => .num n
  | abstractIdentifiers b => .bool b
  | tool ss => Tool.settingsJson ss
  | timeoutSecs o => .ofOption .num o

/-- Sets it; what is not set of the tool has its default. -/
def apply : Setting → Config → Config
  | minLines n, c => { c with minLines := n }
  | minChars n, c => { c with minChars := n }
  | abstractIdentifiers b, c => { c with abstractIdentifiers := b }
  | tool ss, c => { c with tool := Tool.override ss }
  | timeoutSecs o, c => { c with timeoutSecs := o }

/-- Whether numbers are words, and no setting of the tool is there twice. -/
def Fits : Setting → Prop
  | minLines n => n ≤ maxWord
  | minChars n => n ≤ maxWord
  | abstractIdentifiers _ => True
  | tool ss => (ss.map Tool.Setting.name).Nodup
  | timeoutSecs o => ∀ n ∈ o, n ≤ maxWord

end Setting

/-- The configuration with these settings. -/
def override (ss : List Setting) : Config := ss.foldl (fun c s => s.apply c) {}

/-- The JSON form of settings. -/
def settingsJson (ss : List Setting) : Value := .obj (ss.map fun s => (s.name, s.value))

/-- **The order of settings does not matter** if none is there twice. -/
theorem override_perm {ss ss' : List Setting} (hperm : ss.Perm ss')
    (hnodup : (ss.map Setting.name).Nodup) : override ss = override ss' := by
  refine hperm.foldl_eq' (fun s hs s' hs' c => ?_) _
  rcases eq_or_ne s s' with rfl | hne
  · rfl
  · have hname : s.name ≠ s'.name := fun h => hne (List.inj_on_of_nodup_map hnodup hs hs' h)
    cases s <;> cases s' <;> first | rfl | exact absurd rfl hname

theorem read_of_means {ss : List Setting} (hnodup : (ss.map Setting.name).Nodup)
    (hfits : ∀ s ∈ ss, s.Fits) {depth : Nat} (hdepth : 3 < depth) {d : Doc}
    (h : d.Means (settingsJson ss)) :
    (form (depth - 1)).read depth {} d = .ok (override ss) := by
  cases d with
  | object members =>
    have hread : ∀ s ∈ ss, ∃ f, (form (depth - 1)).field? s.name = some f ∧
        ∀ d c, d.Means s.value → f.read d c = .ok (s.apply c) := by
      intro s hs
      have hs := hfits s hs
      cases s with
      | minLines n | minChars n =>
        refine ⟨_, rfl, fun d c hd => ?_⟩
        simp only [Doc.readWord_of_means hd hs, bind, Except.bind, pure, Except.pure]
        rfl
      | abstractIdentifiers b =>
        refine ⟨_, rfl, fun d c hd => ?_⟩
        simp only [Doc.readBool_of_means hd, bind, Except.bind, pure, Except.pure]
        rfl
      | tool ss =>
        refine ⟨_, rfl, fun d c hd => ?_⟩
        simp only [Tool.read_of_means (depth - 1) (by omega) hs hd, bind, Except.bind,
          pure, Except.pure]
        rfl
      | timeoutSecs o =>
        refine ⟨_, rfl, fun d c hd => ?_⟩
        simp only [Doc.readOption_of_means hd hs, bind, Except.bind, pure, Except.pure]
        rfl
    have hoptional : ∀ f ∈ (form (depth - 1)).fields, f.required = false := by simp [form]
    rw [Form.read, Json.entering, if_neg (by omega)]
    exact Form.readMembers_of_means hread hoptional hnodup (by simp) h
  | null | bool _ | number _ | text _ | array _ | broken _ => exact h.elim

/-! ### What is read -/

/-- Whether the numbers of a configuration are words. -/
def FitsWords (c : Config) : Prop :=
  c.minLines ≤ maxWord ∧ c.minChars ≤ maxWord ∧ ∀ n ∈ c.timeoutSecs, n ≤ maxWord

/-- All settings of a configuration. -/
def settings (c : Config) : List Setting :=
  [.minLines c.minLines, .minChars c.minChars, .abstractIdentifiers c.abstractIdentifiers,
    .tool [.program c.tool.program, .args c.tool.args], .timeoutSecs c.timeoutSecs]

theorem settingsJson_settings (c : Config) : settingsJson c.settings = c.toJson := rfl

theorem override_settings (c : Config) : override c.settings = c := rfl

/-- **A configuration is read from every text of its settings.** -/
theorem read_of_isText {ss : List Setting} (hnodup : (ss.map Setting.name).Nodup)
    (hfits : ∀ s ∈ ss, s.Fits) {t : Bytes} (h : (settingsJson ss).IsText t) :
    read t = .ok (override ss) := by
  obtain ⟨d, hd, hread⟩ := Json.readDocument_of_isText
    (fun depth d => (form (depth - 1)).read depth {} d) h
  rw [read, hread, read_of_means hnodup hfits (by decide) hd]

/-- **What is written is read again.** -/
theorem read_toJson {c : Config} (hc : c.FitsWords) : read (encode c.toJson.compact) = .ok c := by
  have hfits : ∀ s ∈ c.settings, s.Fits := by
    simpa [settings, Setting.Fits, Tool.Setting.name, FitsWords] using hc
  have hnodup : (c.settings.map Setting.name).Nodup := by
    change names.Nodup
    decide
  rw [← settingsJson_settings, read_of_isText hnodup hfits (Value.isText_compact _),
    override_settings]

/-! ### Stray keys -/

/-- Whether a text comes to an unknown or repeated key, either in the configuration or in its tool;
a configuration may also be an array, and its tool is the fourth item then. -/
inductive Strays : Bytes → Prop where
  /-- In the configuration. -/
  | top {w t : Bytes} (hw : Blank w) (ht : StrayText names t) : Strays (w ++ t)
  /-- In the tool, which is the value of a member. -/
  | member {w u b k t : Bytes} {ms : List (Lexeme × Doc)} {key : Lexeme} (hw : Blank w)
    (hu : Members.Opens ms true u) (hb : Lead ms.isEmpty b) (hk : KeyText key k)
    (hkey : key.Denotes "external_tool") (ht : StrayText Tool.names t) :
    Strays (w ++ 0x7B :: (u ++ (b ++ (k ++ t))))
  /-- In the tool, which is an item. -/
  | item {w u b t : Bytes} {ds : List Doc} (hw : Blank w) (hu : Items.Opens ds true u)
    (hlength : ds.length = 3) (hb : Lead false b) (ht : StrayText Tool.names t) :
    Strays (w ++ Json.octet '[' :: (u ++ (b ++ t)))

theorem map_name_form (depth : Nat) : (form depth).fields.map Json.Field.name = names := rfl

theorem map_name_toolForm (depth : Nat) :
    (toolForm depth).fields.map Json.Field.name = Tool.names := rfl

/-- The tool is not read if it comes to a stray key. -/
theorem field_ne_ok_of_strays {depth : Nat} {f : Json.Field Config}
    (hf : (form depth).field? "external_tool" = some f) {d : Doc} (hd : d.Strays Tool.names)
    (c c' : Config) : f.read d c ≠ .ok c' := by
  obtain rfl := Option.some.inj hf
  intro hread
  obtain ⟨tool, htool, -⟩ := Json.exists_of_bind_eq_ok hread
  exact Form.read_ne_ok_of_strays rfl (map_name_toolForm _ ▸ hd) depth {} tool htool

/-- **A stray key is not passed over**, whatever follows. -/
theorem read_ne_ok_of_strays {t : Bytes} (h : Strays t) (c : Config) : read t ≠ .ok c := by
  intro hread
  have hread := Json.read_of_readDocument hread
  cases h with
  | @top w t hw ht =>
    rw [Doc.scan_blank hw] at hread
    have hd := Doc.scanValue_of_strayText _ ht (Nat.lt_of_succ_lt (Doc.lt_scanFuel w t))
    exact Form.read_ne_ok_of_strays rfl (map_name_form _ ▸ hd) _ _ c hread
  | member hw hu hb hk hkey ht =>
    rw [Doc.scan_blank hw] at hread
    obtain ⟨value, rest, hscan, hvalue⟩ :=
      Doc.scanValue_of_strayMember hu hb hk ht (Nat.lt_of_succ_lt (Doc.lt_scanFuel _ _))
    rw [hscan, Form.read, Json.entering, if_neg (by decide)] at hread
    obtain ⟨name, f, -, c₁, c₂, hname, hf, -, hfield, -⟩ := Form.readMembers_prepend rfl hread
    rw [Lexeme.text_of_denotes hkey] at hname
    obtain rfl := Except.ok.inj hname
    exact field_ne_ok_of_strays hf hvalue c₁ c₂ hfield
  | @item w u b t ds hw hu hlength hb ht =>
    rw [Doc.scan_blank hw] at hread
    have hsome : ds.isEmpty = false := by
      rw [List.isEmpty_eq_false_iff, ← List.length_pos_iff, hlength]
      decide
    obtain ⟨value, rest, hscan, hvalue⟩ :=
      Doc.scanValue_of_strayItem hu (hsome ▸ hb) ht (Doc.lt_scanFuel _ _)
    rw [hscan, Form.read, Json.entering, if_neg (by decide)] at hread
    obtain ⟨f, hf⟩ : ∃ f, (form (Json.depthLimit - 1)).field? "external_tool" = some f := ⟨_, rfl⟩
    have hplace : (form (Json.depthLimit - 1)).fields[ds.length]? = some f := by
      rw [hlength]
      exact hf
    obtain ⟨c₁, c₂, hfield⟩ := Form.readItems_prepend hplace hread
    exact field_ne_ok_of_strays hf hvalue c₁ c₂ hfield

/-! ### What is loaded -/

theorem load_eq_ok {path : Path} {contents : Except FileFault Bytes} {c : Config}
    (h : load path contents = .ok c) :
    ∃ t, contents = .ok t ∧ read t = .ok c ∧ c.validate = .ok () := by
  cases contents with
  | error e => cases h
  | ok t =>
    rw [load] at h
    split at h
    · cases h
    · split at h
      next => cases h
      next c' hread =>
        cases hvalid : c'.validate with
        | error e =>
          rw [hvalid] at h
          cases h
        | ok _ =>
          rw [hvalid] at h
          obtain rfl := Except.ok.inj h
          exact ⟨t, rfl, hread, hvalid⟩

/-- What is read from a text is loaded if it is admitted. -/
theorem load_of_read {text : String} {c : Config} (h : read (encode text) = .ok c) (path : Path) :
    load path (.ok (encode text)) = c.validate.map fun _ => c := by
  simp only [load, Utf8.decode?_encode, h]

/-- **What is loaded from which file.**  A configuration comes back from the text that is written
for it, if it is admitted, and is refused for the objection against it otherwise.  Every text of an
object that gives some of the settings, in any order and none of them twice, stands for these
settings with the others at their defaults.  A text that comes to an unknown or repeated key, in the
configuration or in its tool, is refused.  And nothing is loaded that is not admitted. -/
theorem load_exact (path : Path) :
    (∀ c : Config, c.FitsWords →
      load path (.ok (encode c.toJson.compact)) = c.validate.map fun _ => c) ∧
    (∀ (ss : List Setting) (text : String), (ss.map Setting.name).Nodup → (∀ s ∈ ss, s.Fits) →
      (settingsJson ss).IsText (encode text) →
        load path (.ok (encode text)) = (override ss).validate.map fun _ => override ss) ∧
    (∀ t, Strays t → ∀ c, load path (.ok t) ≠ .ok c) ∧
    ∀ contents c, load path contents = .ok c → c.validate = .ok () := by
  refine ⟨fun c hc => load_of_read (read_toJson hc) path,
    fun ss text hnodup hfits htext => load_of_read (read_of_isText hnodup hfits htext) path,
    fun t ht c hload => ?_, fun contents c hload => ?_⟩
  · obtain ⟨t', ht', hread, -⟩ := load_eq_ok hload
    obtain rfl := Except.ok.inj ht'
    exact read_ne_ok_of_strays ht c hread
  · obtain ⟨-, -, -, hvalid⟩ := load_eq_ok hload
    exact hvalid

/-- Settings of the limit, which is `null`, of the tool's arguments and of the least length. -/
def someSettings : List Setting := [.timeoutSecs none, .tool [.args ["a"]], .minLines 2]

/-- The greatest limit there is comes back.  Three settings between blanks stand for themselves with
the defaults.  A text that breaks off after an unknown key is refused. -/
theorem load_exact_given :
    let path := Path.ofString "fnscan.json"
    let c : Config := { minLines := 4, timeoutSecs := some maxWord }
    c.FitsWords ∧ load path (.ok (encode c.toJson.compact)) = .ok c ∧ c.validate = .ok () ∧
    load path (.ok (encode (" " ++ (settingsJson someSettings).compact ++ "\n"))) =
      .ok { minLines := 2, tool := { args := ["a"] } } ∧
    ∀ c, load path (.ok (encode "\x7b\"x\"")) ≠ .ok c := by
  intro path c
  have hc : c.FitsWords := ⟨by decide, by decide, by simp [c]⟩
  have hadmitted : c.validate = .ok () := by
    have hnone : c.objection? = none := by decide +kernel
    rw [validate, hnone]
  have hgiven : (override someSettings).validate = .ok () := by
    have hnone : (override someSettings).objection? = none := by decide +kernel
    rw [validate, hnone]
  have htext : (settingsJson someSettings).IsText
      (encode (" " ++ (settingsJson someSettings).compact ++ "\n")) := by
    refine ⟨_, [0x20], _, [0x0A], ?_, Value.spells_doc _, ?_, Value.means_doc _, ?_⟩
    · simp [Blank, Doc.isSpace]
    · simp [Blank, Doc.isSpace]
    · rw [Utf8.encode_append, Utf8.encode_append]
      rfl
  have hstray : Strays (encode "\x7b\"x\"") :=
    .top (w := []) .nil
      ⟨[], [], [], .ofText "x", _, "x", [], rfl, .first .nil, Lexeme.spells_ofText _,
        Lexeme.denotes_ofText _, .inl (by decide), by decide +kernel⟩
  obtain ⟨hround, hsettings, hrefused, hvalid⟩ := load_exact path
  have hload : load path (.ok (encode c.toJson.compact)) = .ok c := by
    rw [hround c hc, hadmitted]
    rfl
  refine ⟨hc, hload, hvalid _ c hload, ?_, hrefused _ hstray⟩
  rw [hsettings someSettings _ (by decide) (by simp [someSettings, Setting.Fits, maxWord,
    Tool.Setting.name]) htext, hgiven]
  rfl

end Config

end FunctionIndex
