import NestedQuery.Config
import NestedQuery.Proofs.Json.Structures
import NestedQuery.Proofs.Text.Numerals

/-!
# The layers of a configuration

A configuration has three layers: what the environment overrides, what the file
states, and the defaults.  Every field is told by the topmost layer that knows it.  A
file by itself is a configuration below an environment that sets nothing, and the
environment is laid over it afterwards.
-/

namespace NestedQuery

open Json (Source Decoded)

/-- A file that can be read and holds a text. -/
def ConfigFile.Holds (file : ConfigFile) (text : String) : Prop :=
  file.content = .ok text.toUTF8

namespace Config

/-! ## The port of the environment -/

/-- A text that denotes a port: a decimal numeral, perhaps behind a plus sign and
perhaps between white space. -/
def DenotesPort (text : String) (port : UInt16) : Prop :=
  ∃ before sign numeral after : List Char,
    text.toList = before ++ (sign ++ numeral) ++ after ∧
      (∀ char ∈ before ++ after, Text.isWhiteSpace char = true) ∧
      (sign = [] ∨ sign = ['+']) ∧ Text.Denotes numeral port.toNat

theorem natural?_eq_some_iff {text : List Char} {value : Nat} :
    natural? text = some value ↔
      ∃ sign numeral, text = sign ++ numeral ∧ (sign = [] ∨ sign = ['+']) ∧
        Text.Denotes numeral value := by
  unfold natural?
  split
  · rename_i numeral
    rw [Text.natural?_eq_some_iff]
    constructor
    · exact fun hdenotes => ⟨['+'], numeral, rfl, Or.inr rfl, hdenotes⟩
    · rintro ⟨sign, other, hsplit, rfl | rfl, hdenotes⟩
      · subst hsplit
        exact absurd (hdenotes.digits '+' List.mem_cons_self) (by decide)
      · obtain ⟨-, rfl⟩ := List.cons.inj hsplit
        exact hdenotes
  · rename_i hsign
    rw [Text.natural?_eq_some_iff]
    constructor
    · exact fun hdenotes => ⟨[], text, rfl, Or.inl rfl, hdenotes⟩
    · rintro ⟨sign, numeral, hsplit, rfl | rfl, hdenotes⟩
      · exact hsplit ▸ hdenotes
      · exact absurd hsplit (hsign numeral)

theorem port?_eq_some_iff {text : String} {port : UInt16} :
    port? text = some port ↔ DenotesPort text port := by
  have hport : port? text = some port ↔
      natural? (Text.trim text.toList) = some port.toNat := by
    rw [port?]
    cases natural? (Text.trim text.toList) with
    | none => simp
    | some value =>
        simp only [Option.some.injEq]
        constructor
        · intro hsome
          split at hsome
          · rename_i hlt
            cases hsome
            exact (Nat.mod_eq_of_lt hlt).symm
          · cases hsome
        · rintro rfl
          rw [if_pos port.toNat_lt]
          exact congrArg some UInt16.ofNat_toNat
  rw [hport, natural?_eq_some_iff]
  constructor
  · rintro ⟨sign, numeral, htrim, hsign, hdenotes⟩
    obtain ⟨before, after, htext, hspace⟩ := Text.exists_trim text.toList
    exact ⟨before, sign, numeral, after, htrim ▸ htext, hspace, hsign, hdenotes⟩
  · rintro ⟨before, sign, numeral, after, htext, hspace, hsign, hdenotes⟩
    refine ⟨sign, numeral, ?_, hsign, hdenotes⟩
    rw [htext]
    apply Text.trim_eq hspace
    · exact fun hnil => hdenotes.nonempty (List.append_eq_nil_iff.mp hnil).2
    · intro char hmem
      rcases List.mem_append.mp hmem with hmem | hmem
      · rcases hsign with rfl | rfl
        · cases hmem
        · rw [List.mem_singleton.mp hmem]
          decide
      · exact Text.isWhiteSpace_of_isDigit (hdenotes.digits char hmem)

/-! ## Layers -/

/-- What the file states for a field, and its default where it states nothing. -/
def States {B : Type} (file : Option ConfigFile) (name : String)
    (decode : Source → Decoded B) (default value : B) : Prop :=
  match file with
  | none => value = default
  | some file => ∃ text, file.Holds text ∧
      Source.Tells decode default ((Json.read text).part? (fields.map (·.name)) name) value

/-- A variable decides where it is set, and the layer below it elsewhere. -/
def Overlaid {B : Type} (override : String → B → Prop) (setting : Option String)
    (below : B → Prop) (value : B) : Prop :=
  match setting with
  | some text => override text value
  | none => below value

section Layers

variable (file : Option ConfigFile) (environment : String → Option String)

/-- A text field and the variable above it. -/
def TextLayers (setting name default value : String) : Prop :=
  Overlaid (fun text value => value = text) (environment setting)
    (States file name Source.decodeString default) value

/-- A credential and the variable above it. -/
def CredentialLayers (setting name : String) (credential : Option String) : Prop :=
  Overlaid (fun text value => value = some text) (environment setting)
    (States file name (Source.decodeOption Source.decodeString) none) credential

def PortLayers (port : UInt16) : Prop :=
  Overlaid DenotesPort (environment "PORT") (States file "port" decodePort 8000) port

/-- Every field as the topmost layer that knows it tells it. -/
structure Layers (config : Config) : Prop where
  host : TextLayers file environment "HOST" "host" "localhost" config.host
  port : PortLayers file environment config.port
  databaseId :
    CredentialLayers file environment "NOTION_DATABASE_ID" "database_id" config.databaseId
  secret : CredentialLayers file environment "NOTION_SECRET" "secret" config.secret
  apiBaseUrl :
    TextLayers file environment "NOTION_API_URL" "api_base_url" "https://api.notion.com"
      config.apiBaseUrl
  apiVersion : States file "api_version" Source.decodeString "2022-06-28" config.apiVersion
  requestTimeout : States file "request_timeout_secs" decodeWord 30 config.requestTimeout
  maxNestingLevel : States file "max_nesting_level" decodeWord 2 config.maxNestingLevel
  corsOrigins :
    States file "cors_origins" (Source.decodeList Source.decodeString) [] config.corsOrigins
  logLevel : States file "log_level" Severity.decode .info config.logLevel
  schema : States file "schema" Schema.decode .default config.schema

end Layers

/-! ## What the layers tell is one value -/

section Unique

variable {B : Type} {value other : B}

theorem States.unique {file : Option ConfigFile} {name : String} {default : B}
    {decode : Source → Decoded B} (hvalue : States file name decode default value)
    (hother : States file name decode default other) : value = other := by
  cases file with
  | none => exact hvalue.trans hother.symm
  | some file =>
      obtain ⟨text, hholds, htells⟩ := hvalue
      obtain ⟨text', hholds', htells'⟩ := hother
      have htext := String.toByteArray_inj.mp (Except.ok.inj (hholds.symm.trans hholds'))
      subst htext
      exact htells.unique htells'

theorem Overlaid.unique {override : String → B → Prop} {setting : Option String}
    {below : B → Prop} (hoverride : ∀ {text}, override text value → override text other →
      value = other) (hbelow : below value → below other → value = other)
    (hvalue : Overlaid override setting below value)
    (hother : Overlaid override setting below other) : value = other := by
  cases setting with
  | none => exact hbelow hvalue hother
  | some text => exact hoverride hvalue hother

theorem PortLayers.unique {file : Option ConfigFile} {environment : String → Option String}
    {first second : UInt16} (hfirst : PortLayers file environment first)
    (hsecond : PortLayers file environment second) : first = second := by
  refine Overlaid.unique (fun hleft hright => ?_) States.unique hfirst hsecond
  rw [← port?_eq_some_iff] at hleft hright
  exact Option.some.inj (hleft.symm.trans hright)

theorem CredentialLayers.unique {file : Option ConfigFile}
    {environment : String → Option String} {setting name : String}
    {first second : Option String}
    (hfirst : CredentialLayers file environment setting name first)
    (hsecond : CredentialLayers file environment setting name second) : first = second :=
  Overlaid.unique (fun hleft hright => hleft.trans hright.symm) States.unique hfirst hsecond

end Unique

/-! ## The layer of the file -/

section Text

variable {file : ConfigFile} {text : String} {config : Config}

theorem ofText_eq_ok_iff : ofText text = .ok config ↔ decode (Json.read text) = .ok config := by
  unfold ofText
  cases decode (Json.read text) <;> simp

theorem states_of_ofText {B : Type} {name : String} {decode' : Source → Decoded B}
    (get : Config → B) (hholds : file.Holds text) (htext : ofText text = .ok config)
    (hsees : ∀ field ∈ fields, field.Sees name decode' get)
    (hname : name ∈ fields.map (·.name)) :
    States (some file) name decode' (get {}) (get config) :=
  ⟨text, hholds, Source.tells_of_decodeStructure hsees hname (by decide)
    (ofText_eq_ok_iff.mp htext)⟩

/-- A file is below an environment that sets nothing. -/
theorem layers_of_ofText (hholds : file.Holds text) (htext : ofText text = .ok config) :
    Layers (some file) (fun _ => none) config where
  host := states_of_ofText Config.host hholds htext (by simp [fields]) (by decide)
  port := states_of_ofText Config.port hholds htext (by simp [fields]) (by decide)
  databaseId :=
    states_of_ofText Config.databaseId hholds htext (by simp [fields]) (by decide)
  secret := states_of_ofText Config.secret hholds htext (by simp [fields]) (by decide)
  apiBaseUrl :=
    states_of_ofText Config.apiBaseUrl hholds htext (by simp [fields]) (by decide)
  apiVersion :=
    states_of_ofText Config.apiVersion hholds htext (by simp [fields]) (by decide)
  requestTimeout :=
    states_of_ofText Config.requestTimeout hholds htext (by simp [fields]) (by decide)
  maxNestingLevel :=
    states_of_ofText Config.maxNestingLevel hholds htext (by simp [fields]) (by decide)
  corsOrigins :=
    states_of_ofText Config.corsOrigins hholds htext (by simp [fields]) (by decide)
  logLevel :=
    states_of_ofText Config.logLevel hholds htext (by simp [fields]) (by decide)
  schema := states_of_ofText Config.schema hholds htext (by simp [fields]) (by decide)

theorem readText_eq_ok_iff : readText file = .ok text ↔ file.Holds text := by
  unfold readText ConfigFile.Holds
  cases file.content with
  | error flaw => simp
  | ok bytes =>
      simp only [Except.ok.injEq, ← Text.fromUTF8?_eq_some_iff]
      cases String.fromUTF8? bytes <;> simp

theorem ofFile_of_holds (hholds : file.Holds text) : ofFile (some file) = ofText text := by
  rw [ofFile, readText_eq_ok_iff.mpr hholds]
  rfl

end Text

theorem layers_default : Layers none (fun _ => none) {} where
  host := rfl
  port := rfl
  databaseId := rfl
  secret := rfl
  apiBaseUrl := rfl
  apiVersion := rfl
  requestTimeout := rfl
  maxNestingLevel := rfl
  corsOrigins := rfl
  logLevel := rfl
  schema := rfl

theorem layers_of_ofFile {file : Option ConfigFile} {base : Config}
    (hfile : ofFile file = .ok base) : Layers file (fun _ => none) base := by
  cases file with
  | none =>
      cases hfile
      exact layers_default
  | some file =>
      obtain ⟨text, hread, htext⟩ := bind_eq_ok_iff.mp hfile
      exact layers_of_ofText (readText_eq_ok_iff.mp hread) htext

/-! ## The layer of the environment -/

section Steps

variable {file : Option ConfigFile} {environment : String → Option String}
  {base config : Config} {error : ConfigError} {purpose : Purpose}

theorem Overlaid.mono {B : Type} {override : String → B → Prop} {setting : Option String}
    {below other : B → Prop} {value : B} (hbelow : below value → other value)
    (hvalue : Overlaid override setting below value) :
    Overlaid override setting other value := by
  cases setting with
  | none => exact hbelow hvalue
  | some text => exact hvalue

theorem overlaid_getD {below : String → Prop} {value : String} (hvalue : below value)
    (setting : Option String) :
    Overlaid (fun text value => value = text) setting below (setting.getD value) := by
  cases setting with
  | none => exact hvalue
  | some text => rfl

theorem overlaid_orElse {below : Option String → Prop} {value : Option String}
    (hvalue : below value) (setting : Option String) :
    Overlaid (fun text value => value = some text) setting below (setting <|> value) := by
  cases setting with
  | none => exact hvalue
  | some text => rfl

/-- A configuration with a port under the other variables. -/
def underVariables (base : Config) (environment : String → Option String)
    (port : UInt16) : Config :=
  { base with
    host := (environment "HOST").getD base.host
    port
    databaseId := environment "NOTION_DATABASE_ID" <|> base.databaseId
    secret := environment "NOTION_SECRET" <|> base.secret
    apiBaseUrl := (environment "NOTION_API_URL").getD base.apiBaseUrl }

theorem override_of_unset (hunset : environment "PORT" = none) :
    base.override environment = .ok (base.underVariables environment base.port) := by
  unfold override
  rw [hunset]
  rfl

theorem override_of_port? {text : String} (hset : environment "PORT" = some text) :
    base.override environment =
      match port? text with
      | some port => .ok (base.underVariables environment port)
      | none => .error (.invalid (.invalidPort text)) := by
  unfold override
  rw [hset]
  cases hport : port? text with
  | none =>
      simp only [hport]
      rfl
  | some port =>
      simp only [hport]
      rfl

theorem override_eq_ok_iff :
    base.override environment = .ok config ↔
      ∃ port, Overlaid DenotesPort (environment "PORT") (· = base.port) port ∧
        base.underVariables environment port = config := by
  cases hset : environment "PORT" with
  | none => simp [override_of_unset hset, Overlaid]
  | some text =>
      rw [override_of_port? hset]
      simp only [Overlaid, ← port?_eq_some_iff]
      cases port? text <;> simp

theorem override_eq_error_iff :
    base.override environment = .error error ↔
      ∃ text, environment "PORT" = some text ∧ (∀ port, ¬DenotesPort text port) ∧
        error = .invalid (.invalidPort text) := by
  cases hset : environment "PORT" with
  | none => simp [override_of_unset hset]
  | some text =>
      rw [override_of_port? hset]
      simp only [← port?_eq_some_iff, Option.some.injEq, exists_eq_left']
      cases port? text <;> simp [eq_comm]

theorem layers_of_override (hbase : Layers file (fun _ => none) base)
    (hconfig : base.override environment = .ok config) :
    Layers file environment config := by
  obtain ⟨port, hport, rfl⟩ := override_eq_ok_iff.mp hconfig
  have hlayers : PortLayers file environment port := by
    apply hport.mono
    rintro rfl
    exact hbase.port
  exact
    { hbase with
      host := overlaid_getD hbase.host _
      port := hlayers
      databaseId := overlaid_orElse hbase.databaseId _
      secret := overlaid_orElse hbase.secret _
      apiBaseUrl := overlaid_getD hbase.apiBaseUrl _ }

/-! ## Steps of loading -/

theorem load_eq_bind (file : Option ConfigFile) (environment : String → Option String)
    (purpose : Purpose) :
    load file environment purpose =
      (ofFile file).bind fun base => (base.override environment).bind fun config =>
        ((config.check purpose).map fun _ => config).mapError .invalid := by
  unfold load
  apply congrArg (ofFile file).bind
  funext base
  apply congrArg (base.override environment).bind
  funext config
  cases config.check purpose <;> rfl

theorem load_eq_ok_iff :
    load file environment purpose = .ok config ↔
      ∃ base, ofFile file = .ok base ∧ base.override environment = .ok config ∧
        config.check purpose = .ok () := by
  have hcheck : ∀ other : Config, ((other.check purpose).map fun _ => other).mapError
      ConfigError.invalid = .ok config ↔ other = config ∧ other.check purpose = .ok () := by
    intro other
    cases other.check purpose <;> simp [Except.map, Except.mapError]
  simp only [load_eq_bind, bind_eq_ok_iff, hcheck]
  constructor
  · rintro ⟨base, hfile, config, hconfig, rfl, hvalid⟩
    exact ⟨base, hfile, hconfig, hvalid⟩
  · rintro ⟨base, hfile, hconfig, hvalid⟩
    exact ⟨base, hfile, config, hconfig, rfl, hvalid⟩

theorem load_eq_error_iff :
    load file environment purpose = .error error ↔
      ofFile file = .error error ∨
        ∃ base, ofFile file = .ok base ∧
          (base.override environment = .error error ∨
            ∃ config, base.override environment = .ok config ∧
              ∃ flaw, config.check purpose = .error flaw ∧ error = .invalid flaw) := by
  have hcheck : ∀ config : Config, ((config.check purpose).map fun _ => config).mapError
      ConfigError.invalid = .error error ↔
        ∃ flaw, config.check purpose = .error flaw ∧ error = .invalid flaw := by
    intro config
    cases config.check purpose <;> simp [Except.map, Except.mapError, eq_comm]
  simp only [load_eq_bind, bind_eq_error_iff, hcheck]

theorem layers_of_load (hload : load file environment purpose = .ok config) :
    Layers file environment config := by
  obtain ⟨base, hfile, hconfig, -⟩ := load_eq_ok_iff.mp hload
  exact layers_of_override (layers_of_ofFile hfile) hconfig

end Steps

end Config

end NestedQuery
