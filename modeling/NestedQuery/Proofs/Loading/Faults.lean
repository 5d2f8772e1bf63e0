import NestedQuery.Proofs.Loading.Layers

/-!
# Loading a configuration

What is wrong with the layers of a configuration is reported in the order of six
places: the text of the file, what it says, the port of the environment, the
credentials, the port and the timeout.  Each kind of fault is stated of the layers
alone, so that several may coexist, and the first of them is the error.  Online and
offline work load the same configurations, except that online work refuses one without
credentials.
-/

namespace NestedQuery

open Json (Source)

namespace Config

/-! ## What is checked -/

/-- A credential that is given and not empty. -/
def Present (credential : Option String) : Prop :=
  ∃ text, credential = some text ∧ text ≠ ""

theorem isMissing_iff {credential : Option String} :
    isMissing credential = true ↔ ¬Present credential := by
  cases credential <;> simp [isMissing, Present]

/-- The credentials that online work needs. -/
def HasCredentials (config : Config) : Prop :=
  Present config.databaseId ∧ Present config.secret

theorem check_eq_ok_iff {config : Config} {purpose : Purpose} :
    config.check purpose = .ok () ↔
      (purpose = .online → config.HasCredentials) ∧ config.port ≠ 0 ∧
        config.requestTimeout ≠ 0 := by
  have hsettings : config.validateSettings = .ok () ↔
      config.port ≠ 0 ∧ config.requestTimeout ≠ 0 := by
    unfold validateSettings
    split
    · simp_all
    · split <;> simp_all
  cases purpose with
  | offline => simp [check, hsettings]
  | online =>
      rw [check, validate, ← hsettings]
      split
      · rename_i hmissing
        rw [Bool.or_eq_true, isMissing_iff, isMissing_iff, ← not_and_or] at hmissing
        exact iff_of_false (by simp) fun hvalid => hmissing (hvalid.1 rfl)
      · rename_i hpresent
        rw [Bool.or_eq_true, isMissing_iff, isMissing_iff, ← not_and_or, not_not] at hpresent
        exact (and_iff_right fun _ => hpresent).symm

theorem check_eq_error_iff {config : Config} {purpose : Purpose} {flaw : ConfigFlaw} :
    config.check purpose = .error flaw ↔
      (purpose = .online ∧ ¬config.HasCredentials ∧ flaw = .missingCredentials) ∨
      (purpose = .online → config.HasCredentials) ∧
        ((config.port = 0 ∧ flaw = .zeroPort) ∨
          (config.port ≠ 0 ∧ config.requestTimeout = 0 ∧ flaw = .zeroTimeout)) := by
  have hsettings : config.validateSettings = .error flaw ↔
      (config.port = 0 ∧ flaw = .zeroPort) ∨
        (config.port ≠ 0 ∧ config.requestTimeout = 0 ∧ flaw = .zeroTimeout) := by
    unfold validateSettings
    split
    · simp_all [eq_comm]
    · split <;> simp_all [eq_comm]
  cases purpose with
  | offline => simp [check, hsettings]
  | online =>
      rw [check, validate, ← hsettings]
      split
      · rename_i hmissing
        rw [Bool.or_eq_true, isMissing_iff, isMissing_iff, ← not_and_or] at hmissing
        have hmissing : ¬config.HasCredentials := hmissing
        simp [hmissing, eq_comm]
      · rename_i hpresent
        rw [Bool.or_eq_true, isMissing_iff, isMissing_iff, ← not_and_or, not_not] at hpresent
        have hpresent : config.HasCredentials := hpresent
        simp [hpresent]

/-! ## Faults -/

/-- What can be wrong with the layers, each kind of fault with its place.  Faults of
several places may coexist. -/
inductive Fault (file : Option ConfigFile) (environment : String → Option String)
    (purpose : Purpose) : Nat → ConfigError → Prop
  | unreadable {path : String} {flaw : FileFlaw}
      (hfile : file = some ⟨path, .error flaw⟩) :
      Fault file environment purpose 0 (.unreadable (path ++ ": " ++ flaw.message))
  | noText {path : String} {bytes : ByteArray} (hfile : file = some ⟨path, .ok bytes⟩)
      (hbytes : ∀ text : String, text.toUTF8 ≠ bytes) :
      Fault file environment purpose 0
        (.unreadable (path ++ ": stream did not contain valid UTF-8"))
  | undecodable {source : ConfigFile} {text : String} (hfile : file = some source)
      (hholds : source.Holds text) (htext : ¬Source.Holds fields (Json.read text)) :
      Fault file environment purpose 1 (.undecodable none)
  | portText {text : String} (hset : environment "PORT" = some text)
      (hport : ∀ port, ¬DenotesPort text port) :
      Fault file environment purpose 2 (.invalid (.invalidPort text))
  | noDatabase {credential : Option String} (honline : purpose = .online)
      (hlayers : CredentialLayers file environment "NOTION_DATABASE_ID" "database_id" credential)
      (habsent : ¬Present credential) :
      Fault file environment purpose 3 (.invalid .missingCredentials)
  | noSecret {credential : Option String} (honline : purpose = .online)
      (hlayers : CredentialLayers file environment "NOTION_SECRET" "secret" credential)
      (habsent : ¬Present credential) :
      Fault file environment purpose 3 (.invalid .missingCredentials)
  | zeroPort (hlayers : PortLayers file environment 0) :
      Fault file environment purpose 4 (.invalid .zeroPort)
  | zeroTimeout (hlayers : States file "request_timeout_secs" decodeWord 30 0) :
      Fault file environment purpose 5 (.invalid .zeroTimeout)

section Faults

variable {file : Option ConfigFile} {environment : String → Option String}
  {purpose : Purpose} {place : Nat} {base config : Config} {error other : ConfigError}

/-- Of each place at most one fault is reported. -/
theorem Fault.unique (hfirst : Fault file environment purpose place error)
    (hsecond : Fault file environment purpose place other) : error = other := by
  cases hfirst <;> cases hsecond <;> simp_all

theorem Fault.place_lt (hfault : Fault file environment purpose place error) :
    place < 6 := by
  cases hfault <;> decide

theorem free_of_mem_fields : ∀ field ∈ fields, field.Free := by
  simp [fields]

theorem exists_ofText_iff {text : String} :
    (∃ config, ofText text = .ok config) ↔ Source.Holds fields (Json.read text) := by
  simp only [ofText_eq_ok_iff]
  exact Source.exists_decodeStructure_iff free_of_mem_fields {} (Json.read text)

theorem not_fault_of_ofFile (hfile : ofFile file = .ok base) (hplace : place < 2) :
    ¬Fault file environment purpose place error := by
  intro hfault
  cases hfault with
  | unreadable hsome =>
      subst hsome
      cases hfile
  | noText hsome hbytes =>
      subst hsome
      obtain ⟨text, hread, -⟩ := bind_eq_ok_iff.mp hfile
      exact hbytes text (Except.ok.inj (readText_eq_ok_iff.mp hread)).symm
  | undecodable hsome hholds htext =>
      subst hsome
      obtain ⟨other, hread, hother⟩ := bind_eq_ok_iff.mp hfile
      rw [readText_eq_ok_iff.mpr hholds] at hread
      cases hread
      exact htext (exists_ofText_iff.mp ⟨base, hother⟩)
  | _ => omega

theorem fault_of_readText {source : ConfigFile} (hread : readText source = .error error) :
    Fault (some source) environment purpose 0 error := by
  obtain ⟨path, content⟩ := source
  cases content with
  | error flaw =>
      cases hread
      exact .unreadable rfl
  | ok bytes =>
      have hbytes : ∀ text : String, text.toUTF8 ≠ bytes := by
        rintro text rfl
        have hok : readText ⟨path, .ok text.toUTF8⟩ = .ok text :=
          readText_eq_ok_iff.mpr rfl
        cases hok.symm.trans hread
      unfold readText at hread
      split at hread
      · rename_i hcontent
        cases hcontent
      · rename_i hcontent
        cases hcontent
        split at hread
        · cases hread
        · cases hread
          exact .noText rfl hbytes

theorem fault_of_ofText {source : ConfigFile} {text : String} (hholds : source.Holds text)
    (htext : ofText text = .error error) :
    Fault (some source) environment purpose 1 error := by
  have hnot : ¬Source.Holds fields (Json.read text) := by
    intro hsource
    obtain ⟨config, hconfig⟩ := exists_ofText_iff.mpr hsource
    cases hconfig.symm.trans htext
  have herror : error = .undecodable none := by
    unfold ofText at htext
    split at htext <;> cases htext
    rfl
  subst herror
  exact .undecodable rfl hholds hnot

theorem not_fault_of_holds {source : ConfigFile} {text : String}
    (hholds : source.Holds text) :
    ¬Fault (some source) environment purpose 0 error := by
  intro hfault
  cases hfault with
  | unreadable hsome =>
      cases hsome
      cases hholds
  | noText hsome hbytes =>
      cases hsome
      exact hbytes text (Except.ok.inj hholds).symm

/-- An error that is reported is the first of all faults. -/
def FirstFault (file : Option ConfigFile) (environment : String → Option String)
    (purpose : Purpose) (error : ConfigError) : Prop :=
  ∃ place, Fault file environment purpose place error ∧
    ∀ earlier < place, ∀ other, ¬Fault file environment purpose earlier other

theorem FirstFault.unique (hfirst : FirstFault file environment purpose error)
    (hsecond : FirstFault file environment purpose other) : error = other := by
  obtain ⟨place, hfault, hclear⟩ := hfirst
  obtain ⟨place', hfault', hclear'⟩ := hsecond
  rcases Nat.lt_trichotomy place place' with hlt | rfl | hlt
  · exact absurd hfault (hclear' place hlt error)
  · exact hfault.unique hfault'
  · exact absurd hfault' (hclear place' hlt other)

theorem firstFault_of_ofFile (hfile : ofFile file = .error error) :
    FirstFault file environment purpose error := by
  cases file with
  | none => cases hfile
  | some source =>
      rcases bind_eq_error_iff.mp hfile with hread | ⟨text, hread, htext⟩
      · exact ⟨0, fault_of_readText hread, fun earlier hlt => absurd hlt (Nat.not_lt_zero _)⟩
      · have hholds := readText_eq_ok_iff.mp hread
        refine ⟨1, fault_of_ofText hholds htext, ?_⟩
        intro earlier hlt other
        rw [Nat.lt_one_iff.mp hlt]
        exact not_fault_of_holds hholds

theorem not_fault_of_override (hconfig : base.override environment = .ok config) :
    ¬Fault file environment purpose 2 error := by
  intro hfault
  cases hfault with
  | portText hset hport =>
      have herror : base.override environment = .error _ :=
        override_eq_error_iff.mpr ⟨_, hset, hport, rfl⟩
      cases hconfig.symm.trans herror

section Loaded

variable (hlayers : Layers file environment config)

include hlayers

theorem fault_credentials_iff :
    Fault file environment purpose 3 error ↔
      (purpose = .online ∧ ¬config.HasCredentials) ∧ error = .invalid .missingCredentials := by
  constructor
  · intro hfault
    cases hfault with
    | noDatabase honline hcredential habsent =>
        rw [hcredential.unique hlayers.databaseId] at habsent
        exact ⟨⟨honline, fun hhas => habsent hhas.1⟩, rfl⟩
    | noSecret honline hcredential habsent =>
        rw [hcredential.unique hlayers.secret] at habsent
        exact ⟨⟨honline, fun hhas => habsent hhas.2⟩, rfl⟩
  · rintro ⟨⟨honline, hhas⟩, rfl⟩
    by_cases hdatabase : Present config.databaseId
    · exact .noSecret honline hlayers.secret fun hsecret => hhas ⟨hdatabase, hsecret⟩
    · exact .noDatabase honline hlayers.databaseId hdatabase

theorem fault_zeroPort_iff :
    Fault file environment purpose 4 error ↔ config.port = 0 ∧ error = .invalid .zeroPort := by
  constructor
  · intro hfault
    cases hfault with
    | zeroPort hport => exact ⟨hlayers.port.unique hport, rfl⟩
  · rintro ⟨hzero, rfl⟩
    exact .zeroPort (hzero ▸ hlayers.port)

theorem fault_zeroTimeout_iff :
    Fault file environment purpose 5 error ↔
      config.requestTimeout = 0 ∧ error = .invalid .zeroTimeout := by
  constructor
  · intro hfault
    cases hfault with
    | zeroTimeout htimeout => exact ⟨hlayers.requestTimeout.unique htimeout, rfl⟩
  · rintro ⟨hzero, rfl⟩
    exact .zeroTimeout (hzero ▸ hlayers.requestTimeout)

end Loaded

theorem not_fault_of_loaded (hfile : ofFile file = .ok base)
    (hconfig : base.override environment = .ok config) :
    ∀ earlier < 3, ∀ other, ¬Fault file environment purpose earlier other := by
  intro earlier hlt other
  by_cases hplace : earlier < 2
  · exact not_fault_of_ofFile hfile hplace
  · have heq : earlier = 2 := by omega
    subst heq
    exact not_fault_of_override hconfig

/-- What is refused when the layers are settled is their first fault. -/
theorem firstFault_of_check {flaw : ConfigFlaw} (hfile : ofFile file = .ok base)
    (hconfig : base.override environment = .ok config)
    (hcheck : config.check purpose = .error flaw) :
    FirstFault file environment purpose (.invalid flaw) := by
  have hlayers := layers_of_override (layers_of_ofFile hfile) hconfig
  have hloaded : ∀ earlier < 3, ∀ other, ¬Fault file environment purpose earlier other :=
    not_fault_of_loaded hfile hconfig
  rcases check_eq_error_iff.mp hcheck with
    ⟨honline, hhas, rfl⟩ | ⟨hhas, ⟨hzero, rfl⟩ | ⟨hport, hzero, rfl⟩⟩
  · exact ⟨3, (fault_credentials_iff hlayers).mpr ⟨⟨honline, hhas⟩, rfl⟩, hloaded⟩
  all_goals
    have hcredentials : ∀ other, ¬Fault file environment purpose 3 other := by
      intro other hfault
      obtain ⟨⟨honline, hnot⟩, -⟩ := (fault_credentials_iff hlayers).mp hfault
      exact hnot (hhas honline)
    have hclear := Nat.forall_lt_succ_right.mpr ⟨hloaded, hcredentials⟩
  · exact ⟨4, (fault_zeroPort_iff hlayers).mpr ⟨hzero, rfl⟩, hclear⟩
  · have hnonzero : ∀ other, ¬Fault file environment purpose 4 other :=
      fun other hfault => hport ((fault_zeroPort_iff hlayers).mp hfault).1
    exact ⟨5, (fault_zeroTimeout_iff hlayers).mpr ⟨hzero, rfl⟩,
      Nat.forall_lt_succ_right.mpr ⟨hclear, hnonzero⟩⟩

theorem firstFault_of_load (hload : load file environment purpose = .error error) :
    FirstFault file environment purpose error := by
  rcases load_eq_error_iff.mp hload with hfile | ⟨base, hfile, hport | hchecked⟩
  · exact firstFault_of_ofFile hfile
  · obtain ⟨text, hset, hdenotes, rfl⟩ := override_eq_error_iff.mp hport
    exact ⟨2, .portText hset hdenotes, fun earlier hlt other => not_fault_of_ofFile hfile hlt⟩
  · obtain ⟨config, hconfig, flaw, hcheck, rfl⟩ := hchecked
    exact firstFault_of_check hfile hconfig hcheck

theorem not_fault_of_load (hload : load file environment purpose = .ok config) :
    ¬Fault file environment purpose place error := by
  obtain ⟨base, hfile, hconfig, hcheck⟩ := load_eq_ok_iff.mp hload
  obtain ⟨hcredentials, hport, htimeout⟩ := check_eq_ok_iff.mp hcheck
  have hlayers := layers_of_load hload
  intro hfault
  have hplace := hfault.place_lt
  by_cases hlt : place < 3
  · exact not_fault_of_loaded hfile hconfig place hlt error hfault
  obtain rfl | rfl | rfl : place = 3 ∨ place = 4 ∨ place = 5 := by omega
  · obtain ⟨⟨honline, hnot⟩, -⟩ := (fault_credentials_iff hlayers).mp hfault
    exact hnot (hcredentials honline)
  · exact hport ((fault_zeroPort_iff hlayers).mp hfault).1
  · exact htimeout ((fault_zeroTimeout_iff hlayers).mp hfault).1

end Faults

/-! ## What loading gives -/

/-- A file that states a host, a port and a secret. -/
def storedText : String :=
  "\x7b\"host\":\"db.local\",\"port\":1,\"secret\":\"s\"\x7d"

def storedFile : ConfigFile := ⟨"service.json", .ok storedText.toUTF8⟩

def portVariable (name : String) : Option String :=
  if name = "PORT" then some " +80" else none

end Config

end NestedQuery
