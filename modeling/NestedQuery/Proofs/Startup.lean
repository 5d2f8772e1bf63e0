import NestedQuery.Command.Run
import NestedQuery.Proofs.Loading.Faults

/-!
# Starting the server

What is checked of a configuration says nothing of its origins.  One that lists the
wildcard among them is loaded like any other, and then no server can be built of it:
the command crashes where a configuration that is refused ends with its error.  No
other configuration has this fate.
-/

namespace NestedQuery

namespace Http

theorem Origins.ofList?_eq_none_iff (configured : List String) :
    Origins.ofList? configured = none ↔ "*" ∈ configured := by
  have hlegal : isHeaderValue "*" = true := by decide
  unfold Origins.ofList?
  split
  · rename_i hempty
    rw [List.isEmpty_iff.mp hempty]
    simp
  · simp [hlegal]

theorem Server.ofConfig?_eq_none_iff (config : Config) (service : Service) :
    Server.ofConfig? config service = none ↔ "*" ∈ config.corsOrigins := by
  rw [← Origins.ofList?_eq_none_iff]
  unfold Server.ofConfig?
  cases Origins.ofList? config.corsOrigins <;> simp

end Http

namespace Command

namespace Surroundings

variable {surroundings : Surroundings} {path : Option String} {port : Option UInt16}

theorem code_serve_of_ok {loaded config : Config}
    (hload : surroundings.loadConfig path .online = .ok loaded)
    (hport : withPort loaded port = .ok config) :
    (surroundings.serve path port).code = 101 ↔ "*" ∈ config.corsOrigins := by
  rw [← Http.Server.ofConfig?_eq_none_iff config (surroundings.service config)]
  unfold serve
  simp only [hload, hport]
  split
  · rename_i hserver
    simp [hserver]
  · rename_i server hserver
    rw [hserver]
    split <;> simp [Exit.failure]

/-- The command crashes with the configurations that are accepted and list the
wildcard, and with no others. -/
theorem serve_crashes_iff (surroundings : Surroundings) (path : Option String)
    (port : Option UInt16) :
    (surroundings.serve path port).code = 101 ↔
      ∃ loaded config, surroundings.loadConfig path .online = .ok loaded ∧
        withPort loaded port = .ok config ∧ "*" ∈ config.corsOrigins := by
  cases hload : surroundings.loadConfig path .online with
  | error error => simp [serve, hload, Exit.failure]
  | ok loaded =>
      cases hport : withPort loaded port with
      | error error => simp [serve, hload, hport, Exit.failure]
      | ok config =>
          rw [code_serve_of_ok hload hport]
          simp [hport]

end Surroundings

end Command

namespace Config

/-- A file that lists the wildcard. -/
def wildcardText : String :=
  "\x7b\"cors_origins\":[\"*\"],\"database_id\":\"d\",\"secret\":\"s\"\x7d"

/-- The file is accepted, and no server can be built of what it states. -/
theorem loaded_wildcard_builds_no_server :
    ∃ config, load (some ⟨"service.json", .ok wildcardText.toUTF8⟩) (fun _ => none) .online =
        .ok config ∧
      ∀ service, Http.Server.ofConfig? config service = none := by
  have htext : ofText wildcardText =
      .ok { corsOrigins := ["*"], databaseId := some "d", secret := some "s" } :=
    ofText_eq_ok_iff.mpr (by decide +kernel)
  have hholds : ConfigFile.Holds ⟨"service.json", .ok wildcardText.toUTF8⟩ wildcardText := rfl
  have hfile := (ofFile_of_holds hholds).trans htext
  refine ⟨_, load_eq_ok_iff.mpr ⟨_, hfile, rfl, rfl⟩, fun service => ?_⟩
  apply (Http.Server.ofConfig?_eq_none_iff _ service).mpr
  exact List.mem_singleton_self "*"

end Config

end NestedQuery
