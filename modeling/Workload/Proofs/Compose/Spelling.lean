import Workload.Proofs.Compose.Ingest
import Workload.Proofs.Spelling

/-! Services with some fields respelled are the same containers. -/
namespace Workload.Compose
open Value

inductive HealthSection.Respelled (h : HealthSection) : HealthSection → Prop
  | intro {test : Option Value} (htest : Option.Rel (Value.Respelled TestSpelling) h.test test) :
      Respelled h { h with test }

inductive Service.Respelled (s : Service) : Service → Prop
  | intro {build command dns dnsSearch entrypoint envFile environment labels networks : Option Value}
      {healthcheck : Option HealthSection}
      (hbuild : Option.Rel (Value.Respelled BuildSpelling) s.build build)
      (hcommand : Option.Rel (Value.Respelled CommandSpelling) s.command command)
      (hdns : Option.Rel (Value.Respelled ListSpelling) s.dns dns)
      (hdnsSearch : Option.Rel (Value.Respelled ListSpelling) s.dnsSearch dnsSearch)
      (hentrypoint : Option.Rel (Value.Respelled CommandSpelling) s.entrypoint entrypoint)
      (henvFile : Option.Rel (Value.Respelled ListSpelling) s.envFile envFile)
      (henvironment : Option.Rel (Value.Respelled TableSpelling) s.environment environment)
      (hlabels : Option.Rel (Value.Respelled TableSpelling) s.labels labels)
      (hnetworks : Option.Rel (Value.Respelled NetworksSpelling) s.networks networks)
      (hhealthcheck : Option.Rel HealthSection.Respelled s.healthcheck healthcheck) :
      Respelled s { s with
        build, command, dns, dnsSearch, entrypoint, envFile, environment, labels, networks
        healthcheck }

section Fields
variable {v w : Option Value}

theorem decodePairs_respelled (h : Option.Rel (Value.Respelled TableSpelling) v w) :
    decodePairs v = decodePairs w :=
  congrArg (Except.map _) (mapM_respelled h TableSpelling.decode_eq)

theorem decodeCommand_respelled (h : Option.Rel (Value.Respelled CommandSpelling) v w) :
    decodeCommand v = decodeCommand w :=
  congrArg (Except.map _) (mapM_respelled h CommandSpelling.decode_eq)

theorem decodeStrings_respelled (h : Option.Rel (Value.Respelled ListSpelling) v w) :
    decodeStrings v = decodeStrings w :=
  congrArg (Except.map _) (mapM_respelled h ListSpelling.decodeList_eq)

theorem decodeNetworks_respelled (h : Option.Rel (Value.Respelled NetworksSpelling) v w) :
    decodeNetworks v = decodeNetworks w :=
  congrArg (Except.map _) (mapM_respelled h NetworksSpelling.decodeNetworks_eq)

end Fields

theorem HealthSection.Respelled.toCheck?_eq {h i : HealthSection} (respelled : h.Respelled i) :
    h.toCheck? = i.toCheck? := by
  obtain ⟨htest⟩ := respelled
  unfold toCheck?
  rw [mapM_respelled htest TestSpelling.decodeTest_eq]

theorem Service.Respelled.readAlike {s t : Service} (h : s.Respelled t) : s.ReadAlike t := by
  obtain ⟨hbuild, hcommand, hdns, hdnsSearch, hentrypoint, henvFile, henvironment, hlabels,
    hnetworks, hhealthcheck⟩ := h
  refine .intro ?_ ?_ rfl rfl rfl rfl rfl rfl ?_ ?_ ?_ ?_ ?_ ?_ ?_ ?_
  · exact decodePairs_respelled henvironment
  · exact decodePairs_respelled hlabels
  · exact option_mapM_congr hhealthcheck fun _ _ => HealthSection.Respelled.toCheck?_eq
  · exact decodeCommand_respelled hcommand
  · exact decodeCommand_respelled hentrypoint
  · exact decodeStrings_respelled henvFile
  · exact decodeStrings_respelled hdns
  · exact decodeStrings_respelled hdnsSearch
  · exact decodeNetworks_respelled hnetworks
  · exact mapM_respelled hbuild BuildSpelling.decode_eq

/-- Whatever spellings are exchanged, the service is the same container, or is refused alike. -/
theorem toContainer_eq_of_respelled {s t : Service} (h : s.Respelled t) (name : String) :
    s.toContainer name = t.toContainer name :=
  h.readAlike.toContainer_eq name

def shorthand : Service where
  build := some (.string ".")
  command := some (.list [.string "serve", .string "--port=80"])
  dns := some (.string "10.0.0.2")
  environment := some (.mapping [
    (.string "MODE", .string "a=b"), (.string "DEBUG", .null), (.string "LEVEL", .bool true)])
  healthcheck := some { test := some (.string "ping api") }
  networks := some (.mapping [(.string "front", .null), (.string "back", .null)])

def longhand : Service where
  build := some (.mapping [(.string "context", .string ".")])
  command := some (.string "serve --port=80")
  dns := some (.list [.string "10.0.0.2"])
  environment := some (.list [.string "MODE=a=b", .string "DEBUG", .string "LEVEL=true"])
  healthcheck := some { test := some (.list [.string "CMD-SHELL", .string "ping api"]) }
  networks := some (.list [.string "back", .string "front"])

theorem toContainer_eq_of_respelled_longhand :
    shorthand.Respelled longhand ∧
    longhand.toContainer "web" = .ok {
      name := "web"
      build := some { context := "." }
      command := some "serve --port=80"
      dns := ["10.0.0.2"]
      environment := .ofList [("DEBUG", ""), ("LEVEL", "true"), ("MODE", "a=b")]
      healthChecks := [{ probe := .exec "ping api" }]
      networks := ["back", "front"] } ∧
    shorthand.toContainer "web" = longhand.toContainer "web" := by
  have respelled : shorthand.Respelled longhand := by
    refine .intro (.some (.forth (.directory "."))) (.some (.forth ?command))
      (.some (.forth (.intro _))) .none .none .none (.some (.forth ?environment)) .none
      (.some (.forth ?networks)) (.some (.intro (.some (.forth (.shell _ (by decide))))))
    case command =>
      exact CommandSpelling.intro ["serve", "--port=80"] (by decide)
    case environment =>
      exact TableSpelling.intro [("MODE", .string "a=b"), ("DEBUG", .null), ("LEVEL", .bool true)]
        ["MODE=a=b", "DEBUG", "LEVEL=true"] rfl
    case networks =>
      exact NetworksSpelling.intro [("front", .null), ("back", .null)] ["back", "front"]
        (by decide) (by simp [or_comm])
  exact ⟨respelled, by rfl, toContainer_eq_of_respelled respelled "web"⟩

end Workload.Compose
