import WasmHost.Host.Limiter
import WasmHost.Host.Signature
import WasmHost.Text.Quoted

/-!
# Configuration

The settings of a run and their texts.
-/

namespace WasmHost

/-- The settings of a run. -/
structure Config where
  artifactFileName : String := "generated.wasm"
  entryPoint : String := "exported_main"
  limits : ResourceLimits := {}
  deriving DecidableEq, Repr

/-- A record with named fields. -/
def recordText (name : String) (fields : List (String × String)) : String :=
  let shown := fields.map fun field => field.1 ++ ": " ++ field.2
  name ++ " \x7b " ++ ", ".intercalate shown ++ " \x7d"

/-- A list in brackets. -/
def listText (items : List String) : String :=
  "[" ++ ", ".intercalate items ++ "]"

/-- A value that may be absent. -/
def optionText : Option String → String
  | none => "None"
  | some text => "Some(" ++ text ++ ")"

def ResourceLimits.describe (limits : ResourceLimits) : String :=
  recordText "ResourceLimits"
    [("max_memory_bytes", optionText (limits.maxMemoryBytes.map toString)),
      ("max_table_elements", toString limits.maxTableElements),
      ("max_instances", toString limits.maxInstances),
      ("max_tables", toString limits.maxTables),
      ("max_memories", toString limits.maxMemories)]

def Config.describe (config : Config) : String :=
  recordText "HarnessConfig"
    [("artifact_file_name", quoted config.artifactFileName),
      ("entry_point", quoted config.entryPoint),
      ("limits", config.limits.describe)]

/-- The name of a scalar type in the text of a signature. -/
def NumType.describe : NumType → String
  | i32 => "I32"
  | i64 => "I64"
  | f32 => "F32"
  | f64 => "F64"

def HostSignature.describe (signature : HostSignature) : String :=
  recordText "HostImportSignature"
    [("module", quoted signature.module),
      ("name", quoted signature.name),
      ("params", listText (signature.params.map NumType.describe)),
      ("results", listText (signature.results.map NumType.describe))]

def HostSignature.describeOffered : String :=
  "HostImports \x7b signatures: " ++ listText (offered.map describe) ++ ", .. \x7d"

end WasmHost
