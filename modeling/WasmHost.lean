import WasmHost.Artifact.FileTree
import WasmHost.Main
import WasmHost.Proofs.Host.Ceiling
import WasmHost.Proofs.Host.Failure
import WasmHost.Proofs.Host.Isolation
import WasmHost.Proofs.Host.Linking
import WasmHost.Proofs.Host.MemoryGrowth
import WasmHost.Proofs.Host.Overflow
import WasmHost.Proofs.Host.Rendering
import WasmHost.Proofs.Host.Report
import WasmHost.Proofs.Host.Resolution
import WasmHost.Proofs.Host.Spelling
import WasmHost.Proofs.Host.Trace
import WasmHost.Proofs.Host.Transcript
import WasmHost.Proofs.Host.Truncation
import WasmHost.Proofs.Limiter.Ledger
import WasmHost.Proofs.Limiter.Order
import WasmHost.Proofs.Limiter.Rollback
import WasmHost.Proofs.Machine.Contents
