import Vrl.Lib.Text
import Vrl.Lib.Json
import Vrl.Lib.HashChain
import Vrl.Lib.Python
import Vrl.Core.AuditChain
import Vrl.Core.AuditChainBinding
import Vrl.Core.ChainCheckpoint
import Vrl.Core.CheckpointSoundness
import Vrl.Lib.Plonkish
import Vrl.Zk.PlonkAdapter
import Vrl.Zk.ImportCircuit
import Vrl.Lib.CheckPipeline
import Vrl.Lib.PyInt
import Vrl.Sdk.Python.Bundle
import Vrl.Sdk.Python.Verifier
import Vrl.Sdk.Python.VerifierSpec
import Vrl.Sdk.Python.BundleIdentity
import Vrl.Lib.Hash
import Vrl.Lib.NameUuid
import Vrl.Lib.JsonEscape
import Vrl.Lib.JsJson
import Vrl.Lib.GoJson
import Vrl.Sdk.Go.Bundle
import Vrl.Sdk.Go.Verifier
import Vrl.Sdk.Go.VerifierSpec
import Vrl.Sdk.Go.BundleIdentity
import Vrl.Sdk.TypeScript.Bundle
import Vrl.Sdk.TypeScript.Verifier
import Vrl.Sdk.CanonicalAgreement
import Vrl.Sdk.CommitmentAgreement
import Vrl.Lib.Runs
import Vrl.App.Repository
import Vrl.App.EvidenceService
import Vrl.App.Session
import Vrl.App.Atomicity
import Vrl.App.EvidenceLog
import Vrl.App.Concurrency
import Vrl.Lib.Decimal
import Vrl.Lib.PyStd
import Vrl.Lib.Pydantic
import Vrl.Utils.Canonical
import Vrl.Utils.Decimal
import Vrl.Security.Guards
import Vrl.Models.Schemas
import Vrl.Core.Tariffs
import Vrl.Core.Engine
import Vrl.Lib.Checked
import Vrl.Zk.Interfaces
import Vrl.Zk.Backend
import Vrl.Zk.WitnessGenerator
import Vrl.Zk.PlonkProver
import Vrl.Zk.PlonkVerifier
import Vrl.Backend.TraceAdapter
import Vrl.Backend.ProofExport
import Vrl.Backend.ProofBinding
import Vrl.Sdk.IdentityAgreement
import Vrl.Sdk.ProofTampering
import Vrl.Sdk.TypeScript.VerifierSpec
import Vrl.Sdk.VerdictAgreement
import Vrl.Lib.JsonLoads
import Vrl.Lib.PyJson
import Vrl.Sdk.Python.Loaded
import Vrl.Sdk.Python.LoadedVerifier
import Vrl.Verifier.VrlVerify
import Vrl.Sdk.Python.LoadedVerifierSpec
import Vrl.Verifier.VrlVerifySpec
import Vrl.Sdk.Python.LoadedSpec
import Vrl.Verifier.Refinement
import Vrl.Sdk.Python.DeclaredTypes
import Vrl.Sdk.Python.TypedBundles
import Vrl.Lib.JsonMembers
import Vrl.Sdk.Python.Serialization
import Vrl.Sdk.Python.RoundTrip
import Vrl.Verifier.Acceptance
import Vrl.Lib.JsonEquality
import Vrl.Sdk.Python.CanonicalJson
import Vrl.Zk.FieldAgreement
import Vrl.Coordinator.Schedule
import Vrl.Backend.ProofQueue
import Vrl.Backend.ProofQueueRuns
import Vrl.Lib.DecimalText
import Vrl.Models.Revalidation
import Vrl.Zk.ProverVerifier
import Vrl.Backend.HonestBundle
import Vrl.Zk.ProofSpelling
import Vrl.Models.Responses
import Vrl.Backend.VerifiedDataset
import Vrl.Backend.DatasetExport
import Vrl.App.Verification
import Vrl.App.VerifiedEvidence
import Vrl.App.Computation
import Vrl.App.PersistedEvidence
import Vrl.Zk.CircuitBinding
import Vrl.Core.VerifierSoundness
import Vrl.Models.RequestHash
import Vrl.App.ReplayProtection
import Vrl.App.ChainRelabelling
import Vrl.Zk.KeyLifecycle
import Vrl.Backend.ProofQueueLog
import Vrl.Sdk.Python.Builder
import Vrl.Sdk.Python.BuilderRoundTrip
import Vrl.Lib.JsonExtension
import Vrl.Sdk.Python.ForwardCompatibility
import Vrl.Lib.Demands
import Vrl.Sdk.Python.ParserErrors
import Vrl.Verifier.VrlVerifyRaises
import Vrl.Lib.DecimalRounding
import Vrl.Core.EngineArithmetic
import Vrl.Core.LandedCost
import Vrl.Zk.ImportCompleteness
import Vrl.Zk.AmlWitness
import Vrl.Zk.DrugDosageWitness
import Vrl.Zk.TeeBundle
import Vrl.Lib.SqlTable
import Vrl.Migrations.VerifiedProofBundle
import Vrl.Utils.NormalForm
import Vrl.Models.ValidationErrors
import Vrl.Lib.JsonHooks
import Vrl.Lib.JsonReaders
import Vrl.Api.RequestBody
import Vrl.Api.BodyErrors
import Vrl.Core.FastPath
import Vrl.Core.FastPathBinding
import Vrl.Zk.StubProver
import Vrl.Zk.StubVerifier
import Vrl.Coordinator.ArtifactGraph
import Vrl.Coordinator.ArtifactGraphRuns
import Vrl.Lib.TextOrder
import Vrl.Memory.SharedMemory
import Vrl.App.ChainMetrics
import Vrl.Lib.SlidingWindow
import Vrl.Security.RateLimit
import Vrl.Api.Runtime
import Vrl.Lib.GoTime
import Vrl.Sdk.Go.Builder
import Vrl.Lib.Binary64
import Vrl.Lib.GoJsonReader
import Vrl.Lib.JsonNumbers
import Vrl.Sdk.Go.CanonicalValues
import Vrl.Lib.PyNumeral
import Vrl.Sdk.HashFormat
import Vrl.Lib.ModularPower
import Vrl.Zk.FieldOrder
import Vrl.Lib.CoefficientList
import Vrl.Lib.DiscreteFourier
import Vrl.Zk.FieldUtils
import Vrl.Zk.FieldPolynomials
import Vrl.Zk.PolynomialDivision
import Vrl.Zk.InverseNtt
import Vrl.Security.Backpressure
import Vrl.Security.ApiKeys
import Vrl.Api.Routes
import Vrl.Api.Admission
import Vrl.Api.AdmissionCounts
import Vrl.Zk.VanishingPolynomial
import Vrl.Zk.ContractClauseWitness
import Vrl.Coordinator.Cycle
import Vrl.Coordinator.CycleRefinement
import Vrl.Coordinator.CycleGraph
import Vrl.Coordinator.CyclePlan
import Vrl.Coordinator.CycleSupply
import Vrl.Lib.SqlStore
import Vrl.Migrations.EvidenceSchema
import Vrl.Sdk.Go.BuilderRuns
import Vrl.Coordinator.RunCycle
