import TestBench.Console.Program
import TestBench.Fleet.Gathering
import TestBench.Fleet.Simulation
import TestBench.Fleet.Teardown
import TestBench.Id.Basic
import TestBench.Main
import TestBench.Playbook.Load
import TestBench.Proofs.CatalogAcceptance
import TestBench.Proofs.CrowdedPool
import TestBench.Proofs.DeclaredSelection
import TestBench.Proofs.DocumentForms
import TestBench.Proofs.ExecutionLeases
import TestBench.Proofs.ExecutionPlaces
import TestBench.Proofs.ExecutionRun
import TestBench.Proofs.ExecutionSchedule
import TestBench.Proofs.ExecutionStory
import TestBench.Proofs.ExecutionTargets
import TestBench.Proofs.ExecutionTurns
import TestBench.Proofs.ExitCodes
import TestBench.Proofs.IdText
import TestBench.Proofs.JsonEquality
import TestBench.Proofs.PlatformsAsAsked
import TestBench.Proofs.PlaybookAcceptance
import TestBench.Proofs.PlaybookRoundTrip
import TestBench.Proofs.PoolAllotment
import TestBench.Proofs.PoolLeases
import TestBench.Proofs.PoolLedger
import TestBench.Proofs.PoolRelease
import TestBench.Proofs.PoolReuse
import TestBench.Proofs.PoolSteps
import TestBench.Proofs.PoolTeardown
import TestBench.Proofs.ResolutionAnswers
import TestBench.Proofs.PoolLikeness
import TestBench.Proofs.ExecutionOrder
import TestBench.Proofs.ExecutionAnswers
import TestBench.Proofs.FailingPlatforms
import TestBench.Proofs.SerialService
import TestBench.Proofs.ExecutionIsolation
import TestBench.Proofs.ResolutionPolls
import TestBench.Proofs.SelectionAccount
import TestBench.Proofs.SelectionExclusion
import TestBench.Proofs.SelectionOrder
import TestBench.Proofs.SelectionPass
import TestBench.Proofs.SessionAfterTeardown
import TestBench.Proofs.SessionIsolation
import TestBench.Proofs.SessionLeases
import TestBench.Proofs.SessionPlatforms
import TestBench.Proofs.SessionRejection
import TestBench.Proofs.SessionRun
import TestBench.Proofs.SessionTeardown
import TestBench.Proofs.SessionUse
import TestBench.Proofs.StringText
import TestBench.Proofs.UlidDigits
import TestBench.Report.Summary
import TestBench.Report.Written
import TestBench.Session.Basic
import TestBench.Suite.CatalogText
import TestBench.Suite.Selection
import TestBench.Proofs.IdGrammar
import TestBench.Proofs.IdOrder
import TestBench.Proofs.SelectionRepetition
import TestBench.Proofs.ShortestDigits
import TestBench.Proofs.DoubleText
import TestBench.Proofs.CompactText
import TestBench.Proofs.SlotKeys
import TestBench.Proofs.SelectionAlternatives
import TestBench.Proofs.CatalogRoundTrip
import TestBench.Proofs.PriorityGrammar
import TestBench.Proofs.SummaryLines
import TestBench.Proofs.CompactReading
import TestBench.Proofs.EntryText
import TestBench.Proofs.SchemaViolations
import TestBench.Proofs.TargetHandles
