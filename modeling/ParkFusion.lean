import ParkFusion.Job.Record
import ParkFusion.Main
import ParkFusion.Mapping.Record
import ParkFusion.Proofs.Calls
import ParkFusion.Proofs.ContinentVeto
import ParkFusion.Proofs.Cooldown
import ParkFusion.Proofs.Crowd
import ParkFusion.Proofs.Exhaustion
import ParkFusion.Proofs.Idempotence
import ParkFusion.Proofs.LazyExpiry
import ParkFusion.Proofs.LiveFetch
import ParkFusion.Proofs.MergeConservation
import ParkFusion.Proofs.MinuteBound
import ParkFusion.Proofs.RegistrationOrder
import ParkFusion.Proofs.RowFrames
import ParkFusion.Proofs.SeparateIds
import ParkFusion.Proofs.SilentSources
import ParkFusion.Proofs.UpsertHistory
import ParkFusion.Proofs.WellFormed
import ParkFusion.World
import ParkFusion.Proofs.GreedyChoice
import ParkFusion.Proofs.MergedFields
import ParkFusion.Proofs.DeclaredPairs
import ParkFusion.Proofs.MedianWait
import ParkFusion.Proofs.StableIds
import ParkFusion.Proofs.Anchoring
import ParkFusion.Proofs.RepeatedIds
import ParkFusion.Proofs.WaitReports
import ParkFusion.Proofs.CanonicalNames
import ParkFusion.Proofs.SymmetricScores
import ParkFusion.Proofs.BlankNames
import ParkFusion.Proofs.ReportFields
import ParkFusion.Proofs.TimeRange
import ParkFusion.Proofs.Declarations
import ParkFusion.Proofs.Denials
import ParkFusion.Proofs.LandReferences
import ParkFusion.Proofs.QueueTypes
import ParkFusion.Proofs.JobDelivery
